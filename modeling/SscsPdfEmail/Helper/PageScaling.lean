import Mathlib.Algebra.Order.Group.MinMax
import Mathlib.Data.List.Forall2
import SscsPdfEmail.Helper.PdfHelper

/-!
# Documents of One Page Size

What scaling promises of a document as a whole: pages of the wanted size are left alone, the
others get its boxes, and the result has the wanted size throughout, so that scaling it again
does nothing (`documentScaled`).

`WithinTolerance` states the size that is wanted without regard to how a page is turned, and
`ContentScaling` what happens to the content of a page: it is left as it is, or put between
operators that scale it by a factor of four decimals.  `fitFactor` is that factor in closed form.

`scalePage_of_not_correct` is the description of the loop body that all results go through.  The
early return for a document that needs no work is no special case: the loop body would have
changed nothing.
-/

namespace SscsPdfEmail.Helper

open SscsPdfEmail.Library

/-! ## The Wanted Size -/

/-- The longer side is within one per cent of the wanted height, the shorter one within one
per cent of the wanted width. -/
def WithinTolerance (box size : PDRectangle) : Prop :=
  |max box.getHeight box.getWidth - size.getHeight| ≤ size.getHeight / 100 ∧
    |min box.getHeight box.getWidth - size.getWidth| ≤ size.getWidth / 100

instance (box size : PDRectangle) : Decidable (WithinTolerance box size) :=
  inferInstanceAs (Decidable (_ ∧ _))

/-- Neither limit is passed, as the code asks, iff the distance is within one per cent. -/
theorem limits_iff (extent wanted : ℚ) :
    (¬ extent > wanted * (1 + toleranceFactor) ∧ ¬ extent < wanted * (1 - toleranceFactor)) ↔
      |extent - wanted| ≤ wanted / 100 := by
  unfold toleranceFactor
  -- the limits are one per cent above and below
  rw [not_lt, not_lt, abs_le]
  constructor
  · rintro ⟨hupper, hlower⟩
    constructor <;> linarith
  · rintro ⟨hlower, hupper⟩
    constructor <;> linarith

theorem isPageCorrectSize_iff (page : PDPage) (size : PDRectangle) :
    isPageCorrectSize page size = true ↔ WithinTolerance page.cropBox size := by
  unfold isPageCorrectSize WithinTolerance
  simp only [← limits_iff]
  -- the code compares the longer side with the wanted height, whichever way it goes
  by_cases hupright : page.cropBox.getHeight > page.cropBox.getWidth
  · rw [if_pos hupright, max_eq_left hupright.le, min_eq_right hupright.le]
    simp [and_assoc]
  · rw [if_neg hupright, max_eq_right (not_lt.mp hupright), min_eq_left (not_lt.mp hupright)]
    simp [and_assoc]

theorem isDocumentWithinSizeTolerance_iff (document : PDDocument) (size : PDRectangle) :
    isDocumentWithinSizeTolerance document size = true ↔
      ∀ page ∈ document.pages, WithinTolerance page.cropBox size := by
  simp [isDocumentWithinSizeTolerance, isPageCorrectSize_iff]

/-- The box has the width and height of the wanted size. -/
def HasSize (box size : PDRectangle) : Prop :=
  box.getWidth = size.getWidth ∧ box.getHeight = size.getHeight

/-- A wanted size that is not wider than tall is within its own tolerance. -/
theorem HasSize.withinTolerance {box size : PDRectangle} (h : HasSize box size)
    (hwidth : 0 ≤ size.getWidth) (hheight : size.getWidth ≤ size.getHeight) :
    WithinTolerance box size := by
  unfold WithinTolerance
  rw [h.1, h.2, max_eq_left hheight, min_eq_right hheight, sub_self, sub_self, abs_zero]
  constructor <;> linarith

/-! ## Scaling of the Content -/

/-- What is done to the content of a page that gets new boxes. -/
inductive ContentScaling where
  /-- The page is only enlarged. -/
  | unchanged
  | scaled (factor : ℚ)
deriving DecidableEq

namespace ContentScaling

/-- The factor that lengths of the content change by. -/
def factor : ContentScaling → ℚ
  | .unchanged => 1
  | .scaled factor => factor

/-- How far the factor may be from the exact one: half a unit of the fourth decimal, unless
there is no factor at all. -/
def precision : ContentScaling → ℚ
  | .unchanged => 0
  | .scaled _ => 1 / 20000

/-- The content streams afterwards. -/
def contents (scaling : ContentScaling) (streams : List ContentStream) : List ContentStream :=
  match scaling with
  | .unchanged => streams
  | .scaled factor =>
    [.save, .concat (Matrix.scaling factor), .save] :: streams ++ [[.restore, .restore]]

/-- The content streams determine the scaling. -/
theorem contents_injective (streams : List ContentStream) :
    Function.Injective fun scaling : ContentScaling => scaling.contents streams := by
  intro first second h
  -- a scaled page has two streams more, and the first of them holds the factor
  have hlength := congrArg List.length h
  cases first with
  | unchanged =>
    cases second with
    | unchanged => rfl
    | scaled s =>
      simp only [contents, List.length_append, List.length_cons] at hlength
      omega
  | scaled r =>
    cases second with
    | unchanged =>
      simp only [contents, List.length_append, List.length_cons] at hlength
      omega
    | scaled s =>
      have hfactor : Matrix.scaling r = Matrix.scaling s := by simpa [contents] using h
      exact congrArg ContentScaling.scaled (congrArg Matrix.a hfactor)

end ContentScaling

/-- The factor that brings an extent down to a target; 1 where the extent is no larger. -/
def fitRatio (target extent : ℚ) : ℚ :=
  if 0 < extent ∧ target < extent then target / extent else 1

theorem fitRatio_of_le {target extent : ℚ} (h : extent ≤ target) : fitRatio target extent = 1 :=
  if_neg fun hfit => absurd hfit.2 (not_lt.mpr h)

theorem fitRatio_le_one (target extent : ℚ) : fitRatio target extent ≤ 1 := by
  unfold fitRatio
  split_ifs with hfit
  · exact (div_le_one hfit.1).mpr hfit.2.le
  · exact le_refl 1

/-- Height that a box is to fit into: the wanted width for a box wider than tall. -/
def targetHeight (box size : PDRectangle) : ℚ :=
  if box.getWidth > box.getHeight then size.getWidth else size.getHeight

/-- Width that a box is to fit into: the wanted height for a box wider than tall. -/
def targetWidth (box size : PDRectangle) : ℚ :=
  if box.getWidth > box.getHeight then size.getHeight else size.getWidth

/-- Either target is one of the wanted extents, turned or not. -/
theorem targetHeight_of {p : ℚ → Prop} (box : PDRectangle) {size : PDRectangle}
    (hwidth : p size.getWidth) (hheight : p size.getHeight) : p (targetHeight box size) := by
  unfold targetHeight
  split_ifs <;> assumption

theorem targetWidth_of {p : ℚ → Prop} (box : PDRectangle) {size : PDRectangle}
    (hwidth : p size.getWidth) (hheight : p size.getHeight) : p (targetWidth box size) := by
  unfold targetWidth
  split_ifs <;> assumption

/-- The smaller of the two factors that bring a box down to its target, to four decimals. -/
def fitFactor (box size : PDRectangle) : ℚ :=
  roundHalfEven 4 (min (fitRatio (targetHeight box size) box.getHeight)
    (fitRatio (targetWidth box size) box.getWidth))

/-- The box is smaller than its target both ways. -/
def Smaller (box size : PDRectangle) : Prop :=
  box.getHeight < targetHeight box size ∧ box.getWidth < targetWidth box size

instance (box size : PDRectangle) : Decidable (Smaller box size) :=
  inferInstanceAs (Decidable (_ ∧ _))

/-- Scaling of the content of a page whose media box is given. -/
def contentScaling (box size : PDRectangle) : ContentScaling :=
  if Smaller box size then .unchanged else .scaled (fitFactor box size)

/-! ## The Scaling Factor -/

theorem maxScaleFactor_of_lt {target extent : ℚ} (h : extent < target) :
    maxScaleFactor (extent - target) extent = scaleUp := by
  have hneg : extent - target < 0 := sub_neg.mpr h
  rw [maxScaleFactor, if_neg (not_lt.mpr hneg.le), if_pos hneg]

theorem maxScaleFactor_of_le {target extent : ℚ} (h : target ≤ extent) :
    (maxScaleFactor (extent - target) extent).value = 1 - fitRatio target extent := by
  rcases h.eq_or_lt with rfl | hlt
  · -- no overage: nothing has to go.
    rw [fitRatio_of_le (le_refl target)]
    simp [maxScaleFactor, noChange, BigDecimal.zero]
  · have hpos : 0 < extent - target := sub_pos.mpr hlt
    rw [maxScaleFactor, if_pos hpos]
    simp only [BigDecimal.compareTo_eq_gt]
    by_cases hextent : 0 < extent
    · have hratio : fitRatio target extent = target / extent := if_pos ⟨hextent, hlt⟩
      have hshare : noChange.value < (BigDecimal.ofFloat ((extent - target) / extent)).value :=
        div_pos hpos hextent
      rw [if_pos hshare, hratio, ← div_self hextent.ne', ← sub_div]
      rfl
    · -- A page axis that is not positive has no share to give up.
      have hratio : fitRatio target extent = 1 := if_neg fun hfit => hextent hfit.1
      have hshare : (BigDecimal.ofFloat ((extent - target) / extent)).value ≤ noChange.value :=
        div_nonpos_of_nonneg_of_nonpos hpos.le (not_lt.mp hextent)
      rw [if_neg (not_lt.mpr hshare), hratio, sub_self]
      rfl

/-- An axis has room to grow iff its extent is below the target. -/
theorem maxScaleFactor_neg_iff (target extent : ℚ) :
    (maxScaleFactor (extent - target) extent).value < noChange.value ↔ extent < target := by
  rcases lt_or_ge extent target with hlt | hle
  · rw [maxScaleFactor_of_lt hlt]
    exact iff_of_true (by decide) hlt
  · rw [maxScaleFactor_of_le hle]
    have hratio : 0 ≤ 1 - fitRatio target extent := sub_nonneg.mpr (fitRatio_le_one _ _)
    exact iff_of_false (not_lt.mpr hratio) (not_lt.mpr hle)

/-- Room to grow aside, the share that has to go is what the fitting factor leaves out. -/
theorem max_zero_maxScaleFactor (target extent : ℚ) :
    max 0 (maxScaleFactor (extent - target) extent).value = 1 - fitRatio target extent := by
  rcases lt_or_ge extent target with hlt | hle
  · rw [maxScaleFactor_of_lt hlt, fitRatio_of_le hlt.le, sub_self]
    exact max_eq_left (by decide)
  · rw [maxScaleFactor_of_le hle]
    exact max_eq_right (sub_nonneg.mpr (fitRatio_le_one _ _))

/-- The larger of the two shares is what the smaller fitting factor leaves out, unless both
axes have room to grow. -/
theorem value_larger {height width : BigDecimal} {heightRatio widthRatio : ℚ}
    (hheight : max 0 height.value = 1 - heightRatio)
    (hwidth : max 0 width.value = 1 - widthRatio)
    (hroom : ¬ (height.value < 0 ∧ width.value < 0)) :
    (if height.compareTo width = .gt then height else width).value =
      1 - min heightRatio widthRatio := by
  have hlarger : (if height.compareTo width = .gt then height else width).value =
      max height.value width.value := by
    simp only [BigDecimal.compareTo_eq_gt]
    split_ifs with hgt
    · exact (max_eq_left hgt.le).symm
    · exact (max_eq_right (not_lt.mp hgt)).symm
  -- with no room to grow on one axis, that axis has a share that is not negative
  have hnonneg : 0 ≤ max height.value width.value := by
    rcases not_and_or.mp hroom with h | h
    · exact le_max_of_le_left (not_lt.mp h)
    · exact le_max_of_le_right (not_lt.mp h)
  calc (if height.compareTo width = .gt then height else width).value
      = max 0 (max height.value width.value) := by rw [hlarger, max_eq_right hnonneg]
    _ = max (max 0 height.value) (max 0 width.value) := sup_sup_distrib_left 0 _ _
    _ = 1 - min heightRatio widthRatio := by rw [hheight, hwidth, max_sub_sub_left]

/-- The factor of a page to be scaled, by the scaling of its content. -/
def factorOf : ContentScaling → BigDecimal
  | .unchanged => scaleUp
  | .scaled factor => ⟨factor, 4⟩

/-- **Closed form of the factor** of a page that has not the wanted size. -/
theorem scalingFactor_of_not_correct {page : PDPage} {size : PDRectangle}
    (h : isPageCorrectSize page size = false) :
    scalingFactor page size = factorOf (contentScaling page.mediaBox size) := by
  have hdef : scalingFactor page size =
      let height := maxScaleFactor
        (page.mediaBox.getHeight - targetHeight page.mediaBox size) page.mediaBox.getHeight
      let width := maxScaleFactor
        (page.mediaBox.getWidth - targetWidth page.mediaBox size) page.mediaBox.getWidth
      if height.compareTo noChange = .lt ∧ width.compareTo noChange = .lt then scaleUp
      else (BigDecimal.one.subtract
        (if height.compareTo width = .gt then height else width)).setScale 4 := by
    rw [scalingFactor, h]
    rfl
  rw [hdef]
  simp only [BigDecimal.compareTo_eq_lt, maxScaleFactor_neg_iff]
  -- the sentinel is taken exactly where both axes have room to grow
  by_cases hsmaller : Smaller page.mediaBox size
  · rw [if_pos (show _ ∧ _ from hsmaller), contentScaling, if_pos hsmaller]
    rfl
  · have hroom := hsmaller
    unfold Smaller at hroom
    rw [← maxScaleFactor_neg_iff, ← maxScaleFactor_neg_iff (targetWidth _ _)] at hroom
    have hvalue := value_larger (max_zero_maxScaleFactor _ _) (max_zero_maxScaleFactor _ _) hroom
    rw [if_neg (show ¬ (_ ∧ _) from hsmaller), contentScaling, if_neg hsmaller]
    simp only [BigDecimal.setScale, BigDecimal.subtract, hvalue]
    simp [factorOf, fitFactor, BigDecimal.one]

/-- The factor of a page to be scaled is never mistaken for that of a page left alone: a
factor of zero has four decimal places, and `equals` looks at them. -/
theorem scalingFactor_ne_noChange {page : PDPage} {size : PDRectangle}
    (h : isPageCorrectSize page size = false) : scalingFactor page size ≠ noChange := by
  rw [scalingFactor_of_not_correct h]
  -- `SCALE_UP` has another value, and a rounded factor another number of decimals
  cases contentScaling page.mediaBox size with
  | unchanged => decide
  | scaled factor =>
    intro heq
    have hscale : (4 : ℕ) = 0 := congrArg BigDecimal.scale heq
    omega

/-! ## One Page -/

theorem scalePage_of_correct {page : PDPage} {size : PDRectangle}
    (h : isPageCorrectSize page size = true) : scalePage size page = page := by
  simp [scalePage, scalingFactor, h]

/-- **The loop body on a page to be scaled**: new boxes, and the content scaled to fit. -/
theorem scalePage_of_not_correct {page : PDPage} {size : PDRectangle}
    (h : isPageCorrectSize page size = false) :
    scalePage size page =
      { scalePageToSize page size with
        contents := (contentScaling page.mediaBox size).contents page.contents } := by
  have hchange := scalingFactor_ne_noChange h
  rw [scalingFactor_of_not_correct h] at hchange
  unfold scalePage
  rw [scalingFactor_of_not_correct h, if_pos hchange]
  cases contentScaling page.mediaBox size with
  | unchanged => rfl
  | scaled factor =>
    -- the scale tells the factor from the other sentinel as well
    have hdown : factorOf (.scaled factor) ≠ scaleUp := by
      intro heq
      have hscale : (4 : ℕ) = 0 := congrArg BigDecimal.scale heq
      omega
    rw [if_pos hdown]
    rfl

/-- Every box of the page has the wanted size. -/
structure AllBoxes (page : PDPage) (size : PDRectangle) : Prop where
  mediaBox : HasSize page.mediaBox size
  cropBox : HasSize page.cropBox size
  bleedBox : HasSize page.bleedBox size
  trimBox : HasSize page.trimBox size
  artBox : HasSize page.artBox size

theorem allBoxes_scalePageToSize (page : PDPage) (size : PDRectangle) :
    AllBoxes (scalePageToSize page size) size := by
  have hsize : HasSize (if page.mediaBox.getHeight > page.mediaBox.getWidth then size
      else PDRectangle.ofSize size.getWidth size.getHeight) size := by
    split_ifs
    · exact ⟨rfl, rfl⟩
    · exact ⟨PDRectangle.getWidth_ofSize _ _, PDRectangle.getHeight_ofSize _ _⟩
  exact ⟨hsize, hsize, hsize, hsize, hsize⟩

/-- What scaling promises of one page. -/
structure PageScaled (size : PDRectangle) (page scaled : PDPage) : Prop where
  /-- A page of the wanted size is left alone. -/
  kept : WithinTolerance page.cropBox size → scaled = page
  /-- Any other page gets the wanted size in all its boxes. -/
  resized : ¬ WithinTolerance page.cropBox size → AllBoxes scaled size
  /-- The page shows what it showed before, if scaled. -/
  content : ¬ WithinTolerance page.cropBox size →
    ∃ scaling : ContentScaling, scaled.contents = scaling.contents page.contents

theorem isPageCorrectSize_eq_false {page : PDPage} {size : PDRectangle} :
    isPageCorrectSize page size = false ↔ ¬ WithinTolerance page.cropBox size := by
  rw [← isPageCorrectSize_iff, Bool.not_eq_true]

theorem pageScaled_scalePage (size : PDRectangle) (page : PDPage) :
    PageScaled size page (scalePage size page) where
  kept hwithin := scalePage_of_correct ((isPageCorrectSize_iff page size).mpr hwithin)
  resized houtside := by
    rw [scalePage_of_not_correct (isPageCorrectSize_eq_false.mpr houtside)]
    -- all five boxes are set to the same one
    obtain ⟨hmedia, hcrop, hbleed, htrim, hart⟩ := allBoxes_scalePageToSize page size
    exact ⟨hmedia, hcrop, hbleed, htrim, hart⟩
  content houtside :=
    ⟨contentScaling page.mediaBox size,
      congrArg PDPage.contents (scalePage_of_not_correct (isPageCorrectSize_eq_false.mpr houtside))⟩

/-- Whatever a page was like, afterwards it has the wanted size. -/
theorem PageScaled.withinTolerance {size : PDRectangle} {page scaled : PDPage}
    (h : PageScaled size page scaled) (hwidth : 0 ≤ size.getWidth)
    (hheight : size.getWidth ≤ size.getHeight) : WithinTolerance scaled.cropBox size := by
  by_cases hwithin : WithinTolerance page.cropBox size
  · rw [h.kept hwithin]
    exact hwithin
  · exact (h.resized hwithin).cropBox.withinTolerance hwidth hheight

/-! ## The Document -/

theorem scaleToPageSize_of_within {document : PDDocument} {size : PDRectangle}
    (h : ∀ page ∈ document.pages, WithinTolerance page.cropBox size) :
    scaleToPageSize document size = (none, document) :=
  if_pos ((isDocumentWithinSizeTolerance_iff document size).mpr h)

theorem scaleToPageSize_of_not_within {document : PDDocument} {size : PDRectangle}
    (h : ¬ ∀ page ∈ document.pages, WithinTolerance page.cropBox size) :
    scaleToPageSize document size =
      (some ⟨document.pages.map (scalePage size)⟩, ⟨document.pages.map (scalePage size)⟩) :=
  if_neg fun hall => h ((isDocumentWithinSizeTolerance_iff document size).mp hall)

/-- Page by page, over any document. -/
theorem forall₂_pageScaled (size : PDRectangle) (pages : List PDPage) :
    List.Forall₂ (PageScaled size) pages (pages.map (scalePage size)) := by
  induction pages with
  | nil => exact List.Forall₂.nil
  | cons page pages ih => exact List.Forall₂.cons (pageScaled_scalePage size page) ih

/-- What scaling promises of a document: `outcome` is what is returned together with the
document as it is afterwards. -/
structure DocumentScaled (document : PDDocument) (size : PDRectangle)
    (outcome : Option PDDocument × PDDocument) : Prop where
  /-- Nothing is returned, and no page changes, exactly when every page has the wanted size. -/
  unchanged_iff : outcome = (none, document) ↔
    ∀ page ∈ document.pages, WithinTolerance page.cropBox size
  /-- Otherwise the document is returned, the same pages in the same order. -/
  scaled : ¬ (∀ page ∈ document.pages, WithinTolerance page.cropBox size) →
    outcome.1 = some outcome.2 ∧
      List.Forall₂ (PageScaled size) document.pages outcome.2.pages
  /-- Either way the document has the wanted size afterwards. -/
  within : isDocumentWithinSizeTolerance outcome.2 size = true
  /-- A second call does nothing. -/
  again : scaleToPageSize outcome.2 size = (none, outcome.2)

/-- **Scaling a document** to a size that is not wider than tall. -/
theorem documentScaled (document : PDDocument) {size : PDRectangle} (hwidth : 0 < size.getWidth)
    (hheight : size.getWidth ≤ size.getHeight) :
    DocumentScaled document size (scaleToPageSize document size) := by
  by_cases hall : ∀ page ∈ document.pages, WithinTolerance page.cropBox size
  · have hsame := scaleToPageSize_of_within hall
    rw [hsame]
    exact ⟨iff_of_true rfl hall, fun hnot => absurd hall hnot,
      (isDocumentWithinSizeTolerance_iff document size).mpr hall, hsame⟩
  · have hpages := forall₂_pageScaled size document.pages
    -- every page afterwards has the wanted size, so the second call takes the early return
    have hafter : ∀ page ∈ document.pages.map (scalePage size),
        WithinTolerance page.cropBox size := by
      intro scaled hscaled
      obtain ⟨page, _, rfl⟩ := List.mem_map.mp hscaled
      exact (pageScaled_scalePage size page).withinTolerance hwidth.le hheight
    rw [scaleToPageSize_of_not_within hall]
    refine ⟨iff_of_false ?_ hall, fun _ => ⟨rfl, hpages⟩, ?_, scaleToPageSize_of_within hafter⟩
    · intro heq
      cases congrArg Prod.fst heq
    · exact (isDocumentWithinSizeTolerance_iff _ size).mpr hafter

/-- A document of an A3 page, an A4 page and a turned A5 page, scaled to A4. -/
theorem documentScaled_A4 :
    let mm := PDRectangle.pointsPerMm
    let document : PDDocument :=
      ⟨[.ofBox (.ofSize (297 * mm) (420 * mm)), .ofBox .A4, .ofBox (.ofSize (210 * mm) (148 * mm))]⟩
    DocumentScaled document .A4 (scaleToA4 document) :=
  documentScaled _ PDRectangle.A4_width_pos PDRectangle.A4_width_le_height

end SscsPdfEmail.Helper
