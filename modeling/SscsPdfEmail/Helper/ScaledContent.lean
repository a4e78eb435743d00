import SscsPdfEmail.Helper.PageScaling

/-!
# Content of a Scaled Page

Whether what a page showed is still on the page once it is scaled: its extent against the new box
(`fitsBox_iff`), and its points where the old box was not at the origin (`keepsInside_iff`).

Both answers are exact.  The extent fits for every page that is not wider than tall, while a page
that lies on its side is scaled for the wanted size turned and then given the upright one, so its
width may be cut off.  The content is scaled about the origin and not about a corner of the old
box, so points below or left of the origin stay there, outside of the new box.

The factor has been rounded, so each comparison allows for half a unit of its fourth decimal.
What the operators that are put around the content do to it is shown in `ScaledGraphics`.
-/

namespace SscsPdfEmail.Helper

open SscsPdfEmail.Library PDRectangle

/-! ## Fitting Factor -/

theorem fitRatio_nonneg {target : ℚ} (h : 0 ≤ target) (extent : ℚ) :
    0 ≤ fitRatio target extent := by
  unfold fitRatio
  split_ifs with hfit
  · exact div_nonneg h hfit.1.le
  · exact zero_le_one

/-- Brought down by its ratio, an extent is no longer than the target. -/
theorem fitRatio_mul_le (target : ℚ) {extent : ℚ} (h : 0 < extent) :
    fitRatio target extent * extent ≤ target := by
  unfold fitRatio
  split_ifs with hfit
  · exact (div_mul_cancel₀ target h.ne').le
  · rw [one_mul]
    exact not_lt.mp fun hlt => hfit ⟨h, hlt⟩

/-- The factor is at most either ratio, up to half a unit of the fourth decimal. -/
theorem fitFactor_le (box size : PDRectangle) :
    fitFactor box size ≤ fitRatio (targetHeight box size) box.getHeight + 1 / 20000 ∧
      fitFactor box size ≤ fitRatio (targetWidth box size) box.getWidth + 1 / 20000 := by
  -- rounding adds at most half a unit of the fourth decimal
  have herror := (abs_le.mp (abs_roundHalfEven_sub_le 4
    (min (fitRatio (targetHeight box size) box.getHeight)
      (fitRatio (targetWidth box size) box.getWidth)))).2
  have hhalf : (1 : ℚ) / (2 * 10 ^ 4) = 1 / 20000 := by norm_num
  rw [hhalf] at herror
  have hheight := min_le_left (fitRatio (targetHeight box size) box.getHeight)
    (fitRatio (targetWidth box size) box.getWidth)
  have hwidth := min_le_right (fitRatio (targetHeight box size) box.getHeight)
    (fitRatio (targetWidth box size) box.getWidth)
  unfold fitFactor
  constructor <;> linarith

/-- The scaled extents are no longer than the targets, up to the rounding of the factor. -/
theorem fitFactor_mul_le {box : PDRectangle} (size : PDRectangle) (hwidth : 0 < box.getWidth)
    (hheight : 0 < box.getHeight) :
    fitFactor box size * box.getHeight ≤ targetHeight box size + box.getHeight / 20000 ∧
      fitFactor box size * box.getWidth ≤ targetWidth box size + box.getWidth / 20000 := by
  obtain ⟨hdown, hacross⟩ := fitFactor_le box size
  -- each ratio brings its own extent down to the target
  have htall := fitRatio_mul_le (targetHeight box size) hheight
  have hwide := fitRatio_mul_le (targetWidth box size) hwidth
  constructor
  · calc fitFactor box size * box.getHeight
        ≤ (fitRatio (targetHeight box size) box.getHeight + 1 / 20000) * box.getHeight :=
          mul_le_mul_of_nonneg_right hdown hheight.le
      _ ≤ targetHeight box size + box.getHeight / 20000 := by linarith
  · calc fitFactor box size * box.getWidth
        ≤ (fitRatio (targetWidth box size) box.getWidth + 1 / 20000) * box.getWidth :=
          mul_le_mul_of_nonneg_right hacross hwidth.le
      _ ≤ targetWidth box size + box.getWidth / 20000 := by linarith

theorem fitFactor_nonneg (box : PDRectangle) {size : PDRectangle} (hwidth : 0 ≤ size.getWidth)
    (hheight : 0 ≤ size.getHeight) : 0 ≤ fitFactor box size := by
  have htall : 0 ≤ targetHeight box size := targetHeight_of (p := (0 ≤ ·)) box hwidth hheight
  have hwide : 0 ≤ targetWidth box size := targetWidth_of (p := (0 ≤ ·)) box hwidth hheight
  exact roundHalfEven_nonneg (le_min (fitRatio_nonneg htall _) (fitRatio_nonneg hwide _))

/-- A page that is only enlarged has nothing to bring down. -/
theorem fitFactor_of_smaller {box size : PDRectangle} (h : Smaller box size) :
    fitFactor box size = 1 := by
  rw [fitFactor, fitRatio_of_le h.1.le, fitRatio_of_le h.2.le, min_self]
  have hone : roundHalfEven 4 ((1 : ℤ) : ℚ) = ((1 : ℤ) : ℚ) := roundHalfEven_intCast 4 1
  rwa [Int.cast_one] at hone

theorem factor_contentScaling (box size : PDRectangle) :
    (contentScaling box size).factor = fitFactor box size := by
  unfold contentScaling
  split_ifs with hsmaller
  · exact (fitFactor_of_smaller hsmaller).symm
  · rfl

/-! ## Pages of a Document -/

/-- Whatever the document, the call leaves its pages each run through the loop body. -/
theorem pages_scaleToPageSize (document : PDDocument) (size : PDRectangle) :
    (scaleToPageSize document size).2.pages = document.pages.map (scalePage size) := by
  by_cases hall : ∀ page ∈ document.pages, WithinTolerance page.cropBox size
  · -- the early return; the loop body would have changed nothing
    rw [scaleToPageSize_of_within hall]
    refine (List.map_id document.pages).symm.trans (List.map_congr_left fun page hpage => ?_)
    exact (scalePage_of_correct ((isPageCorrectSize_iff page size).mpr (hall page hpage))).symm
  · rw [scaleToPageSize_of_not_within hall]

/-- A page next to what the call makes of it. -/
def ScaledTo (document : PDDocument) (size : PDRectangle) (page scaled : PDPage) : Prop :=
  (page, scaled) ∈ document.pages.zip (scaleToPageSize document size).2.pages

theorem scaledTo_scalePage {document : PDDocument} {page : PDPage} (size : PDRectangle)
    (h : page ∈ document.pages) : ScaledTo document size page (scalePage size page) := by
  unfold ScaledTo
  rw [pages_scaleToPageSize, ← List.map_prod_left_eq_zip]
  exact List.mem_map.mpr ⟨page, h, rfl⟩

theorem ScaledTo.eq_scalePage {document : PDDocument} {size : PDRectangle} {page scaled : PDPage}
    (h : ScaledTo document size page scaled) : scaled = scalePage size page := by
  unfold ScaledTo at h
  rw [pages_scaleToPageSize, ← List.map_prod_left_eq_zip] at h
  obtain ⟨other, _, hpair⟩ := List.mem_map.mp h
  obtain ⟨rfl, rfl⟩ := Prod.mk.inj hpair
  rfl

theorem ScaledTo.contents {document : PDDocument} {size : PDRectangle} {page scaled : PDPage}
    (h : ScaledTo document size page scaled) (houtside : isPageCorrectSize page size = false) :
    scaled.contents = (contentScaling page.mediaBox size).contents page.contents := by
  rw [h.eq_scalePage, scalePage_of_not_correct houtside]

/-- What is seen to have been done to the content is what the loop body did. -/
theorem ScaledTo.eq_contentScaling {document : PDDocument} {size : PDRectangle}
    {page scaled : PDPage} {scaling : ContentScaling} (h : ScaledTo document size page scaled)
    (houtside : isPageCorrectSize page size = false)
    (hcontents : scaled.contents = scaling.contents page.contents) :
    scaling = contentScaling page.mediaBox size :=
  ContentScaling.contents_injective page.contents (hcontents.symm.trans (h.contents houtside))

theorem ScaledTo.mediaBox {document : PDDocument} {size : PDRectangle} {page scaled : PDPage}
    (h : ScaledTo document size page scaled) (houtside : isPageCorrectSize page size = false) :
    scaled.mediaBox = (scalePageToSize page size).mediaBox := by
  rw [h.eq_scalePage, scalePage_of_not_correct houtside]

/-! ## Extent -/

/-- The scaled extents of a box are no longer than those of another, up to the rounding of
the factor. -/
def FitsBox (factor : ℚ) (box newBox : PDRectangle) : Prop :=
  factor * box.getWidth ≤ newBox.getWidth + box.getWidth / 20000 ∧
    factor * box.getHeight ≤ newBox.getHeight + box.getHeight / 20000

instance (factor : ℚ) (box newBox : PDRectangle) : Decidable (FitsBox factor box newBox) :=
  inferInstanceAs (Decidable (_ ∧ _))

/-- **Extent of the scaled content**: it fits the new box for a page that is not wider than
tall.  A page wider than tall is scaled for the turned size but given the upright one, so its
width fits only where the factor for the turned size is small enough for the upright one. -/
theorem fitsBox_iff {document : PDDocument} {size : PDRectangle} {page scaled : PDPage}
    {scaling : ContentScaling} (hsize : size.getWidth ≤ size.getHeight)
    (hpage : ScaledTo document size page scaled) (houtside : isPageCorrectSize page size = false)
    (hcontents : scaled.contents = scaling.contents page.contents)
    (hwidth : 0 < page.mediaBox.getWidth) (hheight : 0 < page.mediaBox.getHeight) :
    FitsBox scaling.factor page.mediaBox scaled.mediaBox ↔
      page.mediaBox.getWidth ≤ page.mediaBox.getHeight ∨
        roundHalfEven 4 (min (fitRatio size.getWidth page.mediaBox.getHeight)
            (fitRatio size.getHeight page.mediaBox.getWidth)) ≤
          size.getWidth / page.mediaBox.getWidth + 1 / 20000 := by
  obtain rfl := hpage.eq_contentScaling houtside hcontents
  obtain ⟨hnewWidth, hnewHeight⟩ := (allBoxes_scalePageToSize page size).mediaBox
  obtain ⟨htall, hwide⟩ := fitFactor_mul_le size hwidth hheight
  rw [hpage.mediaBox houtside, factor_contentScaling, FitsBox, hnewWidth, hnewHeight]
  rcases le_or_gt page.mediaBox.getWidth page.mediaBox.getHeight with hupright | hturned
  · -- not wider than tall: the target is the wanted size itself.
    rw [targetHeight, if_neg (not_lt.mpr hupright)] at htall
    rw [targetWidth, if_neg (not_lt.mpr hupright)] at hwide
    exact iff_of_true ⟨hwide, htall⟩ (Or.inl hupright)
  · -- wider than tall: the height fits the wanted width, which the wanted height exceeds.
    have hfactor : fitFactor page.mediaBox size =
        roundHalfEven 4 (min (fitRatio size.getWidth page.mediaBox.getHeight)
          (fitRatio size.getHeight page.mediaBox.getWidth)) := by
      rw [fitFactor, targetHeight, targetWidth, if_pos hturned, if_pos hturned]
    rw [targetHeight, if_pos hturned] at htall
    have hbound : ∀ factor : ℚ, factor * page.mediaBox.getWidth ≤
        size.getWidth + page.mediaBox.getWidth / 20000 ↔
          factor ≤ size.getWidth / page.mediaBox.getWidth + 1 / 20000 := by
      intro factor
      rw [← le_div_iff₀ hwidth, add_div, div_right_comm, div_self hwidth.ne']
    rw [hbound, hfactor]
    rw [hfactor] at htall
    constructor
    · exact fun hfits => Or.inr hfits.1
    · rintro (hupright | hfits)
      · exact absurd hturned (not_lt.mpr hupright)
      · exact ⟨hfits, by linarith⟩

/-- What the results about scaled pages ask of an upright A3 page. -/
theorem scalePage_A3 :
    let mm := PDRectangle.pointsPerMm
    let page := PDPage.ofBox (.ofSize (297 * mm) (420 * mm))
    ScaledTo ⟨[page]⟩ .A4 page (scalePage .A4 page) ∧ isPageCorrectSize page .A4 = false ∧
      (scalePage .A4 page).contents =
        (ContentScaling.scaled (7071 / 10000)).contents page.contents ∧
      0 < page.mediaBox.getWidth ∧ page.mediaBox.getWidth < page.mediaBox.getHeight := by
  intro mm page
  -- the boxes are evaluated, and only their order is left to arithmetic
  refine ⟨scaledTo_scalePage .A4 List.mem_cons_self, by decide +kernel, by decide +kernel, ?_, ?_⟩
  · norm_num [page, mm, PDPage.ofBox, pointsPerMm]
  · norm_num [page, mm, PDPage.ofBox, pointsPerMm]

/-- An upright A3 page scaled to A4. -/
theorem fitsBox_A3 :
    let mm := PDRectangle.pointsPerMm
    let page := PDPage.ofBox (.ofSize (297 * mm) (420 * mm))
    let scaled := scalePage .A4 page
    scaled.contents = (ContentScaling.scaled (7071 / 10000)).contents page.contents ∧
      FitsBox (7071 / 10000) page.mediaBox scaled.mediaBox := by
  intro mm page scaled
  obtain ⟨hpage, houtside, hcontents, hwidth, hupright⟩ := scalePage_A3
  -- the page is not wider than tall
  have hfits := fitsBox_iff A4_width_le_height hpage houtside hcontents hwidth
    (hwidth.trans hupright)
  exact ⟨hcontents, hfits.mpr (Or.inl hupright.le)⟩

/-- A turned A3 page scaled to A4: the factor is that for the turned A4, 0.7071, while the
new page is the upright one, so nearly a third of the content is cut off. -/
theorem turned_A3_clipped :
    let mm := PDRectangle.pointsPerMm
    let page := PDPage.ofBox (.ofSize (420 * mm) (297 * mm))
    isPageCorrectSize page .A4 = false ∧
      ∃ scaled, (scaleToA4 ⟨[page]⟩).2.pages = [scaled] ∧
        scaled.contents = (ContentScaling.scaled (7071 / 10000)).contents page.contents ∧
        ¬ FitsBox (7071 / 10000) page.mediaBox scaled.mediaBox := by
  intro mm page
  exact ⟨by decide +kernel, scalePage .A4 page, by decide +kernel, by decide +kernel,
    by decide +kernel⟩

/-! ## Position -/

/-- Every point of the box is mapped into the new box, up to the rounding of the factor: by a
factor that the one applied may stand for. -/
def KeepsInside (scaling : ContentScaling) (box newBox : PDRectangle) : Prop :=
  ∀ p, box.Contains p → ∃ factor, |factor - scaling.factor| ≤ scaling.precision ∧
    newBox.Contains (Matrix.scaling factor • p)

theorem contains_scaling_smul {W H factor : ℚ} {p : Point} :
    (PDRectangle.ofSize W H).Contains (Matrix.scaling factor • p) ↔
      (0 ≤ factor * p.x ∧ factor * p.x ≤ W) ∧ (0 ≤ factor * p.y ∧ factor * p.y ≤ H) := by
  rw [Matrix.scaling_smul]
  rfl

/-- A box stays inside iff it is shrunk to a point, or lies in the positive quadrant and its
far corner stays inside. -/
theorem keepsInside_ofSize_iff {scaling : ContentScaling} {box : PDRectangle} {W H : ℚ}
    (hx : box.lowerLeftX ≤ box.upperRightX) (hy : box.lowerLeftY ≤ box.upperRightY)
    (hW : 0 ≤ W) (hH : 0 ≤ H)
    (hfactor : scaling.factor = 0 ∨ scaling.precision < scaling.factor) :
    KeepsInside scaling box (.ofSize W H) ↔
      scaling.factor = 0 ∨ (0 ≤ box.lowerLeftX ∧ 0 ≤ box.lowerLeftY) ∧
        (scaling.factor - scaling.precision) * box.upperRightX ≤ W ∧
        (scaling.factor - scaling.precision) * box.upperRightY ≤ H := by
  have hprecision : 0 ≤ scaling.precision := by
    cases scaling with
    | unchanged => exact le_refl 0
    | scaled factor => exact (by norm_num : (0 : ℚ) ≤ 1 / 20000)
  rcases hfactor with hzero | hpos
  · -- everything lands on the origin.
    refine iff_of_true (fun p _ => ⟨0, ?_, ?_⟩) (Or.inl hzero)
    · rwa [hzero, sub_zero, abs_zero]
    · rw [contains_scaling_smul, zero_mul, zero_mul]
      exact ⟨⟨le_refl 0, hW⟩, ⟨le_refl 0, hH⟩⟩
  · have hleast : 0 < scaling.factor - scaling.precision := sub_pos.mpr hpos
    have hne : scaling.factor ≠ 0 := (lt_of_le_of_lt hprecision hpos).ne'
    constructor
    · intro hkeeps
      -- the two corners are all that is needed
      obtain ⟨r, hr, hlow⟩ := hkeeps ⟨box.lowerLeftX, box.lowerLeftY⟩
        ⟨⟨le_refl _, hx⟩, ⟨le_refl _, hy⟩⟩
      obtain ⟨s, hs, hhigh⟩ := hkeeps ⟨box.upperRightX, box.upperRightY⟩
        ⟨⟨hx, le_refl _⟩, ⟨hy, le_refl _⟩⟩
      rw [contains_scaling_smul] at hlow hhigh
      -- every factor that the one applied may stand for is at least the least of them.
      have hr_least : scaling.factor - scaling.precision ≤ r := by linarith [(abs_le.mp hr).1]
      have hs_least : scaling.factor - scaling.precision ≤ s := by linarith [(abs_le.mp hs).1]
      have hr_pos : 0 < r := lt_of_lt_of_le hleast hr_least
      have hx_nonneg : 0 ≤ box.lowerLeftX := (mul_nonneg_iff_of_pos_left hr_pos).mp hlow.1.1
      have hy_nonneg : 0 ≤ box.lowerLeftY := (mul_nonneg_iff_of_pos_left hr_pos).mp hlow.2.1
      refine Or.inr ⟨⟨hx_nonneg, hy_nonneg⟩, ?_, ?_⟩
      · exact (mul_le_mul_of_nonneg_right hs_least (hx_nonneg.trans hx)).trans hhigh.1.2
      · exact (mul_le_mul_of_nonneg_right hs_least (hy_nonneg.trans hy)).trans hhigh.2.2
    · rintro (hzero | ⟨⟨hx_nonneg, hy_nonneg⟩, hright, htop⟩)
      · exact absurd hzero hne
      · -- the least factor serves for every point
        rintro p ⟨⟨hpx, hpx'⟩, ⟨hpy, hpy'⟩⟩
        refine ⟨scaling.factor - scaling.precision, ?_, ?_⟩
        · rw [sub_sub_cancel_left, abs_neg, abs_of_nonneg hprecision]
        · rw [contains_scaling_smul]
          have hshrinkX := (mul_le_mul_of_nonneg_left hpx' hleast.le).trans hright
          have hshrinkY := (mul_le_mul_of_nonneg_left hpy' hleast.le).trans htop
          exact ⟨⟨mul_nonneg hleast.le (hx_nonneg.trans hpx), hshrinkX⟩,
            ⟨mul_nonneg hleast.le (hy_nonneg.trans hpy), hshrinkY⟩⟩

/-- The least factor that the one applied to an upright box may stand for: half a unit of the
fourth decimal less, unless the box is smaller than the wanted size both ways. -/
def leastFactor (box size : PDRectangle) (factor : ℚ) : ℚ :=
  if box.getHeight < size.getHeight ∧ box.getWidth < size.getWidth then factor
  else factor - 1 / 20000

/-- Where an upright box has to sit so that scaling about the origin leaves it on the page: in
the positive quadrant, and with its far corner within the wanted size once scaled. -/
def StaysOnPage (box size : PDRectangle) : Prop :=
  let factor := roundHalfEven 4 (min (fitRatio size.getHeight box.getHeight)
    (fitRatio size.getWidth box.getWidth))
  0 ≤ size.getWidth ∧
    (factor = 0 ∨ (0 ≤ box.lowerLeftX ∧ 0 ≤ box.lowerLeftY) ∧
      leastFactor box size factor * box.upperRightX ≤ size.getWidth ∧
      leastFactor box size factor * box.upperRightY ≤ size.getHeight)

instance (box size : PDRectangle) : Decidable (StaysOnPage box size) :=
  inferInstanceAs (Decidable (_ ∧ _))

/-- A factor of four decimals is zero or exceeds its own precision. -/
theorem factor_eq_zero_or_precision_lt {box size : PDRectangle} (hwidth : 0 ≤ size.getWidth)
    (hheight : 0 ≤ size.getHeight) :
    (contentScaling box size).factor = 0 ∨
      (contentScaling box size).precision < (contentScaling box size).factor := by
  unfold contentScaling
  split_ifs with hsmaller
  · exact Or.inr zero_lt_one
  · show fitFactor box size = 0 ∨ 1 / 20000 < fitFactor box size
    have hnonneg : 0 ≤ fitFactor box size := fitFactor_nonneg box hwidth hheight
    -- the factor is a multiple of 1/10000, twice its precision
    rcases lt_or_ge (fitFactor box size) (1 / 10 ^ 4) with hsmall | hlarge
    · exact Or.inl (roundHalfEven_eq_zero hnonneg hsmall)
    · exact Or.inr (lt_of_lt_of_le (by norm_num) hlarge)

/-- **Position of the scaled content**: the points of the media box of an upright page stay
on the page exactly where the box sits as `StaysOnPage` says. -/
theorem keepsInside_iff {document : PDDocument} {size : PDRectangle} {page scaled : PDPage}
    {scaling : ContentScaling} (hx : size.lowerLeftX = 0) (hy : size.lowerLeftY = 0)
    (hsize : size.getWidth ≤ size.getHeight) (hpage : ScaledTo document size page scaled)
    (houtside : isPageCorrectSize page size = false)
    (hcontents : scaled.contents = scaling.contents page.contents)
    (hwidth : 0 ≤ page.mediaBox.getWidth)
    (hupright : page.mediaBox.getWidth < page.mediaBox.getHeight) :
    KeepsInside scaling page.mediaBox scaled.mediaBox ↔ StaysOnPage page.mediaBox size := by
  obtain rfl := hpage.eq_contentScaling houtside hcontents
  have hcornerX : page.mediaBox.lowerLeftX ≤ page.mediaBox.upperRightX := sub_nonneg.mp hwidth
  have hcornerY : page.mediaBox.lowerLeftY ≤ page.mediaBox.upperRightY :=
    sub_nonneg.mp (hwidth.trans hupright.le)
  -- an upright page gets the wanted box itself, which sits at the origin.
  have hbox : scaled.mediaBox = .ofSize size.getWidth size.getHeight := by
    rw [hpage.mediaBox houtside]
    obtain ⟨x, y, right, top⟩ := size
    obtain rfl : x = 0 := hx
    obtain rfl : y = 0 := hy
    simp [scalePageToSize, PDRectangle.ofSize, PDRectangle.getWidth, PDRectangle.getHeight]
  rw [hbox]
  by_cases hwanted : 0 ≤ size.getWidth
  · rw [keepsInside_ofSize_iff hcornerX hcornerY hwanted (hwanted.trans hsize)
      (factor_eq_zero_or_precision_lt hwanted (hwanted.trans hsize))]
    have hturned : ¬ page.mediaBox.getWidth > page.mediaBox.getHeight := not_lt.mpr hupright.le
    have hleast : leastFactor page.mediaBox size (fitFactor page.mediaBox size) =
        fitFactor page.mediaBox size - (contentScaling page.mediaBox size).precision := by
      have hsmaller : Smaller page.mediaBox size ↔
          page.mediaBox.getHeight < size.getHeight ∧ page.mediaBox.getWidth < size.getWidth := by
        simp only [Smaller, targetHeight, targetWidth, if_neg hturned]
      unfold leastFactor contentScaling
      by_cases h : Smaller page.mediaBox size
      · rw [if_pos h, if_pos (hsmaller.mp h)]
        exact (sub_zero _).symm
      · rw [if_neg h, if_neg fun hroom => h (hsmaller.mpr hroom)]
        rfl
    rw [factor_contentScaling, ← hleast, StaysOnPage]
    simp only [fitFactor, targetHeight, targetWidth, if_neg hturned]
    exact (and_iff_right hwanted).symm
  · -- no point is inside a box of negative width.
    refine iff_of_false (fun hkeeps => hwanted ?_) (fun hstays => hwanted hstays.1)
    obtain ⟨factor, _, hinside⟩ := hkeeps ⟨page.mediaBox.lowerLeftX, page.mediaBox.lowerLeftY⟩
      ⟨⟨le_refl _, hcornerX⟩, ⟨le_refl _, hcornerY⟩⟩
    rw [contains_scaling_smul] at hinside
    exact hinside.1.1.trans hinside.1.2

/-- An A3 page at the origin scaled to A4. -/
theorem keepsInside_A3 :
    let mm := PDRectangle.pointsPerMm
    let page := PDPage.ofBox (.ofSize (297 * mm) (420 * mm))
    let scaled := scalePage .A4 page
    scaled.contents = (ContentScaling.scaled (7071 / 10000)).contents page.contents ∧
      KeepsInside (.scaled (7071 / 10000)) page.mediaBox scaled.mediaBox := by
  intro mm page scaled
  obtain ⟨hpage, houtside, hcontents, hwidth, hupright⟩ := scalePage_A3
  have hkeeps := keepsInside_iff rfl rfl A4_width_le_height hpage houtside hcontents hwidth.le
    hupright
  exact ⟨hcontents, hkeeps.mpr (by decide +kernel)⟩

/-- A page whose media box starts at (-100, -100): its lower left corner is scaled towards the
origin but stays at negative coordinates, while the new box starts at the origin. -/
theorem corner_lost_below_origin :
    let page := PDPage.ofBox ⟨-100, -100, 742, 1091⟩
    isPageCorrectSize page .A4 = false ∧
      ∃ scaled, (scaleToA4 ⟨[page]⟩).2.pages = [scaled] ∧
        scaled.contents = (ContentScaling.scaled (7069 / 10000)).contents page.contents ∧
        ¬ KeepsInside (.scaled (7069 / 10000)) page.mediaBox scaled.mediaBox := by
  intro page
  have hbox : (scalePage .A4 page).mediaBox = .A4 := by decide +kernel
  refine ⟨by decide +kernel, scalePage .A4 page, by decide +kernel, by decide +kernel, ?_⟩
  rw [hbox]
  -- the lower left corner stays left of the new box, by whatever factor
  intro hkeeps
  obtain ⟨factor, hfactor, hinside⟩ := hkeeps ⟨-100, -100⟩ (by decide +kernel)
  rw [PDRectangle.A4, contains_scaling_smul] at hinside
  have hnonneg : 0 ≤ factor * (-100) := hinside.1.1
  have hclose : -(1 / 20000) ≤ factor - 7069 / 10000 := (abs_le.mp hfactor).1
  linarith

end SscsPdfEmail.Helper
