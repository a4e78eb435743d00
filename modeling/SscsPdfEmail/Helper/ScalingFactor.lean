import Mathlib.Order.Bounds.Basic
import SscsPdfEmail.Helper.ScaledContent

/-!
# The Scaling Factor

What `scalingFactor` returns, for any page and any wanted size of positive dimensions: one of
the two sentinels, or the smallest of the ratios that bring an axis down, rounded half to even
(`closedForm_scalingFactor`).  A factor of four decimals equals neither sentinel, whatever its
value, since equality of decimals looks at the scale.

The model divides in a field, where a quotient by zero is zero.  In the code it would be no
number, so the function is stated a second time with a division that refuses a zero divisor.
-/

namespace SscsPdfEmail.Helper

open SscsPdfEmail.Library

/-! ## Smallest Ratio -/

/-- What the factor is the smallest of: one, and for either axis of some extent the ratio
that brings the extent to its target. -/
def axisRatios (box size : PDRectangle) : Set ℚ :=
  {ratio | ratio = 1 ∨
    (0 < box.getWidth ∧ ratio = targetWidth box size / box.getWidth) ∨
    (0 < box.getHeight ∧ ratio = targetHeight box size / box.getHeight)}

theorem fitRatio_cases (target extent : ℚ) :
    fitRatio target extent = 1 ∨ 0 < extent ∧ fitRatio target extent = target / extent := by
  unfold fitRatio
  split_ifs with hfit
  · exact Or.inr ⟨hfit.1, rfl⟩
  · exact Or.inl rfl

theorem fitRatio_le_div (target : ℚ) {extent : ℚ} (h : 0 < extent) :
    fitRatio target extent ≤ target / extent :=
  (le_div_iff₀ h).mpr (fitRatio_mul_le target h)

/-- The fitting factor rounds the smallest of the ratios. -/
theorem isLeast_axisRatios (box size : PDRectangle) :
    IsLeast (axisRatios box size)
      (min (fitRatio (targetHeight box size) box.getHeight)
        (fitRatio (targetWidth box size) box.getWidth)) := by
  constructor
  · -- the smaller ratio is itself one of them
    rcases min_choice (fitRatio (targetHeight box size) box.getHeight)
        (fitRatio (targetWidth box size) box.getWidth) with hmin | hmin
    · rw [hmin]
      rcases fitRatio_cases (targetHeight box size) box.getHeight with hone | hratio
      · exact Or.inl hone
      · exact Or.inr (Or.inr hratio)
    · rw [hmin]
      rcases fitRatio_cases (targetWidth box size) box.getWidth with hone | hratio
      · exact Or.inl hone
      · exact Or.inr (Or.inl hratio)
  · rintro ratio (rfl | ⟨hextent, rfl⟩ | ⟨hextent, rfl⟩)
    · exact (min_le_left _ _).trans (fitRatio_le_one _ _)
    · exact (min_le_right _ _).trans (fitRatio_le_div _ hextent)
    · exact (min_le_left _ _).trans (fitRatio_le_div _ hextent)

/-! ## Division -/

/-- Division that refuses a zero divisor. -/
def divide (dividend divisor : ℚ) : Option ℚ :=
  if divisor = 0 then none else some (dividend / divisor)

/-- `maxScaleFactor` over a division that refuses a zero divisor. -/
def maxScaleFactorChecked (overage pageAxisDimension : ℚ) : Option BigDecimal :=
  if overage > 0 then
    -- the only division: the divisor is the overage and the wanted extent together
    (divide overage pageAxisDimension).map fun quotient =>
      let scaleFactor := BigDecimal.ofFloat quotient
      if scaleFactor.compareTo noChange = .gt then scaleFactor else noChange
  else if overage < 0 then some scaleUp
  else some noChange

/-- `scalingFactor` over a division that refuses a zero divisor. -/
def scalingFactorChecked (page : PDPage) (size : PDRectangle) : Option BigDecimal :=
  if isPageCorrectSize page size then some noChange
  else do
    let pageHeight := page.mediaBox.getHeight
    let pageWidth := page.mediaBox.getWidth
    let sizeHeight := if pageWidth > pageHeight then size.getWidth else size.getHeight
    let sizeWidth := if pageWidth > pageHeight then size.getHeight else size.getWidth
    let heightOverage := pageHeight - sizeHeight
    let widthOverage := pageWidth - sizeWidth
    -- the two divisions; everything else is as in `scalingFactor`
    let maxHeightScaling ← maxScaleFactorChecked heightOverage pageHeight
    let maxWidthScaling ← maxScaleFactorChecked widthOverage pageWidth
    if maxHeightScaling.compareTo noChange = .lt ∧ maxWidthScaling.compareTo noChange = .lt then
      return scaleUp
    else
      let scalingFactor :=
        if maxHeightScaling.compareTo maxWidthScaling = .gt then maxHeightScaling
        else maxWidthScaling
      return (BigDecimal.one.subtract scalingFactor).setScale 4

theorem divide_of_ne {divisor : ℚ} (dividend : ℚ) (h : divisor ≠ 0) :
    divide dividend divisor = some (dividend / divisor) :=
  if_neg h

/-- An axis longer than a positive target is not zero, and only then is there a division. -/
theorem maxScaleFactorChecked_eq {target : ℚ} (h : 0 < target) (extent : ℚ) :
    maxScaleFactorChecked (extent - target) extent =
      some (maxScaleFactor (extent - target) extent) := by
  unfold maxScaleFactorChecked maxScaleFactor
  split_ifs with hover hunder
  · -- only an extent that exceeds the target is divided by
    have hextent : 0 < extent := h.trans (sub_pos.mp hover)
    rw [divide_of_ne _ hextent.ne']
    rfl
  · rfl
  · rfl

/-- **No division by zero**: with a wanted size of positive dimensions, no divisor is zero. -/
theorem scalingFactorChecked_eq (page : PDPage) {size : PDRectangle} (hwidth : 0 < size.getWidth)
    (hheight : 0 < size.getHeight) :
    scalingFactorChecked page size = some (scalingFactor page size) := by
  unfold scalingFactorChecked scalingFactor
  by_cases hcorrect : isPageCorrectSize page size = true
  · rw [if_pos hcorrect, if_pos hcorrect]
  · -- turned or not, both targets are positive
    have hdown := maxScaleFactorChecked_eq
      (targetHeight_of (p := (0 < ·)) page.mediaBox hwidth hheight) page.mediaBox.getHeight
    have hacross := maxScaleFactorChecked_eq
      (targetWidth_of (p := (0 < ·)) page.mediaBox hwidth hheight) page.mediaBox.getWidth
    unfold targetHeight at hdown
    unfold targetWidth at hacross
    rw [if_neg hcorrect, if_neg hcorrect]
    simp only [hdown, hacross]
    exact (apply_ite some _ _ _).symm

/-! ## Closed Form -/

/-- A factor of four decimals between zero and one: the smallest ratio, rounded half to even. -/
structure RoundedRatio (box size : PDRectangle) (factor : BigDecimal) : Prop where
  rounded : ∃ (ratio : ℚ) (unscaled : ℤ), IsLeast (axisRatios box size) ratio ∧
    IsNearestEven (ratio * 10 ^ 4) unscaled ∧ factor = ⟨unscaled / 10 ^ 4, 4⟩
  nonneg : 0 ≤ factor.value
  le_one : factor.value ≤ 1
  ne_noChange : factor ≠ noChange
  ne_scaleUp : factor ≠ scaleUp

/-- The scaling factor of a page, case by case. -/
structure ClosedForm (page : PDPage) (size : PDRectangle) (factor : BigDecimal) : Prop where
  noChange_iff : factor = noChange ↔ WithinTolerance page.cropBox size
  scaleUp_iff : ¬ WithinTolerance page.cropBox size →
    (factor = scaleUp ↔ Smaller page.mediaBox size)
  scaleDown : ¬ WithinTolerance page.cropBox size → ¬ Smaller page.mediaBox size →
    RoundedRatio page.mediaBox size factor

theorem fitFactor_le_one (box size : PDRectangle) : fitFactor box size ≤ 1 := by
  -- one is a multiple of the last place, so rounding does not lead beyond it
  have hscaled : min (fitRatio (targetHeight box size) box.getHeight)
      (fitRatio (targetWidth box size) box.getWidth) * 10 ^ 4 ≤ ((10 ^ 4 : ℤ) : ℚ) := by
    have hratio := (min_le_left (fitRatio (targetHeight box size) box.getHeight)
      (fitRatio (targetWidth box size) box.getWidth)).trans (fitRatio_le_one _ _)
    push_cast
    linarith
  have hrounded : fitFactor box size * 10 ^ 4 ≤ ((10 ^ 4 : ℤ) : ℚ) := roundHalfEven_le hscaled
  push_cast at hrounded
  linarith

/-- A decimal of four places equals neither sentinel, not even when its value is zero. -/
theorem ne_sentinel_of_scale {factor : BigDecimal} (h : factor.scale = 4) :
    factor ≠ noChange ∧ factor ≠ scaleUp := by
  constructor
  · rintro rfl
    exact absurd h (by decide)
  · rintro rfl
    exact absurd h (by decide)

theorem roundedRatio_fitFactor (box : PDRectangle) {size : PDRectangle}
    (hwidth : 0 < size.getWidth) (hheight : 0 < size.getHeight) :
    RoundedRatio box size ⟨fitFactor box size, 4⟩ where
  rounded := ⟨_, _, isLeast_axisRatios box size, isNearestEven_iff.mpr rfl, rfl⟩
  nonneg := fitFactor_nonneg box hwidth.le hheight.le
  le_one := fitFactor_le_one box size
  ne_noChange := (ne_sentinel_of_scale rfl).1
  ne_scaleUp := (ne_sentinel_of_scale rfl).2

/-- **Closed form of the scaling factor**, and no divisor on the way to it is zero. -/
theorem closedForm_scalingFactor (page : PDPage) {size : PDRectangle}
    (hwidth : 0 < size.getWidth) (hheight : 0 < size.getHeight) :
    scalingFactorChecked page size = some (scalingFactor page size) ∧
      ClosedForm page size (scalingFactor page size) := by
  refine ⟨scalingFactorChecked_eq page hwidth hheight, ?_⟩
  by_cases hcorrect : isPageCorrectSize page size = true
  · -- the early return
    have hwithin := (isPageCorrectSize_iff page size).mp hcorrect
    have hfactor : scalingFactor page size = noChange := if_pos hcorrect
    exact ⟨iff_of_true hfactor hwithin, fun hnot => absurd hwithin hnot,
      fun hnot => absurd hwithin hnot⟩
  · have houtside := Bool.eq_false_iff.mpr hcorrect
    have hnot := isPageCorrectSize_eq_false.mp houtside
    have hrounded := roundedRatio_fitFactor page.mediaBox hwidth hheight
    refine ⟨iff_of_false (scalingFactor_ne_noChange houtside) hnot, fun _ => ?_,
      fun _ hsmaller => ?_⟩
    · -- the factor of a page to be brought down is no sentinel
      rw [scalingFactor_of_not_correct houtside, contentScaling]
      by_cases hsmaller : Smaller page.mediaBox size
      · rw [if_pos hsmaller]
        exact iff_of_true rfl hsmaller
      · rw [if_neg hsmaller]
        exact iff_of_false hrounded.ne_scaleUp hsmaller
    · rw [scalingFactor_of_not_correct houtside, contentScaling, if_neg hsmaller]
      exact hrounded

/-- A page thirty thousand times as tall as A4: the ratio rounds to zero, which with its four
places is still told from `noChange`, so the content is scaled. -/
theorem closedForm_rounded_to_zero :
    let mm := PDRectangle.pointsPerMm
    let page := PDPage.ofBox (.ofSize (210 * mm) (297 * 30000 * mm))
    scalingFactor page .A4 = ⟨0, 4⟩ ∧
      scalingFactorChecked page .A4 = some (scalingFactor page .A4) ∧
      ClosedForm page .A4 (scalingFactor page .A4) := by
  intro mm page
  refine ⟨by decide +kernel, closedForm_scalingFactor page PDRectangle.A4_width_pos ?_⟩
  exact PDRectangle.A4_width_pos.trans_le PDRectangle.A4_width_le_height

end SscsPdfEmail.Helper
