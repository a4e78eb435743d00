import Mathlib.Algebra.Order.Field.Basic
import Mathlib.Order.Bounds.Basic

/-!
# Fitting a Rectangle into a Frame

The scale that brings a rectangle into a frame without changing its aspect ratio, over any
ordered field: the smaller of the two ratios of the frame to the rectangle.  It is the greatest
scale that fits (`isGreatest_fitScale`), so the scaled rectangle touches the frame one way or the
other (`fitScale_touches`).

A rectangle may also be offered a frame that is turned on its side.  Of a frame and the same
frame turned, the better one for a rectangle is the one that is longer the way the rectangle is
(`fitScale_turned_le`): turning the frame the other way brings its shorter side against the
longer side of the rectangle.  So the choice can be made by comparing the sides of the rectangle
alone, and never costs any size.
-/

namespace SscsPdfEmail.Library

variable {α : Type*} [Field α] [LinearOrder α] {a b w h : α}

/-- Scale for a rectangle of extents `w` and `h` in a frame of extents `a` and `b`. -/
def fitScale (a b w h : α) : α := min (a / w) (b / h)

/-- Turning the frame and the rectangle together changes nothing. -/
theorem fitScale_swap (a b w h : α) : fitScale a b w h = fitScale b a h w :=
  min_comm (a / w) (b / h)

/-- The scaled rectangle has the full width or the full height of the frame. -/
theorem fitScale_touches (hw : 0 < w) (hh : 0 < h) :
    fitScale a b w h * w = a ∨ fitScale a b w h * h = b := by
  rcases min_choice (a / w) (b / h) with hmin | hmin
  · exact Or.inl (by rw [fitScale, hmin, div_mul_cancel₀ a hw.ne'])
  · exact Or.inr (by rw [fitScale, hmin, div_mul_cancel₀ b hh.ne'])

variable [IsStrictOrderedRing α]

theorem fitScale_pos (ha : 0 < a) (hb : 0 < b) (hw : 0 < w) (hh : 0 < h) :
    0 < fitScale a b w h :=
  lt_min (div_pos ha hw) (div_pos hb hh)

theorem fitScale_mul_le_left (b h : α) (hw : 0 < w) : fitScale a b w h * w ≤ a :=
  (le_div_iff₀ hw).mp (min_le_left (a / w) (b / h))

theorem fitScale_mul_le_right (a w : α) (hh : 0 < h) : fitScale a b w h * h ≤ b :=
  (le_div_iff₀ hh).mp (min_le_right (a / w) (b / h))

/-- The greatest of the scales at which the rectangle is inside the frame. -/
theorem isGreatest_fitScale (hw : 0 < w) (hh : 0 < h) :
    IsGreatest {scale | scale * w ≤ a ∧ scale * h ≤ b} (fitScale a b w h) := by
  refine ⟨⟨fitScale_mul_le_left b h hw, fitScale_mul_le_right a w hh⟩, ?_⟩
  rintro scale ⟨hwidth, hheight⟩
  exact le_min ((le_div_iff₀ hw).mpr hwidth) ((le_div_iff₀ hh).mpr hheight)

/-- **Orientation**: a rectangle that is not wider than tall fits an upright frame at a scale
at least as large as the same frame turned. -/
theorem fitScale_turned_le (ha : 0 < a) (hab : a ≤ b) (hw : 0 < w) (hwh : w ≤ h) :
    fitScale b a w h ≤ fitScale a b w h := by
  have hh : 0 < h := hw.trans_le hwh
  have hscale : 0 ≤ fitScale b a w h := (fitScale_pos (ha.trans_le hab) ha hw hh).le
  have hdown : fitScale b a w h * h ≤ a := fitScale_mul_le_right b w hh
  -- at the scale for the turned frame, the longer side fits into the shorter one of the frame
  have hacross : fitScale b a w h * w ≤ a :=
    (mul_le_mul_of_nonneg_left hwh hscale).trans hdown
  exact (isGreatest_fitScale hw hh).2 ⟨hacross, hdown.trans hab⟩

end SscsPdfEmail.Library
