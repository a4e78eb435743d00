import Mathlib.Algebra.Order.Floor.Ring
import Mathlib.Algebra.Order.Round
import Mathlib.Data.Int.Order.Lemmas
import Mathlib.Tactic.FieldSimp
import Mathlib.Tactic.Linarith
import Mathlib.Tactic.Positivity

/-!
# Rounding Half to Even

Rounding to a fixed number of decimal places, ties to the even neighbour, over any ordered field
with a floor.  Being nearest, and even in a tie, leaves only one choice (`isNearestEven_iff`):
two different nearest integers are neighbours with the number halfway between them, and only one
of them is even.

Two facts carry most uses.  The result is within half a unit of the last place
(`abs_roundHalfEven_sub_le`), and it never leaves an interval whose ends have that many places
already (`le_roundHalfEven`, `roundHalfEven_le`), so rounding is monotone as far as such ends can
tell.  In particular a number that is not negative stays so (`roundHalfEven_nonneg`), and one
below a whole unit of the last place may become zero.
-/

namespace SscsPdfEmail.Library

variable {α : Type*} [Field α] [LinearOrder α] [FloorRing α]

/-! ## Nearest integer -/

/-- The nearest integer, a tie going to the even one. -/
def nearestEven (x : α) : ℤ :=
  if Int.fract x < 1 / 2 then ⌊x⌋
  else if 1 / 2 < Int.fract x then ⌊x⌋ + 1
  else if Even ⌊x⌋ then ⌊x⌋
  else ⌊x⌋ + 1

/-- The nearest integer is one of the two neighbours, and the nearer one. -/
theorem nearestEven_cases (x : α) :
    (nearestEven x = ⌊x⌋ ∧ Int.fract x ≤ 1 / 2) ∨
      (nearestEven x = ⌊x⌋ + 1 ∧ 1 / 2 ≤ Int.fract x) := by
  unfold nearestEven
  -- in a tie both neighbours are half a unit away, whichever is even
  split_ifs with hlow hhigh heven
  · exact Or.inl ⟨rfl, hlow.le⟩
  · exact Or.inr ⟨rfl, hhigh.le⟩
  · exact Or.inl ⟨rfl, not_lt.mp hhigh⟩
  · exact Or.inr ⟨rfl, not_lt.mp hlow⟩

theorem le_nearestEven {n : ℤ} {x : α} (h : (n : α) ≤ x) : n ≤ nearestEven x := by
  have hfloor : n ≤ ⌊x⌋ := Int.le_floor.mpr h
  rcases nearestEven_cases x with ⟨heq, _⟩ | ⟨heq, _⟩
  · rw [heq]
    exact hfloor
  · omega

variable [IsStrictOrderedRing α]

theorem abs_nearestEven_sub_le (x : α) : |(nearestEven x : α) - x| ≤ 1 / 2 := by
  have hsplit : (⌊x⌋ : α) + Int.fract x = x := Int.floor_add_fract x
  -- rounded down the error is the fraction, rounded up what the fraction lacks to one
  rcases nearestEven_cases x with ⟨heq, hfract⟩ | ⟨heq, hfract⟩
  · rw [heq, abs_le]
    have hnonneg := Int.fract_nonneg x
    constructor <;> linarith
  · rw [heq, abs_le, Int.cast_add, Int.cast_one]
    have hlt := Int.fract_lt_one x
    constructor <;> linarith

theorem nearestEven_le {n : ℤ} {x : α} (h : x ≤ (n : α)) : nearestEven x ≤ n := by
  rcases nearestEven_cases x with ⟨heq, _⟩ | ⟨heq, hfract⟩
  · rw [heq]
    exact Int.floor_le_iff.mpr (lt_of_le_of_lt h (lt_add_one _))
  · -- rounded up: the fraction is positive, so `x` lies strictly above its floor.
    have hsplit : (⌊x⌋ : α) + Int.fract x = x := Int.floor_add_fract x
    have hbelow : (⌊x⌋ : α) < (n : α) := by linarith
    have hlt : ⌊x⌋ < n := Int.cast_lt.mp hbelow
    omega

/-- `n` is nearest to `x`, and even if another integer is as near. -/
structure IsNearestEven (x : α) (n : ℤ) : Prop where
  nearest : |(n : α) - x| ≤ 1 / 2
  tie : |(n : α) - x| = 1 / 2 → Even n

theorem isNearestEven_nearestEven (x : α) : IsNearestEven x (nearestEven x) where
  nearest := abs_nearestEven_sub_le x
  tie htie := by
    have hsplit : (⌊x⌋ : α) + Int.fract x = x := Int.floor_add_fract x
    have hnonneg := Int.fract_nonneg x
    have hlt := Int.fract_lt_one x
    unfold nearestEven at htie ⊢
    split_ifs at htie ⊢ with hlow hhigh heven
    · -- rounded down for being below the middle: no tie
      have hdistance : (⌊x⌋ : α) - x = -Int.fract x := by linarith
      rw [hdistance, abs_neg, abs_of_nonneg hnonneg] at htie
      exact absurd htie hlow.ne
    · -- rounded up for being above the middle: no tie
      have hdistance : ((⌊x⌋ + 1 : ℤ) : α) - x = 1 - Int.fract x := by
        push_cast
        linarith
      rw [hdistance, abs_of_pos (sub_pos.mpr hlt)] at htie
      linarith
    · exact heven
    · exact (Int.not_even_iff_odd.mp heven).add_one

/-- Two nearest integers that differ would be neighbours as near as each other, and both even. -/
theorem IsNearestEven.not_lt {x : α} {n m : ℤ} (hn : IsNearestEven x n)
    (hm : IsNearestEven x m) : ¬ n < m := by
  intro hlt
  obtain ⟨hlow, hhigh⟩ := abs_le.mp hn.nearest
  obtain ⟨hlow', hhigh'⟩ := abs_le.mp hm.nearest
  have hstep : (n : α) + 1 ≤ m := by exact_mod_cast hlt
  have hclose : (m : α) ≤ n + 1 := by linarith
  -- two nearest integers are neighbours with the number halfway between them
  have hnext : m ≤ n + 1 := by exact_mod_cast hclose
  have heven : Even n := hn.tie (by rw [abs_of_nonpos] <;> linarith)
  have heven' : Even m := hm.tie (by rw [abs_of_nonneg] <;> linarith)
  -- so both would have to be even
  obtain ⟨i, rfl⟩ := heven
  obtain ⟨j, rfl⟩ := heven'
  omega

/-- **Rounding half to even** is the only choice of a nearest integer that settles ties so. -/
theorem isNearestEven_iff {x : α} {n : ℤ} : IsNearestEven x n ↔ n = nearestEven x := by
  constructor
  · intro h
    have h' := isNearestEven_nearestEven x
    exact le_antisymm (not_lt.mp (h'.not_lt h)) (not_lt.mp (h.not_lt h'))
  · rintro rfl
    exact isNearestEven_nearestEven x

/-! ## Decimal places -/

/-- Rounding half to even at the given number of decimal places. -/
def roundHalfEven (places : ℕ) (x : α) : α := nearestEven (x * 10 ^ places) / 10 ^ places

theorem roundHalfEven_mul (places : ℕ) (x : α) :
    roundHalfEven places x * 10 ^ places = nearestEven (x * 10 ^ places) :=
  div_mul_cancel₀ _ (by positivity)

/-- **Error of rounding**: at most half a unit of the last place. -/
theorem abs_roundHalfEven_sub_le (places : ℕ) (x : α) :
    |roundHalfEven places x - x| ≤ 1 / (2 * 10 ^ places) := by
  have hpos : (0 : α) < 10 ^ places := by positivity
  have hscaled : roundHalfEven places x - x =
      ((nearestEven (x * 10 ^ places) : α) - x * 10 ^ places) / 10 ^ places := by
    rw [sub_div, mul_div_cancel_right₀ _ hpos.ne']
    rfl
  -- half a unit of the scaled number is half a unit of the last place
  rw [hscaled, abs_div, abs_of_pos hpos, ← div_div]
  exact div_le_div_of_nonneg_right (abs_nearestEven_sub_le _) hpos.le

/-- A lower bound with no more places survives rounding. -/
theorem le_roundHalfEven {places : ℕ} {n : ℤ} {x : α} (h : (n : α) ≤ x * 10 ^ places) :
    (n : α) ≤ roundHalfEven places x * 10 ^ places := by
  rw [roundHalfEven_mul]
  exact Int.cast_le.mpr (le_nearestEven h)

/-- An upper bound with no more places survives rounding. -/
theorem roundHalfEven_le {places : ℕ} {n : ℤ} {x : α} (h : x * 10 ^ places ≤ (n : α)) :
    roundHalfEven places x * 10 ^ places ≤ (n : α) := by
  rw [roundHalfEven_mul]
  exact Int.cast_le.mpr (nearestEven_le h)

/-- An integer is already rounded. -/
theorem roundHalfEven_intCast (places : ℕ) (n : ℤ) : roundHalfEven places (n : α) = n := by
  have hpos : (0 : α) < 10 ^ places := by positivity
  have hscaled : ((n * 10 ^ places : ℤ) : α) = (n : α) * 10 ^ places := by push_cast; rfl
  have hlow := le_roundHalfEven hscaled.le
  have hhigh := roundHalfEven_le hscaled.ge
  rw [hscaled] at hlow hhigh
  exact mul_right_cancel₀ hpos.ne' (le_antisymm hhigh hlow)

theorem roundHalfEven_nonneg {places : ℕ} {x : α} (h : 0 ≤ x) : 0 ≤ roundHalfEven places x := by
  have hpos : (0 : α) < 10 ^ places := by positivity
  -- zero has that many places, so rounding does not fall below it
  have hscaled : ((0 : ℤ) : α) ≤ x * 10 ^ places := by
    rw [Int.cast_zero]
    exact mul_nonneg h hpos.le
  have hrounded := le_roundHalfEven hscaled
  rw [Int.cast_zero] at hrounded
  exact nonneg_of_mul_nonneg_left hrounded hpos

/-- A result below one unit of the last place is zero. -/
theorem roundHalfEven_eq_zero {places : ℕ} {x : α} (hnonneg : 0 ≤ roundHalfEven places x)
    (hsmall : roundHalfEven places x < 1 / 10 ^ places) : roundHalfEven places x = 0 := by
  have hpos : (0 : α) < 10 ^ places := by positivity
  -- scaled up, the result is an integer between zero and one
  have hlow : (0 : α) ≤ (nearestEven (x * 10 ^ places) : α) := by
    rw [← roundHalfEven_mul]
    exact mul_nonneg hnonneg hpos.le
  have hhigh : (nearestEven (x * 10 ^ places) : α) < 1 := by
    rw [← roundHalfEven_mul]
    exact (lt_div_iff₀ hpos).mp hsmall
  have hzero : nearestEven (x * 10 ^ places) = 0 := by
    have hge : (0 : ℤ) ≤ nearestEven (x * 10 ^ places) := by exact_mod_cast hlow
    have hlt : nearestEven (x * 10 ^ places) < 1 := by exact_mod_cast hhigh
    omega
  simp [roundHalfEven, hzero]

end SscsPdfEmail.Library
