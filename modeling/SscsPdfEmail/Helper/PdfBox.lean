import Mathlib.Tactic.Ring
import Mathlib.Tactic.NormNum.Ineq
import Mathlib.Algebra.Order.Ring.Rat
import Mathlib.Data.Rat.Lemmas
import SscsPdfEmail.Library.GraphicsState

/-!
# PDF Documents

The part of a PDFBox document that page scaling reads and writes: the boxes of a page and its
content streams.  Dimensions are exact rationals in place of floats.

A box is given by two corners and need not start at the origin.  A matrix is an affine map, and
matrices are a monoid that acts on points, so that a content stream is a sequence of operators
over a graphics state whose transformations are matrices.  `PDPage.operators` is the description
of a page, its streams one after another, and `PDPage.marks` the points that a viewer ends up
painting.  Of an operator that paints, only the place is kept: what it paints is the same
wherever it ends up.
-/

namespace SscsPdfEmail.Helper

open SscsPdfEmail.Library

/-! ## Geometry -/

/-- A point of user space. -/
@[ext]
structure Point where
  x : ℚ
  y : ℚ
deriving DecidableEq

/-- `PDRectangle`: a box given by its lower left and upper right corners. -/
structure PDRectangle where
  lowerLeftX : ℚ
  lowerLeftY : ℚ
  upperRightX : ℚ
  upperRightY : ℚ
deriving DecidableEq

namespace PDRectangle

def getWidth (box : PDRectangle) : ℚ := box.upperRightX - box.lowerLeftX

def getHeight (box : PDRectangle) : ℚ := box.upperRightY - box.lowerLeftY

/-- `new PDRectangle(width, height)`: a box with its lower left corner at the origin. -/
def ofSize (width height : ℚ) : PDRectangle := ⟨0, 0, width, height⟩

@[simp] theorem getWidth_ofSize (width height : ℚ) : (ofSize width height).getWidth = width :=
  sub_zero width

@[simp] theorem getHeight_ofSize (width height : ℚ) : (ofSize width height).getHeight = height :=
  sub_zero height

/-- `POINTS_PER_MM`: 72 points to the inch of 25.4 millimetres. -/
def pointsPerMm : ℚ := 72 / (254 / 10)

/-- `PDRectangle.A4`, 210 by 297 millimetres. -/
def A4 : PDRectangle := ofSize (210 * pointsPerMm) (297 * pointsPerMm)

theorem A4_width_pos : 0 < A4.getWidth := by
  norm_num [A4, pointsPerMm]

theorem A4_width_le_height : A4.getWidth ≤ A4.getHeight := by
  norm_num [A4, pointsPerMm]

/-- The points of the closed box. -/
def Contains (box : PDRectangle) (p : Point) : Prop :=
  (box.lowerLeftX ≤ p.x ∧ p.x ≤ box.upperRightX) ∧
    (box.lowerLeftY ≤ p.y ∧ p.y ≤ box.upperRightY)

instance (box : PDRectangle) (p : Point) : Decidable (box.Contains p) :=
  inferInstanceAs (Decidable (_ ∧ _))

end PDRectangle

/-- `Matrix`: the affine map `(x, y) ↦ (a x + c y + e, b x + d y + f)`. -/
@[ext]
structure Matrix where
  a : ℚ
  b : ℚ
  c : ℚ
  d : ℚ
  e : ℚ
  f : ℚ
deriving DecidableEq

namespace Matrix

/-- The map that a matrix stands for. -/
def apply (m : Matrix) (p : Point) : Point :=
  ⟨m.a * p.x + m.c * p.y + m.e, m.b * p.x + m.d * p.y + m.f⟩

/-- Composition: the second factor is applied first. -/
def mul (m n : Matrix) : Matrix where
  a := m.a * n.a + m.c * n.b
  b := m.b * n.a + m.d * n.b
  c := m.a * n.c + m.c * n.d
  d := m.b * n.c + m.d * n.d
  e := m.a * n.e + m.c * n.f + m.e
  f := m.b * n.e + m.d * n.f + m.f

instance : Monoid Matrix where
  mul := mul
  one := ⟨1, 0, 0, 1, 0, 0⟩
  mul_assoc m n k := by
    show mul (mul m n) k = mul m (mul n k)
    ext <;> simp only [mul] <;> ring
  one_mul m := by
    show mul ⟨1, 0, 0, 1, 0, 0⟩ m = m
    ext <;> simp [mul]
  mul_one m := by
    show mul m ⟨1, 0, 0, 1, 0, 0⟩ = m
    ext <;> simp [mul]

instance : MulAction Matrix Point where
  smul := apply
  one_smul p := by
    show apply ⟨1, 0, 0, 1, 0, 0⟩ p = p
    ext <;> simp [apply]
  mul_smul m n p := by
    show apply (mul m n) p = apply m (apply n p)
    ext <;> simp only [apply, mul] <;> ring

/-- `new Matrix(s, 0, 0, s, 0, 0)`: scaling about the origin. -/
def scaling (s : ℚ) : Matrix := ⟨s, 0, 0, s, 0, 0⟩

theorem scaling_smul (s : ℚ) (p : Point) : scaling s • p = ⟨s * p.x, s * p.y⟩ := by
  show apply (scaling s) p = ⟨s * p.x, s * p.y⟩
  ext <;> simp [apply, scaling]

end Matrix

/-! ## Pages -/

/-- One content stream of a page. -/
abbrev ContentStream := List (GraphicsOperator Matrix Point)

/-- `PDPage`.  Each box is the one that its getter returns, which is the one last set. -/
structure PDPage where
  mediaBox : PDRectangle
  cropBox : PDRectangle
  bleedBox : PDRectangle
  trimBox : PDRectangle
  artBox : PDRectangle
  /-- The content streams, shown as if they were one. -/
  contents : List ContentStream
deriving DecidableEq

namespace PDPage

/-- `new PDPage(box)`: a page whose boxes are all the same, without content. -/
def ofBox (box : PDRectangle) : PDPage := ⟨box, box, box, box, box, []⟩

/-- A `PDPageContentStream` in `AppendMode.PREPEND`. -/
def prepend (page : PDPage) (stream : ContentStream) : PDPage :=
  { page with contents := stream :: page.contents }

/-- A `PDPageContentStream` in `AppendMode.APPEND`. -/
def append (page : PDPage) (stream : ContentStream) : PDPage :=
  { page with contents := page.contents ++ [stream] }

/-- The operators of a page, as a viewer runs them. -/
def operators (page : PDPage) : ContentStream := page.contents.flatten

/-- Where the marks of a page end up. -/
def marks (page : PDPage) : List Point := GraphicsState.initial.marks page.operators

end PDPage

/-- `PDDocument`: its pages, in order. -/
structure PDDocument where
  pages : List PDPage
deriving DecidableEq

end SscsPdfEmail.Helper
