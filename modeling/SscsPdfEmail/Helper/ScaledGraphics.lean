import SscsPdfEmail.Helper.PdfHelper

/-!
# Graphics State of a Scaled Page

`scaleContent` as a transformation of page descriptions: it wraps the content in a scaling
about the origin (`operators_scaleContent`).  Nothing that is painted is lost or added, every
painting operator runs under its own transformation followed by the scaling, and the graphics
state is handed on as it was found.  `ScaledBy` says so of any two pages; it composes, which
is what happens to a page that is scaled twice.
-/

namespace SscsPdfEmail.Helper

open SscsPdfEmail.Library

/-! ## Scaling -/

theorem scaling_mul_scaling (r s : ℚ) :
    Matrix.scaling r * Matrix.scaling s = Matrix.scaling (r * s) := by
  show Matrix.mul (Matrix.scaling r) (Matrix.scaling s) = Matrix.scaling (r * s)
  ext <;> simp [Matrix.mul, Matrix.scaling]

/-- The painting operators of a page, in order, each with the transformation that a viewer
runs it under. -/
def PDPage.paintings (page : PDPage) : List (Matrix × Point) :=
  GraphicsState.initial.paintings page.operators

/-- The second page paints what the first one does, scaled about the origin, and leaves the
graphics state as the first one does. -/
structure ScaledBy (factor : ℚ) (page scaled : PDPage) : Prop where
  /-- Painting operator by painting operator, the scaling comes after the transformation. -/
  paintings : scaled.paintings =
    page.paintings.map fun painting => (Matrix.scaling factor * painting.1, painting.2)
  /-- Every painted point is multiplied by the factor. -/
  marks : scaled.marks = page.marks.map fun p => ⟨factor * p.x, factor * p.y⟩
  /-- The content never restores below the depth it starts at. -/
  covered : RestoresCovered scaled.operators
  /-- Balanced content stays balanced, and ends in the state it starts in. -/
  balanced : saves page.operators = restores page.operators →
    saves scaled.operators = restores scaled.operators ∧
      GraphicsState.initial.after scaled.operators = GraphicsState.initial

/-- A page scaled twice is scaled by the product. -/
theorem ScaledBy.trans {first second : ℚ} {page middle scaled : PDPage}
    (h : ScaledBy first page middle) (h' : ScaledBy second middle scaled) :
    ScaledBy (first * second) page scaled where
  paintings := by
    rw [h'.paintings, h.paintings, List.map_map]
    refine List.map_congr_left fun painting _ => ?_
    -- both scalings come after the transformation, the second one last
    show (Matrix.scaling second * (Matrix.scaling first * painting.1), painting.2) = _
    rw [← mul_assoc, scaling_mul_scaling, mul_comm second]
  marks := by
    rw [h'.marks, h.marks, List.map_map]
    refine List.map_congr_left fun p _ => ?_
    ext
    · exact (by ring : second * (first * p.x) = first * second * p.x)
    · exact (by ring : second * (first * p.y) = first * second * p.y)
  covered := h'.covered
  balanced hbalanced := h'.balanced (h.balanced hbalanced).1

/-! ## Scaled Content -/

/-- The operators that `scaleContent` adds stand around those of the page. -/
theorem operators_scaleContent (page : PDPage) (percentage : ℚ) :
    (scaleContent page percentage).operators =
      GraphicsState.wrap (Matrix.scaling percentage) page.operators := by
  simp [scaleContent, PDPage.prepend, PDPage.append, PDPage.operators, GraphicsState.wrap]

theorem scaledBy_scaleContent {page : PDPage} (h : RestoresCovered page.operators)
    (percentage : ℚ) : ScaledBy percentage page (scaleContent page percentage) := by
  -- counting restores against saves and keeping a depth come to the same
  have hnested : WellNested 0 page.operators := wellNested_zero_iff.mpr h
  have hwrap := operators_scaleContent page percentage
  refine ⟨?_, ?_, ?_, fun hbalanced => ⟨?_, ?_⟩⟩
  · rw [PDPage.paintings, hwrap]
    exact GraphicsState.paintings_wrap hnested _
  · rw [PDPage.marks, hwrap, GraphicsState.marks_wrap hnested]
    exact List.map_congr_left fun p _ => Matrix.scaling_smul percentage p
  · rw [hwrap]
    exact wellNested_zero_iff.mp (GraphicsState.wellNested_wrap hnested _)
  · rw [hwrap, GraphicsState.saves_wrap, GraphicsState.restores_wrap, hbalanced]
  · rw [hwrap]
    exact GraphicsState.after_wrap hnested hbalanced _

/-- **Scaling the content of a page**, whatever it nests, once and once more. -/
theorem scaledBy_once_and_twice {page : PDPage} (h : RestoresCovered page.operators)
    (f g : ℚ) :
    ScaledBy f page (scaleContent page f) ∧
      ScaledBy (f * g) page (scaleContent (scaleContent page f) g) := by
  have honce := scaledBy_scaleContent h f
  exact ⟨honce, honce.trans (scaledBy_scaleContent honce.covered g)⟩

/-- A mark under a nested transformation, and one in front of it: halved, then brought down to
a sixth. -/
theorem scaledBy_nested :
    let content : ContentStream := [.mark ⟨6, 12⟩, .save, .concat (Matrix.scaling 2),
      .mark ⟨6, 0⟩, .restore]
    let page : PDPage := { PDPage.ofBox .A4 with contents := [content] }
    let scaled := scaleContent (scaleContent page (1 / 2)) (1 / 3)
    scaled.marks = [⟨1, 2⟩, ⟨2, 0⟩] ∧ ScaledBy (1 / 2) page (scaleContent page (1 / 2)) ∧
      ScaledBy (1 / 2 * (1 / 3)) page scaled := by
  intro content page scaled
  have hcovered : RestoresCovered page.operators := wellNested_zero_iff.mp (by decide)
  exact ⟨by decide +kernel, scaledBy_once_and_twice hcovered (1 / 2) (1 / 3)⟩

end SscsPdfEmail.Helper
