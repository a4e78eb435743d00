import Mathlib.Data.Rat.Floor
import SscsPdfEmail.Helper.PdfBox
import SscsPdfEmail.Library.HalfEven

/-!
# Scaling a Document to a Page Size

`PdfHelper`: the pages of a document that are not of the wanted size get its boxes, and their
content is scaled down where it is too large.

The functions are those of the class, under its names, with its constants and its order of tests.
A factor is a `BigDecimal`, that is, a number with a count of decimals, since the sentinels for a
page that is left alone and for a page that is smaller both ways are told from other factors by
`equals`, which compares the count as well.  `scaleToA4` is `scaleToPageSize` at A4; it returns
null when every page has the wanted size already, and the document, which it has changed in
place, otherwise.
-/

namespace SscsPdfEmail.Helper

open SscsPdfEmail.Library

/-! ## Decimals -/

/-- `BigDecimal`: a value together with the number of decimal places that it is kept to.
Equality is `equals`, which tells apart two scales of one value. -/
structure BigDecimal where
  value : ℚ
  scale : ℕ
deriving DecidableEq

namespace BigDecimal

def zero : BigDecimal := ⟨0, 0⟩

def one : BigDecimal := ⟨1, 0⟩

/-- `new BigDecimal(float)`: as many decimal places as the binary expansion has. -/
def ofFloat (value : ℚ) : BigDecimal := ⟨value, Nat.log2 value.den⟩

def negate (x : BigDecimal) : BigDecimal := ⟨-x.value, x.scale⟩

def subtract (x y : BigDecimal) : BigDecimal := ⟨x.value - y.value, max x.scale y.scale⟩

/-- `compareTo`, which ignores the scales. -/
def compareTo (x y : BigDecimal) : Ordering := compare x.value y.value

/-- `setScale(places, RoundingMode.HALF_EVEN)`. -/
def setScale (x : BigDecimal) (places : ℕ) : BigDecimal := ⟨roundHalfEven places x.value, places⟩

@[simp] theorem compareTo_eq_lt {x y : BigDecimal} : x.compareTo y = .lt ↔ x.value < y.value :=
  compare_lt_iff_lt

@[simp] theorem compareTo_eq_gt {x y : BigDecimal} : x.compareTo y = .gt ↔ y.value < x.value :=
  compare_gt_iff_gt

end BigDecimal

/-! ## Constants -/

/-- `TOLERANCE_FACTOR`: one per cent. -/
def toleranceFactor : ℚ := 1 / 100

/-- `SCALE_UP`: the page is smaller than the wanted size both ways. -/
def scaleUp : BigDecimal := BigDecimal.one.negate

/-- `NO_CHANGE`: the page has the wanted size. -/
def noChange : BigDecimal := BigDecimal.zero

/-! ## Page size -/

/-- `isPageCorrectSize`: the crop box has the wanted size, upright or turned. -/
def isPageCorrectSize (page : PDPage) (size : PDRectangle) : Bool :=
  let pageHeight := page.cropBox.getHeight
  let pageWidth := page.cropBox.getWidth
  let upperLimitHeight := size.getHeight * (1 + toleranceFactor)
  let lowerLimitHeight := size.getHeight * (1 - toleranceFactor)
  let upperLimitWidth := size.getWidth * (1 + toleranceFactor)
  let lowerLimitWidth := size.getWidth * (1 - toleranceFactor)
  -- a page that lies on its side is compared with the wanted size turned
  if pageHeight > pageWidth then
    !decide (pageHeight > upperLimitHeight) && !decide (pageHeight < lowerLimitHeight) &&
      !decide (pageWidth > upperLimitWidth) && !decide (pageWidth < lowerLimitWidth)
  else
    !decide (pageWidth > upperLimitHeight) && !decide (pageWidth < lowerLimitHeight) &&
      !decide (pageHeight > upperLimitWidth) && !decide (pageHeight < lowerLimitWidth)

/-- `isDocumentWithinSizeTolerance`. -/
def isDocumentWithinSizeTolerance (document : PDDocument) (size : PDRectangle) : Bool :=
  document.pages.all fun page => isPageCorrectSize page size

/-! ## Scaling factor -/

/-- `maxScaleFactor`: the share of a page axis that has to go. -/
def maxScaleFactor (overage pageAxisDimension : ℚ) : BigDecimal :=
  if overage > 0 then
    let scaleFactor := BigDecimal.ofFloat (overage / pageAxisDimension)
    if scaleFactor.compareTo noChange = .gt then scaleFactor else noChange
  else if overage < 0 then scaleUp
  else noChange

/-- `scalingFactor`.  The wanted size is turned for a page that is wider than tall. -/
def scalingFactor (page : PDPage) (size : PDRectangle) : BigDecimal :=
  if isPageCorrectSize page size then noChange
  else
    let pageHeight := page.mediaBox.getHeight
    let pageWidth := page.mediaBox.getWidth
    -- the wanted size is turned with the page
    let sizeHeight := if pageWidth > pageHeight then size.getWidth else size.getHeight
    let sizeWidth := if pageWidth > pageHeight then size.getHeight else size.getWidth
    let heightOverage := pageHeight - sizeHeight
    let widthOverage := pageWidth - sizeWidth
    let maxHeightScaling := maxScaleFactor heightOverage pageHeight
    let maxWidthScaling := maxScaleFactor widthOverage pageWidth
    -- smaller both ways: the content is left at its size
    if maxHeightScaling.compareTo noChange = .lt ∧ maxWidthScaling.compareTo noChange = .lt then
      scaleUp
    else
      let scalingFactor :=
        if maxHeightScaling.compareTo maxWidthScaling = .gt then maxHeightScaling
        else maxWidthScaling
      (BigDecimal.one.subtract scalingFactor).setScale 4

/-! ## Scaling -/

/-- `scalePageToSize`: every box of the page becomes the wanted one.  A page that is not
taller than wide gets a box of the same width and height at the origin. -/
def scalePageToSize (page : PDPage) (size : PDRectangle) : PDPage :=
  -- both branches give the upright box, also for a page that lies on its side
  let newSize :=
    if page.mediaBox.getHeight > page.mediaBox.getWidth then size
    else PDRectangle.ofSize size.getWidth size.getHeight
  { page with
    mediaBox := newSize
    cropBox := newSize
    bleedBox := newSize
    trimBox := newSize
    artBox := newSize }

/-- `scaleContent`: a scaling in front of the content, between two saves that two restores
at the end take back. -/
def scaleContent (page : PDPage) (percentage : ℚ) : PDPage :=
  (page.prepend [.save, .concat (Matrix.scaling percentage), .save]).append [.restore, .restore]

/-- Body of the loop of `scaleToPageSize`. -/
def scalePage (size : PDRectangle) (page : PDPage) : PDPage :=
  let factor := scalingFactor page size
  if factor ≠ noChange then
    let resized := scalePageToSize page size
    if factor ≠ scaleUp then scaleContent resized factor.value else resized
  else page

/-- `scaleToPageSize`: what is returned, and the document as the call leaves it. -/
def scaleToPageSize (document : PDDocument) (size : PDRectangle) :
    Option PDDocument × PDDocument :=
  if isDocumentWithinSizeTolerance document size then (none, document)
  else
    let scaled : PDDocument := { pages := document.pages.map (scalePage size) }
    (some scaled, scaled)

/-- `scaleToA4`. -/
def scaleToA4 (document : PDDocument) : Option PDDocument × PDDocument :=
  scaleToPageSize document PDRectangle.A4

end SscsPdfEmail.Helper
