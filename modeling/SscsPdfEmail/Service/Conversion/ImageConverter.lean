import Mathlib.Tactic.Linarith
import SscsPdfEmail.Domain.Java
import SscsPdfEmail.Helper.PdfBox
import SscsPdfEmail.Library.AspectFit

/-!
# Images as Documents

`ImageConverter`: a document of a single page that shows an image, as large as the margins allow.
The page lies on its side exactly for an image that is wider than tall.

The image keeps its aspect ratio, stays inside the margins, starts below the top one and fills
the width or the height that is left; no other orientation of the page would show it larger
(`placement_convertOn`).  The scale is the greatest one that fits, so these are facts about
fitting a rectangle into a frame, read at the frame between the margins.

What an image file holds is for the libraries that read it to say; dimensions are exact rationals
in place of floats, as for the boxes of a page.  `convertOn` is the conversion for any page, and
`convert` the one for A4.
-/

namespace SscsPdfEmail.Service.Conversion

open SscsPdfEmail.Domain SscsPdfEmail.Library
open SscsPdfEmail.Helper (PDRectangle)

/-! ## Images -/

/-- `PDImageXObject`: an image with its dimensions in pixels. -/
structure PDImageXObject where
  width : ℕ
  height : ℕ
  bytes : List UInt8
deriving DecidableEq

/-- `drawImage(image, x, y, width, height)`: an image stretched to a size, with its lower left
corner at a point. -/
structure DrawnImage where
  image : PDImageXObject
  x : ℚ
  y : ℚ
  width : ℚ
  height : ℚ
deriving DecidableEq

/-- A page with the images drawn on it.  Its crop box is its media box. -/
structure ImagePage where
  box : PDRectangle
  images : List DrawnImage
deriving DecidableEq

/-- The libraries that read an image file. -/
structure ImageReader (File : Type*) where
  /-- `Thumbnails.of(file).scale(1)`: the image, turned the right way up. -/
  readImageAsBytesWithCorrectRotation : File → Except JavaException (List UInt8)
  /-- `PDImageXObject.createFromByteArray`. -/
  createFromByteArray : List UInt8 → Except JavaException PDImageXObject

/-! ## Conversion -/

/-- `accepts`. -/
def accepts : List String :=
  ["image/bmp", "image/gif", "image/jpeg", "image/png", "image/svg+xml", "image/tiff",
    "image/jpeg"]

/-- `MARGIN`, on all four sides. -/
def margin : ℚ := 50

/-- Scale of an image on a page of the given size: `Math.min(hscale, vscale)`. -/
def imageScale (image : PDImageXObject) (pdfWidth pdfHeight : ℚ) : ℚ :=
  let hscale := (pdfWidth - margin * 2) / image.width
  let vscale := (pdfHeight - margin * 2) / image.height
  min hscale vscale

/-- A page of the given size that shows an image near its top. -/
def pageShowing (image : PDImageXObject) (pdfWidth pdfHeight : ℚ) : ImagePage :=
  let page := PDRectangle.ofSize pdfWidth pdfHeight
  let scale := imageScale image page.getWidth page.getHeight
  -- from the bottom of the page, so that what is left over is below the image
  let ypos := page.getHeight - image.height * scale - margin
  { box := page
    images := [⟨image, margin, ypos, image.width * scale, image.height * scale⟩] }

/-- The page that shows an image, on paper of the given upright size. -/
def imagePage (paper : PDRectangle) (image : PDImageXObject) : ImagePage :=
  let isPdfLandscape := image.height < image.width
  let pdfWidth := if isPdfLandscape then paper.getHeight else paper.getWidth
  let pdfHeight := if isPdfLandscape then paper.getWidth else paper.getHeight
  pageShowing image pdfWidth pdfHeight

/-- `convert` on paper of the given upright size, up to saving the document: its pages. -/
def convertOn {File : Type*} (paper : PDRectangle) (reader : ImageReader File) (file : File) :
    Except JavaException (List ImagePage) := do
  let imageBytes ← reader.readImageAsBytesWithCorrectRotation file
  let pdImage ← reader.createFromByteArray imageBytes
  return [imagePage paper pdImage]

/-- `convert`. -/
def convert {File : Type*} (reader : ImageReader File) (file : File) :
    Except JavaException (List ImagePage) :=
  convertOn PDRectangle.A4 reader file

/-! ## Placement -/

/-- How an image of a file is to stand on a page: `drawn` is all that the page shows, and it
is as large as the margins allow. -/
structure Placement (image : PDImageXObject) (page : ImagePage) (drawn : DrawnImage) : Prop where
  shows : page.images = [drawn]
  shown : drawn.image = image
  /-- The image keeps its aspect ratio, -/
  undistorted : 0 < drawn.width ∧ 0 < drawn.height ∧
    drawn.width * image.height = drawn.height * image.width
  /-- is within the margins, -/
  left : page.box.lowerLeftX + margin ≤ drawn.x
  right : drawn.x + drawn.width ≤ page.box.upperRightX - margin
  bottom : page.box.lowerLeftY + margin ≤ drawn.y
  /-- with its top edge on the top margin, -/
  top : drawn.y + drawn.height = page.box.upperRightY - margin
  /-- and takes up their full width or height. -/
  fills : drawn.width = page.box.getWidth - margin * 2 ∨
    drawn.height = page.box.getHeight - margin * 2
  /-- The scale is that for the page. -/
  scale : drawn.width = image.width * imageScale image page.box.getWidth page.box.getHeight

/-- The page is of the paper, upright or turned, and the other way round the scale of the
image would be no larger. -/
structure BestOrientation (paper : PDRectangle) (image : PDImageXObject) (page : ImagePage) :
    Prop where
  onPaper : page.box = .ofSize paper.getWidth paper.getHeight ∨
    page.box = .ofSize paper.getHeight paper.getWidth
  optimal : imageScale image page.box.getHeight page.box.getWidth ≤
    imageScale image page.box.getWidth page.box.getHeight

/-- The scale in the code is the one that fits the image between the margins. -/
theorem imageScale_eq_fitScale (image : PDImageXObject) (pdfWidth pdfHeight : ℚ) :
    imageScale image pdfWidth pdfHeight =
      fitScale (pdfWidth - margin * 2) (pdfHeight - margin * 2) image.width image.height :=
  rfl

/-- Whatever the size of the page, as long as there is room between its margins. -/
theorem placement_pageShowing {image : PDImageXObject} {pdfWidth pdfHeight : ℚ}
    (hwidth : 0 < image.width) (hheight : 0 < image.height) (hacross : margin * 2 < pdfWidth)
    (hdown : margin * 2 < pdfHeight) :
    ∃ drawn, Placement image (pageShowing image pdfWidth pdfHeight) drawn := by
  have hw : (0 : ℚ) < image.width := Nat.cast_pos.mpr hwidth
  have hh : (0 : ℚ) < image.height := Nat.cast_pos.mpr hheight
  have hscale := imageScale_eq_fitScale image pdfWidth pdfHeight
  -- with room between the margins the image does not vanish
  have hpos : 0 < imageScale image pdfWidth pdfHeight := by
    rw [hscale]
    exact fitScale_pos (sub_pos.mpr hacross) (sub_pos.mpr hdown) hw hh
  have hfitsWidth : image.width * imageScale image pdfWidth pdfHeight ≤
      pdfWidth - margin * 2 := by
    rw [hscale, mul_comm]
    exact fitScale_mul_le_left _ _ hw
  have hfitsHeight : image.height * imageScale image pdfWidth pdfHeight ≤
      pdfHeight - margin * 2 := by
    rw [hscale, mul_comm]
    exact fitScale_mul_le_right _ _ hh
  have htouches : image.width * imageScale image pdfWidth pdfHeight = pdfWidth - margin * 2 ∨
      image.height * imageScale image pdfWidth pdfHeight = pdfHeight - margin * 2 := by
    rw [hscale, mul_comm, mul_comm (image.height : ℚ)]
    exact fitScale_touches hw hh
  have hshowing : pageShowing image pdfWidth pdfHeight =
      { box := .ofSize pdfWidth pdfHeight
        images := [⟨image, margin,
          pdfHeight - image.height * imageScale image pdfWidth pdfHeight - margin,
          image.width * imageScale image pdfWidth pdfHeight,
          image.height * imageScale image pdfWidth pdfHeight⟩] } := by
    simp [pageShowing]
  rw [hshowing]
  refine ⟨_, rfl, rfl, ⟨mul_pos hw hpos, mul_pos hh hpos, by ring⟩, ?_, ?_, ?_, ?_, ?_, ?_⟩
  · exact (zero_add margin).le
  · show margin + image.width * imageScale image pdfWidth pdfHeight ≤ pdfWidth - margin
    linarith
  · show 0 + margin ≤ pdfHeight - image.height * imageScale image pdfWidth pdfHeight - margin
    linarith
  · show pdfHeight - image.height * imageScale image pdfWidth pdfHeight - margin +
      image.height * imageScale image pdfWidth pdfHeight = pdfHeight - margin
    ring
  · simpa using htouches
  · simp

theorem imagePage_of_landscape (paper : PDRectangle) {image : PDImageXObject}
    (h : image.height < image.width) :
    imagePage paper image = pageShowing image paper.getHeight paper.getWidth := by
  simp [imagePage, h]

theorem imagePage_of_portrait (paper : PDRectangle) {image : PDImageXObject}
    (h : ¬ image.height < image.width) :
    imagePage paper image = pageShowing image paper.getWidth paper.getHeight := by
  simp [imagePage, h]

/-- The page lies on its side for an image wider than tall, which is when that gives it more
room. -/
theorem bestOrientation_imagePage {paper : PDRectangle} {image : PDImageXObject}
    (hwidth : 0 < image.width) (hheight : 0 < image.height)
    (hmargin : margin * 2 < paper.getWidth) (hupright : paper.getWidth ≤ paper.getHeight) :
    BestOrientation paper image (imagePage paper image) := by
  have hroom : 0 < paper.getWidth - margin * 2 := sub_pos.mpr hmargin
  have hlonger : paper.getWidth - margin * 2 ≤ paper.getHeight - margin * 2 :=
    sub_le_sub_right hupright _
  by_cases hlandscape : image.height < image.width
  · rw [imagePage_of_landscape paper hlandscape]
    refine ⟨Or.inr rfl, ?_⟩
    simp only [pageShowing, PDRectangle.getWidth_ofSize, PDRectangle.getHeight_ofSize,
      imageScale_eq_fitScale]
    -- seen with width and height exchanged, the image is not wider than tall
    rw [fitScale_swap _ _ (image.width : ℚ), fitScale_swap _ _ (image.width : ℚ)]
    exact fitScale_turned_le hroom hlonger (Nat.cast_pos.mpr hheight)
      (Nat.cast_le.mpr hlandscape.le)
  · -- square images count among those that are not wider than tall
    rw [imagePage_of_portrait paper hlandscape]
    refine ⟨Or.inl rfl, ?_⟩
    simp only [pageShowing, PDRectangle.getWidth_ofSize, PDRectangle.getHeight_ofSize,
      imageScale_eq_fitScale]
    exact fitScale_turned_le hroom hlonger (Nat.cast_pos.mpr hwidth)
      (Nat.cast_le.mpr (not_lt.mp hlandscape))

/-- **An image that can be read** ends up on a document of one page, as large as the margins
and the better orientation of the paper allow. -/
theorem placement_convertOn {File : Type*} {paper : PDRectangle} {reader : ImageReader File}
    {file : File} {imageBytes : List UInt8} {image : PDImageXObject}
    (hread : reader.readImageAsBytesWithCorrectRotation file = .ok imageBytes)
    (himage : reader.createFromByteArray imageBytes = .ok image)
    (hwidth : 0 < image.width) (hheight : 0 < image.height)
    (hmargin : 100 < paper.getWidth) (hupright : paper.getWidth < paper.getHeight) :
    ∃ page drawn, convertOn paper reader file = .ok [page] ∧
      Placement image page drawn ∧ BestOrientation paper image page := by
  have hdouble : margin * 2 = 100 := by norm_num [margin]
  rw [← hdouble] at hmargin
  have hconvert : convertOn paper reader file = .ok [imagePage paper image] := by
    rw [convertOn, hread]
    show (reader.createFromByteArray imageBytes >>= fun pdImage =>
      return [imagePage paper pdImage]) = _
    rw [himage]
    rfl
  -- upright or turned, the page has room between its margins both ways
  have hplaced : ∃ drawn, Placement image (imagePage paper image) drawn := by
    by_cases hlandscape : image.height < image.width
    · rw [imagePage_of_landscape paper hlandscape]
      exact placement_pageShowing hwidth hheight (hmargin.trans hupright) hmargin
    · rw [imagePage_of_portrait paper hlandscape]
      exact placement_pageShowing hwidth hheight hmargin (hmargin.trans hupright)
  obtain ⟨drawn, hdrawn⟩ := hplaced
  exact ⟨imagePage paper image, drawn, hconvert, hdrawn,
    bestOrientation_imagePage hwidth hheight hmargin hupright.le⟩

/-- A reader of a single image, of 1600 by 1200 pixels. -/
def sampleReader : ImageReader String where
  readImageAsBytesWithCorrectRotation _ := .ok [137, 80, 78, 71]
  createFromByteArray bytes := .ok ⟨1600, 1200, bytes⟩

/-- The image on A4. -/
theorem placement_sampleReader :
    ∃ page drawn, convert sampleReader "photo.png" = .ok [page] ∧
      Placement ⟨1600, 1200, [137, 80, 78, 71]⟩ page drawn ∧
      BestOrientation .A4 ⟨1600, 1200, [137, 80, 78, 71]⟩ page :=
  placement_convertOn rfl rfl (by decide) (by decide)
    (by norm_num [PDRectangle.A4, PDRectangle.pointsPerMm])
    (by norm_num [PDRectangle.A4, PDRectangle.pointsPerMm])

end SscsPdfEmail.Service.Conversion
