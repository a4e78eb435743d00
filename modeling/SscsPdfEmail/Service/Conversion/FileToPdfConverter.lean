import SscsPdfEmail.Domain.Files
import SscsPdfEmail.Library.ForkJoin
import SscsPdfEmail.Service.Conversion.ImageConverter

/-!
# Converters to PDF

`ImageConverter`, `WordDocumentConverter` and `RtfConverter` as the `FileToPdfConverter`s that
the conversion service chooses from.  A conversion is a task: what it asks of the file system and
of Docmosis are its questions, and the libraries that read files are functions.

A converter is the list of types that it accepts together with its conversion.  The types are
those of the source, and no two lists overlap (`disjoint_accepts`).  The converter of RTF
documents extracts the text into a file and has that converted as a Word document would be.

`returns_imageConverter`, `returns_convertWord` and `returns_convertRtf` say what a conversion
that returns has asked, and for what answers; `CreatesTempFiles` is what the file system has to
promise for the names of temporary files.
-/

namespace SscsPdfEmail.Service.Conversion

open SscsPdfEmail.Domain
open SscsPdfEmail.Library.ForkJoin

/-! ## Conversions -/

/-- `java.io.File`, with the content that was written to it. -/
structure File where
  name : String
  content : Bytes
deriving DecidableEq, Repr

inductive ConversionException where
  | java (e : JavaException)
  /-- An `IOException` with a message of the converters. -/
  | ioWith (message : String)
  | tika
  | sax
  | unsupportedOperation
deriving DecidableEq, Repr

/-- A multipart request to the conversion endpoint of Docmosis. -/
structure ConvertRequest where
  endpoint : String
  accessKey : String
  outputName : String
  originalFileName : String
  file : Bytes
deriving DecidableEq, Repr

/-- `okhttp3.Response`.  Reading the body can fail. -/
structure ConvertResponse where
  code : ℕ
  body : Option (Except ConversionException Bytes)

/-- `response.isSuccessful()`. -/
def ConvertResponse.isSuccessful (response : ConvertResponse) : Bool :=
  200 ≤ response.code && response.code < 300

inductive Question where
  /-- `File.createTempFile(prefix, suffix)`. -/
  | createTempFile (start suffix : String)
  /-- Writing to a file that was created. -/
  | write (file : File)
  /-- `httpClient.newCall(request).execute()`. -/
  | execute (request : ConvertRequest)
deriving DecidableEq, Repr

/-- What an answer holds, unless it is an exception. -/
abbrev Answer : Question → Type
  | .createTempFile _ _ => String
  | .write _ => Unit
  | .execute _ => ConvertResponse

/-- The answers that one conversion gets. -/
abbrev Answers := (q : Question) → Except ConversionException (Answer q)

abbrev ConversionTask (α : Type) :=
  Task Question (fun q => Except ConversionException (Answer q)) ConversionException α

/-- A step that asks nothing. -/
def fromResult {α : Type} (result : Except ConversionException α) : ConversionTask α :=
  .done result

/-- A question whose answer may be an exception. -/
def request (q : Question) : ConversionTask (Answer q) := .ask q .done

/-- `File.createTempFile`: the name of a new file. -/
def createTempFile (start suffix : String) : ConversionTask String :=
  request (.createTempFile start suffix)

/-- The file with its content written. -/
def write (file : File) : ConversionTask File := do
  request (.write file)
  return file

def execute (convertRequest : ConvertRequest) : ConversionTask ConvertResponse :=
  request (.execute convertRequest)

/-- The libraries that read and write documents. -/
structure Libraries where
  filenameUtils : FilenameUtils
  /-- `Detector.detect`, whose hint is the name of the uploaded file: the base type. -/
  detect : Bytes → Option String → Except ConversionException String
  imageReader : ImageReader File
  /-- `PDDocument.save`. -/
  save : List ImagePage → Except ConversionException Bytes
  /-- `AutoDetectParser.parse`: the text that the handler has received. -/
  parse : Bytes → Except ConversionException String
  /-- The bytes of a text in the character set of the platform. -/
  encode : String → Bytes

/-- Answers of the file system to `createTempFile`. -/
structure CreatesTempFiles (answer : Answers) : Prop where
  named : ∀ {start suffix name}, answer (.createTempFile start suffix) = .ok name →
    IsTempName start suffix name
  /-- A short prefix is rejected. -/
  short : ∀ {start suffix}, start.toList.length < 3 →
    answer (.createTempFile start suffix) = .error (.java .illegalArgument)

/-! ## Converters -/

structure FileToPdfConverter where
  accepts : List String
  convert : File → ConversionTask File

/-- `Except` of the common vocabulary. -/
def lift {α : Type} (result : Except JavaException α) : Except ConversionException α :=
  result.mapError .java

variable (libraries : Libraries)

/-- `ImageConverter`. -/
def imageConverter : FileToPdfConverter where
  accepts := accepts
  convert file := do
    let pages ← fromResult (lift (convert libraries.imageReader file))
    let outputFile ← createTempFile file.name ".pdf"
    let content ← fromResult (libraries.save pages)
    write ⟨outputFile, content⟩

/-- The parameters of the converters that call Docmosis. -/
structure DocmosisConvert where
  endpoint : String
  accessKey : String
deriving DecidableEq, Repr

/-- The request for a file. -/
def DocmosisConvert.requestFor (docmosis : DocmosisConvert) (baseName : String) (file : File) :
    ConvertRequest where
  endpoint := docmosis.endpoint
  accessKey := docmosis.accessKey
  outputName := baseName ++ ".pdf"
  originalFileName := file.name
  file := file.content

variable (docmosis : DocmosisConvert)

/-- `WordDocumentConverter.convert`. -/
def convertWord (file : File) : ConversionTask File := do
  let baseName ← fromResult (lift (libraries.filenameUtils.getBaseName file.name))
  let response ← execute (docmosis.requestFor baseName file)
  if response.isSuccessful then
    -- the file is created before the body is looked at
    let convertedFile ← createTempFile "stitch-conversion" ".pdf"
    let body ← fromResult (lift (nonNull response.body))
    let bytes ← fromResult body
    write ⟨convertedFile, bytes⟩
  else
    -- any other status ends the conversion with the name of the file
    fromResult (.error (.ioWith
      ("Docmosis error (" ++ toString response.code ++ ") converting: " ++ file.name)))

/-- `WordDocumentConverter`. -/
def wordDocumentConverter : FileToPdfConverter where
  accepts :=
    ["text/plain", "application/msword",
      "application/vnd.openxmlformats-officedocument.wordprocessingml.document",
      "application/x-tika-ooxml", "application/x-tika-msoffice"]
  convert := convertWord libraries docmosis

/-- The handlers of `RtfConverter.convert`. -/
def rethrow : ConversionException → ConversionException
  | .tika | .sax => .java .io
  | e => e

/-- `RtfConverter.convert`: the text of the document goes through the conversion of its
superclass. -/
def convertRtf (file : File) : ConversionTask File := Task.mapError rethrow do
  let content ← fromResult (libraries.parse file.content)
  let baseName ← fromResult (lift (libraries.filenameUtils.getBaseName file.name))
  let textName ← createTempFile baseName ".txt"
  let textFile ← write ⟨textName, libraries.encode content⟩
  convertWord libraries docmosis textFile

/-- `RtfConverter`. -/
def rtfConverter : FileToPdfConverter where
  accepts := ["text/rtf", "application/rtf"]
  convert := convertRtf libraries docmosis

/-- The converters of the application. -/
def converters : List FileToPdfConverter :=
  [imageConverter libraries, wordDocumentConverter libraries docmosis,
    rtfConverter libraries docmosis]

theorem disjoint_accepts : (converters libraries docmosis).Pairwise fun g g' =>
    ∀ mimeType ∈ g.accepts, mimeType ∉ g'.accepts := by
  simp [converters, imageConverter, wordDocumentConverter, rtfConverter, accepts]

/-- No type is accepted by two of the converters. -/
theorem eq_of_accepts {mimeType : String} {g g' : FileToPdfConverter}
    (hg : g ∈ converters libraries docmosis) (hg' : g' ∈ converters libraries docmosis)
    (haccepts : mimeType ∈ g.accepts) (haccepts' : mimeType ∈ g'.accepts) : g = g' := by
  have hdisjoint := disjoint_accepts libraries docmosis
  -- two converters in the list are the same one, or one is in front of the other
  have hafter : (converters libraries docmosis).Pairwise fun g g' =>
      mimeType ∈ g.accepts → mimeType ∈ g'.accepts → g = g' :=
    hdisjoint.imp fun hne h h' => absurd h' (hne mimeType h)
  have hbefore : (converters libraries docmosis).Pairwise (flip fun g g' =>
      mimeType ∈ g.accepts → mimeType ∈ g'.accepts → g = g') :=
    hdisjoint.imp fun hne h h' => absurd h (hne mimeType h')
  exact List.Pairwise.forall_of_forall_of_flip (fun _ _ _ _ => rfl) hafter hbefore hg hg'
    haccepts haccepts'

/-! ## What the converters do -/

/-- The requests to Docmosis among the questions of a conversion. -/
def requestsOf (asked : List Question) : List ConvertRequest :=
  asked.filterMap fun
    | .execute convertRequest => some convertRequest
    | _ => none

@[simp] theorem requestsOf_append (first rest : List Question) :
    requestsOf (first ++ rest) = requestsOf first ++ requestsOf rest :=
  List.filterMap_append

section Returns

variable {answer : Answers} {asked : List Question}

@[simp] theorem returns_fromResult {α : Type} {result : Except ConversionException α} {a : α} :
    Task.Returns answer (fromResult result) a asked ↔ result = .ok a ∧ asked = [] :=
  Task.returns_done

@[simp] theorem returns_request {q : Question} {a : Answer q} :
    Task.Returns answer (request q) a asked ↔ answer q = .ok a ∧ asked = [q] := by
  simp [Task.Returns, request, eq_comm]

@[simp] theorem returns_createTempFile {start suffix name : String} :
    Task.Returns answer (createTempFile start suffix) name asked ↔
      answer (.createTempFile start suffix) = .ok name ∧
        asked = [.createTempFile start suffix] :=
  returns_request

@[simp] theorem returns_execute {convertRequest : ConvertRequest} {response : ConvertResponse} :
    Task.Returns answer (execute convertRequest) response asked ↔
      answer (.execute convertRequest) = .ok response ∧ asked = [.execute convertRequest] :=
  returns_request

/-- A file that is written is the file that was to be written. -/
theorem returns_write {file written : File} :
    Task.Returns answer (write file) written asked ↔
      answer (.write file) = .ok () ∧ written = file ∧ asked = [.write file] := by
  unfold write
  rw [Task.returns_bind]
  simp only [Task.returns_pure]
  -- a write that returns was answered with success
  constructor
  · rintro ⟨_, _, _, ⟨hanswer, rfl⟩, ⟨rfl, rfl⟩, rfl⟩
    exact ⟨hanswer, rfl, rfl⟩
  · rintro ⟨hanswer, rfl, rfl⟩
    exact ⟨(), _, _, ⟨hanswer, rfl⟩, ⟨rfl, rfl⟩, rfl⟩

theorem lift_eq_ok {α : Type} {result : Except JavaException α} {a : α} :
    lift result = .ok a ↔ result = .ok a := by
  cases result with
  | ok b => simp [lift, Except.mapError]
  | error e => simp [lift, Except.mapError]

variable {libraries : Libraries} {docmosis : DocmosisConvert} {file out : File}

/-- A converted image is the saved document, in a file of its own. -/
theorem returns_imageConverter
    (h : Task.Returns answer ((imageConverter libraries).convert file) out asked) :
    (∃ pages, libraries.save pages = .ok out.content) ∧
      answer (.createTempFile file.name ".pdf") = .ok out.name ∧ requestsOf asked = [] := by
  simp only [imageConverter, Task.returns_bind, returns_fromResult, returns_createTempFile,
    returns_write] at h
  -- the image is drawn without asking anybody
  obtain ⟨pages, _, _, ⟨-, rfl⟩, ⟨name, _, _, ⟨hname, rfl⟩, ⟨content, _, _, ⟨hsave, rfl⟩,
    ⟨-, rfl, rfl⟩, rfl⟩, rfl⟩, rfl⟩ := h
  exact ⟨⟨pages, hsave⟩, hname, rfl⟩

/-- What Docmosis has made of a request. -/
structure Answered (answer : Answers) (convertRequest : ConvertRequest) (content : Bytes) :
    Prop where
  intro ::
  response : ∃ response, answer (.execute convertRequest) = .ok response ∧
    response.isSuccessful = true ∧ response.body = some (.ok content)

/-- A converted Word document is what Docmosis has answered to one request. -/
theorem returns_convertWord
    (h : Task.Returns answer (convertWord libraries docmosis file) out asked) :
    ∃ baseName, libraries.filenameUtils.getBaseName file.name = .ok baseName ∧
      Answered answer (docmosis.requestFor baseName file) out.content ∧
      answer (.createTempFile "stitch-conversion" ".pdf") = .ok out.name ∧
      requestsOf asked = [docmosis.requestFor baseName file] := by
  simp only [convertWord, Task.returns_bind, returns_fromResult, returns_execute,
    lift_eq_ok] at h
  obtain ⟨baseName, _, _, ⟨hbase, rfl⟩, ⟨response, _, _, ⟨hresponse, rfl⟩, hrest, rfl⟩, rfl⟩ := h
  by_cases hsuccessful : response.isSuccessful = true
  · simp only [hsuccessful, if_true, Task.returns_bind, returns_fromResult,
      returns_createTempFile, returns_write, lift_eq_ok, nonNull_eq_ok] at hrest
    obtain ⟨name, _, _, ⟨hname, rfl⟩, ⟨body, _, _, ⟨hbody, rfl⟩, ⟨bytes, _, _, ⟨rfl, rfl⟩,
      ⟨-, rfl, rfl⟩, rfl⟩, rfl⟩, rfl⟩ := hrest
    exact ⟨baseName, hbase, ⟨response, hresponse, hsuccessful, hbody⟩, hname, rfl⟩
  · -- an unsuccessful response ends in an exception
    simp [hsuccessful] at hrest

/-- A converted RTF document is what Docmosis has answered to one request for its text. -/
theorem returns_convertRtf
    (h : Task.Returns answer (convertRtf libraries docmosis file) out asked) :
    ∃ text baseName textName textBaseName, libraries.parse file.content = .ok text ∧
      libraries.filenameUtils.getBaseName file.name = .ok baseName ∧
      answer (.createTempFile baseName ".txt") = .ok textName ∧
      libraries.filenameUtils.getBaseName textName = .ok textBaseName ∧
      Answered answer (docmosis.requestFor textBaseName ⟨textName, libraries.encode text⟩)
        out.content ∧
      answer (.createTempFile "stitch-conversion" ".pdf") = .ok out.name ∧
      requestsOf asked =
        [docmosis.requestFor textBaseName ⟨textName, libraries.encode text⟩] := by
  rw [convertRtf, Task.returns_mapError] at h
  simp only [Task.returns_bind, returns_fromResult, returns_createTempFile, returns_write,
    lift_eq_ok] at h
  obtain ⟨text, _, _, ⟨htext, rfl⟩, ⟨baseName, _, _, ⟨hbase, rfl⟩, ⟨textName, _, _,
    ⟨hname, rfl⟩, ⟨textFile, _, wordAsked, ⟨-, rfl, rfl⟩, hword, rfl⟩, rfl⟩, rfl⟩, rfl⟩ := h
  -- the text file goes the way of a Word document
  obtain ⟨textBaseName, htextBase, hanswered, hout, hrequests⟩ := returns_convertWord hword
  refine ⟨text, baseName, textName, textBaseName, htext, hbase, hname, htextBase, hanswered,
    hout, ?_⟩
  simpa [requestsOf] using hrequests

end Returns

/-! ## Sample libraries -/

/-- Libraries that tell types by the first byte and that cannot read images. -/
def Libraries.sample : Libraries where
  filenameUtils := .commons
  detect content _ :=
    match content with
    | 37 :: _ => .ok "application/pdf"
    | 208 :: _ => .ok "application/msword"
    | _ => .ok "application/octet-stream"
  imageReader :=
    { readImageAsBytesWithCorrectRotation := fun _ => .error .io
      createFromByteArray := fun _ => .error .illegalArgument }
  save _ := .ok [37]
  parse _ := .error .tika
  encode text := text.toList.map fun c => c.toNat.toUInt8

/-- A file system with room for every file, and a Docmosis that answers with PDFs. -/
def sampleAnswers : Answers
  | .createTempFile start suffix =>
    let name := start ++ "12345" ++ suffix
    if start.toList.length < 3 then .error (.java .illegalArgument)
    else if name.toList.all fun c => !isSeparator c && c.toNat ≠ 0 then .ok name
    else .error (.java .io)
  | .write _ => .ok ()
  | .execute _ => .ok ⟨200, some (.ok [37])⟩

theorem createsTempFiles_sampleAnswers : CreatesTempFiles sampleAnswers where
  named := by
    intro start suffix name h
    simp only [sampleAnswers] at h
    split at h
    · cases h
    -- five digits stand for what the file system makes up
    · rename_i hlong
      split at h
      · rename_i hsimple
        cases h
        refine ⟨⟨start, "12345", suffix, rfl, List.prefix_rfl, Nat.le_of_not_lt hlong,
          List.prefix_rfl, Nat.min_le_right _ _⟩, ?_⟩
        intro c hc
        simpa using List.all_eq_true.mp hsimple c hc
      · cases h
  short := by
    intro start suffix h
    simp [sampleAnswers, h]

end SscsPdfEmail.Service.Conversion
