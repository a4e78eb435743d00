import Mathlib.Data.List.FinRange
import SscsPdfEmail.Service.Basic
import SscsPdfEmail.Service.Conversion.FileToPdfConverter

/-!
# `FileToPdfConversionService`

The files of a request are converted by a parallel stream: every file is a task of its own, and
the worker threads take turns in an order of their own.  A request ends when all conversions have
ended with a file, or one of them with an exception (`Converts`).

- Under every schedule it ends as it would if the files were converted one after another, and
  every schedule can be continued to an end (`parallel_agrees`).
- The order of the converter beans does not matter (`converts_iff_of_perm`): no type is accepted
  by two of them.
- What becomes of each file, and what Docmosis is asked for it, is told by its kind
  (`becomes_of_converts`), and a second request for the result does nothing (`reconverted`).

The service is an instance of tasks that are forked and joined; what is particular to it is one
conversion, examined line by line.
-/

namespace SscsPdfEmail.Service.Conversion

open SscsPdfEmail.Domain
open SscsPdfEmail.Library.ForkJoin

/-! ## Files of a request -/

/-- `CommonsMultipartFile`. -/
structure CommonsMultipartFile where
  name : String
  originalFilename : Option String
  contentType : Option String
  content : Bytes
deriving DecidableEq, Repr

/-- The implementations of `MultipartFile` that the application uses. -/
inductive MultipartFile where
  | commons (file : CommonsMultipartFile)
  | byteArray (file : ByteArrayMultipartFile)
deriving DecidableEq, Repr

namespace MultipartFile

def getOriginalFilename : MultipartFile → Option String
  | .commons file => file.originalFilename
  | .byteArray file => file.name

/-- What `getInputStream` yields. -/
def content : MultipartFile → Bytes
  | .commons file => file.content
  | .byteArray file => file.content

/-- `transferTo`, to a file of the given name. -/
def transferTo (f : MultipartFile) (dest : String) : ConversionTask File :=
  match f with
  | .commons file => write ⟨dest, file.content⟩
  | .byteArray _ => fromResult (.error .unsupportedOperation)

end MultipartFile

/-! ## Conversion of one file -/

section OneFile

variable (libraries : Libraries) (converters : List FileToPdfConverter)

/-- The local `suffix` of `transferToFile`. -/
def transferSuffix (f : MultipartFile) : String :=
  "." ++ formatNullable (f.getOriginalFilename.map libraries.filenameUtils.getExtension)

/-- `transferToFile`. -/
def transferToFile (f : MultipartFile) : ConversionTask File := do
  let tempFile ← createTempFile "tempConversion" (transferSuffix libraries f)
  f.transferTo tempFile

/-- `convertFile`. -/
def convertFile (mimeType : String) (f : MultipartFile) : ConversionTask (Option File) :=
  match converters.find? fun g => g.accepts.contains mimeType with
  | none => return none
  | some g => do
    let file ← transferToFile libraries f
    let converted ← g.convert file
    return some converted

/-- `FilenameUtils.getBaseName` as it is rendered in a name. -/
def renderedBaseName (originalFilename : Option String) : Except JavaException String :=
  match originalFilename with
  | none => return formatNullable none
  | some text => libraries.filenameUtils.getBaseName text

/-- `getMultipartFile`. -/
def getMultipartFile (f : MultipartFile) (file : File) : ConversionTask MultipartFile := do
  let newMimeType ← fromResult (libraries.detect file.content f.getOriginalFilename)
  let extension := libraries.filenameUtils.getExtension file.name
  let baseName ← fromResult (lift (renderedBaseName libraries f.getOriginalFilename))
  let fileName := baseName ++ "." ++ extension
  -- there is no path in the name that `getOriginalFilename` could strip
  return .commons
    { name := fileName
      originalFilename := some fileName
      contentType := some newMimeType
      content := file.content }

/-- `convert`, of one file. -/
def convertOne (f : MultipartFile) : ConversionTask MultipartFile := do
  let mimeType ← fromResult (libraries.detect f.content f.getOriginalFilename)
  let fileOptional ← convertFile libraries converters mimeType f
  match fileOptional with
  | none => return f
  | some file => getMultipartFile libraries f file

end OneFile

/-! ## Conversion of a list -/

structure FileToPdfConversionException where
  message : String
  cause : ConversionException
deriving DecidableEq, Repr

section Files

variable (libraries : Libraries) (converters : List FileToPdfConverter)
  (files : List MultipartFile) (answer : Fin files.length → Answers)

/-- The tasks of the stream. -/
def conversions (i : Fin files.length) : ConversionTask MultipartFile :=
  convertOne libraries converters files[i]

/-- The stream after the turns of a schedule. -/
def stream (schedule : List (Fin files.length)) :
    Pool (Fin files.length) Question (fun q => Except ConversionException (Answer q))
      ConversionException MultipartFile :=
  run answer { task := conversions libraries converters files } schedule

theorem follows_stream (schedule : List (Fin files.length)) :
    Follows answer (conversions libraries converters files)
      (stream libraries converters files answer schedule) :=
  (follows_start answer (conversions libraries converters files)).run schedule

/-- What the call ends with when the stream is joined. -/
inductive Ends {n : ℕ} (s : Pool (Fin n) Question
    (fun q => Except ConversionException (Answer q)) ConversionException MultipartFile) :
    Except FileToPdfConversionException (List MultipartFile) → Prop where
  | returns {values : Fin n → MultipartFile} :
      Joined s (.ok values) → Ends s (.ok (List.ofFn values))
  | throws {e : ConversionException} :
      Joined s (.error e) → Ends s (.error ⟨"Cannot convert files to PDF.", e⟩)

/-- `convert`: what it may end with after the turns of a schedule. -/
def Converts (schedule : List (Fin files.length))
    (outcome : Except FileToPdfConversionException (List MultipartFile)) : Prop :=
  Ends (stream libraries converters files answer schedule) outcome

/-- The same stream without `parallel()`: one file after another, up to the first that
fails. -/
def convertSequentially : Except FileToPdfConversionException (List MultipartFile) :=
  ((List.finRange files.length).mapM fun i =>
    (conversions libraries converters files i).result (answer i)).mapError
      (⟨"Cannot convert files to PDF.", ·⟩)

end Files

/-- A letter, before and after its conversion. -/
def letters : List MultipartFile :=
  [.commons ⟨"letter", some "letter.doc", none, [208, 207]⟩]

def convertedLetters : List MultipartFile :=
  [.commons ⟨"letter.pdf", some "letter.pdf", some "application/pdf", [37]⟩]

/-! ## The order of the turns does not matter -/

section Parallel

variable {libraries : Libraries} {converters : List FileToPdfConverter}
  {files : List MultipartFile} {answer : Fin files.length → Answers}

theorem mapM_of_values {ι α ε : Type} {f : ι → Except ε α} {values : ι → α} {l : List ι}
    (h : ∀ i ∈ l, f i = .ok (values i)) : l.mapM f = .ok (l.map values) := by
  induction l with
  | nil => rfl
  | cons i l ih =>
    rw [List.mapM_cons, h i List.mem_cons_self, ih fun j hj => h j (List.mem_cons_of_mem i hj)]
    rfl

theorem mapM_of_error {ι α ε : Type} {f : ι → Except ε α} {l : List ι} {i : ι} {e : ε}
    (hi : i ∈ l) (h : f i = .error e) : ∃ e', l.mapM f = .error e' := by
  induction l with
  | nil => cases hi
  | cons j l ih =>
    rw [List.mapM_cons]
    cases hj : f j with
    | error e' => exact ⟨e', rfl⟩
    | ok a =>
      -- the first task has a value, so the error is among the others
      have hmem : i ∈ l := by
        rcases List.mem_cons.mp hi with rfl | hmem
        · rw [hj] at h
          cases h
        · exact hmem
      obtain ⟨e', he'⟩ := ih hmem
      exact ⟨e', by rw [he']; rfl⟩

theorem convertSequentially_of_values {values : Fin files.length → MultipartFile}
    (h : ∀ i, (conversions libraries converters files i).result (answer i) = .ok (values i)) :
    convertSequentially libraries converters files answer = .ok (List.ofFn values) := by
  rw [convertSequentially, mapM_of_values fun i _ => h i, ← List.ofFn_eq_map]
  rfl

theorem convertSequentially_of_error {i : Fin files.length} {e : ConversionException}
    (h : (conversions libraries converters files i).result (answer i) = .error e) :
    (convertSequentially libraries converters files answer).toOption = none := by
  obtain ⟨e', he'⟩ := mapM_of_error
    (f := fun i => (conversions libraries converters files i).result (answer i))
    (List.mem_finRange i) h
  rw [convertSequentially, he']
  rfl

/-- How an outcome of the parallel stream compares with that of the sequential one. -/
structure Agrees (libraries : Libraries) (converters : List FileToPdfConverter)
    (files : List MultipartFile) (answer : Fin files.length → Answers)
    (schedule : List (Fin files.length))
    (outcome : Except FileToPdfConversionException (List MultipartFile)) : Prop where
  /-- The same files, in the same order, or none. -/
  value : outcome.toOption = (convertSequentially libraries converters files answer).toOption
  /-- An exception is that of one of the files. -/
  cause : ∀ e, outcome = .error e → e.message = "Cannot convert files to PDF." ∧
    ∃ i, (conversions libraries converters files i).result (answer i) = .error e.cause
  /-- Everything was asked for every file that is asked when it is converted alone. -/
  asked : ∀ out, outcome = .ok out → ∀ i,
    questionsOf (stream libraries converters files answer schedule).log i =
      (conversions libraries converters files i).questions (answer i)

theorem agrees_of_converts {schedule : List (Fin files.length)}
    {outcome : Except FileToPdfConversionException (List MultipartFile)}
    (h : Converts libraries converters files answer schedule outcome) :
    Agrees libraries converters files answer schedule outcome := by
  have hfollows := follows_stream libraries converters files answer schedule
  cases h with
  | returns hjoined =>
    cases hjoined with
    -- every conversion has ended with a value, which is its own
    | values values hvalues =>
      have hdone := fun i => hfollows.task_eq_done (hvalues i)
      refine ⟨?_, fun e he => (nomatch he), fun out hout i => (hdone i).2⟩
      rw [convertSequentially_of_values fun i => (hdone i).1]
  | throws hjoined =>
    cases hjoined with
    -- one of them has failed, and would have failed alone
    | failed i e hi =>
      have hresult := (hfollows.task_eq_done hi).1
      refine ⟨?_, ?_, fun out hout => (nomatch hout)⟩
      · rw [convertSequentially_of_error hresult]
        rfl
      · intro e' he'
        cases he'
        exact ⟨rfl, i, hresult⟩

/-- A stream that has had enough turns is joined. -/
theorem exists_converts_of_turns {schedule : List (Fin files.length)}
    (h : ∀ i, ((conversions libraries converters files i).questions (answer i)).length ≤
      schedule.count i) :
    ∃ outcome, Converts libraries converters files answer schedule outcome := by
  have hended : ∀ i, (stream libraries converters files answer schedule).task i =
      .done ((conversions libraries converters files i).result (answer i)) :=
    fun i => ended_of_turns (h i)
  -- all have ended, so they either all have values or one has an error
  by_cases hfailed : ∃ i e, (conversions libraries converters files i).result (answer i) = .error e
  · obtain ⟨i, e, hi⟩ := hfailed
    exact ⟨_, .throws (.failed i e (by rw [hended i, hi]))⟩
  · have hvalue : ∀ i, ∃ a,
        (conversions libraries converters files i).result (answer i) = .ok a := by
      intro i
      cases hi : (conversions libraries converters files i).result (answer i) with
      | ok a => exact ⟨a, rfl⟩
      | error e => exact absurd ⟨i, e, hi⟩ hfailed
    choose values hvalues using hvalue
    exact ⟨_, .returns (.values values fun i => by rw [hended i, hvalues i])⟩

/-- **Parallel conversion** agrees with sequential conversion, whatever the order of the turns:
it returns the same files or throws for one of the files that cannot be converted.  No order of
turns keeps it from either. -/
theorem parallel_agrees (libraries : Libraries) (converters : List FileToPdfConverter)
    (files : List MultipartFile) (answer : Fin files.length → Answers) :
    (∀ schedule outcome, Converts libraries converters files answer schedule outcome →
        Agrees libraries converters files answer schedule outcome) ∧
      ∃ more, ∀ schedule, ∃ outcome,
        Converts libraries converters files answer (schedule ++ more) outcome := by
  refine ⟨fun schedule outcome h => agrees_of_converts h, ?_⟩
  -- enough further turns for every task to end
  obtain ⟨more, hmore⟩ :=
    exists_turns answer (conversions libraries converters files) List.mem_finRange
  exact ⟨more, fun schedule => exists_converts_of_turns (hmore schedule)⟩

end Parallel

/-! ## The order of the converters does not matter -/

section BeanOrder

/-- The first match does not depend on the order of a list that holds at most one match. -/
theorem find?_eq_of_perm {α : Type} {p : α → Bool} {l l' : List α} (hperm : l.Perm l')
    (hunique : ∀ a ∈ l, ∀ b ∈ l, p a = true → p b = true → a = b) : l.find? p = l'.find? p := by
  -- the first element that is accepted is the only one
  cases hfind : l.find? p with
  | none =>
    rw [List.find?_eq_none] at hfind
    exact (List.find?_eq_none.mpr fun a ha => hfind a (hperm.mem_iff.mpr ha)).symm
  | some a =>
    have ha : a ∈ l := List.mem_of_find?_eq_some hfind
    have hpa : p a = true := List.find?_some hfind
    cases hfind' : l'.find? p with
    | none => exact absurd hpa (List.find?_eq_none.mp hfind' a (hperm.mem_iff.mp ha))
    | some b =>
      have hb : b ∈ l := hperm.mem_iff.mpr (List.mem_of_find?_eq_some hfind')
      rw [hunique a ha b hb hpa (List.find?_some hfind')]

variable {libraries : Libraries} {docmosis : DocmosisConvert} {beans : List FileToPdfConverter}

theorem convertFile_of_perm (h : beans.Perm (converters libraries docmosis)) (mimeType : String)
    (f : MultipartFile) :
    convertFile libraries beans mimeType f =
      convertFile libraries (converters libraries docmosis) mimeType f := by
  -- no type is accepted by two converters
  have hfind : (converters libraries docmosis).find? (fun g => g.accepts.contains mimeType) =
      beans.find? (fun g => g.accepts.contains mimeType) := by
    apply find?_eq_of_perm h.symm
    intro g hg g' hg' haccepts haccepts'
    exact eq_of_accepts libraries docmosis hg hg' (by simpa using haccepts)
      (by simpa using haccepts')
  rw [convertFile, convertFile, hfind]

/-- **Converters in any order**: the list that the service is constructed with may hold the
converters in any order. -/
theorem converts_iff_of_perm (h : beans.Perm (converters libraries docmosis))
    (files : List MultipartFile) (answer : Fin files.length → Answers)
    (schedule : List (Fin files.length))
    (outcome : Except FileToPdfConversionException (List MultipartFile)) :
    Converts libraries beans files answer schedule outcome ↔
      Converts libraries (converters libraries docmosis) files answer schedule outcome := by
  -- file by file the same converter is found
  have hone : conversions libraries beans files =
      conversions libraries (converters libraries docmosis) files := by
    funext i
    unfold conversions convertOne
    simp only [convertFile_of_perm h]
  rw [Converts, Converts, stream, stream, hone]

/-- The converters in reverse. -/
theorem converts_letters_reversed :
    Converts .sample (converters .sample ⟨"/convert", "key"⟩).reverse letters
        (fun _ => sampleAnswers) (List.replicate 5 ⟨0, Nat.one_pos⟩) (.ok convertedLetters) ↔
      Converts .sample (converters .sample ⟨"/convert", "key"⟩) letters
        (fun _ => sampleAnswers) (List.replicate 5 ⟨0, Nat.one_pos⟩) (.ok convertedLetters) :=
  converts_iff_of_perm (List.reverse_perm _) _ _ _ _

end BeanOrder

/-! ## What becomes of the files -/

section Contents

/-- The content, as a PDF with the base name of a file. -/
structure RenamedTo (libraries : Libraries) (f : CommonsMultipartFile) (content : Bytes)
    (out : MultipartFile) : Prop where
  intro ::
  named : ∃ baseName contentType,
    renderedBaseName libraries f.originalFilename = .ok baseName ∧
      libraries.detect content f.originalFilename = .ok contentType ∧
      out = .commons
        { name := baseName ++ ".pdf"
          originalFilename := some (baseName ++ ".pdf")
          contentType := some contentType
          content := content }

/-- What becomes of a file that is converted, with the requests that Docmosis gets for it. -/
inductive Becomes (libraries : Libraries) (docmosis : DocmosisConvert) (answer : Answers) :
    MultipartFile → MultipartFile → List ConvertRequest → Prop where
  /-- A file of any other type is returned as it is. -/
  | untouched {f : MultipartFile} {mimeType : String} :
      libraries.detect f.content f.getOriginalFilename = .ok mimeType →
      (∀ g ∈ converters libraries docmosis, mimeType ∉ g.accepts) →
        Becomes libraries docmosis answer f f []
  | image {f : CommonsMultipartFile} {out : MultipartFile} {mimeType : String}
      {pages : List ImagePage} {content : Bytes} :
      libraries.detect f.content f.originalFilename = .ok mimeType →
      mimeType ∈ (imageConverter libraries).accepts →
      libraries.save pages = .ok content → RenamedTo libraries f content out →
        Becomes libraries docmosis answer (.commons f) out []
  | word {f : CommonsMultipartFile} {out : MultipartFile}
      {mimeType tempName baseName : String} {content : Bytes} :
      libraries.detect f.content f.originalFilename = .ok mimeType →
      mimeType ∈ (wordDocumentConverter libraries docmosis).accepts →
      Answered answer (docmosis.requestFor baseName ⟨tempName, f.content⟩) content →
      RenamedTo libraries f content out →
        Becomes libraries docmosis answer (.commons f) out
          [docmosis.requestFor baseName ⟨tempName, f.content⟩]
  /-- Of an RTF document Docmosis gets the text. -/
  | rtf {f : CommonsMultipartFile} {out : MultipartFile}
      {mimeType text textName baseName : String} {content : Bytes} :
      libraries.detect f.content f.originalFilename = .ok mimeType →
      mimeType ∈ (rtfConverter libraries docmosis).accepts →
      libraries.parse f.content = .ok text →
      Answered answer (docmosis.requestFor baseName ⟨textName, libraries.encode text⟩)
        content →
      RenamedTo libraries f content out →
        Becomes libraries docmosis answer (.commons f) out
          [docmosis.requestFor baseName ⟨textName, libraries.encode text⟩]

variable {libraries : Libraries} {docmosis : DocmosisConvert} {answer : Answers}
  {asked : List Question}

theorem isExtension_pdf : IsExtension "pdf" := by
  simp [IsExtension, isSeparator]

/-- The name of a new PDF keeps its suffix. -/
theorem getExtension_of_isTempName {start name : String} (h : IsTempName start ".pdf" name) :
    libraries.filenameUtils.getExtension name = "pdf" := by
  obtain ⟨start', middle, suffix', hname, -, -, hsuffix, hlength⟩ := h.parts
  have hfour : ".pdf".toList.length = 4 := by simp
  -- a suffix of four characters is kept whole
  have hfull : suffix' = "." ++ "pdf" := by
    have heq : suffix'.toList = ".pdf".toList :=
      hsuffix.eq_of_length_le (by rw [hfour] at hlength ⊢; simpa using hlength)
    exact String.toList_inj.mp heq
  rw [hname, hfull, ← String.append_assoc]
  exact libraries.filenameUtils.getExtension_append _ _ isExtension_pdf

/-- `transferTo` works for uploaded files only. -/
theorem returns_transferToFile {f : MultipartFile} {file : File}
    (h : Task.Returns answer (transferToFile libraries f) file asked) :
    ∃ uploaded tempName, f = .commons uploaded ∧ file = ⟨tempName, uploaded.content⟩ ∧
      answer (.createTempFile "tempConversion" (transferSuffix libraries f)) = .ok tempName ∧
      requestsOf asked = [] := by
  simp only [transferToFile, Task.returns_bind, returns_createTempFile] at h
  obtain ⟨tempFile, _, _, ⟨hname, rfl⟩, htransfer, rfl⟩ := h
  cases f with
  | commons uploaded =>
    obtain ⟨-, rfl, rfl⟩ := returns_write.mp htransfer
    exact ⟨uploaded, tempFile, rfl, rfl, hname, rfl⟩
  -- a file that was converted before cannot be transferred
  | byteArray bytes => simp [MultipartFile.transferTo] at htransfer

theorem renamedTo_of_getMultipartFile {f : CommonsMultipartFile} {file : File}
    {out : MultipartFile} (hextension : libraries.filenameUtils.getExtension file.name = "pdf")
    (h : Task.Returns answer (getMultipartFile libraries (.commons f) file) out asked) :
    RenamedTo libraries f file.content out ∧ asked = [] := by
  simp only [getMultipartFile, Task.returns_bind, returns_fromResult, lift_eq_ok,
    Task.returns_pure, hextension] at h
  -- the type is detected anew, from the content that was converted
  obtain ⟨contentType, _, _, ⟨htype, rfl⟩, ⟨baseName, _, _, ⟨hbase, rfl⟩, ⟨rfl, rfl⟩, rfl⟩,
    rfl⟩ := h
  refine ⟨⟨baseName, contentType, hbase, htype, ?_⟩, rfl⟩
  rw [String.append_assoc]
  rfl

/-- Every converter makes a file whose name ends in `.pdf`. -/
theorem getExtension_of_returns (hfiles : CreatesTempFiles answer) {g : FileToPdfConverter}
    (hg : g ∈ converters libraries docmosis) {file out : File}
    (h : Task.Returns answer (g.convert file) out asked) :
    libraries.filenameUtils.getExtension out.name = "pdf" := by
  simp only [converters, List.mem_cons, List.not_mem_nil, or_false] at hg
  -- each converter writes to a temporary file of its own
  rcases hg with rfl | rfl | rfl
  · exact getExtension_of_isTempName (hfiles.named (returns_imageConverter h).2.1)
  · obtain ⟨_, -, -, hname, -⟩ := returns_convertWord h
    exact getExtension_of_isTempName (hfiles.named hname)
  · obtain ⟨_, _, _, _, -, -, -, -, -, hname, -⟩ := returns_convertRtf h
    exact getExtension_of_isTempName (hfiles.named hname)

/-- The first converter that accepts a type is one of the list that does. -/
theorem find?_accepts {mimeType : String} {g : FileToPdfConverter}
    (h : (converters libraries docmosis).find? (fun g => g.accepts.contains mimeType) = some g) :
    g ∈ converters libraries docmosis ∧ mimeType ∈ g.accepts :=
  ⟨List.mem_of_find?_eq_some h, by simpa using List.find?_some h⟩

/-- A file that is converted comes to one of the four ends. -/
theorem becomes_of_returns (hfiles : CreatesTempFiles answer) {f out : MultipartFile}
    (h : Task.Returns answer (convertOne libraries (converters libraries docmosis) f) out asked) :
    Becomes libraries docmosis answer f out (requestsOf asked) := by
  simp only [convertOne, Task.returns_bind, returns_fromResult] at h
  obtain ⟨mimeType, _, _, ⟨hdetect, rfl⟩, ⟨fileOptional, first, _, hfile, hrest, rfl⟩, rfl⟩ := h
  unfold convertFile at hfile
  cases hfind : (converters libraries docmosis).find? fun g => g.accepts.contains mimeType with
  -- no converter accepts the type, and nothing is asked
  | none =>
    simp only [hfind, Task.returns_pure] at hfile
    obtain ⟨rfl, rfl⟩ := hfile
    obtain ⟨rfl, rfl⟩ := Task.returns_pure.mp hrest
    refine .untouched hdetect fun g hg haccepts => ?_
    exact List.find?_eq_none.mp hfind g hg (by simpa using haccepts)
  | some g =>
    simp only [hfind, Task.returns_bind, Task.returns_pure] at hfile
    obtain ⟨file, _, _, htransfer, ⟨converted, _, _, hconvert, ⟨rfl, rfl⟩, rfl⟩, rfl⟩ := hfile
    obtain ⟨hg, haccepts⟩ := find?_accepts hfind
    -- the file is transferred, converted and renamed
    have hextension := getExtension_of_returns hfiles hg hconvert
    obtain ⟨uploaded, tempName, rfl, rfl, -, hnone⟩ := returns_transferToFile htransfer
    obtain ⟨hrenamed, rfl⟩ := renamedTo_of_getMultipartFile hextension hrest
    simp only [converters, List.mem_cons, List.not_mem_nil, or_false] at hg
    rcases hg with rfl | rfl | rfl
    · obtain ⟨⟨pages, hsave⟩, -, hrequests⟩ := returns_imageConverter hconvert
      simpa [hnone, hrequests] using Becomes.image hdetect haccepts hsave hrenamed
    · obtain ⟨baseName, -, hanswered, -, hrequests⟩ := returns_convertWord hconvert
      simpa [hnone, hrequests] using Becomes.word hdetect haccepts hanswered hrenamed
    · obtain ⟨text, _, textName, textBaseName, htext, -, -, -, hanswered, -, hrequests⟩ :=
        returns_convertRtf hconvert
      simpa [hnone, hrequests] using Becomes.rtf hdetect haccepts htext hanswered hrenamed

/-- A request that succeeds has run the conversion of each of its files to its end. -/
theorem returns_of_converts {files : List MultipartFile} {answer : Fin files.length → Answers}
    {schedule : List (Fin files.length)} {out : List MultipartFile}
    (h : Converts libraries (converters libraries docmosis) files answer schedule (.ok out)) :
    ∃ values : Fin files.length → MultipartFile, out = List.ofFn values ∧
      ∀ i, Task.Returns (answer i) (convertOne libraries (converters libraries docmosis) files[i])
        (values i) (questionsOf
          (stream libraries (converters libraries docmosis) files answer schedule).log i) := by
  have hfollows := follows_stream libraries (converters libraries docmosis) files answer schedule
  cases h with
  | @returns values hjoined =>
    cases hjoined with
    | values _ hvalues =>
      refine ⟨values, rfl, fun i => ?_⟩
      -- the log of the service, restricted to one file, is what its conversion asks alone
      obtain ⟨hresult, hasked⟩ := hfollows.task_eq_done (hvalues i)
      exact ⟨hresult, hasked.symm⟩

/-- **Converted files**: a request that succeeds returns a file for each of its files, in their
order.  A file of another type is returned as it is; an image, a Word document or an RTF
document comes back as a PDF with its base name, for which Docmosis has got no request, one
request with the document, and one request with its text. -/
theorem becomes_of_converts {files : List MultipartFile} {answer : Fin files.length → Answers}
    {schedule : List (Fin files.length)} {out : List MultipartFile}
    (hfiles : ∀ i, CreatesTempFiles (answer i))
    (h : Converts libraries (converters libraries docmosis) files answer schedule (.ok out)) :
    ∃ values : Fin files.length → MultipartFile, out = List.ofFn values ∧
      ∀ i, Becomes libraries docmosis (answer i) files[i] (values i)
        (requestsOf (questionsOf
          (stream libraries (converters libraries docmosis) files answer schedule).log i)) := by
  -- file by file
  obtain ⟨values, hout, hreturns⟩ := returns_of_converts h
  exact ⟨values, hout, fun i => becomes_of_returns (hfiles i) (hreturns i)⟩

theorem converts_letters :
    Converts .sample (converters .sample ⟨"/convert", "key"⟩) letters (fun _ => sampleAnswers)
      (List.replicate 5 ⟨0, Nat.one_pos⟩) (.ok convertedLetters) := by
  have hended : ∀ i : Fin letters.length,
      (stream .sample (converters .sample ⟨"/convert", "key"⟩) letters (fun _ => sampleAnswers)
        (List.replicate 5 ⟨0, Nat.one_pos⟩)).task i = .done (.ok (convertedLetters.get i)) := by
    rintro ⟨_ | i, hi⟩
    · rfl
    · -- there is only one file
      exact absurd hi (by simp [letters])
  exact .returns (.values convertedLetters.get hended)

theorem becomes_letters : ∃ values : Fin letters.length → MultipartFile,
    convertedLetters = List.ofFn values ∧ ∀ i, Becomes .sample ⟨"/convert", "key"⟩ sampleAnswers
      letters[i] (values i) (requestsOf (questionsOf
        (stream .sample (converters .sample ⟨"/convert", "key"⟩) letters (fun _ => sampleAnswers)
          (List.replicate 5 ⟨0, Nat.one_pos⟩)).log i)) :=
  becomes_of_converts (fun _ => createsTempFiles_sampleAnswers) converts_letters

/-! ## Converting converted files -/

/-- Recognised as a PDF under any name. -/
def IsPdf (libraries : Libraries) (content : Bytes) : Prop :=
  ∀ hint, libraries.detect content hint = .ok "application/pdf"

/-- What the libraries save and what Docmosis answers are PDFs. -/
structure MakesPdfs (libraries : Libraries) (answer : Answers) : Prop where
  save : ∀ {pages content}, libraries.save pages = .ok content → IsPdf libraries content
  docmosis : ∀ {convertRequest content}, Answered answer convertRequest content →
    IsPdf libraries content

theorem not_mem_accepts_pdf {g : FileToPdfConverter} (hg : g ∈ converters libraries docmosis) :
    "application/pdf" ∉ g.accepts := by
  simp only [converters, List.mem_cons, List.not_mem_nil, or_false] at hg
  rcases hg with rfl | rfl | rfl <;>
    simp [imageConverter, accepts, wordDocumentConverter, rtfConverter]

/-- A file that no converter accepts is returned without a question. -/
theorem convertOne_of_not_accepted {f : MultipartFile} {mimeType : String}
    (hdetect : libraries.detect f.content f.getOriginalFilename = .ok mimeType)
    (h : ∀ g ∈ converters libraries docmosis, mimeType ∉ g.accepts) :
    convertOne libraries (converters libraries docmosis) f = .done (.ok f) := by
  -- the stream of converters is filtered down to nothing
  have hfind : (converters libraries docmosis).find? (fun g => g.accepts.contains mimeType) =
      none := by
    rw [List.find?_eq_none]
    intro g hg
    simpa using h g hg
  have hnone : convertFile libraries (converters libraries docmosis) mimeType f = pure none := by
    rw [convertFile, hfind]
  rw [convertOne, hdetect]
  change (convertFile libraries (converters libraries docmosis) mimeType f >>= _) = _
  rw [hnone]
  rfl

/-- A file that has been converted is not converted again. -/
theorem Becomes.convertOne_eq (hpdf : MakesPdfs libraries answer) {f out : MultipartFile}
    {requests : List ConvertRequest} (h : Becomes libraries docmosis answer f out requests) :
    convertOne libraries (converters libraries docmosis) out = .done (.ok out) := by
  -- a converted file is detected as a PDF, which no converter accepts
  have hrenamed : ∀ {f : CommonsMultipartFile} {content : Bytes}, IsPdf libraries content →
      RenamedTo libraries f content out →
        convertOne libraries (converters libraries docmosis) out = .done (.ok out) := by
    rintro f content hcontent ⟨baseName, contentType, -, -, rfl⟩
    exact convertOne_of_not_accepted (hcontent _) fun g hg => not_mem_accepts_pdf hg
  cases h with
  | untouched hdetect hnone => exact convertOne_of_not_accepted hdetect hnone
  | image _ _ hsave hout => exact hrenamed (hpdf.save hsave) hout
  | word _ _ hanswered hout => exact hrenamed (hpdf.docmosis hanswered) hout
  | rtf _ _ _ hanswered hout => exact hrenamed (hpdf.docmosis hanswered) hout

/-- **Converted once**: what a request has returned, a further request returns as it is, without
a question to Docmosis or to the file system, whatever the order of the turns. -/
theorem reconverted {files : List MultipartFile} {answer : Fin files.length → Answers}
    {schedule : List (Fin files.length)} {out : List MultipartFile}
    (hfiles : ∀ i, CreatesTempFiles (answer i)) (hpdf : ∀ i, MakesPdfs libraries (answer i))
    (h : Converts libraries (converters libraries docmosis) files answer schedule (.ok out))
    (answer' : Fin out.length → Answers) (schedule' : List (Fin out.length)) :
    Converts libraries (converters libraries docmosis) out answer' schedule' (.ok out) ∧
      (stream libraries (converters libraries docmosis) out answer' schedule').log = [] := by
  obtain ⟨values, hout, hreturns⟩ := returns_of_converts h
  -- a file that has been returned is done before its first turn
  have hdone : ∀ i, conversions libraries (converters libraries docmosis) out i =
      .done (.ok out[i]) := by
    intro i
    have hmem : out[i] ∈ List.ofFn values := hout ▸ List.getElem_mem i.isLt
    obtain ⟨j, hj⟩ := List.mem_ofFn.mp hmem
    rw [conversions, ← hj]
    exact (becomes_of_returns (hfiles j) (hreturns j)).convertOne_eq (hpdf j)
  have hfollows := follows_stream libraries (converters libraries docmosis) out answer' schedule'
  have hended : ∀ i,
      (stream libraries (converters libraries docmosis) out answer' schedule').task i =
        .done (.ok out[i]) := by
    intro i
    have hturns : ((conversions libraries (converters libraries docmosis) out i).questions
        (answer' i)).length ≤ schedule'.count i := by
      rw [hdone i]
      exact Nat.zero_le _
    have hend := ended_of_turns hturns
    rw [hdone i] at hend
    exact hend
  constructor
  · have hreturns := Ends.returns (.values out.get hended)
    rwa [List.ofFn_get] at hreturns
  · apply eq_nil_of_questionsOf
    intro i
    rw [(hfollows.task_eq_done (hended i)).2, hdone i]
    rfl

theorem makesPdfs_sampleAnswers : MakesPdfs .sample sampleAnswers where
  save := by
    rintro pages content h hint
    cases h
    rfl
  docmosis := by
    -- the only answer of the sample Docmosis starts like a PDF
    rintro convertRequest content ⟨response, hresponse, -, hbody⟩ hint
    cases hresponse
    cases hbody
    rfl

theorem reconverted_letters :
    Converts .sample (converters .sample ⟨"/convert", "key"⟩) convertedLetters
        (fun _ => sampleAnswers) [⟨0, Nat.one_pos⟩] (.ok convertedLetters) ∧
      (stream .sample (converters .sample ⟨"/convert", "key"⟩) convertedLetters
        (fun _ => sampleAnswers) [⟨0, Nat.one_pos⟩]).log = [] :=
  reconverted (fun _ => createsTempFiles_sampleAnswers) (fun _ => makesPdfs_sampleAnswers)
    converts_letters _ _

end Contents

end SscsPdfEmail.Service.Conversion
