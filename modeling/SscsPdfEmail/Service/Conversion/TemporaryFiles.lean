import SscsPdfEmail.Service.Conversion.FileToPdfConversionService

/-!
# Temporary Files of the Conversions

`File.createTempFile` rejects a prefix of fewer than three characters.  `ImageConverter` passes
it the name of the file that it converts and `RtfConverter` the base name, so on their own they
fail for short names (`convertRtf_of_short_name`).  The conversion service has every file
transferred to a temporary file first, whose name is long enough, and whose base name is too.

That no request is ever made with a short prefix (`longPrefix_of_mem_log`) is a property of all
questions of a conversion, whether or not it succeeds in the end.  It is shown of one conversion
line by line, and holds of the service because what a schedule has asked is what the conversions
ask.
-/

namespace SscsPdfEmail.Service.Conversion

open SscsPdfEmail.Domain
open SscsPdfEmail.Library.ForkJoin

/-- A question that `createTempFile` does not reject for its prefix. -/
def LongPrefix (q : Question) : Prop :=
  ∀ start suffix, q = .createTempFile start suffix → 3 ≤ start.toList.length

section Questions

variable {answer : Answers} {libraries : Libraries} {docmosis : DocmosisConvert}

theorem asks_request {P : Question → Prop} {q : Question} (h : P q) :
    Task.Asks answer P (request q) :=
  Task.asks_ask.mpr ⟨h, Task.asks_done _⟩

theorem longPrefix_createTempFile {start suffix : String} (h : 3 ≤ start.toList.length) :
    LongPrefix (.createTempFile start suffix) := by
  intro start' suffix' heq
  cases heq
  exact h

theorem asks_write (file : File) : Task.Asks answer LongPrefix (write file) :=
  Task.asks_bind.mpr ⟨asks_request fun _ _ heq => (nomatch heq), fun _ _ => Task.asks_done _⟩

/-- The name of a temporary file is as long as its prefix has to be. -/
theorem length_le_of_isTempName {start suffix name : String} (h : IsTempName start suffix name) :
    3 ≤ name.toList.length := by
  obtain ⟨start', middle, suffix', rfl, -, hlong, -, -⟩ := h.parts
  simp only [String.toList_append, List.length_append]
  omega

/-- So is its base name, when the suffix is an extension. -/
theorem length_le_of_getBaseName {start extension name baseName : String}
    (hname : IsTempName start ("." ++ extension) name) (hextension : IsExtension extension)
    (hbase : libraries.filenameUtils.getBaseName name = .ok baseName) :
    3 ≤ baseName.toList.length := by
  obtain ⟨start', middle, suffix', rfl, -, hlong, hsuffix, hlength⟩ := hname.parts
  have hdot : ("." ++ extension).toList = '.' :: extension.toList := by simp
  rw [hdot] at hsuffix hlength
  -- what is left of the suffix is a dot and an extension
  obtain ⟨extension', hsuffix', hextension'⟩ :
      ∃ extension' : String, suffix' = "." ++ extension' ∧ IsExtension extension' := by
    cases hchars : suffix'.toList with
    | nil =>
      rw [hchars] at hlength
      simp at hlength
    | cons c rest =>
      rw [hchars] at hsuffix
      obtain ⟨hc, hrest⟩ := List.cons_prefix_cons.mp hsuffix
      refine ⟨String.ofList rest, ?_, ?_⟩
      · apply String.toList_inj.mp
        rw [hchars, hc]
        simp
      · intro d hd
        rw [String.toList_ofList] at hd
        exact hextension d (hrest.subset hd)
  have hfront : IsSimpleName (start' ++ middle) := by
    intro c hc
    exact hname.simple c (by simp [String.toList_append] at hc ⊢; tauto)
  have hnull : ∀ c ∈ extension'.toList, c.toNat ≠ 0 := by
    intro c hc
    exact (hname.simple c (by simp [hsuffix', hc])).2
  have heq := libraries.filenameUtils.getBaseName_append _ _ hfront hextension' hnull
  rw [hsuffix', ← String.append_assoc, heq] at hbase
  cases hbase
  simp only [String.toList_append, List.length_append]
  omega

theorem asks_convertWord (file : File) :
    Task.Asks answer LongPrefix (convertWord libraries docmosis file) := by
  refine Task.asks_bind.mpr ⟨Task.asks_done _, fun baseName _ => ?_⟩
  refine Task.asks_bind.mpr ⟨asks_request fun _ _ heq => (nomatch heq), fun response _ => ?_⟩
  -- its own prefix is a constant
  split
  · refine Task.asks_bind.mpr ⟨asks_request (longPrefix_createTempFile ?_), fun name _ => ?_⟩
    · decide
    · refine Task.asks_bind.mpr ⟨Task.asks_done _, fun body _ => ?_⟩
      exact Task.asks_bind.mpr ⟨Task.asks_done _, fun bytes _ => asks_write _⟩
  · exact Task.asks_done _

/-- Each converter asks for temporary files with the name or the base name of its file, or with
a constant. -/
theorem asks_convert {g : FileToPdfConverter} (hg : g ∈ converters libraries docmosis)
    {file : File} (hname : 3 ≤ file.name.toList.length)
    (hbase : ∀ baseName, libraries.filenameUtils.getBaseName file.name = .ok baseName →
      3 ≤ baseName.toList.length) :
    Task.Asks answer LongPrefix (g.convert file) := by
  simp only [converters, List.mem_cons, List.not_mem_nil, or_false] at hg
  -- the name, a constant, and the base name
  rcases hg with rfl | rfl | rfl
  · refine Task.asks_bind.mpr ⟨Task.asks_done _, fun pages _ => ?_⟩
    refine Task.asks_bind.mpr ⟨asks_request (longPrefix_createTempFile hname), fun name _ => ?_⟩
    exact Task.asks_bind.mpr ⟨Task.asks_done _, fun content _ => asks_write _⟩
  · exact asks_convertWord file
  · refine Task.asks_mapError.mpr (Task.asks_bind.mpr ⟨Task.asks_done _, fun text _ => ?_⟩)
    refine Task.asks_bind.mpr ⟨Task.asks_done _, fun baseName hbaseName => ?_⟩
    have hlong := hbase baseName (lift_eq_ok.mp hbaseName)
    refine Task.asks_bind.mpr ⟨asks_request (longPrefix_createTempFile hlong), fun name _ => ?_⟩
    exact Task.asks_bind.mpr ⟨asks_write _, fun textFile _ => asks_convertWord textFile⟩

/-- The extension of an uploaded file, or the text that stands for a missing name. -/
theorem isExtension_rendered (originalFilename : Option String) :
    IsExtension (formatNullable (originalFilename.map libraries.filenameUtils.getExtension)) := by
  cases originalFilename with
  | none => simp [formatNullable, IsExtension, isSeparator]
  | some text => exact libraries.filenameUtils.isExtension_getExtension text

theorem asks_convertOne (hfiles : CreatesTempFiles answer) (f : MultipartFile) :
    Task.Asks answer LongPrefix
      (convertOne libraries (converters libraries docmosis) f) := by
  refine Task.asks_bind.mpr ⟨Task.asks_done _, fun mimeType _ => ?_⟩
  refine Task.asks_bind.mpr ⟨?_, fun fileOptional _ => ?_⟩
  · unfold convertFile
    split
    · exact Task.asks_done _
    · rename_i g hfind
      have hg := (find?_accepts hfind).1
      refine Task.asks_bind.mpr ⟨?_, fun file hfile => ?_⟩
      · refine Task.asks_bind.mpr
          ⟨asks_request (longPrefix_createTempFile (by decide)), fun tempFile _ => ?_⟩
        cases f with
        | commons uploaded => exact asks_write _
        | byteArray bytes => exact Task.asks_done _
      · -- the file has the name that was created for it
        have hname : IsTempName "tempConversion" (transferSuffix libraries f) file.name := by
          obtain ⟨uploaded, tempName, -, rfl, hanswer, -⟩ :=
            returns_transferToFile ⟨hfile, rfl⟩
          exact hfiles.named hanswer
        have hlong := length_le_of_isTempName hname
        refine Task.asks_bind.mpr ⟨asks_convert hg hlong fun baseName hbase => ?_,
          fun converted _ => Task.asks_done _⟩
        exact length_le_of_getBaseName hname (isExtension_rendered _) hbase
  · split
    · exact Task.asks_done _
    · refine Task.asks_bind.mpr ⟨Task.asks_done _, fun newMimeType _ => ?_⟩
      exact Task.asks_bind.mpr ⟨Task.asks_done _, fun baseName _ => Task.asks_done _⟩

/-- On its own, the converter of RTF documents fails for a file with a short base name. -/
theorem convertRtf_of_short_name (hfiles : CreatesTempFiles answer) {file : File}
    {text baseName : String} (htext : libraries.parse file.content = .ok text)
    (hbase : libraries.filenameUtils.getBaseName file.name = .ok baseName)
    (hshort : baseName.toList.length < 3) :
    (convertRtf libraries docmosis file).result answer = .error (.java .illegalArgument) := by
  have hrejected : (createTempFile baseName ".txt").result answer =
      .error (.java .illegalArgument) := hfiles.short hshort
  -- the text is read, and then no file can be created for it
  rw [convertRtf, Task.result_mapError, htext, hbase]
  show Except.mapError rethrow ((createTempFile baseName ".txt" >>= _ : ConversionTask File).result
    answer) = _
  rw [Task.result_bind, hrejected]
  rfl

/-- **Temporary files**: whatever the order of the turns, and whether or not the request
succeeds in the end, the service never asks for a temporary file with a prefix that Java
rejects. -/
theorem longPrefix_of_mem_log {files : List MultipartFile} {answer : Fin files.length → Answers}
    (hfiles : ∀ i, CreatesTempFiles (answer i)) (schedule : List (Fin files.length))
    {i : Fin files.length} {start suffix : String}
    (h : (i, .createTempFile start suffix) ∈
      (stream libraries (converters libraries docmosis) files answer schedule).log) :
    3 ≤ start.toList.length := by
  -- what is in the log was asked by the conversion of its file
  have hmem := (follows_stream libraries (converters libraries docmosis) files answer
    schedule).mem_questions h
  exact asks_convertOne (hfiles i) files[i] _ hmem start suffix rfl

/-- What has been asked for the sample batch after five turns of its file. -/
def lettersLog : List (Fin letters.length × Question) :=
  (stream .sample (converters .sample ⟨"/convert", "key"⟩) letters (fun _ => sampleAnswers)
    (List.replicate 5 ⟨0, Nat.one_pos⟩)).log

/-- The temporary file of the Word document is asked for, with a long prefix. -/
theorem longPrefix_letters :
    (⟨0, Nat.one_pos⟩, .createTempFile "tempConversion" ".doc") ∈ lettersLog ∧
      3 ≤ "tempConversion".toList.length :=
  have hmem : (⟨0, Nat.one_pos⟩, .createTempFile "tempConversion" ".doc") ∈ lettersLog := .head _
  ⟨hmem, longPrefix_of_mem_log (fun _ => createsTempFiles_sampleAnswers) _ hmem⟩

end Questions

end SscsPdfEmail.Service.Conversion
