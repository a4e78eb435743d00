import SscsPdfEmail.Service.StoreFailures

/-!
# Letters Merged from Several PDFs

A letter given as a list of PDFs is merged into one before it is stored.  The merger writes into
a buffer; when it ends with an `IOException`, that is logged and the letter goes on with whatever
the buffer holds.  So a letter is whole, and a failed merge leaves no trace, exactly when the
merge succeeds or nothing after it leaves a trace anyway (`wholeLetter_iff`).

What is assumed of the merger is that a merge without failure holds all sources in order, and one
with failure some beginning of that (`MergesSources`).  A trace is a file in a store or a change
of the case; that there is none is a condition on what the stores and CCD answer, and on the
letters that the case has already.
-/

namespace SscsPdfEmail.Service

open SscsPdfEmail.Domain
open CcdNotificationsPdfService

/-- `PDFMergerUtility.mergeDocuments` writes the complete merge of its sources, or some prefix
of it when it fails. -/
def MergesSources (complete : List Bytes → Bytes) (mergeDocuments : List Bytes → MergeResult) :
    Prop :=
  ∀ pdfs, ((mergeDocuments pdfs).failed = false → (mergeDocuments pdfs).written = complete pdfs) ∧
    ((mergeDocuments pdfs).failed = true → (mergeDocuments pdfs).written <+: complete pdfs)

namespace Merge

variable (common : SscsCommon) (m : Merge)

/-! ## Uploads of a Merge -/

theorem uploads_worldAfter_call (w : World) :
    (worldAfter (m.call common) w).uploads = w.uploads ++ m.uploads := by
  -- an update that is submitted uploads nothing
  rcases m.worldAfter_call common w with ⟨-, hw⟩ | ⟨-, update, -, hw⟩
  · rw [hw]
    rfl
  · rw [hw]
    rfl

/-- What a merge uploads comes last. -/
theorem drop_uploads_worldAfter_call (w : World) :
    (worldAfter (m.call common) w).uploads.drop w.uploads.length = m.uploads := by
  rw [uploads_worldAfter_call, List.drop_left]

/-- The files of an upload hold the PDF of the merge. -/
theorem content_of_mem_uploads {file : ByteArrayMultipartFile} (h : file ∈ m.uploads) :
    m.pdf = .ok file.content := by
  unfold uploads at h
  split at h
  · unfold entriesUploads at h
    -- the one file that is uploaded has the bytes of the PDF
    cases hpdf : m.pdf with
    | error e =>
      rw [hpdf] at h
      cases h
    | ok pdf =>
      simp only [hpdf, uploadsFor] at h
      cases hparams : storeParamsOf pdf m.correspondence with
      | error e =>
        rw [hparams] at h
        cases h
      | ok params =>
        have hcontent : params.pdf = pdf := by
          simp only [storeParamsOf] at hparams
          obtain ⟨value, -, hparams⟩ := bind_eq_ok.mp hparams
          obtain ⟨eventType, -, hparams⟩ := bind_eq_ok.mp hparams
          obtain ⟨eventName, -, hparams⟩ := bind_eq_ok.mp hparams
          obtain ⟨correspondenceType, -, hparams⟩ := bind_eq_ok.mp hparams
          obtain rfl := Except.ok.inj hparams
          rfl
        simp only [hparams, PdfStoreService.uploadsOf] at h
        split at h
        · obtain rfl := List.mem_singleton.mp h
          exact congrArg Except.ok hcontent.symm
        · cases h
  · cases h

/-- Nothing is uploaded exactly when the store is not asked, or does not answer. -/
theorem uploads_eq_nil_iff :
    m.uploads = [] ↔ (m.stores = true → ∀ params, m.storeParams = .ok params →
      (PdfStoreService.answerOf m.env params).toBool = false) := by
  unfold uploads entriesUploads storeParams
  cases hstores : m.stores with
  | false => simp
  | true =>
    -- three things keep a file from being uploaded: no PDF, no parameters, no answer
    cases m.pdf with
    | error e =>
      refine iff_of_true rfl fun _ params hparams => ?_
      cases hparams
    | ok pdf =>
      simp only [if_true, uploadsFor, forall_const]
      show _ ↔ ∀ params, storeParamsOf pdf m.correspondence = .ok params → _
      cases storeParamsOf pdf m.correspondence with
      | error e =>
        refine iff_of_true rfl fun params hparams => ?_
        cases hparams
      | ok params =>
        simp only [PdfStoreService.uploadsOf, Except.ok.injEq, forall_eq']
        cases PdfStoreService.answerOf m.env params <;> simp [Except.toBool]

/-! ## Whole Letters -/

/-- What is promised of a letter that is merged from PDFs. -/
structure WholeLetter (complete : List Bytes → Bytes) (pdfs : List Bytes) (party : LetterType)
    (w : World) : Prop where
  /-- The file that is uploaded is the whole letter. -/
  uploaded : ∀ file ∈ (worldAfter (m.call common) w).uploads.drop w.uploads.length,
    file.content = complete pdfs
  /-- A letter is added only with a whole letter uploaded for it. -/
  added : ((w.caseData.lettersOf party).getD []).length <
      (((worldAfter (m.call common) w).caseData.lettersOf party).getD []).length →
    ∃ file ∈ (worldAfter (m.call common) w).uploads.drop w.uploads.length,
      file.content = complete pdfs
  /-- A failed merge leaves the store and the case as they were. -/
  unchanged : (m.env.mergeDocuments pdfs).failed = true →
    (worldAfter (m.call common) w).uploads = w.uploads ∧
      (worldAfter (m.call common) w).caseData = w.caseData

/-- Nothing that comes after the merge of the PDFs leaves a trace. -/
structure LeavesNothing (party : LetterType) (w : World) : Prop where
  /-- The store is not asked, or does not take the file. -/
  noFile : m.stores = true → ∀ params, m.storeParams = .ok params →
    (PdfStoreService.answerOf m.env params).toBool = false
  /-- Where a failed upload is carried on from, CCD takes no update, or the update adds nothing
  to the case as it is. -/
  noChange : ∀ params e, m.storeParams = .ok params →
    PdfStoreService.answerOf m.env params = .error e → e.isRestClientException = true →
    m.env.idamTokens.toBool = true → m.env.accepts = true →
      addLetters common [] party w.caseData = w.caseData

section Pdfs

variable {m} {pdfs : List Bytes} {party : LetterType}
  (hpdfs : m.notification = .reasonableAdjustmentPdfs pdfs party)

include hpdfs

theorem letterType_of_pdfs : m.letterType = some party := by
  simp only [letterType, hpdfs]

theorem pdf_of_pdfs : m.pdf = .ok (m.env.mergeDocuments pdfs).written := by
  simp only [pdf, hpdfs, getMergedDocument]

/-- The stored case after the merge, by whether an update was accepted. -/
theorem caseData_of_pdfs (w : World) :
    (worldAfter (m.call common) w).caseData =
      if m.acceptedAt common w then addLetters common m.entry.toList party w.caseData
      else w.caseData := by
  have hparty := letterType_of_pdfs hpdfs
  rw [caseData_worldAfter_call, apply_of_party common hparty, base_of_party hparty]

theorem acceptedAt_of_pdfs (w : World) :
    m.acceptedAt common w =
      (m.entries.toBool && m.env.idamTokens.toBool && m.env.accepts) := by
  rw [acceptedAt_eq, submits, reachesCcd_of_party (letterType_of_pdfs hpdfs)]

/-- A letter that is stored has been uploaded. -/
theorem uploads_ne_nil_of_accepted {w : World} (haccepted : m.acceptedAt common w = true)
    (hstores : m.storesDocument = true) : m.uploads ≠ [] := by
  intro hnone
  rw [acceptedAt_of_pdfs common hpdfs, Bool.and_eq_true, Bool.and_eq_true] at haccepted
  obtain ⟨⟨-, htokens⟩, -⟩ := haccepted
  have hasked : m.stores = true := by simp [stores, htokens]
  have hrefused := m.uploads_eq_nil_iff.mp hnone hasked
  obtain ⟨document, hdocument⟩ := storedDocument_of_storesDocument hstores
  rw [storedDocument_eq] at hdocument
  obtain ⟨params, hparams, houtcome⟩ := bind_eq_ok.mp hdocument
  -- a document comes from an answer of the store, and the store gave none
  obtain ⟨response, hanswer⟩ := PdfStoreService.answerOf_of_outcome_some houtcome
  have hnot := hrefused params hparams
  rw [hanswer] at hnot
  cases hnot

/-- A merge that leaves nothing behind leaves the case as it was. -/
theorem caseData_of_leavesNothing {w : World} (h : m.LeavesNothing common party w) :
    (worldAfter (m.call common) w).caseData = w.caseData := by
  rw [caseData_of_pdfs common hpdfs]
  cases haccepted : m.acceptedAt common w with
  | false => rfl
  | true =>
    cases hstores : m.storesDocument with
    | true =>
      -- an entry has its document in the store
      exact absurd (m.uploads_eq_nil_iff.mpr h.noFile)
        (uploads_ne_nil_of_accepted common hpdfs haccepted hstores)
    | false =>
      obtain ⟨params, e, hparams, hanswer, hrest⟩ :=
        m.upload_failed_of_acceptedAt common haccepted hstores
      rw [acceptedAt_of_pdfs common hpdfs, Bool.and_eq_true, Bool.and_eq_true] at haccepted
      obtain ⟨⟨-, htokens⟩, haccepts⟩ := haccepted
      rw [entry_of_not_storesDocument hstores]
      exact h.noChange params e hparams hanswer hrest htokens haccepts

/-- A merge that keeps the store and the case as they were leaves nothing behind. -/
theorem leavesNothing_of_unchanged {w : World}
    (huploads : (worldAfter (m.call common) w).uploads = w.uploads)
    (hcase : (worldAfter (m.call common) w).caseData = w.caseData) :
    m.LeavesNothing common party w where
  noFile := by
    rw [uploads_worldAfter_call] at huploads
    exact m.uploads_eq_nil_iff.mp (List.append_right_eq_self.mp huploads)
  noChange params e hparams hanswer hrest htokens haccepts := by
    -- the failed upload is carried on from with no entry, down to an accepted update
    have hdocument : m.storedDocument = .ok none := by
      rw [storedDocument_eq, hparams]
      show PdfStoreService.outcome m.env params = _
      unfold PdfStoreService.outcome
      rw [hanswer]
      exact if_pos hrest
    have hentry : m.entry = none := by
      simp only [entry, hdocument, Option.map_none]
    have haccepted : m.acceptedAt common w = true := by
      rw [acceptedAt_of_pdfs common hpdfs, htokens, haccepts, entries, hdocument]
      rfl
    rw [caseData_of_pdfs common hpdfs, haccepted, hentry] at hcase
    exact hcase

/-- A merge without a failure makes a whole letter, whatever comes after it. -/
theorem wholeLetter_of_merged {complete : List Bytes → Bytes}
    (hmerges : MergesSources complete m.env.mergeDocuments)
    (hmerged : (m.env.mergeDocuments pdfs).failed = false) (w : World) :
    m.WholeLetter common complete pdfs party w := by
  have hnew := m.drop_uploads_worldAfter_call common w
  have hwhole : ∀ file ∈ m.uploads, file.content = complete pdfs := by
    intro file hfile
    have hcontent := (pdf_of_pdfs hpdfs).symm.trans (m.content_of_mem_uploads hfile)
    rw [← (hmerges pdfs).1 hmerged]
    exact (Except.ok.inj hcontent).symm
  refine ⟨?_, ?_, ?_⟩
  · rw [hnew]
    exact hwhole
  · intro hadded
    rw [hnew]
    rw [caseData_of_pdfs common hpdfs] at hadded
    -- the list has grown, so an update with an entry was accepted
    cases haccepted : m.acceptedAt common w with
    | false => simp [haccepted] at hadded
    | true =>
      cases hstores : m.storesDocument with
      | false =>
        rw [haccepted, entry_of_not_storesDocument hstores, if_pos rfl,
          lettersOf_addLetters, if_pos rfl, Option.getD_some,
          common.length_sortReverseOrder, Option.toList_none, List.append_nil] at hadded
        exact absurd hadded (lt_irrefl _)
      | true =>
        obtain ⟨file, hfile⟩ := List.exists_mem_of_ne_nil _
          (uploads_ne_nil_of_accepted common hpdfs haccepted hstores)
        exact ⟨file, hfile, hwhole file hfile⟩
  · intro hfailed
    rw [hmerged] at hfailed
    cases hfailed

/-- Where nothing is left behind there is no letter to be whole. -/
theorem wholeLetter_of_leavesNothing {w : World} (h : m.LeavesNothing common party w)
    (complete : List Bytes → Bytes) : m.WholeLetter common complete pdfs party w := by
  have hnone : m.uploads = [] := m.uploads_eq_nil_iff.mpr h.noFile
  have hcase := caseData_of_leavesNothing common hpdfs h
  -- no file and no entry, so nothing to be whole
  refine ⟨?_, ?_, ?_⟩
  · rw [drop_uploads_worldAfter_call, hnone]
    exact fun file hfile => absurd hfile List.not_mem_nil
  · intro hadded
    rw [hcase] at hadded
    exact absurd hadded (lt_irrefl _)
  · intro _
    rw [uploads_worldAfter_call, hnone, List.append_nil]
    exact ⟨rfl, hcase⟩

end Pdfs

/-- **Whole letters**: a letter merged from PDFs is whole, and a failed merge leaves no trace,
exactly when the merge succeeds or nothing after it leaves a trace. -/
theorem wholeLetter_iff {m : Merge} {complete : List Bytes → Bytes} {pdfs : List Bytes}
    {party : LetterType} (hmerges : MergesSources complete m.env.mergeDocuments)
    (hpdfs : m.notification = .reasonableAdjustmentPdfs pdfs party) (w : World) :
    m.WholeLetter common complete pdfs party w ↔
      (m.env.mergeDocuments pdfs).failed = false ∨ m.LeavesNothing common party w := by
  constructor
  · intro h
    cases hfailed : (m.env.mergeDocuments pdfs).failed with
    | false => exact Or.inl rfl
    | true =>
      -- a failed merge that is whole has left no trace
      obtain ⟨huploads, hcase⟩ := h.unchanged hfailed
      exact Or.inr (leavesNothing_of_unchanged common hpdfs huploads hcase)
  · rintro (hmerged | hnothing)
    · exact wholeLetter_of_merged common hpdfs hmerges hmerged w
    · exact wholeLetter_of_leavesNothing common hpdfs hnothing complete

/-- A letter of two PDFs for the appellant. -/
def sampleLetter : Merge := .sample .v2 (.reasonableAdjustmentPdfs [[1, 2], [3]] .appellant)

theorem mergesSources_flatten : MergesSources List.flatten Env.answering.mergeDocuments :=
  fun _ => ⟨fun _ => rfl, fun hfailed => (nomatch hfailed)⟩

theorem wholeLetter_sampleLetter :
    sampleLetter.WholeLetter .bySentOn List.flatten [[1, 2], [3]] .appellant World.sample :=
  (wholeLetter_iff .bySentOn mergesSources_flatten rfl World.sample).mpr (Or.inl rfl)

/-- The environment in which the merger fails after the first byte. -/
def failingMerger : Env :=
  { Env.answering with mergeDocuments := fun pdfs => ⟨pdfs.flatten.take 1, true⟩ }

/-- The first byte of a letter is stored, and added to the case, as the letter. -/
theorem partial_letter_stored :
    ¬ ∀ (m : Merge) (complete : List Bytes → Bytes) (pdfs : List Bytes) (party : LetterType)
      (w : World), MergesSources complete m.env.mergeDocuments →
      m.notification = .reasonableAdjustmentPdfs pdfs party →
        m.WholeLetter .bySentOn complete pdfs party w := by
  intro hclaim
  -- the merger stops after the first byte and says so
  have hmerges : MergesSources List.flatten failingMerger.mergeDocuments :=
    fun pdfs => ⟨fun hok => (nomatch hok), fun _ => List.take_prefix 1 pdfs.flatten⟩
  have hletter := hclaim { sampleLetter with env := failingMerger } List.flatten [[1, 2], [3]]
    .appellant World.sample hmerges rfl
  have hwhole := hletter.uploaded ⟨[1], some "appealReceived 22 Jan 2021 11:33.pdf",
    applicationPdf⟩ (by decide)
  revert hwhole
  decide

end Merge

end SscsPdfEmail.Service
