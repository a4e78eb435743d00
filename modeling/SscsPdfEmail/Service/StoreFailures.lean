import SscsPdfEmail.Service.ReasonableAdjustmentRuns

/-!
# Document Stores That Fail

What a merge comes to when the document store does not keep its PDF.  An unreachable store is
carried on from, down to an update that adds no entry; a client error is an exception for the
caller and stops the merge before CCD.

For all operations at once, `Merge.accounted` accounts for the entry of an accepted update: the
list has one more entry when the PDF was stored, and is only sorted again when it was not.  In
the second case the upload has failed with an exception that `PdfStoreService` takes for an
absent store, logs, and carries on from.  So an update that CCD has accepted need not have an
entry, and one that was stopped by a client error is never submitted.
-/

namespace SscsPdfEmail.Service

open SscsPdfEmail.Domain
open CcdNotificationsPdfService

namespace Merge

variable (common : SscsCommon) (m : Merge)

/-! ## The list that a merge adds to -/

/-- The list in a case that the merge adds to: the correspondence list, or the letters of
the addressed party. -/
def listIn (caseData : SscsCaseData) : List Correspondence :=
  match m.letterType with
  | none => caseData.correspondences
  | some party => (caseData.lettersOf party).getD []

theorem listIn_apply (entries : List Correspondence) (caseData : SscsCaseData) :
    m.listIn (m.apply common entries caseData) =
      common.sortReverseOrder (m.listIn caseData ++ entries) := by
  unfold listIn apply
  cases m.letterType with
  | none => rfl
  | some party => simp only [lettersOf_addLetters, if_true, Option.getD_some]

theorem listIn_of_acceptedAt {w : World} (h : m.acceptedAt common w = true) :
    m.listIn (worldAfter (m.call common) w).caseData =
      common.sortReverseOrder (m.listIn (m.base w) ++ m.entry.toList) := by
  rw [caseData_worldAfter_call, h, if_pos rfl, listIn_apply]

/-! ## Uploads that fail -/

/-- What a merge asks the store to keep. -/
def storeParams : Except JavaException UpdateDocParams := do
  let pdf ← m.pdf
  storeParamsOf pdf m.correspondence

theorem storedDocument_eq : m.storedDocument = (do
    let params ← m.storeParams
    PdfStoreService.outcome m.env params) := by
  unfold storedDocument storeParams storedDocumentOf
  cases m.pdf <;> rfl

/-- A merge that is accepted without a stored document has carried on from a failed
upload. -/
theorem upload_failed_of_acceptedAt {w : World} (h : m.acceptedAt common w = true)
    (hstores : m.storesDocument = false) :
    ∃ params e, m.storeParams = .ok params ∧
      PdfStoreService.answerOf m.env params = .error e ∧ e.isRestClientException = true := by
  rw [acceptedAt_eq] at h
  have hsubmits : m.submits w = true := (Bool.and_eq_true_iff.mp h).1
  have hentries : m.entries.toBool = true := (Bool.and_eq_true_iff.mp hsubmits).1
  have hdocument := m.storedDocument_eq
  -- the entries were built, so an upload was asked for, and what it came to is null
  cases hparams : m.storeParams with
  | error e =>
    rw [hparams] at hdocument
    simp [entries, hdocument, bind, Except.bind, Except.map, Except.toBool] at hentries
  | ok params =>
    rw [hparams] at hdocument
    change m.storedDocument = PdfStoreService.outcome m.env params at hdocument
    cases houtcome : PdfStoreService.outcome m.env params with
    | error e =>
      rw [houtcome] at hdocument
      simp [entries, hdocument, Except.map, Except.toBool] at hentries
    | ok document =>
      cases document with
      | some document => simp [storesDocument, hdocument, houtcome] at hstores
      | none =>
        obtain ⟨e, he, hrest⟩ := PdfStoreService.answerOf_of_outcome_none houtcome
        exact ⟨params, e, rfl, he, hrest⟩

/-- A client error stops the merge: the caller gets the translated exception and no update
is submitted. -/
theorem run_call_of_clientError {params : UpdateDocParams} (hstores : m.stores = true)
    (hparams : m.storeParams = .ok params)
    (hanswer : PdfStoreService.ClientAnswers m.env params (.error .httpClientError))
    (w : World) :
    (m.call common).run w =
      .error .unsupportedDocumentType (w.addUploads m.entriesUploads) := by
  apply m.run_call_of_entries_error common hstores
  -- the upload service translates the error, and nobody catches it after that
  have hdocument : m.storedDocument = .error .unsupportedDocumentType := by
    rw [storedDocument_eq, hparams]
    exact PdfStoreService.outcome_of_clientError hanswer
  rw [entries, hdocument]
  rfl

/-! ## Accounting for accepted merges -/

/-- What is promised of a merge call about the entry it was made for. -/
structure Accounted (w : World) : Prop where
  /-- An accepted merge whose document was stored adds exactly one entry. -/
  stored : m.acceptedAt common w = true → m.storesDocument = true →
    (m.listIn (worldAfter (m.call common) w).caseData).length =
      (m.listIn (m.base w)).length + 1
  /-- An accepted merge whose document was not stored adds none; it sorts the list. -/
  notStored : m.acceptedAt common w = true → m.storesDocument = false →
    m.listIn (worldAfter (m.call common) w).caseData =
      common.sortReverseOrder (m.listIn (m.base w))
  /-- This happens only after an upload that failed with a `RestClientException`. -/
  carriedOn : m.acceptedAt common w = true → m.storesDocument = false →
    ∃ params e, m.storeParams = .ok params ∧
      PdfStoreService.answerOf m.env params = .error e ∧ e.isRestClientException = true
  /-- After a client error the caller gets an exception and CCD no update. -/
  clientError : ∀ params, m.storeParams = .ok params →
    PdfStoreService.ClientAnswers m.env params (.error .httpClientError) →
    m.stores = true →
    resultOf (m.call common) w = .error .unsupportedDocumentType ∧
      (worldAfter (m.call common) w).updates = w.updates

/-- **Accounting**: every merge operation, on every case and with every outcome of the
upload. -/
theorem accounted (w : World) : m.Accounted common w where
  stored haccepted hstores := by
    obtain ⟨entry, hentry, -⟩ := entry_of_storesDocument hstores
    rw [m.listIn_of_acceptedAt common haccepted, hentry, common.length_sortReverseOrder]
    exact List.length_append
  notStored haccepted hstores := by
    have hentry := entry_of_not_storesDocument hstores
    rw [m.listIn_of_acceptedAt common haccepted, hentry]
    exact congrArg common.sortReverseOrder (List.append_nil _)
  carriedOn := m.upload_failed_of_acceptedAt common
  clientError params hparams hanswer hstores := by
    -- the exception comes before the update
    have hrun := m.run_call_of_clientError common hstores hparams hanswer w
    constructor
    · simp only [resultOf, hrun]
    · rw [worldAfter_of_error hrun]
      rfl

/-- An environment whose document store cannot be reached. -/
def unreachableStore : Env :=
  { Env.answering with documentUpload := fun _ _ _ _ _ _ => .error .restClient }

/-- An e-mail merge with an unreachable store is accepted and adds nothing. -/
theorem accepted_without_entry :
    ¬ ∀ (m : Merge) (w : World), m.acceptedAt .bySentOn w = true →
      (m.listIn (worldAfter (m.call .bySentOn) w).caseData).length =
        (m.listIn (m.base w)).length + 1 := by
  intro hclaim
  have hdropped := hclaim { Merge.sample .v2 .email with env := unreachableStore } .sample
    (by decide)
  revert hdropped
  decide

end Merge

end SscsPdfEmail.Service
