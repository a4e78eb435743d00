import SscsPdfEmail.Service.RefusedUpdates

/-!
# Missing Documents and Missing Cases

`updateDoc` is meant to go on when the store has returned no document, and to leave CCD alone
when there is no case id.  The log line for a missing document reads the benefit type of the
case, so the first holds for the cases that have one (`survivesFailedStore_iff`); the callers of
`updateDoc` submit the case whether it was skipped or not, so the second holds only for calls
that never get to the update (`updatesOnlyWithCase_iff`).

Both results are equivalences over all calls.  The steps of `updateDoc` after the store are run
with the document, or the case id, taken away, and what is left to fail is collected.
-/

namespace SscsPdfEmail.Service

open SscsPdfEmail.Domain
open CcdPdfService

/-- The benefit type that `updateDoc` reads of a case. -/
def benefitTypeOf (caseData : SscsCaseData) : Option BenefitType :=
  caseData.appeal.bind (·.benefitType)

namespace CcdPdfService

/-- Without a document, the log line needs an appeal with a benefit type. -/
theorem logStored_none (caseData : SscsCaseData) :
    logStored none caseData =
      if (benefitTypeOf caseData).isSome then .ok () else .error .nullPointer := by
  unfold logStored benefitTypeOf
  -- two getters in a row, each of which may meet null
  cases caseData.appeal with
  | none => rfl
  | some appeal =>
    show (nonNull appeal.benefitType >>= fun _ => pure ()) = _
    cases hbenefit : appeal.benefitType with
    | none => simp [nonNull, hbenefit, bind, Except.bind]
    | some benefitType => simp [nonNull, hbenefit, bind, Except.bind, pure, Except.pure]

/-- Recording no document never fails for a file with a name. -/
theorem updateCaseDataWithNewDoc_none (clock : Clock) (fileName : String)
    (caseData : SscsCaseData) :
    ∃ final, updateCaseDataWithNewDoc clock (some fileName) caseData none = .ok final := by
  -- with no document, either list is given nothing to append
  by_cases hstatement : isStatement fileName = true
  · exact ⟨_, by
      simp only [updateCaseDataWithNewDoc, nonNull, bind, Except.bind, hstatement, if_true]
      rfl⟩
  · exact ⟨_, by
      simp only [updateCaseDataWithNewDoc, nonNull, bind, Except.bind, hstatement,
        Bool.false_eq_true, if_false]
      rfl⟩

end CcdPdfService

/-! ## Failed Stores -/

namespace UpdateDocCall

variable {c : UpdateDocCall}

/-- The call returns case data with the documents that the caller's object had. -/
def SurvivesFailedStore (c : UpdateDocCall) (w : World) : Prop :=
  ∃ final, resultOf c.call w = .ok final ∧
    final.scannedDocuments.getD [] = w.callerCaseData.scannedDocuments.getD [] ∧
    final.sscsDocument.getD [] = w.callerCaseData.sscsDocument.getD []

/-- A call that records no document leaves the lists as they were. -/
theorem lists_of_recorded {initial final : SscsCaseData} (hdocument : c.document = none)
    (h : c.recorded initial = .ok final) :
    final.scannedDocuments.getD [] = initial.scannedDocuments.getD [] ∧
      final.sscsDocument.getD [] = initial.sscsDocument.getD [] := by
  have hrouted := routedTo_of_recorded h
  simp only [statementDocument, otherDocument, hdocument, ite_self, Option.toList_none]
    at hrouted
  obtain ⟨added, hadded, hscanned⟩ := hrouted.scanned
  -- nothing is scanned where there is nothing to convert
  obtain rfl := List.forall₂_nil_left_iff.mp hadded
  rw [hscanned, hrouted.sscs, List.append_nil, List.append_nil]
  exact ⟨rfl, rfl⟩

/-- What is left of a call whose file was not stored: the log line, and for a case a list that
gets nothing. -/
theorem recorded_of_not_stored (hstored : c.stored = .ok none) {fileName : String}
    (hname : c.params.fileName = some fileName) (caseData : SscsCaseData) :
    c.recorded caseData = (do
      logStored none caseData
      match c.params.caseId with
      | none => return caseData
      | some _ =>
        let withDocument ← updateCaseDataWithNewDoc c.clock (some fileName) caseData none
        return flagTranslation c.params withDocument) := by
  -- the steps of the code, with the missing document put in
  unfold recorded recordDocument
  rw [hstored, hname]
  rfl

/-- Past the log line nothing fails. -/
theorem exists_recorded_of_not_stored (hstored : c.stored = .ok none) {fileName : String}
    (hname : c.params.fileName = some fileName) {caseData : SscsCaseData}
    (hbenefit : (benefitTypeOf caseData).isSome) : ∃ final, c.recorded caseData = .ok final := by
  rw [recorded_of_not_stored hstored hname, logStored_none, if_pos hbenefit]
  -- past the log line nothing can fail
  cases c.params.caseId with
  | none => exact ⟨_, rfl⟩
  | some caseId =>
    obtain ⟨updated, hupdated⟩ := updateCaseDataWithNewDoc_none c.clock fileName caseData
    simp only [hupdated]
    exact ⟨_, rfl⟩

/-- **Failed stores**: a call whose file was not stored goes on exactly for the cases that have
an appeal with a benefit type. -/
theorem survivesFailedStore_iff (hstored : c.stored = .ok none) {fileName : String}
    (hname : c.params.fileName = some fileName) (w : World) :
    c.SurvivesFailedStore w ↔ (benefitTypeOf w.callerCaseData).isSome := by
  have hdocument : c.document = none := by
    unfold document
    rw [hstored]
  constructor
  · rintro ⟨final, hfinal, -⟩
    -- the call has come past its log line
    rw [resultOf_call, recorded_of_not_stored hstored hname, logStored_none] at hfinal
    by_contra hbenefit
    rw [if_neg hbenefit] at hfinal
    cases hfinal
  · intro hbenefit
    obtain ⟨final, hfinal⟩ := exists_recorded_of_not_stored hstored hname hbenefit
    exact ⟨final, (resultOf_call c w).trans hfinal, lists_of_recorded hdocument hfinal⟩

/-- A call for a letter that the store has not taken. -/
def notStored : UpdateDocCall where
  clock := Env.answering.clock
  params := { fileName := some "Letter.pdf", pdf := [1], caseId := some 1 }
  stored := .ok none

/-- A world whose case has a benefit type. -/
def sampleWithBenefit : World :=
  { World.sample with callerCaseData := { appeal := some { benefitType := some {} } } }

theorem survivesFailedStore_sampleWithBenefit :
    notStored.SurvivesFailedStore sampleWithBenefit :=
  (survivesFailedStore_iff rfl rfl sampleWithBenefit).mpr rfl

/-- On a case without an appeal the call ends with an exception. -/
theorem failed_store_without_appeal :
    ¬ ∀ (c : UpdateDocCall) (fileName : String) (w : World), c.stored = .ok none →
      c.params.fileName = some fileName → c.SurvivesFailedStore w := by
  intro hclaim
  obtain ⟨final, hfinal, -⟩ := hclaim notStored "Letter.pdf" World.sample rfl rfl
  have hthrown : resultOf notStored.call World.sample = .error .nullPointer := rfl
  rw [hthrown] at hfinal
  cases hfinal

end UpdateDocCall

/-! ## Missing Case Ids -/

namespace MergeDoc

variable (m : MergeDoc)

/-- The `updateDoc` call inside. -/
def updateDocOf : Call SscsCaseData :=
  updateDoc m.env.clock (PdfStoreService.storeDocument m.env) m.params

/-- What is promised of a call about the update of the case. -/
structure UpdatesOnlyWithCase (w : World) : Prop where
  /-- Without a case id no update is attempted and no case data changes. -/
  skipped : m.params.caseId = none →
    (worldAfter m.call w).updates = w.updates ∧
      (worldAfter m.call w).callerCaseData = w.callerCaseData ∧
      (worldAfter m.call w).caseData = w.caseData
  /-- With one, exactly one is attempted, with the case data that `updateDoc` has returned. -/
  updated : ∀ caseId caseData, m.params.caseId = some caseId →
    resultOf m.updateDocOf w = .ok caseData →
      ∃ update, (worldAfter m.call w).updates = w.updates ++ [update] ∧
        update.caseId = some caseId ∧ update.caseData = caseData

/-- `updateDoc` ends with an exception although it has no case to update: the store raised
one, or it returned no document for a case without a benefit type. -/
def FailsWithoutCase (w : World) : Prop :=
  (∃ e, PdfStoreService.outcome m.env m.params = .error e) ∨
    PdfStoreService.outcome m.env m.params = .ok none ∧
      (benefitTypeOf w.callerCaseData).isSome = false

theorem resultOf_updateDocOf (w : World) :
    resultOf m.updateDocOf w = m.updateDocCall.recorded w.callerCaseData := by
  unfold resultOf updateDocOf
  rw [UpdateDocCall.updateDoc_run]
  unfold updateDocCall
  cases (UpdateDocCall.ofEnv m.env m.params).recorded w.callerCaseData <;> rfl

/-- Without a case id nothing but an exception on the way keeps `updateDoc` from returning. -/
theorem recorded_error_iff (hcase : m.params.caseId = none) (w : World) :
    (∃ e, m.updateDocCall.recorded w.callerCaseData = .error e) ↔ m.FailsWithoutCase w := by
  have hrecorded : m.updateDocCall.recorded w.callerCaseData = (do
      let stored ← PdfStoreService.outcome m.env m.params
      logStored stored w.callerCaseData
      return w.callerCaseData) := by
    unfold UpdateDocCall.recorded recordDocument updateDocCall UpdateDocCall.ofEnv
    simp only [hcase]
  rw [hrecorded, FailsWithoutCase]
  cases houtcome : PdfStoreService.outcome m.env m.params with
  | error e => exact iff_of_true ⟨e, rfl⟩ (Or.inl ⟨e, rfl⟩)
  | ok stored =>
    cases stored with
    | some document =>
      -- a stored document is not looked at any further
      refine iff_of_false ?_ ?_
      · rintro ⟨e, he⟩
        cases he
      · rintro (⟨e, he⟩ | ⟨hnone, -⟩)
        · cases he
        · cases hnone
    | none =>
      show (∃ e, (logStored none w.callerCaseData >>= fun _ => pure w.callerCaseData) = .error e) ↔ _
      rw [logStored_none]
      cases hbenefit : (benefitTypeOf w.callerCaseData).isSome with
      | true =>
        refine iff_of_false ?_ ?_
        · rintro ⟨e, he⟩
          cases he
        · rintro (⟨e, he⟩ | ⟨-, hfalse⟩)
          · cases he
          · cases hfalse
      | false => exact iff_of_true ⟨_, rfl⟩ (Or.inr ⟨rfl, rfl⟩)

/-- **Missing case ids**: a call keeps to the promise exactly when it has a case id, or fails
before it comes to the update. -/
theorem updatesOnlyWithCase_iff (w : World) :
    m.UpdatesOnlyWithCase w ↔ m.params.caseId.isSome ∨ m.FailsWithoutCase w := by
  have hcall := m.worldAfter_call w
  constructor
  · intro h
    cases hcase : m.params.caseId with
    | some caseId => exact Or.inl rfl
    | none =>
      refine Or.inr ((m.recorded_error_iff hcase w).mp ?_)
      cases hrecorded : m.updateDocCall.recorded w.callerCaseData with
      | error e => exact ⟨e, rfl⟩
      | ok caseData =>
        -- the update that is attempted all the same breaks the promise
        rw [hrecorded] at hcall
        have hupdates := (h.skipped hcase).1
        rw [hcall] at hupdates
        have hlength := congrArg List.length hupdates
        simp [World.addUpdate, stored, World.addUploads] at hlength
  · intro h
    constructor
    · intro hcase
      have hfails : m.FailsWithoutCase w := by
        rcases h with hsome | hfails
        · rw [hcase] at hsome
          cases hsome
        · exact hfails
      obtain ⟨e, he⟩ := (m.recorded_error_iff hcase w).mpr hfails
      rw [he] at hcall
      rw [hcall]
      exact ⟨rfl, rfl, rfl⟩
    · intro caseId caseData hcase hreturned
      rw [resultOf_updateDocOf] at hreturned
      rw [hreturned] at hcall
      rw [hcall]
      exact ⟨m.update caseData, rfl, hcase, rfl⟩

/-- A call without a case id that stores its file. -/
def withoutCase : MergeDoc where
  env := .answering
  operation := .untyped (some "Letter.pdf") [1] none

/-- The step of updating CCD is said to be skipped, and is not. -/
theorem update_attempted_without_case :
    ¬ ∀ (m : MergeDoc) (w : World), m.UpdatesOnlyWithCase w := by
  intro hclaim
  have hskipped := ((hclaim withoutCase World.sample).skipped rfl).1
  revert hskipped
  decide

end MergeDoc

end SscsPdfEmail.Service
