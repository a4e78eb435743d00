import SscsPdfEmail.Library.FailureAtomicity
import SscsPdfEmail.Service.ServiceRuns

/-!
# Calls That Fail

Whatever exception a call of a service ends with, and wherever it comes from, CCD has accepted
nothing from that call: each call changes the stored case in its last step or not at all.  A run
of calls therefore leaves the case that those of them leave which return normally
(`failuresHarmless`).

What is promised is about the stored case and the accepted updates (`World.settled`).  A failed
call may well have stored a file or have changed the object of its caller.  Operation by
operation, the steps before the submission keep what is settled, and the submission keeps it when
it fails, since CCD has refused the update then; the composition is left to the library.
-/

namespace SscsPdfEmail.Service

open SscsPdfEmail.Library SscsPdfEmail.Domain
open CcdPdfService CcdNotificationsPdfService

/-- The stored case, and what CCD has accepted. -/
def World.settled (w : World) : SscsCaseData × List CcdUpdate :=
  (w.caseData, w.updates.filter (·.accepted))

/-! ## Steps -/

theorem keeps_of_run {α : Type} {x : Call α} {result : World → Except JavaException α}
    {after : World → World} (hrun : ∀ w, x.run w = finish (result w) (after w))
    (hafter : ∀ w, (after w).settled = w.settled) : Keeps World.settled x where
  eq_of_ok w a w' h := by
    rw [hrun] at h
    cases hresult : result w with
    | error e =>
      rw [hresult] at h
      cases h
    | ok b =>
      rw [hresult] at h
      obtain ⟨rfl, rfl⟩ := EStateM.Result.ok.inj h
      exact hafter w
  eq_of_error w e w' h := by
    rw [hrun] at h
    cases hresult : result w with
    | error e' =>
      rw [hresult] at h
      obtain ⟨rfl, rfl⟩ := EStateM.Result.error.inj h
      exact hafter w
    | ok b =>
      rw [hresult] at h
      cases h

theorem keeps_fromExcept {α : Type} (result : Except JavaException α) :
    Keeps World.settled (fromExcept result) :=
  keeps_of_run (run_fromExcept result) fun _ => rfl

theorem Merge.keeps_entriesCall (m : Merge) : Keeps World.settled m.entriesCall :=
  keeps_of_run m.entriesCall_run fun _ => rfl

theorem keeps_updateDoc (env : Env) (params : UpdateDocParams) :
    Keeps World.settled (updateDoc env.clock (PdfStoreService.storeDocument env) params) := by
  apply Keeps.bind
  · exact keeps_of_run (PdfStoreService.storeDocument_run env params) fun _ => rfl
  · intro pdfDocument
    apply Keeps.bind keeps_get
    intro w
    -- the object of the caller is not part of what is settled
    apply Keeps.bind (keeps_fromExcept _)
    intro caseData
    exact Keeps.bind (keeps_modify fun _ => rfl) fun _ => keeps_pure _

/-- A submission that fails has been refused. -/
theorem keepsOnFailure_submit (env : Env) (caseId : Option ℤ) (eventType : EventType)
    (summary description : String) (caseData : SscsCaseData) :
    KeepsOnFailure World.settled
      (Ccd.submit env caseId eventType summary description caseData) where
  eq_of_error w e w' h := by
    -- CCD answers with success, and the call does not fail, or it refuses the update
    cases haccepted : env.ccdUpdate with
    | ok accepted =>
      rw [Ccd.submit, haccepted] at h
      cases h
    | error e' =>
      have hrefused : env.accepts = false := by
        simp only [Env.accepts, haccepted, Except.toBool]
      rw [Ccd.submit, haccepted] at h
      obtain ⟨-, rfl⟩ := EStateM.Result.error.inj h
      simp [World.settled, World.addUpdate, hrefused]

theorem keepsOnFailure_carryOn {α : Type} {update : Call α} (fallback : α)
    (h : KeepsOnFailure World.settled update) :
    KeepsOnFailure World.settled (carryOn fallback update) where
  eq_of_error w e w' hrun := by
    rw [carryOn, run_tryCatch] at hrun
    cases hupdate : update.run w with
    | ok a w₁ =>
      rw [hupdate] at hrun
      cases hrun
    | error e₁ w₁ =>
      rw [hupdate] at hrun
      have hw₁ := h.eq_of_error w e₁ w₁ hupdate
      -- the handler does nothing to the world
      cases e₁ <;> cases hrun <;> exact hw₁

theorem keepsOnFailure_updateCaseV2 (env : Env) (caseId : Option ℤ) (eventType : EventType)
    (summary description : String) (consumer : SscsCaseData → SscsCaseData) :
    KeepsOnFailure World.settled
      (Ccd.updateCaseV2 env caseId eventType summary description consumer) :=
  KeepsOnFailure.bind keeps_get fun _ => keepsOnFailure_submit ..

/-! ## Operations -/

theorem Merge.keepsOnFailure_call (common : SscsCommon) (m : Merge) :
    KeepsOnFailure World.settled (m.call common) := by
  cases hg : m.generation with
  | v2 =>
    obtain ⟨summary, description, hcall⟩ := m.call_of_v2 common hg
    rw [hcall]
    apply KeepsOnFailure.bind m.keeps_entriesCall
    intro entries
    apply keepsOnFailure_carryOn
    apply KeepsOnFailure.bind (keeps_fromExcept _)
    intro tokens
    exact (keepsOnFailure_updateCaseV2 ..).bind_pure _
  | v1 =>
    -- in each operation the submission comes last
    cases hparty : m.letterType with
    | some party =>
      rw [m.call_of_reasonableAdjustmentV1 common hg hparty]
      apply KeepsOnFailure.bind (keeps_fromExcept _)
      intro tokens
      apply KeepsOnFailure.bind m.keeps_entriesCall
      intro entries
      exact (keepsOnFailure_carryOn _ (keepsOnFailure_updateCaseV2 ..)).bind_pure _
    | none =>
      cases hn : m.notification with
      | reasonableAdjustment letterDocument letterType => simp [Merge.letterType, hn] at hparty
      | reasonableAdjustmentPdfs pdfs letterType => simp [Merge.letterType, hn] at hparty
      | email =>
        rw [m.call_of_emailV1 common hg hn]
        apply KeepsOnFailure.bind m.keeps_entriesCall
        intro entries
        refine KeepsOnFailure.bind (keeps_modify ?_) ?_
        · exact fun _ => rfl
        intro modified
        apply KeepsOnFailure.bind keeps_get
        intro w
        apply KeepsOnFailure.bind (keeps_fromExcept _)
        intro caseId
        apply KeepsOnFailure.bind (keeps_fromExcept _)
        intro tokens
        exact (keepsOnFailure_carryOn _ (keepsOnFailure_submit ..)).bind_pure _
      | letter pdf senderType =>
        rw [m.call_of_letterV1 common hg hn]
        apply KeepsOnFailure.bind m.keeps_entriesCall
        intro entries
        apply KeepsOnFailure.bind (keeps_fromExcept _)
        intro tokens
        apply KeepsOnFailure.bind (keeps_fromExcept _)
        intro found
        apply KeepsOnFailure.bind keeps_get
        intro w
        apply KeepsOnFailure.bind (keeps_fromExcept _)
        intro caseId
        exact (keepsOnFailure_carryOn _ (keepsOnFailure_submit ..)).bind_pure _

theorem MergeDoc.keepsOnFailure_call (m : MergeDoc) :
    KeepsOnFailure World.settled m.call := by
  rw [m.call_eq]
  apply KeepsOnFailure.bind (keeps_updateDoc m.env m.params)
  intro updated
  apply KeepsOnFailure.bind keeps_get
  intro w
  exact (keepsOnFailure_carryOn _ (keepsOnFailure_submit ..)).bind_pure _

theorem GenerateDocument.keepsOnFailure_call {Value : Type} (d : GenerateDocument Value) :
    KeepsOnFailure World.settled d.call where
  eq_of_error w e w' h := by
    rw [d.call_run] at h
    -- a document that cannot be generated does not get as far as the merge
    cases hgenerated : d.generated w.callerCaseData.ccdCaseId with
    | error e' =>
      rw [hgenerated] at h
      cases h
      rfl
    | ok generated =>
      rw [hgenerated] at h
      cases hmerged : generated.2.call.run w with
      | ok a w₁ =>
        simp only [hmerged] at h
        cases h
      | error e₁ w₁ =>
        simp only [hmerged] at h
        -- the exception is that of the merge
        obtain ⟨rfl, rfl⟩ := EStateM.Result.error.inj h
        exact generated.2.keepsOnFailure_call.eq_of_error w e₁ w₁ hmerged

namespace Operation

variable {Value : Type} (common : SscsCommon)

theorem keepsOnFailure_call (o : Operation Value) :
    KeepsOnFailure World.settled (o.call common) := by
  cases o with
  | merge m => exact m.keepsOnFailure_call common
  | document m => exact m.keepsOnFailure_call
  | generate d => exact d.keepsOnFailure_call.bind_pure _

/-! ## Runs -/

/-- An e-mail whose tokens cannot be fetched has changed the object of the caller by then, and
has stored its PDF, but nothing of the case. -/
example :
    let o : Operation Unit := .merge
      { Merge.sample .v1 .email with env := { Env.answering with idamTokens := .error .feign } }
    let w := worldAfter (o.call .bySentOn) .sample
    (o.call .bySentOn).run .sample = .error .feign w ∧ w.settled = World.sample.settled ∧
      w.uploads ≠ [] ∧ w.callerCaseData ≠ World.sample.callerCaseData := by
  intro o w
  exact ⟨rfl, rfl, by decide, by decide⟩

end Operation

end SscsPdfEmail.Service
