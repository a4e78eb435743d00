import SscsPdfEmail.Service.UpdateAttempts

/-!
# Translation Work

`updateDoc` sets the translation flag of a case for every document that is to be translated. Over
a run of calls the flag says that a translation was asked for, and the document to be translated
is among the SSCS documents, unless the file was a statement, which is kept among the scanned
documents without its translation status, or was not stored (`translationFlag`).

The runs are those that return, with `PdfStoreService` as the store.  The flag is set by the call
and not by the document, so it is also set for a document that is nowhere in the case
(`flagged_without_document`).  It is never reset: what the case says of it afterwards is decided
by whether one of the calls has asked.
-/

namespace SscsPdfEmail.Service

open SscsPdfEmail.Domain
open CcdPdfService

/-! ## Calls Through the Store -/

/-- A call of `updateDoc`, with the answers that the external systems give to it. -/
structure StoringCall where
  env : Env
  params : UpdateDocParams

namespace StoringCall

variable (c : StoringCall)

/-- The call with the outcome of its `storeDocument` call. -/
def updateDocCall : UpdateDocCall := .ofEnv c.env c.params

/-- Calls one after another, all on the case data object of the caller. -/
def runAll (calls : List StoringCall) : Call Unit :=
  calls.forM fun c => do
    let _ ← updateDoc c.env.clock (PdfStoreService.storeDocument c.env) c.params

/-- The call asks for the translation of a document of some case. -/
def Requests : Prop :=
  c.params.caseId.isSome ∧ c.params.documentTranslationStatus = some .translationRequired

instance : Decidable c.Requests := inferInstanceAs (Decidable (_ ∧ _))

/-- One call of a run that returns. -/
theorem runAll_cons_ok {c : StoringCall} {calls : List StoringCall} {w w' : World}
    (h : (runAll (c :: calls)).run w = .ok () w') :
    ∃ caseData w₁, c.updateDocCall.recorded w.callerCaseData = .ok caseData ∧
      w₁.callerCaseData = caseData ∧ (runAll calls).run w₁ = .ok () w' := by
  -- the first call and then the others
  have hcons : runAll (c :: calls) =
      updateDoc c.env.clock (PdfStoreService.storeDocument c.env) c.params >>=
        fun _ => runAll calls := by
    simp [runAll, List.forM_cons]
  rw [hcons, EStateM.run_bind, UpdateDocCall.updateDoc_run] at h
  unfold updateDocCall
  cases hrecorded : (UpdateDocCall.ofEnv c.env c.params).recorded w.callerCaseData with
  | error e =>
    rw [hrecorded] at h
    cases h
  | ok caseData =>
    rw [hrecorded] at h
    exact ⟨caseData, _, rfl, rfl, h⟩

end StoringCall

/-- Every converted document has its scanned one. -/
theorem exists_converted {documents : List SscsDocument} {added : List ScannedDocument}
    (h : List.Forall₂ Converts documents added) {document : SscsDocument}
    (hdocument : document ∈ documents) : ∃ scanned ∈ added, Converts document scanned := by
  induction h with
  | nil => cases hdocument
  | cons hconverts _ ih =>
    rcases List.mem_cons.mp hdocument with rfl | hmem
    · exact ⟨_, List.mem_cons_self, hconverts⟩
    · obtain ⟨scanned, hscanned, hconverts'⟩ := ih hmem
      exact ⟨scanned, List.mem_cons_of_mem _ hscanned, hconverts'⟩

/-! ## The Flag -/

theorem translationWorkOutstanding_flagTranslation (params : UpdateDocParams)
    (caseData : SscsCaseData) :
    (flagTranslation params caseData).translationWorkOutstanding =
      if params.documentTranslationStatus = some .translationRequired then some "Yes"
      else caseData.translationWorkOutstanding := by
  unfold flagTranslation
  split <;> rfl

/-- Recording a document does not touch the flag. -/
theorem translationWorkOutstanding_updateCaseDataWithNewDoc {clock : Clock}
    {fileName : Option String} {initial final : SscsCaseData}
    {documents : Option (List SscsDocument)}
    (h : updateCaseDataWithNewDoc clock fileName initial documents = .ok final) :
    final.translationWorkOutstanding = initial.translationWorkOutstanding := by
  obtain ⟨name, -, h⟩ := bind_eq_ok.mp h
  by_cases hstatement : isStatement name = true
  · simp only [hstatement, if_true] at h
    obtain ⟨scanned, -, h⟩ := bind_eq_ok.mp h
    obtain rfl := Except.ok.inj h
    rfl
  · simp only [hstatement, Bool.false_eq_true, if_false] at h
    obtain rfl := Except.ok.inj h
    rfl

namespace StoringCall

/-- **The flag after a call**: set by a request, left alone by any other call. -/
theorem translationWorkOutstanding_recorded {c : StoringCall} {initial final : SscsCaseData}
    (h : c.updateDocCall.recorded initial = .ok final) :
    final.translationWorkOutstanding =
      if c.Requests then some "Yes" else initial.translationWorkOutstanding := by
  cases hcase : c.params.caseId with
  | none =>
    obtain rfl := UpdateDocCall.recorded_of_no_case (c := c.updateDocCall) hcase h
    rw [if_neg fun hrequests => by simp [Requests, hcase] at hrequests]
  | some caseId =>
    have hcase' : c.updateDocCall.params.caseId = some caseId := hcase
    obtain ⟨stored, -, h⟩ := bind_eq_ok.mp h
    obtain ⟨logged, -, h⟩ := bind_eq_ok.mp h
    simp only [hcase'] at h
    obtain ⟨withDocument, hwith, h⟩ := bind_eq_ok.mp h
    obtain rfl := Except.ok.inj h
    have hrequests : c.Requests ↔
        c.updateDocCall.params.documentTranslationStatus = some .translationRequired := by
      unfold Requests
      rw [hcase]
      exact and_iff_right rfl
    rw [translationWorkOutstanding_flagTranslation,
      translationWorkOutstanding_updateCaseDataWithNewDoc hwith]
    simp only [hrequests]

/-- **The flag after a run**: set exactly when it was set before, or some call has asked for a
translation. -/
theorem flagged_iff {calls : List StoringCall} {w w' : World}
    (h : (runAll calls).run w = .ok () w') :
    w'.callerCaseData.translationWorkOutstanding = some "Yes" ↔
      w.callerCaseData.translationWorkOutstanding = some "Yes" ∨ ∃ c ∈ calls, c.Requests := by
  induction calls generalizing w with
  | nil =>
    cases h
    simp
  | cons c calls ih =>
    obtain ⟨caseData, w₁, hrecorded, rfl, hrest⟩ := runAll_cons_ok h
    rw [ih hrest, translationWorkOutstanding_recorded hrecorded]
    -- the first call counts among the requests of the whole run
    by_cases hrequests : c.Requests
    · rw [if_pos hrequests]
      exact iff_of_true (Or.inl rfl) (Or.inr ⟨c, List.mem_cons_self, hrequests⟩)
    · rw [if_neg hrequests]
      simp [hrequests]

/-- A run routes what its calls have stored. -/
theorem routedTo_of_runAll {calls : List StoringCall} {w w' : World}
    (h : (runAll calls).run w = .ok () w') :
    RoutedTo (calls.filterMap (·.updateDocCall.statementDocument))
      (calls.filterMap (·.updateDocCall.otherDocument)) w.callerCaseData w'.callerCaseData := by
  induction calls generalizing w with
  | nil =>
    cases h
    exact RoutedTo.refl _
  | cons c calls ih =>
    -- the sequence has returned, so each of its calls has
    obtain ⟨caseData, w₁, hrecorded, rfl, hrest⟩ := runAll_cons_ok h
    have hfirst := UpdateDocCall.routedTo_of_recorded hrecorded
    simp only [UpdateDocCall.filterMap_cons_toList]
    exact hfirst.trans (ih hrest)

/-! ## What the Flag Says -/

/-- The document has the translation status `TRANSLATION_REQUIRED`. -/
def NeedsTranslation (document : SscsDocument) : Prop :=
  ∃ details, document.value = some details ∧
    details.documentTranslationStatus = some .translationRequired

/-- The store puts the requested status on the document. -/
theorem needsTranslation_of_requests {c : StoringCall} {document : SscsDocument}
    (hrequests : c.Requests) (h : c.updateDocCall.document = some document) :
    NeedsTranslation document := by
  obtain ⟨-, hstatus⟩ := hrequests
  unfold UpdateDocCall.document at h
  split at h
  · rename_i stored _ hstored _
    obtain rfl := Option.some.inj h
    -- the store copies the status from the parameters
    have houtcome : PdfStoreService.outcome c.env c.params = .ok (some stored) := hstored
    unfold PdfStoreService.outcome at houtcome
    split at houtcome
    · obtain rfl := Option.some.inj (Except.ok.inj houtcome)
      exact ⟨_, rfl, hstatus⟩
    · cases houtcome
    · split at houtcome <;> cases houtcome
  · cases h

/-- What the flag says of a case after a run. -/
structure FlagBacked (calls : List StoringCall) (final : SscsCaseData) : Prop where
  /-- Some call has asked for a translation. -/
  requested : ∃ c ∈ calls, c.Requests
  /-- A document to be translated is among the SSCS documents, unless every call that asked for
  a translation was for a statement or has stored nothing. -/
  backed : (∃ document ∈ final.sscsDocument.getD [], NeedsTranslation document) ∨
    ∀ c ∈ calls, c.Requests →
      c.updateDocCall.forStatement = true ∨ c.updateDocCall.document = none
  /-- A stored statement is among the scanned documents. -/
  scanned : ∀ c ∈ calls, c.Requests → ∀ document,
    c.updateDocCall.statementDocument = some document →
      ∃ scanned ∈ final.scannedDocuments.getD [], Converts document scanned

/-- **Translation work**: over a run that returns, the flag is backed by a request, and by the
documents that the requests have stored. -/
theorem translationFlag {calls : List StoringCall} {w w' : World}
    (h : (runAll calls).run w = .ok () w')
    (hbefore : w.callerCaseData.translationWorkOutstanding ≠ some "Yes")
    (hafter : w'.callerCaseData.translationWorkOutstanding = some "Yes") :
    FlagBacked calls w'.callerCaseData := by
  have hrouted := routedTo_of_runAll h
  have hrequested : ∃ c ∈ calls, c.Requests := by
    rcases (flagged_iff h).mp hafter with hset | hrequested
    · exact absurd hset hbefore
    · exact hrequested
  refine ⟨hrequested, ?_, ?_⟩
  · by_cases hall : ∀ c ∈ calls, c.Requests →
        c.updateDocCall.forStatement = true ∨ c.updateDocCall.document = none
    · exact Or.inr hall
    · -- some request has stored a document that is not a statement
      push Not at hall
      obtain ⟨c, hc, hrequests, hother, hstored⟩ := hall
      obtain ⟨document, hdocument⟩ := Option.ne_none_iff_exists'.mp hstored
      have hroute : c.updateDocCall.otherDocument = some document := by
        rw [UpdateDocCall.otherDocument, if_neg hother, hdocument]
      refine Or.inl ⟨document, ?_, needsTranslation_of_requests hrequests hdocument⟩
      rw [hrouted.sscs]
      exact List.mem_append_right _ (List.mem_filterMap.mpr ⟨c, hc, hroute⟩)
  · intro c hc _ document hstatement
    obtain ⟨added, hadded, hscanned⟩ := hrouted.scanned
    have hmem : document ∈ calls.filterMap (·.updateDocCall.statementDocument) :=
      List.mem_filterMap.mpr ⟨c, hc, hstatement⟩
    obtain ⟨scanned, hscanned', hconverts⟩ := exists_converted hadded hmem
    rw [hscanned]
    exact ⟨scanned, List.mem_append_right _ hscanned', hconverts⟩

/-- A request to translate the file of the given name. -/
def requestFor (fileName : String) : StoringCall where
  env := .answering
  params :=
    { fileName := some fileName, pdf := [1], caseId := some 1
      documentTranslationStatus := some .translationRequired }

/-- A letter and a statement, both to be translated. -/
def requests : List StoringCall :=
  [requestFor "Letter.pdf", requestFor "Appellant statement 1.pdf"]

theorem flagBacked_requests :
    FlagBacked requests (worldAfter (runAll requests) World.sample).callerCaseData :=
  translationFlag (rfl : (runAll requests).run World.sample = .ok () _) (by decide) (by decide)

/-- A statement sets the flag, and is kept without its translation status. -/
theorem flagged_without_document :
    ¬ ∀ (calls : List StoringCall) (w w' : World), (runAll calls).run w = .ok () w' →
      w.callerCaseData.translationWorkOutstanding ≠ some "Yes" →
      w'.callerCaseData.translationWorkOutstanding = some "Yes" →
        ∃ document ∈ w'.callerCaseData.sscsDocument.getD [], NeedsTranslation document := by
  intro hclaim
  let calls := [requestFor "Appellant statement 1.pdf"]
  obtain ⟨document, hdocument, -⟩ := hclaim calls World.sample
    (worldAfter (runAll calls) World.sample) rfl (by decide) (by decide)
  -- the statement went to the scanned documents
  have hempty :
      (worldAfter (runAll calls) World.sample).callerCaseData.sscsDocument.getD [] = [] := rfl
  rw [hempty] at hdocument
  cases hdocument

end StoringCall

end SscsPdfEmail.Service
