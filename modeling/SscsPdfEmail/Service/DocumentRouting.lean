import SscsPdfEmail.Service.CcdPdf

/-!
# Document Routing

Where a sequence of `updateDoc` calls puts the documents it has stored: statements are converted
and appended to the scanned documents, all others are appended to the SSCS documents, in call
order and each exactly once (`UpdateDocCall.routing_of_callAll`).

`RoutedTo` relates the case data before and after to the statements and the other documents in
between, with everything else unchanged but for the flags that go with a document.  It holds of
one call that records something, and composes (`RoutedTo.trans`), so that of a sequence follows
by induction.  A call without a case id records nothing, and a document that the store did not
keep is in neither list; with a case id, a file name that is null ends the call with an
exception.
-/

namespace SscsPdfEmail.Service

open SscsPdfEmail.Domain
open CcdPdfService

/-! ## Calls -/

/-- A call of `updateDoc`, with the outcome of the `storeDocument` call it makes. -/
structure UpdateDocCall where
  clock : Clock
  params : UpdateDocParams
  stored : Except JavaException (Option SscsDocument)

namespace UpdateDocCall

variable (c : UpdateDocCall)

def call : Call SscsCaseData :=
  updateDoc c.clock (fun _ => fromExcept c.stored) c.params

/-- Calls one after another, all on the case data object of the caller. -/
def callAll (calls : List UpdateDocCall) : Call Unit :=
  calls.forM fun c => do
    let _ ← c.call

/-- The call made through `PdfStoreService`. -/
def ofEnv (env : Env) (params : UpdateDocParams) : UpdateDocCall where
  clock := env.clock
  params := params
  stored := PdfStoreService.outcome env params

theorem updateDoc_run_eq (env : Env) (params : UpdateDocParams) (w : World) :
    (updateDoc env.clock (PdfStoreService.storeDocument env) params).run w =
      (ofEnv env params).call.run (w.addUploads (PdfStoreService.uploadsOf env params)) := by
  unfold call updateDoc
  rw [EStateM.run_bind, EStateM.run_bind, PdfStoreService.storeDocument_run, run_fromExcept]
  rfl

/-! ## One call -/

/-- The document that the call has to record: it was stored, and there is a case id. -/
def document : Option SscsDocument :=
  match c.stored, c.params.caseId with
  | .ok (some document), some _ => some document
  | _, _ => none

/-- Whether the file of the call is a statement. -/
def forStatement : Bool :=
  match c.params.fileName with
  | some fileName => isStatement fileName
  | none => false

/-- The document, if it is to be scanned. -/
def statementDocument : Option SscsDocument := if c.forStatement then c.document else none

/-- The document, if it is not. -/
def otherDocument : Option SscsDocument := if c.forStatement then none else c.document

/-- The case data that a call returns, from the case data object it was given. -/
def recorded (caseData : SscsCaseData) : Except JavaException SscsCaseData := do
  let stored ← c.stored
  recordDocument c.clock c.params stored caseData

/-- A call that returns hands back the caller's object, changed in place; one that throws
leaves it as it was. -/
theorem call_run (w : World) :
    c.call.run w =
      match c.recorded w.callerCaseData with
      | .ok caseData => .ok caseData { w with callerCaseData := caseData }
      | .error e => .error e w := by
  unfold call updateDoc recorded
  -- an exception of the store comes before the object is touched
  cases c.stored with
  | error e => rfl
  | ok stored =>
    show EStateM.run
        (fromExcept (recordDocument c.clock c.params stored w.callerCaseData) >>= _) w =
      match recordDocument c.clock c.params stored w.callerCaseData with
      | .ok _ => _
      | .error _ => _
    cases recordDocument c.clock c.params stored w.callerCaseData <;> rfl

/-- A call returns what it has recorded. -/
theorem resultOf_call (w : World) :
    resultOf c.call w = c.recorded w.callerCaseData := by
  unfold resultOf
  rw [call_run]
  cases c.recorded w.callerCaseData <;> rfl

/-- `updateDoc` through `PdfStoreService`. -/
theorem updateDoc_run (env : Env) (params : UpdateDocParams) (w : World) :
    (updateDoc env.clock (PdfStoreService.storeDocument env) params).run w =
      let stored := w.addUploads (PdfStoreService.uploadsOf env params)
      match (ofEnv env params).recorded w.callerCaseData with
      | .ok caseData => .ok caseData { stored with callerCaseData := caseData }
      | .error e => .error e stored := by
  rw [updateDoc_run_eq, call_run]
  rfl

end UpdateDocCall

/-! ## Routing -/

/-- The scanned document carries over what it shares with the stored one. -/
def Converts (document : SscsDocument) (scanned : ScannedDocument) : Prop :=
  ∃ details scannedDetails, document.value = some details ∧
    scanned.value = some scannedDetails ∧
    scannedDetails.fileName = details.documentFileName ∧
    scannedDetails.url = details.documentLink ∧
    scannedDetails.originalSenderOtherPartyId = details.originalSenderOtherPartyId ∧
    scannedDetails.originalSenderOtherPartyName = details.originalSenderOtherPartyName

/-- What calls make of a case data object: statements go to the scanned documents, the other
documents to the SSCS documents, in order, and little else changes. -/
structure RoutedTo (statements others : List SscsDocument) (initial final : SscsCaseData) :
    Prop where
  scanned : ∃ added, List.Forall₂ Converts statements added ∧
    final.scannedDocuments.getD [] = initial.scannedDocuments.getD [] ++ added
  sscs : final.sscsDocument.getD [] = initial.sscsDocument.getD [] ++ others
  frame : final = { initial with
    scannedDocuments := final.scannedDocuments
    sscsDocument := final.sscsDocument
    evidenceHandled := final.evidenceHandled
    translationWorkOutstanding := final.translationWorkOutstanding }

namespace RoutedTo

variable {statements statements' others others' : List SscsDocument}
  {initial middle final : SscsCaseData}

theorem refl (caseData : SscsCaseData) : RoutedTo [] [] caseData caseData where
  scanned := ⟨[], List.Forall₂.nil, (List.append_nil _).symm⟩
  sscs := (List.append_nil _).symm
  frame := rfl

theorem trans (h : RoutedTo statements others initial middle)
    (h' : RoutedTo statements' others' middle final) :
    RoutedTo (statements ++ statements') (others ++ others') initial final where
  scanned := by
    obtain ⟨added, hadded, hscanned⟩ := h.scanned
    obtain ⟨added', hadded', hscanned'⟩ := h'.scanned
    -- the later documents are appended to the earlier ones
    refine ⟨added ++ added', List.rel_append hadded hadded', ?_⟩
    rw [hscanned', hscanned, List.append_assoc]
  sscs := by rw [h'.sscs, h.sscs, List.append_assoc]
  frame := by
    rw [h'.frame, h.frame]

/-- Setting the translation flag routes nothing. -/
theorem flagTranslation (h : RoutedTo statements others initial final)
    (params : UpdateDocParams) :
    RoutedTo statements others initial (CcdPdfService.flagTranslation params final) := by
  unfold CcdPdfService.flagTranslation
  split
  · exact ⟨h.scanned, h.sscs, congrArg
      (fun caseData => { caseData with translationWorkOutstanding := some "Yes" }) h.frame⟩
  · exact h

end RoutedTo

/-- The conversion of a stored document, if there is one. -/
theorem buildScannedDocListFromSscsDoc_ok {clock : Clock} {document : Option SscsDocument}
    {scanned : List ScannedDocument}
    (h : buildScannedDocListFromSscsDoc clock (document.map fun document => [document]) =
      .ok scanned) : List.Forall₂ Converts document.toList scanned := by
  cases document with
  -- a document that was not stored leaves the list as it is
  | none =>
    cases h
    exact List.Forall₂.nil
  | some document =>
    simp only [Option.map_some, buildScannedDocListFromSscsDoc] at h
    obtain ⟨details, hdetails, h⟩ := bind_eq_ok.mp h
    obtain ⟨dateAdded, -, h⟩ := bind_eq_ok.mp h
    obtain rfl := Except.ok.inj h
    -- the scanned document takes its fields from the stored one
    have hvalue := nonNull_eq_ok.mp hdetails
    have hconverts : Converts document (scannedDocumentOf details dateAdded) :=
      ⟨details, _, hvalue, rfl, rfl, rfl, rfl, rfl⟩
    exact List.Forall₂.cons hconverts List.Forall₂.nil

/-- Recording a stored document, or none, under a file name. -/
theorem updateCaseDataWithNewDoc_ok {clock : Clock} {fileName : Option String}
    {initial final : SscsCaseData} {document : Option SscsDocument}
    (h : updateCaseDataWithNewDoc clock fileName initial
      (document.map fun document => [document]) = .ok final) :
    ∃ name, fileName = some name ∧
      RoutedTo (if isStatement name then document.toList else [])
        (if isStatement name then [] else document.toList) initial final := by
  obtain ⟨name, hname, h⟩ := bind_eq_ok.mp h
  refine ⟨name, nonNull_eq_ok.mp hname, ?_⟩
  by_cases hstatement : isStatement name = true
  · -- a statement goes to the scanned documents, the other list stays
    simp only [hstatement, if_true] at h ⊢
    obtain ⟨scanned, hscanned, h⟩ := bind_eq_ok.mp h
    obtain rfl := Except.ok.inj h
    exact ⟨⟨scanned, buildScannedDocListFromSscsDoc_ok hscanned, rfl⟩,
      (List.append_nil _).symm, rfl⟩
  · simp only [hstatement, Bool.false_eq_true, if_false] at h ⊢
    obtain rfl := Except.ok.inj h
    have hlist : (document.map fun document => [document]).getD [] = document.toList := by
      cases document <;> rfl
    rw [hlist]
    exact ⟨⟨[], List.Forall₂.nil, (List.append_nil _).symm⟩, rfl, rfl⟩

namespace UpdateDocCall

/-- A call without a case id changes nothing. -/
theorem recorded_of_no_case {c : UpdateDocCall} {initial final : SscsCaseData}
    (hcase : c.params.caseId = none) (h : c.recorded initial = .ok final) : final = initial := by
  obtain ⟨stored, -, h⟩ := bind_eq_ok.mp h
  obtain ⟨logged, -, h⟩ := bind_eq_ok.mp h
  simp only [hcase] at h
  exact (Except.ok.inj h).symm

/-- One call routes the document it has stored, if any. -/
theorem routedTo_of_recorded {c : UpdateDocCall} {initial final : SscsCaseData}
    (h : c.recorded initial = .ok final) :
    RoutedTo c.statementDocument.toList c.otherDocument.toList initial final := by
  cases hcase : c.params.caseId with
  | none =>
    -- without a case id there is nothing to record
    obtain rfl := recorded_of_no_case hcase h
    have hdocument : c.document = none := by
      unfold document
      rw [hcase]
      split <;> first | rfl | contradiction
    simp only [statementDocument, otherDocument, hdocument, ite_self]
    exact RoutedTo.refl _
  | some caseId =>
    obtain ⟨stored, hstored, h⟩ := bind_eq_ok.mp h
    obtain ⟨logged, -, h⟩ := bind_eq_ok.mp h
    simp only [hcase] at h
    obtain ⟨withDocument, hwith, h⟩ := bind_eq_ok.mp h
    obtain rfl := Except.ok.inj h
    obtain ⟨name, hname, hrouted⟩ := updateCaseDataWithNewDoc_ok hwith
    have hdocument : c.document = stored := by
      unfold document
      rw [hstored, hcase]
      cases stored <;> rfl
    have hstatement : c.forStatement = isStatement name := by
      simp only [forStatement, hname]
    have hrouted' := hrouted.flagTranslation c.params
    unfold statementDocument otherDocument
    rw [hdocument, hstatement]
    cases hs : isStatement name with
    | true => simpa only [hs, if_true, Option.toList_none] using hrouted'
    | false => simpa only [hs, Bool.false_eq_true, if_false, Option.toList_none] using hrouted'

/-! ## Sequences of calls -/

/-- What is promised of a sequence of calls on a case data object. -/
structure Routing (calls : List UpdateDocCall) (initial final : SscsCaseData) : Prop where
  /-- Statements are scanned, the others are not, in call order; nothing else changes but
  the two flags. -/
  routed : RoutedTo (calls.filterMap statementDocument) (calls.filterMap otherDocument)
    initial final
  /-- Each document is in exactly one of the two lists. -/
  partition : (calls.filterMap document).Perm
    (calls.filterMap statementDocument ++ calls.filterMap otherDocument)
  /-- Calls without a case id change nothing. -/
  skipped : ∀ c ∈ calls, c.params.caseId = none →
    ∀ w, (worldAfter c.call w).callerCaseData = w.callerCaseData

theorem filterMap_cons_toList {α β : Type} (f : α → Option β) (a : α) (l : List α) :
    (a :: l).filterMap f = (f a).toList ++ l.filterMap f := by
  cases hf : f a <;> simp [hf]

theorem filterMap_document_perm (calls : List UpdateDocCall) :
    (calls.filterMap document).Perm
      (calls.filterMap statementDocument ++ calls.filterMap otherDocument) := by
  induction calls with
  | nil => exact List.Perm.nil
  | cons c calls ih =>
    simp only [filterMap_cons_toList]
    cases hs : c.forStatement with
    | true =>
      have hstatement : c.statementDocument = c.document := by simp [statementDocument, hs]
      have hother : c.otherDocument = none := by simp [otherDocument, hs]
      rw [hstatement, hother, List.append_assoc]
      exact ih.append_left c.document.toList
    | false =>
      have hstatement : c.statementDocument = none := by simp [statementDocument, hs]
      have hother : c.otherDocument = c.document := by simp [otherDocument, hs]
      rw [hstatement, hother]
      -- the document of this call comes after all the scanned ones
      exact (ih.append_left c.document.toList).trans (List.perm_append_comm_assoc _ _ _)

theorem callerCaseData_of_no_case {c : UpdateDocCall} (hcase : c.params.caseId = none)
    (w : World) : (worldAfter c.call w).callerCaseData = w.callerCaseData := by
  unfold worldAfter
  rw [call_run]
  cases hrecorded : c.recorded w.callerCaseData with
  | error e => rfl
  | ok caseData => exact recorded_of_no_case hcase hrecorded

theorem routedTo_of_callAll {calls : List UpdateDocCall} {w w' : World}
    (h : (callAll calls).run w = .ok () w') :
    RoutedTo (calls.filterMap statementDocument) (calls.filterMap otherDocument)
      w.callerCaseData w'.callerCaseData := by
  induction calls generalizing w with
  | nil =>
    cases h
    exact RoutedTo.refl _
  | cons c calls ih =>
    have hcons : callAll (c :: calls) = c.call >>= fun _ => callAll calls := by
      simp [callAll, List.forM_cons]
    rw [hcons, EStateM.run_bind, call_run] at h
    cases hrecorded : c.recorded w.callerCaseData with
    | error e =>
      -- the sequence has returned, so no call in it has thrown
      rw [hrecorded] at h
      cases h
    | ok caseData =>
      rw [hrecorded] at h
      have hfirst := routedTo_of_recorded hrecorded
      have hrest := ih h
      simp only [filterMap_cons_toList]
      exact hfirst.trans hrest

/-- **Document routing**: calls that return lose and duplicate no stored document. -/
theorem routing_of_callAll {calls : List UpdateDocCall} {w w' : World}
    (h : (callAll calls).run w = .ok () w') :
    Routing calls w.callerCaseData w'.callerCaseData where
  routed := routedTo_of_callAll h
  partition := filterMap_document_perm calls
  skipped _ _ hcase w := callerCaseData_of_no_case hcase w

/-- A call for a file of the given name, through a `PdfStoreService` that answers. -/
def sample (fileName : String) (caseId : Option ℤ) : UpdateDocCall :=
  ofEnv .answering { fileName := some fileName, pdf := [1], caseId := caseId }

/-- A statement, another document, and a call without a case id. -/
def samples : List UpdateDocCall :=
  [sample "Appellant statement 1.pdf" (some 1), sample "Letter.pdf" (some 1),
    sample "Letter.pdf" none]

theorem routing_of_callAll_samples :
    Routing samples World.sample.callerCaseData
      (worldAfter (callAll samples) World.sample).callerCaseData := by
  have hreturns : (callAll samples).run World.sample =
      .ok () (worldAfter (callAll samples) World.sample) := rfl
  exact routing_of_callAll hreturns

end UpdateDocCall

end SscsPdfEmail.Service
