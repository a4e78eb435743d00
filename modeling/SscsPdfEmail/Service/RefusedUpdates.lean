import SscsPdfEmail.Service.DocumentRouting
import SscsPdfEmail.Service.CorrespondenceRuns

/-!
# Updates That CCD Refuses

`mergeDocIntoCcd` and `mergeCorrespondenceIntoCcd` change the case data object of the caller in
place and then submit it.  When CCD refuses the update they carry on, and the object keeps the
change; a later call with the same object submits it again (`refusedUpdatesKept`).

So an attempt that is repeated until CCD accepts it adds its document, or its entry, once for
every attempt.  `RefusedAttempts` is a sequence of calls each of which submits one update that is
refused. The object grows by each of them while the stored case stays as it was, and the accepted
attempt submits all of it.  The other operations are not concerned: their consumer is applied to
a fresh copy, which a refused update throws away.
-/

namespace SscsPdfEmail.Service

open SscsPdfEmail.Domain
open CcdPdfService

/-! ## Attempts -/

/-- A call that submits one update, which CCD accepts or refuses. -/
def SubmitsOne (x : Call Unit) (accepted : Bool) (w w' : World) : Prop :=
  worldAfter x w = w' ∧
    ∃ update, w'.updates = w.updates ++ [update] ∧ update.accepted = accepted

theorem SubmitsOne.eq_addUpdate {x : Call Unit} {accepted : Bool} {w w' w₁ : World}
    {update : CcdUpdate} (h : SubmitsOne x accepted w w')
    (hx : worldAfter x w = w₁.addUpdate update) (hw₁ : w₁.updates = w.updates) :
    w' = w₁.addUpdate update ∧ update.accepted = accepted := by
  obtain ⟨hw', submitted, hupdates, haccepted⟩ := h
  rw [hx] at hw'
  subst hw'
  -- the one update of the call is the one that was added
  have hlast : w.updates ++ [update] = w.updates ++ [submitted] := by
    rw [← hw₁] at hupdates ⊢
    exact hupdates
  obtain rfl := List.head_eq_of_cons_eq (List.append_cancel_left hlast)
  exact ⟨rfl, haccepted⟩

theorem SubmitsOne.updates_ne {x : Call Unit} {accepted : Bool} {w w' : World}
    (h : SubmitsOne x accepted w w') : (worldAfter x w).updates ≠ w.updates := by
  obtain ⟨rfl, submitted, hupdates, -⟩ := h
  rw [hupdates]
  simp

/-- Calls one after another, each of which submits an update that CCD refuses. -/
inductive RefusedAttempts {α : Type} (call : α → Call Unit) : World → List α → World → Prop where
  | nil (w : World) : RefusedAttempts call w [] w
  | cons {a : α} {attempts : List α} {w w₁ w₂ : World} :
      SubmitsOne (call a) false w w₁ → RefusedAttempts call w₁ attempts w₂ →
        RefusedAttempts call w (a :: attempts) w₂

/-! ## Documents -/

/-- The overloads of `mergeDocIntoCcd`, with their arguments. -/
inductive MergeDocOperation where
  | ofParams (params : UpdateDocParams)
  | untyped (fileName : Option String) (pdf : Bytes) (caseId : Option ℤ)
  | typed (fileName : Option String) (pdf : Bytes) (caseId : Option ℤ)
      (documentType : Option String)
  | described (fileName : Option String) (pdf : Bytes) (caseId : Option ℤ)
      (description : String) (documentType : Option String)

/-- A call of `mergeDocIntoCcd`, with the answers that the external systems give to it. -/
structure MergeDoc where
  env : Env
  operation : MergeDocOperation

namespace MergeDoc

variable (m : MergeDoc)

/-- The overload that is called, its return value dropped. -/
def call : Call Unit := do
  let _ ←
    match m.operation with
    | .ofParams params => mergeDocIntoCcd m.env params
    | .untyped fileName pdf caseId => mergeDocIntoCcdUntyped m.env fileName pdf caseId
    | .typed fileName pdf caseId documentType =>
      mergeDocIntoCcdTyped m.env fileName pdf caseId documentType
    | .described fileName pdf caseId description documentType =>
      mergeDocIntoCcdDescribed m.env fileName pdf caseId description documentType

/-- The parameters that reach `updateDoc`. -/
def params : UpdateDocParams :=
  match m.operation with
  | .ofParams params => params
  | .untyped fileName pdf caseId => { fileName := fileName, pdf := pdf, caseId := caseId }
  | .typed fileName pdf caseId documentType | .described fileName pdf caseId _ documentType =>
    { fileName := fileName, pdf := pdf, caseId := caseId, documentType := documentType }

/-- The description of the update. -/
def description : String :=
  match m.operation with
  | .described _ _ _ description _ => description
  | _ => "Uploaded document into SSCS"

/-- The `updateDoc` call inside. -/
def updateDocCall : UpdateDocCall := .ofEnv m.env m.params

/-- The overloads differ in their parameters only. -/
theorem call_eq : m.call = (do
    let _ ← updateDoc m.env.clock (PdfStoreService.storeDocument m.env) m.params
    let _ ← updateCaseInCcd m.env (← get).callerCaseData m.params.caseId .uploadDocument
      m.description) := by
  unfold call params description
  cases m.operation <;>
    simp only [mergeDocIntoCcd, mergeDocIntoCcdUntyped, mergeDocIntoCcdTyped,
      mergeDocIntoCcdDescribed, updateAndMerge, bind_assoc, pure_bind]

/-- The update that is submitted for recorded case data. -/
def update (caseData : SscsCaseData) : CcdUpdate where
  caseId := m.params.caseId
  eventType := .uploadDocument
  summary := "SSCS - upload document event"
  description := m.description
  caseData := caseData
  accepted := m.env.accepts

/-- The world of a call that has stored its file. -/
def stored (w : World) : World :=
  w.addUploads (PdfStoreService.uploadsOf m.env m.params)

/-- A call records the document in the caller's object and submits that object, unless
recording throws. -/
theorem worldAfter_call (w : World) :
    worldAfter m.call w =
      match m.updateDocCall.recorded w.callerCaseData with
      | .ok caseData =>
        { m.stored w with callerCaseData := caseData }.addUpdate (m.update caseData)
      | .error _ => m.stored w := by
  rw [call_eq, worldAfter_bind, UpdateDocCall.updateDoc_run]
  unfold updateDocCall
  -- once the document is recorded, nothing but CCD can stop the update
  cases (UpdateDocCall.ofEnv m.env m.params).recorded w.callerCaseData with
  | error e => rfl
  | ok caseData =>
    simp only [worldAfter_get_bind, worldAfter_bind_pure, updateCaseInCcd, worldAfter_carryOn,
      Ccd.updateCase, Ccd.worldAfter_submit]
    rfl

/-- A call that submits an update has recorded its document in the caller's object, and the
update holds that object. -/
theorem recorded_of_submitsOne {accepted : Bool} {w w' : World}
    (h : SubmitsOne m.call accepted w w') :
    m.updateDocCall.recorded w.callerCaseData = .ok w'.callerCaseData ∧
      w'.caseData = (if accepted then w'.callerCaseData else w.caseData) ∧
      ∃ update, w'.updates = w.updates ++ [update] ∧ update.caseData = w'.callerCaseData := by
  have hcall := m.worldAfter_call w
  -- a call that submits has recorded its document first
  cases hrecorded : m.updateDocCall.recorded w.callerCaseData with
  | error e =>
    rw [hrecorded] at hcall
    exact absurd (congrArg World.updates hcall) h.updates_ne
  | ok caseData =>
    rw [hrecorded] at hcall
    obtain ⟨rfl, rfl⟩ := h.eq_addUpdate hcall rfl
    exact ⟨rfl, rfl, _, rfl, rfl⟩

theorem routedTo_of_submitsOne {accepted : Bool} {w w' : World}
    (h : SubmitsOne m.call accepted w w') :
    RoutedTo m.updateDocCall.statementDocument.toList m.updateDocCall.otherDocument.toList
      w.callerCaseData w'.callerCaseData :=
  UpdateDocCall.routedTo_of_recorded (m.recorded_of_submitsOne h).1

/-- The statements and the other documents of a sequence of calls. -/
def statements (ms : List MergeDoc) : List SscsDocument :=
  ms.flatMap (·.updateDocCall.statementDocument.toList)

def others (ms : List MergeDoc) : List SscsDocument :=
  ms.flatMap (·.updateDocCall.otherDocument.toList)

/-- Refused attempts leave the stored case alone and pile up in the caller's object. -/
theorem routedTo_of_refused {ms : List MergeDoc} {w w' : World}
    (h : RefusedAttempts call w ms w') :
    RoutedTo (statements ms) (others ms) w.callerCaseData w'.callerCaseData ∧
      w'.caseData = w.caseData := by
  induction h with
  | nil w => exact ⟨RoutedTo.refl _, rfl⟩
  | cons hfirst _ ih =>
    obtain ⟨hrouted, hcase⟩ := ih
    -- by induction on the attempts, the object growing with each
    refine ⟨(routedTo_of_submitsOne _ hfirst).trans hrouted, ?_⟩
    rw [hcase]
    exact (recorded_of_submitsOne _ hfirst).2.1

end MergeDoc

/-! ## E-mails -/

/-- A call of `mergeCorrespondenceIntoCcd`. -/
def EmailMerge : Type := { m : Merge // m.generation = .v1 ∧ m.notification = .email }

namespace EmailMerge

variable (common : SscsCommon)

def call (m : EmailMerge) : Call Unit := m.1.call common

/-- The entry merged by a call. -/
def entry (m : EmailMerge) : Option Correspondence := m.1.entry

/-- A call that submits an update has merged its entry into the caller's object, and the
update holds that object. -/
theorem merged_of_submitsOne {m : EmailMerge} {accepted : Bool} {w w' : World}
    (h : SubmitsOne (m.call common) accepted w w') :
    w'.callerCaseData =
        CcdNotificationsPdfService.addCorrespondences common m.entry.toList w.callerCaseData ∧
      w'.caseData = (if accepted then w'.callerCaseData else w.caseData) ∧
      ∃ update, w'.updates = w.updates ++ [update] ∧ update.caseData = w'.callerCaseData := by
  obtain ⟨m, hg, hn⟩ := m
  rcases m.worldAfter_call common w with ⟨-, hcall⟩ | ⟨-, update, hupdate, hcall⟩
  · exact absurd (congrArg World.updates hcall) h.updates_ne
  · obtain ⟨rfl, rfl⟩ := h.eq_addUpdate hcall rfl
    obtain ⟨entries, hentries, hdata⟩ := hupdate.caseData
    -- the object that is changed and the data that are submitted are the same
    have hcaller : m.callerAfter common w =
        CcdNotificationsPdfService.addCorrespondences common entries w.callerCaseData := by
      simp only [Merge.callerAfter, hg, hn, hentries]
    have hsubmitted : update.caseData =
        CcdNotificationsPdfService.addCorrespondences common entries w.callerCaseData := by
      rw [hdata]
      simp only [Merge.apply, Merge.base, Merge.letterType, hg, hn]
    rw [m.entries_eq hentries] at hcaller hsubmitted
    have hobject : update.caseData = m.callerAfter common w := hsubmitted.trans hcaller.symm
    refine ⟨hcaller, ?_, update, rfl, hobject⟩
    show (if update.accepted then update.caseData else w.caseData) =
      if update.accepted then m.callerAfter common w else w.caseData
    rw [hobject]

/-- Refused attempts leave the stored case alone and pile up in the caller's object. -/
theorem merged_of_refused {ms : List EmailMerge} {w w' : World}
    (h : RefusedAttempts (call common) w ms w') :
    w'.callerCaseData =
        { w.callerCaseData with
          correspondence := mergedList common w.callerCaseData.correspondence (ms.map entry) } ∧
      w'.caseData = w.caseData := by
  induction h with
  | nil w => exact ⟨rfl, rfl⟩
  | cons hfirst _ ih =>
    obtain ⟨hmerged, hcase⟩ := ih
    obtain ⟨hfirst, hstored, -⟩ := merged_of_submitsOne common hfirst
    refine ⟨?_, hcase.trans hstored⟩
    -- merging one entry and then the others is merging them all
    rw [hmerged, hfirst, List.map_cons, ← mergedList_cons]
    rfl

end EmailMerge

/-! ## Failure and retry -/

/-- New entries of a document list, counted over both lists of a case. -/
def documentCount (caseData : SscsCaseData) : ℕ :=
  (caseData.scannedDocuments.getD []).length + (caseData.sscsDocument.getD []).length

theorem RoutedTo.documentCount_eq {statements others : List SscsDocument}
    {initial final : SscsCaseData} (h : RoutedTo statements others initial final) :
    documentCount final = documentCount initial + (statements.length + others.length) := by
  obtain ⟨added, hadded, hscanned⟩ := h.scanned
  have hlength := hadded.length_eq
  simp only [documentCount, hscanned, h.sscs, List.length_append]
  omega

theorem MergeDoc.length_statements_others {ms : List MergeDoc}
    (hms : ∀ m ∈ ms, m.updateDocCall.document.isSome) :
    (statements ms).length + (others ms).length = ms.length := by
  induction ms with
  | nil => rfl
  | cons m ms ih =>
    have hrest := ih fun m' hm' => hms m' (List.mem_cons_of_mem m hm')
    obtain ⟨document, hdocument⟩ := Option.isSome_iff_exists.mp (hms m List.mem_cons_self)
    -- a document is in one of the two lists, never in both
    have hone : m.updateDocCall.statementDocument.toList.length +
        m.updateDocCall.otherDocument.toList.length = 1 := by
      unfold UpdateDocCall.statementDocument UpdateDocCall.otherDocument
      rw [hdocument]
      cases m.updateDocCall.forStatement <;> rfl
    simp only [statements, others, List.flatMap_cons, List.length_append, List.length_cons]
      at hrest ⊢
    omega

/-- What becomes of the caller's object when CCD refuses updates: it keeps the change of each
of them, and the next accepted update submits them all. -/
structure RefusedUpdatesKept (common : SscsCommon) : Prop where
  /-- After a refused document the object holds the document and is what was submitted; the
  stored case is not touched. -/
  refusedDocument : ∀ (m : MergeDoc) (w w' : World), SubmitsOne m.call false w w' →
    RoutedTo m.updateDocCall.statementDocument.toList m.updateDocCall.otherDocument.toList
        w.callerCaseData w'.callerCaseData ∧
      w'.caseData = w.caseData ∧
      ∃ update, w'.updates = w.updates ++ [update] ∧ update.caseData = w'.callerCaseData
  /-- So is it after a refused e-mail. -/
  refusedEmail : ∀ (m : EmailMerge) (w w' : World), SubmitsOne (m.call common) false w w' →
    w'.callerCaseData =
        CcdNotificationsPdfService.addCorrespondences common m.entry.toList w.callerCaseData ∧
      w'.caseData = w.caseData ∧
      ∃ update, w'.updates = w.updates ++ [update] ∧ update.caseData = w'.callerCaseData
  /-- Refused documents and an accepted one: CCD gets the documents of all the attempts. -/
  retriedDocument : ∀ (ms : List MergeDoc) (last : MergeDoc) (w w₁ w₂ : World),
    RefusedAttempts MergeDoc.call w ms w₁ → SubmitsOne last.call true w₁ w₂ →
      RoutedTo (MergeDoc.statements (ms ++ [last])) (MergeDoc.others (ms ++ [last]))
        w.callerCaseData w₂.caseData
  /-- Refused e-mails and an accepted one: CCD gets the entries of all the attempts. -/
  retriedEmail : ∀ (ms : List EmailMerge) (last : EmailMerge) (w w₁ w₂ : World),
    RefusedAttempts (EmailMerge.call common) w ms w₁ →
    SubmitsOne (last.call common) true w₁ w₂ →
      MergedList common w.callerCaseData.correspondence ((ms ++ [last]).map EmailMerge.entry)
        w₂.caseData.correspondence
  /-- After `k` refused attempts there are `k + 1` new documents, if each file was stored. -/
  documentCount : ∀ (ms : List MergeDoc) (last : MergeDoc) (w w₁ w₂ : World),
    RefusedAttempts MergeDoc.call w ms w₁ → SubmitsOne last.call true w₁ w₂ →
    (∀ m ∈ ms ++ [last], m.updateDocCall.document.isSome) →
      documentCount w₂.caseData = documentCount w.callerCaseData + (ms.length + 1)
  /-- After `k` refused attempts there are `k + 1` new correspondences, if each PDF was
  stored. -/
  emailCount : ∀ (ms : List EmailMerge) (last : EmailMerge) (w w₁ w₂ : World),
    RefusedAttempts (EmailMerge.call common) w ms w₁ →
    SubmitsOne (last.call common) true w₁ w₂ →
    (∀ m ∈ ms ++ [last], m.entry.isSome) →
      w₂.caseData.correspondences.length =
        w.callerCaseData.correspondences.length + (ms.length + 1)

theorem routedTo_of_retry {ms : List MergeDoc} {last : MergeDoc} {w w₁ w₂ : World}
    (hrefused : RefusedAttempts MergeDoc.call w ms w₁)
    (haccepted : SubmitsOne last.call true w₁ w₂) :
    RoutedTo (MergeDoc.statements (ms ++ [last])) (MergeDoc.others (ms ++ [last]))
      w.callerCaseData w₂.caseData := by
  have hlast := MergeDoc.routedTo_of_submitsOne last haccepted
  -- the accepted attempt makes the object the stored case
  have hstored : w₂.caseData = w₂.callerCaseData :=
    (last.recorded_of_submitsOne haccepted).2.1
  have hall := (MergeDoc.routedTo_of_refused hrefused).1.trans hlast
  rw [hstored]
  simpa [MergeDoc.statements, MergeDoc.others] using hall

theorem mergedList_of_retry (common : SscsCommon) {ms : List EmailMerge} {last : EmailMerge}
    {w w₁ w₂ : World} (hrefused : RefusedAttempts (EmailMerge.call common) w ms w₁)
    (haccepted : SubmitsOne (last.call common) true w₁ w₂) :
    MergedList common w.callerCaseData.correspondence ((ms ++ [last]).map EmailMerge.entry)
      w₂.caseData.correspondence := by
  -- the accepted attempt changes the object as a refused one would
  obtain ⟨hmerged, hstored, -⟩ := EmailMerge.merged_of_submitsOne common haccepted
  obtain ⟨hbefore, -⟩ := EmailMerge.merged_of_refused common hrefused
  have hfinal : w₂.caseData.correspondence =
      mergedList common w.callerCaseData.correspondence
        ((ms ++ [last]).map EmailMerge.entry) := by
    rw [List.map_append, List.map_singleton, mergedList_concat]
    calc w₂.caseData.correspondence
        = w₂.callerCaseData.correspondence := by
          rw [hstored]
          rfl
      _ = some (common.sortReverseOrder
            (w₁.callerCaseData.correspondence.getD [] ++ last.entry.toList)) := by
          rw [hmerged]
          rfl
      _ = _ := by rw [hbefore]
  rw [hfinal]
  exact mergedList_spec common _ _

/-- **Refused updates**: the caller's object keeps every change that CCD has refused. -/
theorem refusedUpdatesKept (common : SscsCommon) : RefusedUpdatesKept common where
  refusedDocument m w w' h := by
    obtain ⟨-, hstored, hupdate⟩ := m.recorded_of_submitsOne h
    exact ⟨m.routedTo_of_submitsOne h, hstored, hupdate⟩
  refusedEmail m w w' h := by
    obtain ⟨hmerged, hstored, hupdate⟩ := EmailMerge.merged_of_submitsOne common h
    exact ⟨hmerged, hstored, hupdate⟩
  retriedDocument ms last w w₁ w₂ hrefused haccepted := routedTo_of_retry hrefused haccepted
  retriedEmail ms last w w₁ w₂ hrefused haccepted :=
    mergedList_of_retry common hrefused haccepted
  documentCount ms last w w₁ w₂ hrefused haccepted hdocuments := by
    have hcount := (routedTo_of_retry hrefused haccepted).documentCount_eq
    -- each attempt has stored a document, which is in one list or the other
    have hlength := MergeDoc.length_statements_others hdocuments
    rw [hlength, List.length_append] at hcount
    exact hcount
  emailCount ms last w w₁ w₂ hrefused haccepted hentries := by
    have hperm := (mergedList_of_retry common hrefused haccepted).perm.length_eq
    have hsome : (((ms ++ [last]).map EmailMerge.entry).filterMap id).length =
        (ms ++ [last]).length := by
      rw [List.filterMap_map, List.filterMap_length_eq_length]
      exact hentries
    rw [List.length_append, hsome, List.length_append] at hperm
    exact hperm

/-- An environment in which CCD refuses every update. -/
def refusingCcd : Env := { Env.answering with ccdUpdate := .error .ccd }

/-- A letter that CCD refuses and takes when it is sent again is in the case twice. -/
example :
    let attempt (env : Env) : MergeDoc := ⟨env, .untyped (some "Letter.pdf") [1] (some 1)⟩
    let refused := worldAfter (attempt refusingCcd).call .sample
    let retried := worldAfter (attempt .answering).call refused
    RefusedAttempts MergeDoc.call .sample [attempt refusingCcd] refused ∧
      SubmitsOne (attempt .answering).call true refused retried ∧
      documentCount refused.caseData = 0 ∧ documentCount retried.caseData = 2 := by
  intro attempt refused retried
  refine ⟨?_, ⟨rfl, _, rfl, rfl⟩, by decide, by decide⟩
  exact .cons ⟨rfl, _, rfl, rfl⟩ (.nil refused)

/-- A refused update does not leave the caller's object as it was: a document that was
stored stays in it. -/
theorem object_changed_by_refused_update :
    ¬ ∀ (m : MergeDoc) (w w' : World), SubmitsOne m.call false w w' →
      w'.callerCaseData = w.callerCaseData := by
  intro hclaim
  let m : MergeDoc := ⟨refusingCcd, .untyped (some "Letter.pdf") [1] (some 1)⟩
  -- CCD refuses the update, and the call returns
  have hsubmits : SubmitsOne m.call false .sample (worldAfter m.call .sample) :=
    ⟨rfl, _, rfl, rfl⟩
  have hsame := hclaim m .sample _ hsubmits
  revert hsame
  decide

end SscsPdfEmail.Service
