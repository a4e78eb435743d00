import SscsPdfEmail.Service.RefusedUpdates

/-!
# Runs of Document Merges

Calls of `mergeDocIntoCcd` one after another on the same case data object, whatever becomes of
each: it may end with an exception before or after its update, and CCD may accept or refuse the
update.

The object only grows.  The updates are the states that it passes through, and the stored case is
the latest of them that CCD has accepted (`documentRun`).  `Submits` threads the object through
the calls that record something: each starts from the object as the one before has left it,
submits what it makes of it, and the last of these states is the object at the end.  That every
update holds the documents of the updates before it, and is data of the same case, follows by
induction on this relation.
-/

namespace SscsPdfEmail.Service

open SscsPdfEmail.Domain
open CcdPdfService

/-! ## Growing Lists -/

/-- The documents of a case are still there, in their order, before any new ones. -/
structure KeepsDocuments (initial final : SscsCaseData) : Prop where
  scanned : initial.scannedDocuments.getD [] <+: final.scannedDocuments.getD []
  sscs : initial.sscsDocument.getD [] <+: final.sscsDocument.getD []

theorem KeepsDocuments.refl (caseData : SscsCaseData) : KeepsDocuments caseData caseData :=
  ⟨List.prefix_rfl, List.prefix_rfl⟩

theorem KeepsDocuments.trans {initial middle final : SscsCaseData}
    (h : KeepsDocuments initial middle) (h' : KeepsDocuments middle final) :
    KeepsDocuments initial final :=
  ⟨h.scanned.trans h'.scanned, h.sscs.trans h'.sscs⟩

theorem RoutedTo.keepsDocuments {statements others : List SscsDocument}
    {initial final : SscsCaseData} (h : RoutedTo statements others initial final) :
    KeepsDocuments initial final where
  scanned := by
    obtain ⟨added, -, hscanned⟩ := h.scanned
    exact ⟨added, hscanned.symm⟩
  sscs := ⟨others, h.sscs.symm⟩

/-! ## Runs -/

namespace MergeDoc

/-- Calls one after another on the caller's object, exceptions caught by the caller. -/
def run (w : World) (ms : List MergeDoc) : World := ms.foldl (fun w m => worldAfter m.call w) w

/-- The calls of a run that record their document. -/
def recording (caseData : SscsCaseData) : List MergeDoc → List MergeDoc
  | [] => []
  | m :: ms =>
    match m.updateDocCall.recorded caseData with
    | .ok caseData' => m :: recording caseData' ms
    | .error _ => recording caseData ms

/-- The case that CCD stores after updates. -/
def storedAfter (caseData : SscsCaseData) (updates : List CcdUpdate) : SscsCaseData :=
  updates.foldl (fun caseData update => if update.accepted then update.caseData else caseData)
    caseData

theorem worldAfter_call_of_recorded {m : MergeDoc} {w : World} {caseData : SscsCaseData}
    (h : m.updateDocCall.recorded w.callerCaseData = .ok caseData) :
    worldAfter m.call w =
      { m.stored w with callerCaseData := caseData }.addUpdate (m.update caseData) := by
  rw [worldAfter_call, h]

theorem worldAfter_call_of_not_recorded {m : MergeDoc} {w : World} {e : JavaException}
    (h : m.updateDocCall.recorded w.callerCaseData = .error e) :
    worldAfter m.call w = m.stored w := by
  rw [worldAfter_call, h]

/-! ### Uploads and the caller's object -/

theorem uploads_worldAfter_call (m : MergeDoc) (w : World) :
    (worldAfter m.call w).uploads =
      w.uploads ++ PdfStoreService.uploadsOf m.env m.params := by
  -- the file is with its store before anything is recorded
  cases hrecorded : m.updateDocCall.recorded w.callerCaseData with
  | error e =>
    rw [worldAfter_call_of_not_recorded hrecorded]
    rfl
  | ok caseData =>
    rw [worldAfter_call_of_recorded hrecorded]
    rfl

theorem uploads_run (w : World) (ms : List MergeDoc) :
    (run w ms).uploads =
      w.uploads ++ ms.flatMap fun m => PdfStoreService.uploadsOf m.env m.params := by
  induction ms generalizing w with
  | nil => exact (List.append_nil _).symm
  | cons m ms ih =>
    calc (run w (m :: ms)).uploads
        = (run (worldAfter m.call w) ms).uploads := rfl
      _ = _ := ih (worldAfter m.call w)
      _ = _ := by rw [uploads_worldAfter_call, List.flatMap_cons, List.append_assoc]

theorem routedTo_run (w : World) (ms : List MergeDoc) :
    RoutedTo (statements (recording w.callerCaseData ms)) (others (recording w.callerCaseData ms))
      w.callerCaseData (run w ms).callerCaseData := by
  induction ms generalizing w with
  | nil => exact RoutedTo.refl _
  | cons m ms ih =>
    have hrest := ih (worldAfter m.call w)
    -- a call records its document, or leaves the object as it was
    cases hrecorded : m.updateDocCall.recorded w.callerCaseData with
    | error e =>
      have hrecording : recording w.callerCaseData (m :: ms) = recording w.callerCaseData ms := by
        rw [recording, hrecorded]
      rw [worldAfter_call_of_not_recorded hrecorded] at hrest
      rw [hrecording, run, List.foldl_cons, worldAfter_call_of_not_recorded hrecorded]
      exact hrest
    | ok caseData =>
      have hrecording : recording w.callerCaseData (m :: ms) = m :: recording caseData ms := by
        rw [recording, hrecorded]
      rw [worldAfter_call_of_recorded hrecorded] at hrest
      rw [hrecording, run, List.foldl_cons, worldAfter_call_of_recorded hrecorded]
      exact (UpdateDocCall.routedTo_of_recorded hrecorded).trans hrest

/-- The object stays that of the same case. -/
theorem ccdCaseId_of_recorded {c : UpdateDocCall} {caseData caseData' : SscsCaseData}
    (h : c.recorded caseData = .ok caseData') : caseData'.ccdCaseId = caseData.ccdCaseId := by
  rw [(UpdateDocCall.routedTo_of_recorded h).frame]

theorem ccdCaseId_worldAfter_call (m : MergeDoc) (w : World) :
    (worldAfter m.call w).callerCaseData.ccdCaseId = w.callerCaseData.ccdCaseId := by
  cases hrecorded : m.updateDocCall.recorded w.callerCaseData with
  | error e =>
    rw [worldAfter_call_of_not_recorded hrecorded]
    rfl
  | ok caseData =>
    rw [worldAfter_call_of_recorded hrecorded]
    exact ccdCaseId_of_recorded hrecorded

/-! ### Updates -/

/-- The calls record their documents in an object, one after another, and each of them submits
the object as it has left it.  The updates are theirs, in order, and the object ends as given. -/
inductive Submits : SscsCaseData → List MergeDoc → List CcdUpdate → SscsCaseData → Prop where
  | nil (caseData : SscsCaseData) : Submits caseData [] [] caseData
  | cons {m : MergeDoc} {ms : List MergeDoc} {added : List CcdUpdate}
      {caseData caseData' final : SscsCaseData} :
      m.updateDocCall.recorded caseData = .ok caseData' → Submits caseData' ms added final →
        Submits caseData (m :: ms) (m.update caseData' :: added) final

/-- The updates of a run that turns one case data object into another, for the calls that record
their document. -/
structure UpdatesOf (initial : SscsCaseData) (ms : List MergeDoc) (added : List CcdUpdate)
    (final : SscsCaseData) : Prop where
  /-- Each of the calls submits the object as it was after it, ... -/
  inOrder : Submits initial ms added final
  /-- ... which holds all the documents of the updates before, accepted or refused, ... -/
  growing : added.Pairwise fun update update' =>
    KeepsDocuments update.caseData update'.caseData
  /-- ... and those that the object had at first, ... -/
  keeping : ∀ update ∈ added, KeepsDocuments initial update.caseData
  /-- ... and has none that the object has lost by the end. -/
  kept : ∀ update ∈ added, KeepsDocuments update.caseData final
  /-- They are all data of one case. -/
  sameCase : ∀ update ∈ added, update.caseData.ccdCaseId = initial.ccdCaseId

theorem Submits.keepsDocuments {initial final : SscsCaseData} {ms : List MergeDoc}
    {added : List CcdUpdate} (h : Submits initial ms added final) :
    KeepsDocuments initial final := by
  induction h with
  | nil caseData => exact KeepsDocuments.refl caseData
  | cons hrecorded _ ih =>
    exact (UpdateDocCall.routedTo_of_recorded hrecorded).keepsDocuments.trans ih

/-- What the updates hold follows from how the object has grown between them. -/
theorem Submits.updatesOf {initial final : SscsCaseData} {ms : List MergeDoc}
    {added : List CcdUpdate} (h : Submits initial ms added final) :
    UpdatesOf initial ms added final := by
  induction h with
  | nil caseData =>
    exact ⟨Submits.nil caseData, List.Pairwise.nil, by simp, by simp, by simp⟩
  | @cons m ms added caseData caseData' final hrecorded hrest ih =>
    -- what the first call submits is the object after it, which later calls only add to
    have hgrown := (UpdateDocCall.routedTo_of_recorded hrecorded).keepsDocuments
    have hid := ccdCaseId_of_recorded hrecorded
    refine ⟨Submits.cons hrecorded hrest, List.pairwise_cons.mpr ⟨ih.keeping, ih.growing⟩,
      ?_, ?_, ?_⟩
    · intro update hupdate
      rcases List.mem_cons.mp hupdate with rfl | hmem
      · exact hgrown
      · exact hgrown.trans (ih.keeping update hmem)
    · intro update hupdate
      rcases List.mem_cons.mp hupdate with rfl | hmem
      · exact hrest.keepsDocuments
      · exact ih.kept update hmem
    · intro update hupdate
      rcases List.mem_cons.mp hupdate with rfl | hmem
      · exact hid
      · exact (ih.sameCase update hmem).trans hid

theorem recording_subset (caseData : SscsCaseData) (ms : List MergeDoc) :
    recording caseData ms ⊆ ms := by
  induction ms generalizing caseData with
  | nil => exact List.Subset.refl []
  | cons m ms ih =>
    -- a call is kept or left out
    unfold recording
    split
    · exact List.cons_subset_cons m (ih _)
    · exact List.subset_cons_of_subset m (ih _)

/-- An update is that of one of the calls. -/
theorem Submits.exists_of_mem {initial final : SscsCaseData} {ms : List MergeDoc}
    {added : List CcdUpdate} (h : Submits initial ms added final) {update : CcdUpdate}
    (hupdate : update ∈ added) : ∃ m ∈ ms, ∃ after, update = m.update after := by
  induction h with
  | nil caseData => cases hupdate
  | @cons m ms added caseData caseData' final _ _ ih =>
    rcases List.mem_cons.mp hupdate with rfl | hmem
    · exact ⟨m, List.mem_cons_self, caseData', rfl⟩
    · obtain ⟨m', hm', after, hafter⟩ := ih hmem
      exact ⟨m', List.mem_cons_of_mem m hm', after, hafter⟩

theorem updates_run (w : World) (ms : List MergeDoc) :
    ∃ added, (run w ms).updates = w.updates ++ added ∧
      Submits w.callerCaseData (recording w.callerCaseData ms) added
        (run w ms).callerCaseData ∧
      (run w ms).caseData = storedAfter w.caseData added := by
  induction ms generalizing w with
  | nil => exact ⟨[], (List.append_nil _).symm, Submits.nil _, rfl⟩
  | cons m ms ih =>
    obtain ⟨added, hadded, hof, hstored⟩ := ih (worldAfter m.call w)
    cases hrecorded : m.updateDocCall.recorded w.callerCaseData with
    | error e =>
      -- without a recorded document there is no update either
      rw [worldAfter_call_of_not_recorded hrecorded] at hadded hof hstored
      rw [recording, hrecorded, run, List.foldl_cons, worldAfter_call_of_not_recorded hrecorded]
      exact ⟨added, hadded, hof, hstored⟩
    | ok caseData =>
      rw [worldAfter_call_of_recorded hrecorded] at hadded hof hstored
      rw [recording, hrecorded, run, List.foldl_cons, worldAfter_call_of_recorded hrecorded]
      refine ⟨m.update caseData :: added, ?_, Submits.cons hrecorded hof, hstored⟩
      exact hadded.trans (List.append_assoc _ [m.update caseData] added)

/-! ### What a run leaves -/

/-- What is promised of a run. -/
structure DocumentRun (ms : List MergeDoc) (w w' : World) : Prop where
  /-- Each file that its store took is there, once for each call. -/
  uploads : w'.uploads =
    w.uploads ++ ms.flatMap fun m => PdfStoreService.uploadsOf m.env m.params
  /-- The object has the documents of the calls that recorded one, each routed to its list. -/
  object : RoutedTo (statements (recording w.callerCaseData ms))
    (others (recording w.callerCaseData ms)) w.callerCaseData w'.callerCaseData
  /-- These calls have submitted what the object was after each of them, and the stored case
  is the latest that was accepted. -/
  updates : ∃ added, w'.updates = w.updates ++ added ∧
    UpdatesOf w.callerCaseData (recording w.callerCaseData ms) added w'.callerCaseData ∧
    w'.caseData = storedAfter w.caseData added

/-- **Document merges**: what a run leaves of the uploads, of the caller's object, of the
updates and of the stored case, whatever becomes of each call. -/
theorem documentRun (w : World) (ms : List MergeDoc) : DocumentRun ms w (run w ms) where
  uploads := uploads_run w ms
  object := routedTo_run w ms
  updates := by
    obtain ⟨added, hadded, hsubmits, hstored⟩ := updates_run w ms
    exact ⟨added, hadded, hsubmits.updatesOf, hstored⟩

end MergeDoc

end SscsPdfEmail.Service
