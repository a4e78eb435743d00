import SscsPdfEmail.Library.Views
import SscsPdfEmail.Service.DocumentManagement

/-!
# Runs of All Services

Calls of `CcdNotificationsPdfService`, `CcdPdfService` and `DocumentManagementService` on one
case, in any mix and with any outcome.

The three kinds of call each have a part of the case to themselves.  When every call is given the
current case data, it does not matter in which order calls to different parts are made
(`caseData_run_of_filter_eq`): each operation computes its part from that part alone, and the
other parts do not see it, which is what the library asks of actions that are separated by views.

When the callers keep to one object instead, an accepted call that submits the object undoes what
the calls on the stored case have done before (`sameCase_of_submitsOne`).  From then on the case
and the object are those of the run in which the undone calls were never made.
-/

namespace SscsPdfEmail.Service

open SscsPdfEmail.Library SscsPdfEmail.Domain
open CcdPdfService CcdNotificationsPdfService

/-! ## Calls -/

/-- A call of one of the services. -/
inductive Operation (Value : Type) where
  | merge (m : Merge)
  | document (m : MergeDoc)
  | generate (d : GenerateDocument Value)

/-- The parts of a case that the services write to. -/
inductive Part where
  | correspondence
  | letters
  | documents
deriving DecidableEq, Repr

/-- A case with the other parts left out. -/
def Part.view (part : Part) (caseData : SscsCaseData) : SscsCaseData :=
  -- what the other parts have is blanked out
  match part with
  | .correspondence =>
    { caseData with
      reasonableAdjustmentsLetters := none
      reasonableAdjustmentsOutstanding := none
      scannedDocuments := none
      sscsDocument := none
      evidenceHandled := none
      translationWorkOutstanding := none }
  | .letters =>
    { caseData with
      correspondence := none
      scannedDocuments := none
      sscsDocument := none
      evidenceHandled := none
      translationWorkOutstanding := none }
  | .documents =>
    { caseData with
      correspondence := none
      reasonableAdjustmentsLetters := none
      reasonableAdjustmentsOutstanding := none }

/-- The parts make up the case. -/
theorem Part.eq_of_view {caseData caseData' : SscsCaseData}
    (h : ∀ part : Part, part.view caseData = part.view caseData') : caseData = caseData' := by
  have hcorrespondence := h .correspondence
  have hletters := h .letters
  have hdocuments := h .documents
  simp only [Part.view, SscsCaseData.mk.injEq] at hcorrespondence hletters hdocuments
  cases caseData
  cases caseData'
  simp only [SscsCaseData.mk.injEq]
  -- every field is left in one of the three views
  simp_all

/-! ## Recording Documents -/

theorem updateCaseDataWithNewDoc_view (clock : Clock) (fileName : Option String)
    (caseData : SscsCaseData) (pdfDocuments : Option (List SscsDocument)) :
    updateCaseDataWithNewDoc clock fileName (Part.documents.view caseData) pdfDocuments =
      (updateCaseDataWithNewDoc clock fileName caseData pdfDocuments).map Part.documents.view := by
  unfold updateCaseDataWithNewDoc
  cases nonNull fileName with
  | error e => rfl
  | ok name =>
    -- the routing looks at the name, and both branches append to lists of documents
    show (if isStatement name then _ else _) = Except.map _ (if isStatement name then _ else _)
    split
    · cases buildScannedDocListFromSscsDoc clock pdfDocuments <;> rfl
    · rfl

theorem flagTranslation_view (params : UpdateDocParams) (caseData : SscsCaseData) :
    flagTranslation params (Part.documents.view caseData) =
      Part.documents.view (flagTranslation params caseData) := by
  unfold flagTranslation
  split <;> rfl

/-- Recording a document reads and writes only the part of the documents. -/
theorem recordDocument_view (clock : Clock) (params : UpdateDocParams)
    (pdfDocument : Option SscsDocument) (caseData : SscsCaseData) :
    recordDocument clock params pdfDocument (Part.documents.view caseData) =
      (recordDocument clock params pdfDocument caseData).map Part.documents.view := by
  -- the log line reads the appeal, which all views show
  have hlog : logStored pdfDocument (Part.documents.view caseData) =
      logStored pdfDocument caseData := by
    cases pdfDocument <;> rfl
  unfold recordDocument
  rw [hlog]
  cases logStored pdfDocument caseData with
  | error e => rfl
  | ok logged =>
    cases params.caseId with
    | none => rfl
    | some caseId =>
      simp only [updateCaseDataWithNewDoc_view]
      cases updateCaseDataWithNewDoc clock params.fileName caseData
          (pdfDocument.map fun document => [document]) with
      | error e => rfl
      | ok withDocument => exact congrArg Except.ok (flagTranslation_view params withDocument)

theorem UpdateDocCall.recorded_view (c : UpdateDocCall) (caseData : SscsCaseData) :
    c.recorded (Part.documents.view caseData) =
      (c.recorded caseData).map Part.documents.view := by
  unfold UpdateDocCall.recorded
  cases c.stored with
  | error e => rfl
  | ok stored => exact recordDocument_view c.clock c.params stored caseData

/-! ## The Case after a Call -/

/-- What a call of `mergeDocIntoCcd` makes of a case that it is given. -/
def MergeDoc.dataAfter (m : MergeDoc) (caseData : SscsCaseData) : SscsCaseData :=
  match m.updateDocCall.recorded caseData with
  | .ok caseData' => if m.env.accepts then caseData' else caseData
  | .error _ => caseData

theorem MergeDoc.caseData_worldAfter_call (m : MergeDoc) (w : World) :
    (worldAfter m.call w.refreshCaller).caseData = m.dataAfter w.caseData := by
  have hcaller : w.refreshCaller.callerCaseData = w.caseData := rfl
  rw [MergeDoc.worldAfter_call, hcaller, MergeDoc.dataAfter]
  cases m.updateDocCall.recorded w.caseData <;> rfl

/-- A world with a case, of which the caller has the current data. -/
def World.ofCase (caseData : SscsCaseData) : World := ⟨caseData, caseData, [], []⟩

namespace Operation

variable {Value : Type} (common : SscsCommon) (o : Operation Value)

/-- The call, its return value dropped. -/
def call : Call Unit :=
  match o with
  | .merge m => m.call common
  | .document m => m.call
  | .generate d => do
    let _ ← d.call

/-- The part of the case that is written to. -/
def part : Part :=
  match o with
  | .merge m => if m.letterType.isSome then .letters else .correspondence
  | .document _ | .generate _ => .documents

/-- What a call makes of a case that it is given. -/
def dataAfter (caseData : SscsCaseData) : SscsCaseData :=
  match o with
  -- the caller has just read the case, so base data and stored case are the same
  | .merge m =>
    if m.acceptedNext common (.ofCase caseData) then m.apply common m.entry.toList caseData
    else caseData
  | .document m => m.dataAfter caseData
  | .generate d =>
    match d.generated caseData.ccdCaseId with
    | .ok (_, m) => m.dataAfter caseData
    | .error _ => caseData

/-- A call that is given the current case data. -/
def next (w : World) : World := worldAfter (o.call common) w.refreshCaller

/-- Calls one after another, each given the current case data. -/
def run (w : World) (os : List (Operation Value)) : World :=
  os.foldl (fun w o => o.next common w) w

theorem worldAfter_call_generate (d : GenerateDocument Value) (w : World) :
    worldAfter ((Operation.generate d).call common) w = worldAfter d.call w :=
  worldAfter_bind_pure d.call (fun _ => ()) w

theorem caseData_next (w : World) :
    (o.next common w).caseData = o.dataAfter common w.caseData := by
  -- refreshed, the object of the caller is the stored case
  cases o with
  | merge m =>
    have haccepted : m.acceptedNext common w = m.acceptedNext common (.ofCase w.caseData) :=
      Merge.acceptedNext_congr common rfl
    rw [dataAfter, ← haccepted]
    exact m.caseData_next common w
  | document m => exact m.caseData_worldAfter_call w
  | generate d =>
    have hcaller : w.refreshCaller.callerCaseData = w.caseData := rfl
    rw [next, worldAfter_call_generate, GenerateDocument.worldAfter_call, hcaller, dataAfter]
    cases d.generated w.caseData.ccdCaseId with
    | error e => rfl
    | ok generated => exact generated.2.caseData_worldAfter_call w

/-- The stored case after a run depends on the stored case before it, and on nothing else. -/
theorem caseData_run (w : World) (os : List (Operation Value)) :
    (run common w os).caseData =
      os.foldl (fun caseData o => o.dataAfter common caseData) w.caseData := by
  induction os generalizing w with
  | nil => rfl
  | cons o os ih =>
    have hrest := ih (o.next common w)
    rw [caseData_next] at hrest
    exact hrest

end Operation

/-! ## Parts -/

/-- `updateReasonableAdjustmentsOutstanding` sets the flag by what the letters are, and nothing
else. -/
def FlagOfLetters (common : SscsCommon) : Prop :=
  ∃ flag : Option ReasonableAdjustmentsLetters → Option YesNo, ∀ caseData,
    common.updateReasonableAdjustmentsOutstanding caseData =
      { caseData with
        reasonableAdjustmentsOutstanding := flag caseData.reasonableAdjustmentsLetters }

theorem flagOfLetters_bySentOn : FlagOfLetters .bySentOn :=
  ⟨fun letters => (SscsCommon.bySentOn.updateReasonableAdjustmentsOutstanding
    { reasonableAdjustmentsLetters := letters }).reasonableAdjustmentsOutstanding, fun _ => rfl⟩

/-- A document merge works on the documents alone. -/
theorem MergeDoc.view_dataAfter (m : MergeDoc) (caseData : SscsCaseData) :
    Part.documents.view (m.dataAfter caseData) = m.dataAfter (Part.documents.view caseData) := by
  unfold MergeDoc.dataAfter
  rw [UpdateDocCall.recorded_view]
  cases m.updateDocCall.recorded caseData with
  | error e => rfl
  | ok caseData' =>
    simp only [Except.map]
    -- acceptance is a matter of the environment
    split <;> rfl

theorem MergeDoc.view_dataAfter_of_ne (m : MergeDoc) (caseData : SscsCaseData) {part : Part}
    (h : part ≠ .documents) : part.view (m.dataAfter caseData) = part.view caseData := by
  unfold MergeDoc.dataAfter
  cases hrecorded : m.updateDocCall.recorded caseData with
  | error e => rfl
  | ok caseData' =>
    -- a document changes nothing but the fields of its part
    have hframe := (UpdateDocCall.routedTo_of_recorded hrecorded).frame
    simp only
    split
    · rw [hframe]
      cases part with
      | correspondence | letters => rfl
      | documents => exact absurd rfl h
    · rfl

namespace Merge

variable (common : SscsCommon) {m : Merge} (entries : List Correspondence)
  (caseData : SscsCaseData)

/-- A correspondence merge works on the correspondence alone, -/
theorem view_apply_of_correspondence (hm : m.letterType = none) :
    Part.correspondence.view (m.apply common entries caseData) =
      m.apply common entries (Part.correspondence.view caseData) := by
  rw [apply_of_correspondence common hm]
  rfl

theorem view_apply_of_correspondence_of_ne (hm : m.letterType = none) {part : Part}
    (h : part ≠ .correspondence) :
    part.view (m.apply common entries caseData) = part.view caseData := by
  rw [apply_of_correspondence common hm]
  cases part with
  | correspondence => exact absurd rfl h
  | letters | documents => rfl

variable {common} (hflag : FlagOfLetters common) {party : LetterType}
  (hparty : m.letterType = some party)

include hflag hparty

/-- and a reasonable adjustment on the letters and their flag. -/
theorem view_apply_of_party :
    Part.letters.view (m.apply common entries caseData) =
      m.apply common entries (Part.letters.view caseData) := by
  obtain ⟨flag, hflag⟩ := hflag
  simp only [apply, hparty, addLetters, hflag]
  rfl

theorem view_apply_of_party_of_ne {part : Part} (h : part ≠ .letters) :
    part.view (m.apply common entries caseData) = part.view caseData := by
  obtain ⟨flag, hflag⟩ := hflag
  simp only [apply, hparty, addLetters, hflag]
  cases part with
  | letters => exact absurd rfl h
  | correspondence | documents => rfl

end Merge

namespace Operation

variable {Value : Type} {common : SscsCommon} (hflag : FlagOfLetters common)
  (o : Operation Value) (caseData : SscsCaseData)

theorem acceptedNext_view (m : Merge) (part : Part) :
    m.acceptedNext common (.ofCase (part.view caseData)) =
      m.acceptedNext common (.ofCase caseData) := by
  apply Merge.acceptedNext_congr
  cases part <;> rfl

include hflag

theorem view_dataAfter :
    o.part.view (o.dataAfter common caseData) = o.dataAfter common (o.part.view caseData) := by
  -- every operation works on its part as if there were nothing else
  cases o with
  | document m => exact m.view_dataAfter caseData
  | generate d =>
    have hid : (Part.documents.view caseData).ccdCaseId = caseData.ccdCaseId := rfl
    simp only [part, dataAfter, hid]
    cases d.generated caseData.ccdCaseId with
    | error e => rfl
    | ok generated => exact generated.2.view_dataAfter caseData
  | merge m =>
    simp only [dataAfter, acceptedNext_view]
    -- the two parts that merges write
    cases hparty : m.letterType with
    | none =>
      simp only [part, hparty, Option.isSome_none, Bool.false_eq_true, if_false]
      split
      · exact Merge.view_apply_of_correspondence common _ caseData hparty
      · rfl
    | some party =>
      simp only [part, hparty, Option.isSome_some, if_true]
      split
      · exact Merge.view_apply_of_party _ caseData hflag hparty
      · rfl

theorem view_dataAfter_of_ne {part : Part} (h : part ≠ o.part) :
    part.view (o.dataAfter common caseData) = part.view caseData := by
  -- and is not seen from the other two
  cases o with
  | document m => exact m.view_dataAfter_of_ne caseData h
  | generate d =>
    simp only [dataAfter]
    cases d.generated caseData.ccdCaseId with
    | error e => rfl
    | ok generated => exact generated.2.view_dataAfter_of_ne caseData h
  | merge m =>
    simp only [dataAfter]
    split
    · cases hparty : m.letterType with
      | none =>
        apply Merge.view_apply_of_correspondence_of_ne common _ caseData hparty
        simpa [Operation.part, hparty] using h
      | some party =>
        apply Merge.view_apply_of_party_of_ne _ caseData hflag hparty
        simpa [Operation.part, hparty] using h
    · rfl

/-- The calls to the three parts do not interfere. -/
theorem separates :
    Separates (fun caseData (o : Operation Value) => o.dataAfter common caseData) part Part.view
      fun _ caseData o => o.dataAfter common caseData where
  -- the two conditions of the library, for each of the three parts
  actsOn k :=
    { view_own := fun caseData o ho => by
        obtain rfl := of_decide_eq_true ho
        exact o.view_dataAfter hflag caseData
      view_other := fun caseData o ho =>
        o.view_dataAfter_of_ne hflag caseData (Ne.symm (of_decide_eq_false ho)) }
  eq_of_view _ _ h := Part.eq_of_view h

/-- **Separate parts**: two runs that make the same calls to each part of the case, in the same
order, leave the same case, however the calls to the different parts alternate, and whichever
of them fail or are refused. -/
theorem caseData_run_of_filter_eq {os os' : List (Operation Value)}
    (hsame : ∀ part : Part, os.filter (fun o => o.part = part) = os'.filter fun o => o.part = part)
    (w : World) : (run common w os).caseData = (run common w os').caseData := by
  rw [caseData_run, caseData_run]
  exact (separates hflag).foldl_eq_of_filter_eq hsame w.caseData

end Operation

namespace Operation

/-- An e-mail and a letter kept for the appellant. -/
def sampleMerges : List (Operation Unit) :=
  [.merge (.sample .v2 .email), .merge (.sample .v1 (.reasonableAdjustment [1] .appellant))]

def sampleDocument : Operation Unit :=
  .document ⟨.answering, .untyped (some "Letter.pdf") [1] (some 1)⟩

theorem caseData_run_samples :
    (run .bySentOn .sample (sampleMerges ++ [sampleDocument])).caseData =
      (run .bySentOn .sample (sampleDocument :: sampleMerges.reverse)).caseData :=
  caseData_run_of_filter_eq flagOfLetters_bySentOn (fun part => by cases part <;> rfl) .sample

end Operation

/-! ## One Object -/

/-- The same case and the same object, whatever was uploaded and submitted on the way. -/
structure SameCase (w w' : World) : Prop where
  caseData : w.caseData = w'.caseData
  callerCaseData : w.callerCaseData = w'.callerCaseData

namespace MergeDoc

/-- What a call makes of the object that it is given. -/
def objectAfter (m : MergeDoc) (caseData : SscsCaseData) : SscsCaseData :=
  match m.updateDocCall.recorded caseData with
  | .ok caseData' => caseData'
  | .error _ => caseData

/-- Whether the object is submitted and CCD accepts it. -/
def acceptsObject (m : MergeDoc) (caseData : SscsCaseData) : Bool :=
  (m.updateDocCall.recorded caseData).toBool && m.env.accepts

/-- A call submits the object of the caller, changed. -/
theorem object_worldAfter_call (m : MergeDoc) (w : World) :
    (worldAfter m.call w).callerCaseData = m.objectAfter w.callerCaseData ∧
      (worldAfter m.call w).caseData =
        if m.acceptsObject w.callerCaseData then m.objectAfter w.callerCaseData
        else w.caseData := by
  rw [MergeDoc.worldAfter_call, objectAfter, acceptsObject]
  cases m.updateDocCall.recorded w.callerCaseData with
  | error e => exact ⟨rfl, rfl⟩
  | ok caseData => exact ⟨rfl, rfl⟩

end MergeDoc

namespace Operation

variable {Value : Type} (common : SscsCommon) (o : Operation Value)

/-- The call changes and submits the object of the caller. -/
def usesObject : Bool :=
  match o with
  | .merge m => m.generation = .v1 && m.notification = .email
  | .document _ | .generate _ => true

/-- Calls one after another on the object of the caller. -/
def runOnObject (w : World) (os : List (Operation Value)) : World :=
  os.foldl (fun w o => worldAfter (o.call common) w) w

/-- What a call makes of the object that it is given. -/
def objectAfter (caseData : SscsCaseData) : SscsCaseData :=
  match o with
  | .merge m => m.callerAfter common (.ofCase caseData)
  | .document m => m.objectAfter caseData
  | .generate d =>
    match d.generated caseData.ccdCaseId with
    | .ok (_, m) => m.objectAfter caseData
    | .error _ => caseData

/-- Whether the object is submitted and CCD accepts it. -/
def acceptsObject (caseData : SscsCaseData) : Bool :=
  match o with
  | .merge m => m.submits (.ofCase caseData) && m.env.accepts
  | .document m => m.acceptsObject caseData
  | .generate d =>
    match d.generated caseData.ccdCaseId with
    | .ok (_, m) => m.acceptsObject caseData
    | .error _ => false

theorem callerCaseData_worldAfter_call (w : World) :
    (worldAfter (o.call common) w).callerCaseData = o.objectAfter common w.callerCaseData := by
  -- what becomes of the object is decided by the object alone
  cases o with
  | document m => exact (m.object_worldAfter_call w).1
  | generate d =>
    rw [worldAfter_call_generate, GenerateDocument.worldAfter_call, objectAfter]
    cases d.generated w.callerCaseData.ccdCaseId with
    | error e => rfl
    | ok generated => exact (generated.2.object_worldAfter_call w).1
  | merge m =>
    have hprepared : (m.prepared common w).callerCaseData =
        m.callerAfter common (.ofCase w.callerCaseData) := rfl
    rcases m.worldAfter_call common w with ⟨-, hw⟩ | ⟨-, update, -, hw⟩
    · exact (congrArg World.callerCaseData hw).trans hprepared
    · exact (congrArg World.callerCaseData hw).trans hprepared

theorem objectAfter_of_not_usesObject (h : o.usesObject = false) (caseData : SscsCaseData) :
    o.objectAfter common caseData = caseData := by
  cases o with
  | document m => cases h
  | generate d => cases h
  | merge m =>
    simp only [objectAfter, Merge.callerAfter]
    -- of the merges, only the first-generation e-mail writes to the object
    split
    · rename_i hn hg _
      simp [usesObject, hn, hg] at h
    · rfl

/-- Whether the first e-mail merge submits anything is up to the object. -/
theorem submits_email {m : Merge} (hg : m.generation = .v1) (hn : m.notification = .email)
    (w : World) : m.submits w = m.submits (.ofCase w.callerCaseData) := by
  simp only [Merge.submits, Merge.reachesCcd, hg, hn]
  rfl

theorem caseData_of_usesObject (h : o.usesObject = true) (w : World) :
    (worldAfter (o.call common) w).caseData =
      if o.acceptsObject w.callerCaseData then o.objectAfter common w.callerCaseData
      else w.caseData := by
  cases o with
  | document m => exact (m.object_worldAfter_call w).2
  | generate d =>
    rw [worldAfter_call_generate, GenerateDocument.worldAfter_call, objectAfter, acceptsObject]
    cases d.generated w.callerCaseData.ccdCaseId with
    | error e => rfl
    | ok generated => exact (generated.2.object_worldAfter_call w).2
  | merge m =>
    obtain ⟨hg, hn⟩ : m.generation = .v1 ∧ m.notification = .email := by
      simpa [usesObject] using h
    rw [call, Merge.caseData_worldAfter_call, Merge.acceptedAt_eq, objectAfter, acceptsObject,
      submits_email hg hn]
    split
    · rename_i haccepted
      -- what was submitted are entries merged into the object
      have hbuilt := (Bool.and_eq_true_iff.mp (Bool.and_eq_true_iff.mp haccepted).1).1
      cases hentries : m.entries with
      | error e =>
        rw [hentries] at hbuilt
        cases hbuilt
      | ok entries =>
        rw [← m.entries_eq hentries]
        simp only [Merge.apply, Merge.letterType, Merge.base, Merge.callerAfter, hg, hn, hentries]
        rfl
    · rfl

/-- The object is what an accepted update holds. -/
theorem acceptsObject_of_submitsOne (huses : o.usesObject = true) {w w' : World}
    (h : SubmitsOne (o.call common) true w w') : o.acceptsObject w.callerCaseData = true := by
  -- an accepted update comes from a call that has recorded its document
  have hdocument : ∀ m : MergeDoc, SubmitsOne m.call true w w' →
      m.acceptsObject w.callerCaseData = true := by
    intro m hm
    have hcall := m.worldAfter_call w
    rw [(m.recorded_of_submitsOne hm).1] at hcall
    have haccepted : m.env.accepts = true := (hm.eq_addUpdate hcall rfl).2
    simp only [MergeDoc.acceptsObject, (m.recorded_of_submitsOne hm).1, haccepted]
    rfl
  cases o with
  | document m => exact hdocument m h
  | generate d =>
    have hcall := d.worldAfter_call w
    rw [← worldAfter_call_generate common] at hcall
    rw [acceptsObject]
    cases hgenerated : d.generated w.callerCaseData.ccdCaseId with
    | error e =>
      rw [hgenerated] at hcall
      exact absurd (congrArg World.updates hcall) h.updates_ne
    | ok generated =>
      rw [hgenerated] at hcall
      exact hdocument generated.2 ⟨hcall.symm.trans h.1, h.2⟩
  | merge m =>
    -- or from an e-mail of the first generation
    obtain ⟨hg, hn⟩ : m.generation = .v1 ∧ m.notification = .email := by
      simpa [usesObject] using huses
    rcases m.worldAfter_call common w with ⟨-, hcall⟩ | ⟨hsubmits, update, hupdate, hcall⟩
    · exact absurd (congrArg World.updates hcall) h.updates_ne
    · have haccepted : update.accepted = true := (h.eq_addUpdate hcall rfl).2
      rw [acceptsObject, ← submits_email hg hn, hsubmits, ← hupdate.accepted, haccepted]
      rfl

/-- A call does the same to the case and to the object, whatever came before. -/
theorem sameCase_worldAfter_call {w w' : World} (h : SameCase w w') :
    SameCase (worldAfter (o.call common) w) (worldAfter (o.call common) w') := by
  have hobject : (worldAfter (o.call common) w).callerCaseData =
      (worldAfter (o.call common) w').callerCaseData := by
    rw [callerCaseData_worldAfter_call, callerCaseData_worldAfter_call, h.callerCaseData]
  refine ⟨?_, hobject⟩
  -- an operation reads the case and the object, and nothing else of the world
  cases huses : o.usesObject with
  | true =>
    rw [caseData_of_usesObject common o huses, caseData_of_usesObject common o huses, h.caseData,
      h.callerCaseData]
  | false =>
    cases o with
    | document m => cases huses
    | generate d => cases huses
    | merge m =>
      -- a merge submits in both worlds, on the same data
      have hsubmits : m.submits w = m.submits w' := by
        simp only [Merge.submits, Merge.reachesCcd, h.caseData, h.callerCaseData]
      have hbase : m.base w = m.base w' := by
        simp only [Merge.base, h.caseData, h.callerCaseData]
      rw [call, Merge.caseData_worldAfter_call, Merge.caseData_worldAfter_call,
        Merge.acceptedAt_eq, Merge.acceptedAt_eq, hsubmits, hbase, h.caseData]

theorem sameCase_runOnObject {w w' : World} (h : SameCase w w') (os : List (Operation Value)) :
    SameCase (runOnObject common w os) (runOnObject common w' os) := by
  induction os generalizing w w' with
  | nil => exact h
  | cons o os ih => exact ih (sameCase_worldAfter_call common o h)

/-- The object does not see the calls that work on the stored case. -/
theorem callerCaseData_runOnObject (w : World) (os : List (Operation Value)) :
    (runOnObject common w os).callerCaseData =
      (runOnObject common w (os.filter usesObject)).callerCaseData := by
  have hacts : ActsOn (fun w (o : Operation Value) => worldAfter (o.call common) w)
      World.callerCaseData (fun caseData o => o.objectAfter common caseData) usesObject :=
    { view_own := fun w o _ => o.callerCaseData_worldAfter_call common w
      view_other := fun w o ho =>
        (o.callerCaseData_worldAfter_call common w).trans
          (o.objectAfter_of_not_usesObject common ho w.callerCaseData) }
  exact hacts.view_foldl_filter w os

/-- **The object overwrites the case**: once a changed object is submitted and accepted, case
and object are as if those of the calls before it that work on the stored case had never been
made, though CCD may have accepted them. -/
theorem sameCase_of_submitsOne {front back : List (Operation Value)} {o : Operation Value}
    (huses : o.usesObject = true) {w w' : World}
    (haccepted : SubmitsOne (o.call common) true (runOnObject common w front) w') :
    SameCase (runOnObject common w (front ++ o :: back))
      (runOnObject common w (front.filter usesObject ++ o :: back)) := by
  have hobject := callerCaseData_runOnObject common w front
  have haccepts := acceptsObject_of_submitsOne common o huses haccepted
  have hafter : SameCase (worldAfter (o.call common) (runOnObject common w front))
      (worldAfter (o.call common) (runOnObject common w (front.filter usesObject))) := by
    constructor
    · rw [caseData_of_usesObject common o huses, caseData_of_usesObject common o huses,
        ← hobject, haccepts, if_pos rfl, if_pos rfl]
    · rw [callerCaseData_worldAfter_call, callerCaseData_worldAfter_call, hobject]
  have hrest := sameCase_runOnObject common hafter back
  simp only [runOnObject, List.foldl_append, List.foldl_cons]
  exact hrest

/-- The e-mail is gone from the case when the document has been added. -/
theorem correspondence_runOnObject_samples :
    (runOnObject .bySentOn .sample (sampleMerges ++ [sampleDocument])).caseData.correspondence =
      none := by
  have hdocument : sampleDocument.usesObject = true := rfl
  have hsame : SameCase (runOnObject .bySentOn .sample (sampleMerges ++ sampleDocument :: []))
      (runOnObject .bySentOn .sample (sampleMerges.filter usesObject ++ sampleDocument :: [])) :=
    sameCase_of_submitsOne .bySentOn hdocument ⟨rfl, _, rfl, rfl⟩
  rw [hsame.caseData]
  rfl

end Operation

end SscsPdfEmail.Service
