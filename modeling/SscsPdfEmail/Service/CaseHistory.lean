import SscsPdfEmail.Service.Migration
import SscsPdfEmail.Service.ServiceRuns
import SscsPdfEmail.Service.TranslationFlag

/-!
# The History of a Case

What a run of all services leaves of a case, told by the changes that CCD has accepted.  Each
call makes one change or none, and each change is accounted for in exactly one list of the case
and by the flags that go with it; the accepted updates are the states that the case has passed
through (`serviceRun`).

A change is a merged notification or a recorded document.  `CaseHistory` says of each field of a
case what a list of changes has made of it: lists are extended and sorted, the flags of documents
are set by the changes that ask for it and never reset, and the one of letters is up to date.  It
is built from the last change to the first (`CaseHistory.merged`, `CaseHistory.recorded`), in the
same order in which `history` collects the changes of a run, so no state in between has to be
described.
-/

namespace SscsPdfEmail.Service

open SscsPdfEmail.Domain
open SscsPdfEmail.Concurrency (addLetters_of_updatesOnlyFlag)
open CcdPdfService CcdNotificationsPdfService

/-! ## Changes -/

/-- A change of a case that CCD has accepted. -/
inductive Change where
  | merged (m : Merge)
  | recorded (m : MergeDoc)

namespace Change

/-- The event by which CCD learns of a change. -/
def eventType : Change → EventType
  | .merged m => m.eventType
  | .recorded _ => .uploadDocument

/-- The entry brought for a party, or for the correspondence. -/
def entryTo (party : Option LetterType) : Change → Option (Option Correspondence)
  | .merged m => if m.letterType = party then some m.entry else none
  | .recorded _ => none

/-- The stored statement. -/
def statement : Change → Option SscsDocument
  | .merged _ => none
  | .recorded m => m.updateDocCall.statementDocument

/-- The stored document that is not a statement. -/
def other : Change → Option SscsDocument
  | .merged _ => none
  | .recorded m => m.updateDocCall.otherDocument

/-- The change brings evidence to be handled: a statement, stored or not. -/
def bringsEvidence : Change → Bool
  | .merged _ => false
  | .recorded m => m.params.caseId.isSome && m.updateDocCall.forStatement

/-- The change asks for a translation. -/
def asksTranslation : Change → Bool
  | .merged _ => false
  | .recorded m =>
    m.params.caseId.isSome && m.params.documentTranslationStatus = some .translationRequired

/-- The change is a letter kept for reasonable adjustment. -/
def isLetter : Change → Bool
  | .merged m => m.letterType.isSome
  | .recorded _ => false

end Change

/-! ## What a History Says -/

/-- The case after changes, part by part. -/
structure CaseHistory (common : SscsCommon) (initial : SscsCaseData) (changes : List Change)
    (final : SscsCaseData) : Prop where
  correspondence : final.correspondence =
    mergedList common initial.correspondence (changes.filterMap (Change.entryTo none))
  letters : ∀ party, final.lettersOf party =
    mergedList common (initial.lettersOf party) (changes.filterMap (Change.entryTo (some party)))
  /-- The flag of the letters is up to date as soon as one has been kept. -/
  outstanding : changes.any Change.isLetter = true →
    common.updateReasonableAdjustmentsOutstanding final = final
  noLetter : changes.any Change.isLetter = false →
    final.reasonableAdjustmentsLetters = initial.reasonableAdjustmentsLetters ∧
      final.reasonableAdjustmentsOutstanding = initial.reasonableAdjustmentsOutstanding
  scanned : ∃ added, List.Forall₂ Converts (changes.filterMap Change.statement) added ∧
    final.scannedDocuments.getD [] = initial.scannedDocuments.getD [] ++ added
  sscs : final.sscsDocument.getD [] =
    initial.sscsDocument.getD [] ++ changes.filterMap Change.other
  evidenceHandled : final.evidenceHandled =
    if changes.any Change.bringsEvidence then some "No" else initial.evidenceHandled
  translationWorkOutstanding : final.translationWorkOutstanding =
    if changes.any Change.asksTranslation then some "Yes" else initial.translationWorkOutstanding
  frame : final = { initial with
    correspondence := final.correspondence
    reasonableAdjustmentsLetters := final.reasonableAdjustmentsLetters
    reasonableAdjustmentsOutstanding := final.reasonableAdjustmentsOutstanding
    scannedDocuments := final.scannedDocuments
    sscsDocument := final.sscsDocument
    evidenceHandled := final.evidenceHandled
    translationWorkOutstanding := final.translationWorkOutstanding }

theorem FlagOfLetters.updatesOnlyFlag {common : SscsCommon} (hflag : FlagOfLetters common) :
    common.UpdatesOnlyFlag := by
  obtain ⟨flag, hflag⟩ := hflag
  exact fun caseData => ⟨_, hflag caseData⟩

/-- Evidence is to be handled from the first statement on. -/
theorem evidenceHandled_recorded {m : MergeDoc} {initial final : SscsCaseData}
    (h : m.updateDocCall.recorded initial = .ok final) :
    final.evidenceHandled =
      if (Change.recorded m).bringsEvidence then some "No" else initial.evidenceHandled := by
  cases hcase : m.params.caseId with
  | none =>
    obtain rfl := UpdateDocCall.recorded_of_no_case (c := m.updateDocCall) hcase h
    simp [Change.bringsEvidence, hcase]
  | some caseId =>
    have hcase' : m.updateDocCall.params.caseId = some caseId := hcase
    obtain ⟨stored, -, h⟩ := bind_eq_ok.mp h
    obtain ⟨logged, -, h⟩ := bind_eq_ok.mp h
    simp only [hcase'] at h
    obtain ⟨withDocument, hwith, h⟩ := bind_eq_ok.mp h
    obtain rfl := Except.ok.inj h
    -- setting the translation flag leaves the other one alone
    have hkept : (flagTranslation m.updateDocCall.params withDocument).evidenceHandled =
        withDocument.evidenceHandled := by
      unfold flagTranslation
      split <;> rfl
    obtain ⟨name, hname, hwith⟩ := bind_eq_ok.mp hwith
    have hname' : m.updateDocCall.params.fileName = some name := nonNull_eq_ok.mp hname
    have hstatement : (Change.recorded m).bringsEvidence = isStatement name := by
      simp [Change.bringsEvidence, hcase, UpdateDocCall.forStatement, hname']
    rw [hkept, hstatement]
    -- the routing of the code is the question that the change answers
    by_cases hs : isStatement name = true
    · simp only [hs, if_true] at hwith ⊢
      obtain ⟨scanned, -, hwith⟩ := bind_eq_ok.mp hwith
      obtain rfl := Except.ok.inj hwith
      rfl
    · simp only [hs, Bool.false_eq_true, if_false] at hwith ⊢
      obtain rfl := Except.ok.inj hwith
      rfl

/-- A translation is to be done from the first request on. -/
theorem translationWorkOutstanding_of_recorded {m : MergeDoc} {initial final : SscsCaseData}
    (h : m.updateDocCall.recorded initial = .ok final) :
    final.translationWorkOutstanding =
      if (Change.recorded m).asksTranslation then some "Yes"
      else initial.translationWorkOutstanding := by
  have hcall : StoringCall.updateDocCall ⟨m.env, m.params⟩ = m.updateDocCall := rfl
  -- the two ways of asking for a translation are the same
  have hasks : (Change.recorded m).asksTranslation = true ↔
      StoringCall.Requests ⟨m.env, m.params⟩ := by
    simp [Change.asksTranslation, StoringCall.Requests]
  rw [StoringCall.translationWorkOutstanding_recorded (hcall ▸ h)]
  exact if_congr hasks.symm rfl rfl

/-! ## One Change -/

section One

variable {common : SscsCommon} {initial middle final : SscsCaseData} {changes : List Change}

theorem CaseHistory.refl (caseData : SscsCaseData) : CaseHistory common caseData [] caseData where
  correspondence := rfl
  letters _ := rfl
  outstanding h := by cases h
  noLetter _ := ⟨rfl, rfl⟩
  scanned := ⟨[], List.Forall₂.nil, (List.append_nil _).symm⟩
  sscs := (List.append_nil _).symm
  evidenceHandled := rfl
  translationWorkOutstanding := rfl
  frame := rfl

/-- A document that is recorded comes before whatever happens next. -/
theorem CaseHistory.recorded {m : MergeDoc}
    (hm : m.updateDocCall.recorded initial = .ok middle)
    (h : CaseHistory common middle changes final) :
    CaseHistory common initial (.recorded m :: changes) final := by
  have hrouted := UpdateDocCall.routedTo_of_recorded hm
  -- the document has touched none of the lists of correspondence
  have hcorrespondence : middle.correspondence = initial.correspondence := by
    rw [hrouted.frame]
  have hletters : middle.reasonableAdjustmentsLetters = initial.reasonableAdjustmentsLetters := by
    rw [hrouted.frame]
  have houtstanding : middle.reasonableAdjustmentsOutstanding =
      initial.reasonableAdjustmentsOutstanding := by
    rw [hrouted.frame]
  constructor
  · rw [h.correspondence, hcorrespondence]
    rfl
  · intro party
    rw [h.letters party, SscsCaseData.lettersOf, hletters]
    rfl
  · exact h.outstanding
  · intro hnone
    obtain ⟨hkept, hflag⟩ := h.noLetter hnone
    exact ⟨hkept.trans hletters, hflag.trans houtstanding⟩
  · obtain ⟨added, hadded, hscanned⟩ := hrouted.scanned
    obtain ⟨added', hadded', hscanned'⟩ := h.scanned
    refine ⟨added ++ added', ?_, ?_⟩
    · rw [UpdateDocCall.filterMap_cons_toList]
      exact List.rel_append hadded hadded'
    · rw [hscanned', hscanned, List.append_assoc]
  · rw [h.sscs, hrouted.sscs, UpdateDocCall.filterMap_cons_toList, List.append_assoc]
    rfl
  · -- a flag that is set now stays set by whatever follows
    rw [h.evidenceHandled, evidenceHandled_recorded hm, List.any_cons]
    cases (Change.recorded m).bringsEvidence <;> simp
  · rw [h.translationWorkOutstanding, translationWorkOutstanding_of_recorded hm, List.any_cons]
    cases (Change.recorded m).asksTranslation <;> simp
  · rw [h.frame, hrouted.frame]

/-- A kept letter leaves the flag as `updateReasonableAdjustmentsOutstanding` would set it. -/
theorem upToDate_apply (hflag : FlagOfLetters common) {m : Merge} {party : LetterType}
    (hm : m.letterType = some party) (entries : List Correspondence)
    (hletters : final.reasonableAdjustmentsLetters =
      (m.apply common entries initial).reasonableAdjustmentsLetters)
    (houtstanding : final.reasonableAdjustmentsOutstanding =
      (m.apply common entries initial).reasonableAdjustmentsOutstanding) :
    common.updateReasonableAdjustmentsOutstanding final = final := by
  obtain ⟨flag, hflag⟩ := hflag
  -- the flag is a function of the letters, and was computed from these
  have happly : (m.apply common entries initial).reasonableAdjustmentsOutstanding =
      flag (m.apply common entries initial).reasonableAdjustmentsLetters := by
    rw [Merge.apply_of_party common hm, addLetters, hflag]
  have hfinal : flag final.reasonableAdjustmentsLetters =
      final.reasonableAdjustmentsOutstanding := by rw [houtstanding, happly, hletters]
  rw [hflag, hfinal]

/-- A merge that is accepted comes before whatever happens next. -/
theorem CaseHistory.merged (hflag : FlagOfLetters common) {m : Merge}
    (h : CaseHistory common (m.apply common m.entry.toList initial) changes final) :
    CaseHistory common initial (.merged m :: changes) final := by
  have hframe := m.apply_frame hflag.updatesOnlyFlag m.entry.toList initial
  constructor
  · rw [h.correspondence]
    cases hm : m.letterType with
    | none =>
      rw [Merge.apply_of_correspondence common hm, addCorrespondences, mergedList_cons]
      simp [Change.entryTo, hm]
    | some party =>
      rw [Merge.apply_of_party common hm,
        (addLetters_of_updatesOnlyFlag hflag.updatesOnlyFlag _ party initial).1]
      simp [Change.entryTo, hm]
  · intro party
    rw [h.letters party]
    cases hm : m.letterType with
    | none =>
      rw [Merge.apply_of_correspondence common hm]
      simp [Change.entryTo, hm]
      rfl
    | some addressed =>
      rw [Merge.apply_of_party common hm, lettersOf_addLetters]
      by_cases hparty : party = addressed
      · subst hparty
        rw [if_pos rfl, mergedList_cons]
        simp [Change.entryTo, hm]
      · have hother : ¬ addressed = party := fun heq => hparty heq.symm
        rw [if_neg hparty]
        simp [Change.entryTo, hm, hother]
  · intro hany
    by_cases hrest : changes.any Change.isLetter = true
    · exact h.outstanding hrest
    · -- the letter of this merge is the last one
      obtain ⟨hletters, houtstanding⟩ := h.noLetter (Bool.not_eq_true _ ▸ hrest)
      have hm : m.letterType.isSome = true := by
        rw [List.any_cons, Bool.or_eq_true] at hany
        exact hany.resolve_right hrest
      obtain ⟨party, hparty⟩ := Option.isSome_iff_exists.mp hm
      exact upToDate_apply hflag hparty m.entry.toList hletters houtstanding
  · intro hnone
    rw [List.any_cons, Bool.or_eq_false_iff] at hnone
    obtain ⟨hletters, houtstanding⟩ := h.noLetter hnone.2
    have hm : m.letterType = none := Option.not_isSome_iff_eq_none.mp (Bool.eq_false_iff.mp hnone.1)
    rw [Merge.apply_of_correspondence common hm] at hletters houtstanding
    exact ⟨hletters, houtstanding⟩
  · have hkept : (m.apply common m.entry.toList initial).scannedDocuments =
        initial.scannedDocuments := by rw [hframe]
    have hscanned := h.scanned
    rw [hkept] at hscanned
    exact hscanned
  · have hkept : (m.apply common m.entry.toList initial).sscsDocument =
        initial.sscsDocument := by rw [hframe]
    rw [h.sscs, hkept]
    rfl
  · have hkept : (m.apply common m.entry.toList initial).evidenceHandled =
        initial.evidenceHandled := by rw [hframe]
    rw [h.evidenceHandled, hkept]
    rfl
  · have hkept : (m.apply common m.entry.toList initial).translationWorkOutstanding =
        initial.translationWorkOutstanding := by rw [hframe]
    rw [h.translationWorkOutstanding, hkept]
    rfl
  · rw [h.frame, hframe]

end One

/-! ## The History of a Run -/

/-- The change that a document merge makes of a case that it is given, with the case as it is
then. -/
def MergeDoc.accepted (m : MergeDoc) (caseData : SscsCaseData) :
    Option (Change × SscsCaseData) :=
  match m.updateDocCall.recorded caseData with
  | .ok caseData' => if m.env.accepts then some (.recorded m, caseData') else none
  | .error _ => none

/-- The updates that CCD has accepted, by event and data. -/
def World.trail (w : World) : List (EventType × SscsCaseData) :=
  (w.updates.filter (·.accepted)).map fun update => (update.eventType, update.caseData)

theorem World.trail_addUpdate (w : World) (update : CcdUpdate) :
    (w.addUpdate update).trail =
      w.trail ++ if update.accepted then [(update.eventType, update.caseData)] else [] := by
  cases haccepted : update.accepted <;>
    simp [World.trail, World.addUpdate, List.filter_append, haccepted]

namespace Operation

variable {Value : Type} (common : SscsCommon) (o : Operation Value)

/-- The change that a call makes of a case that it is given, if CCD accepts one, with the case as
it is then. -/
def accepted (caseData : SscsCaseData) : Option (Change × SscsCaseData) :=
  match o with
  | .merge m =>
    if m.acceptedNext common (.ofCase caseData) then
      some (.merged m, m.apply common m.entry.toList caseData)
    else none
  | .document m => m.accepted caseData
  | .generate d =>
    -- a generated document is merged like any other
    match d.generated caseData.ccdCaseId with
    | .ok (_, m) => m.accepted caseData
    | .error _ => none

/-- The changes that calls make, one after another, each given the current case data. -/
def history (caseData : SscsCaseData) : List (Operation Value) → List (Change × SscsCaseData)
  | [] => []
  | o :: os => (o.accepted common caseData).toList ++ history (o.dataAfter common caseData) os

theorem dataAfter_eq (caseData : SscsCaseData) :
    o.dataAfter common caseData = ((o.accepted common caseData).map Prod.snd).getD caseData := by
  -- first for documents, which are generated or come from a caller
  have hdocument : ∀ m : MergeDoc,
      m.dataAfter caseData = ((m.accepted caseData).map Prod.snd).getD caseData := by
    intro m
    unfold MergeDoc.dataAfter MergeDoc.accepted
    cases m.updateDocCall.recorded caseData with
    | error e => rfl
    | ok caseData' => cases m.env.accepts <;> rfl
  cases o with
  | document m => exact hdocument m
  | generate d =>
    simp only [dataAfter, accepted]
    cases d.generated caseData.ccdCaseId with
    | error e => rfl
    | ok generated => exact hdocument generated.2
  | merge m =>
    simp only [dataAfter, accepted]
    split <;> rfl

theorem dataAfter_of_accepted {caseData caseData' : SscsCaseData} {change : Change}
    (h : o.accepted common caseData = some (change, caseData')) :
    o.dataAfter common caseData = caseData' := by
  rw [dataAfter_eq, h]
  rfl

theorem dataAfter_of_not_accepted {caseData : SscsCaseData}
    (h : o.accepted common caseData = none) : o.dataAfter common caseData = caseData := by
  rw [dataAfter_eq, h]
  rfl

/-- The call is one that can make the change, of a case with the given id. -/
def CanMake (ccdCaseId : Option String) : Operation Value → Change → Prop
  | .merge m, .merged m' => m' = m
  | .document m, .recorded m' => m' = m
  | .generate d, .recorded m => ∃ pdf, d.generated ccdCaseId = .ok (pdf, m)
  | _, _ => False

/-- A change is a merge of entries, or a document that is recorded. -/
theorem accepted_cases {o : Operation Value} {initial middle : SscsCaseData} {change : Change}
    (h : o.accepted common initial = some (change, middle)) :
    CanMake initial.ccdCaseId o change ∧
      ((∃ m, change = .merged m ∧ middle = m.apply common m.entry.toList initial) ∨
        ∃ m, change = .recorded m ∧ m.updateDocCall.recorded initial = .ok middle) := by
  -- first for documents again
  have hdocument : ∀ m : MergeDoc, m.accepted initial = some (change, middle) →
      change = .recorded m ∧ m.updateDocCall.recorded initial = .ok middle := by
    intro m hm
    unfold MergeDoc.accepted at hm
    split at hm
    · rename_i caseData hrecorded
      split at hm
      · cases hm
        exact ⟨rfl, hrecorded⟩
      · cases hm
    · cases hm
  cases o with
  | document m =>
    obtain ⟨rfl, hrecorded⟩ := hdocument m h
    exact ⟨rfl, Or.inr ⟨m, rfl, hrecorded⟩⟩
  | generate d =>
    simp only [accepted] at h
    split at h
    · rename_i pdf m hgenerated
      obtain ⟨rfl, hrecorded⟩ := hdocument m h
      exact ⟨⟨pdf, hgenerated⟩, Or.inr ⟨m, rfl, hrecorded⟩⟩
    · cases h
  | merge m =>
    simp only [accepted] at h
    split at h
    · cases h
      exact ⟨rfl, Or.inl ⟨m, rfl, rfl⟩⟩
    · cases h

/-- What CCD has accepted of a call is a change of the case that the call was given. -/
theorem caseHistory_accepted {common : SscsCommon} (hflag : FlagOfLetters common)
    {o : Operation Value} {initial middle final : SscsCaseData} {change : Change}
    {changes : List Change} (ho : o.accepted common initial = some (change, middle))
    (h : CaseHistory common middle changes final) :
    CaseHistory common initial (change :: changes) final := by
  obtain ⟨-, ⟨m, rfl, rfl⟩ | ⟨m, rfl, hrecorded⟩⟩ := accepted_cases common ho
  · exact h.merged hflag
  · exact h.recorded hrecorded

theorem caseHistory_run {common : SscsCommon} (hflag : FlagOfLetters common) (w : World)
    (os : List (Operation Value)) :
    CaseHistory common w.caseData ((history common w.caseData os).map Prod.fst)
      (run common w os).caseData := by
  rw [caseData_run]
  generalize w.caseData = caseData
  induction os generalizing caseData with
  | nil => exact CaseHistory.refl caseData
  | cons o os ih =>
    have hrest := ih (o.dataAfter common caseData)
    rw [history, List.map_append, List.foldl_cons]
    -- a call that makes no change is not in the history
    cases haccepted : o.accepted common caseData with
    | none =>
      rw [o.dataAfter_of_not_accepted common haccepted] at hrest ⊢
      exact hrest
    | some made =>
      rw [o.dataAfter_of_accepted common haccepted] at hrest ⊢
      exact caseHistory_accepted hflag haccepted hrest

/-! ### Updates -/

/-- A change as an update. -/
def asUpdate (made : Change × SscsCaseData) : EventType × SscsCaseData :=
  (made.1.eventType, made.2)

theorem trail_merge (m : Merge) (w : World) :
    (m.next common w).trail =
      w.trail ++ ((Operation.merge m : Operation Value).accepted common w.caseData).toList.map
        asUpdate := by
  have hprepared : (m.prepared common w.refreshCaller).trail = w.trail := rfl
  have hsame : m.acceptedNext common (.ofCase w.caseData) = m.acceptedNext common w :=
    Merge.acceptedNext_congr common rfl
  -- the change is accepted in the case as it is in the world
  have hcongr : m.acceptedNext common (.ofCase w.caseData) =
      (m.submits w.refreshCaller && m.env.accepts) := by
    rw [hsame, Merge.acceptedNext, Merge.acceptedAt_eq]
  simp only [accepted, hcongr]
  unfold Merge.next
  rcases m.worldAfter_call common w.refreshCaller with
    ⟨hsubmits, hw⟩ | ⟨hsubmits, update, hupdate, hw⟩
  · simp [hw, hprepared, hsubmits]
  -- the update holds what the change has made of the case
  · obtain ⟨entries, hentries, hdata⟩ := hupdate.caseData
    rw [m.entries_eq hentries, Merge.base_refreshCaller] at hdata
    rw [hw, World.trail_addUpdate, hprepared, hupdate.accepted, hsubmits, hupdate.eventType, hdata]
    cases m.env.accepts <;> rfl

theorem trail_document (m : MergeDoc) (w : World) :
    (worldAfter m.call w.refreshCaller).trail =
      w.trail ++ (m.accepted w.caseData).toList.map asUpdate := by
  have hcaller : w.refreshCaller.callerCaseData = w.caseData := rfl
  rw [MergeDoc.worldAfter_call, hcaller]
  unfold MergeDoc.accepted
  -- without a recorded document there is no update
  cases m.updateDocCall.recorded w.caseData with
  | error e => exact (List.append_nil _).symm
  | ok caseData =>
    rw [World.trail_addUpdate]
    show w.trail ++ (if m.env.accepts then _ else _) = _
    cases m.env.accepts <;> rfl

theorem trail_next (w : World) :
    (o.next common w).trail = w.trail ++ (o.accepted common w.caseData).toList.map asUpdate := by
  -- a refused update leaves the trail as it is
  cases o with
  | merge m => exact trail_merge common m w
  | document m => exact trail_document m w
  | generate d =>
    have hcaller : w.refreshCaller.callerCaseData = w.caseData := rfl
    rw [next, worldAfter_call_generate, GenerateDocument.worldAfter_call, hcaller, accepted]
    cases d.generated w.caseData.ccdCaseId with
    | error e => exact (List.append_nil _).symm
    | ok generated => exact trail_document generated.2 w

theorem trail_run (w : World) (os : List (Operation Value)) :
    (run common w os).trail = w.trail ++ (history common w.caseData os).map asUpdate := by
  induction os generalizing w with
  | nil => exact (List.append_nil _).symm
  | cons o os ih =>
    have hrest := ih (o.next common w)
    rw [trail_next, caseData_next, List.append_assoc, ← List.map_append] at hrest
    exact hrest

/-! ### Calls -/

theorem calls_history {common : SscsCommon} (hflag : FlagOfLetters common)
    (caseData : SscsCaseData) (os : List (Operation Value)) :
    ∃ calls : List (Operation Value), calls.Sublist os ∧
      List.Forall₂ (CanMake caseData.ccdCaseId) calls
        ((history common caseData os).map Prod.fst) := by
  induction os generalizing caseData with
  | nil => exact ⟨[], List.Sublist.refl _, List.Forall₂.nil⟩
  | cons o os ih =>
    obtain ⟨calls, hcalls, hmade⟩ := ih (o.dataAfter common caseData)
    rw [history]
    cases haccepted : o.accepted common caseData with
    | none =>
      rw [o.dataAfter_of_not_accepted common haccepted] at hmade ⊢
      exact ⟨calls, hcalls.cons o, hmade⟩
    | some made =>
      -- the case keeps its id, so that later documents are generated for the same case
      have hid : made.2.ccdCaseId = caseData.ccdCaseId := by
        rw [(caseHistory_accepted hflag haccepted (CaseHistory.refl made.2)).frame]
      rw [o.dataAfter_of_accepted common haccepted] at hmade ⊢
      rw [hid] at hmade
      exact ⟨o :: calls, hcalls.cons_cons o,
        List.Forall₂.cons (accepted_cases common haccepted).1 hmade⟩

/-- What is promised of a run of all services in which every call is given the current case
data. -/
structure ServiceRun (w : World) (os : List (Operation Value)) : Prop where
  /-- The changes are made by calls of the run, in order, by each of them at most once. -/
  calls : ∃ calls : List (Operation Value), calls.Sublist os ∧
    List.Forall₂ (CanMake w.caseData.ccdCaseId) calls
      ((history common w.caseData os).map Prod.fst)
  /-- The case is what they have made of it. -/
  caseData : CaseHistory common w.caseData ((history common w.caseData os).map Prod.fst)
    (run common w os).caseData
  /-- The updates that CCD has accepted are the states of the case after each of them. -/
  updates : (run common w os).trail = w.trail ++ (history common w.caseData os).map asUpdate

/-- **Runs of all services**: every change that CCD accepts is accounted for in the case, once
and in its place, and nothing else is. -/
theorem serviceRun {common : SscsCommon} (hflag : FlagOfLetters common) (w : World)
    (os : List (Operation Value)) : ServiceRun common w os where
  calls := calls_history hflag w.caseData os
  caseData := caseHistory_run hflag w os
  updates := trail_run common w os

theorem serviceRun_samples : ServiceRun .bySentOn .sample (sampleMerges ++ [sampleDocument]) :=
  serviceRun flagOfLetters_bySentOn .sample (sampleMerges ++ [sampleDocument])

end Operation

end SscsPdfEmail.Service
