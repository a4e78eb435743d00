import SscsPdfEmail.Concurrency.CaseClients

/-!
# Lost Updates in the First Generation

`mergeCorrespondenceIntoCcd` and `mergeLetterCorrespondenceIntoCcd` submit a whole case that was
read before their event was opened, so the version check does not cover it: whatever was accepted
between the reading and the opening is overwritten.

A run loses no update when every accepted submission was built on the case as it was stored then
(`noLostUpdate_of_builtOnCurrent`).  The condition looks at each submission in the state it is
made in; under it the calls are clients of the abstract store whose snapshots are current, so the
run is serial, and no entry that was accepted is missing from the stored list.  Without the
condition two letters are enough to lose one (`letter_lost_in_interleaving`).  Consumer-based
operations need no such condition.
-/

namespace SscsPdfEmail.Concurrency

open SscsPdfEmail.Domain SscsPdfEmail.Service
open SscsPdfEmail.Library

variable {ι : Type} [DecidableEq ι]

/-! ## Losing no update -/

/-- The update of another party removes no correspondence. -/
def KeepsCorrespondence (f : SscsCaseData → SscsCaseData) : Prop :=
  ∀ caseData : SscsCaseData, caseData.correspondences.Subperm (f caseData).correspondences

/-- The cases differ in the correspondence list at most. -/
def SameOutsideCorrespondence (initial final : SscsCaseData) : Prop :=
  final = { initial with correspondence := final.correspondence }

/-- The entries of the accepted merges, in the order of their submits. -/
def acceptedEntries (merge : ι → Merge) (s : CaseState ι) : List Correspondence :=
  (OptimisticStore.commits s.log).filterMap fun client => (merge client).entry

/-- What a run without lost updates is. -/
structure NoLostUpdate (common : SscsCommon) (merge : ι → Merge) (s : CaseState ι)
    (actions : List (Action ι)) : Prop where
  /-- The correspondence of every accepted merge is in the list at the end ... -/
  present : ∀ client entry, (run common merge s actions).phase client = .accepted →
    (merge client).entry = some entry →
      entry ∈ (run common merge s actions).caseData.correspondences
  /-- ... as often as it was accepted. -/
  counted : (acceptedEntries merge (run common merge s actions)).Subperm
    (run common merge s actions).caseData.correspondences
  /-- No step of a merge reverts a field that another party has changed. -/
  notReverted : ∀ before action after, actions = before ++ action :: after →
    (∀ f, action ≠ .otherParty f) →
      SameOutsideCorrespondence (run common merge s before).caseData
        (run common merge s (before ++ [action])).caseData
  /-- The stored case is all the accepted updates, applied one after another. -/
  serial : OptimisticStore.Serial (mergeOf common merge) s.caseData
    (run common merge s actions).abstract

/-! ## The condition -/

/-- A submission that CCD is about to accept was built on the case as it is stored. -/
def builtOnCurrent (s : CaseState ι) : Action ι → Bool
  | .submit client =>
    match s.phase client with
    | .opened _ caseData version => decide (version = s.version → caseData = s.caseData)
    | _ => true
  | _ => true

/-- The condition at each step of a run. -/
def allBuiltOnCurrent (common : SscsCommon) (merge : ι → Merge) (s : CaseState ι) :
    List (Action ι) → Bool
  | [] => true
  | action :: actions =>
    builtOnCurrent s action && allBuiltOnCurrent common merge (step common merge s action) actions

omit [DecidableEq ι] in
theorem eq_of_builtOnCurrent {s : CaseState ι} {client : ι} {entries : List Correspondence}
    {caseData : SscsCaseData} (h : builtOnCurrent s (.submit client) = true)
    (hphase : s.phase client = .opened entries caseData s.version) : caseData = s.caseData := by
  simpa [builtOnCurrent, hphase] using h

/-! ## One step -/

section Step

variable {common : SscsCommon} {merge : ι → Merge} {s s' : CaseState ι} {action : Action ι}

theorem abstract_eq_opened {phase : Phase} {caseData : SscsCaseData} {version : ℕ}
    (h : phase.abstract = .opened caseData version) :
    ∃ entries, phase = .opened entries caseData version := by
  cases phase with
  | opened entries caseData' version' =>
    cases h
    exact ⟨entries, rfl⟩
  | idle | snapshot _ | built _ | ready _ _ | accepted | rejected => cases h

/-- A merge is accepted by its own submission only. -/
theorem submit_of_accepted (h : Transition common merge s action s') {client : ι}
    (hbefore : s.phase client ≠ .accepted) (hafter : s'.phase client = .accepted) :
    action = .submit client := by
  have hmove : ∀ other phase, phase ≠ .accepted →
      (s.move other phase).phase client ≠ .accepted := by
    intro other phase hphase
    by_cases hother : client = other
    · subst hother
      simpa [CaseState.move] using hphase
    · simpa [CaseState.move, hother] using hbefore
  cases h with
  | @accept other entries caseData hphase =>
    -- an acceptance of another client leaves this one where it was
    by_cases hother : client = other
    · rw [hother]
    · refine absurd ?_ hbefore
      simpa [CaseState.move, CaseState.accept, hother] using hafter
  | otherParty f => exact absurd hafter hbefore
  | takeSnapshot _ _ | storeSnapshot _ _ | build _ _ _ | readCase _ _ | openReady _
  | openBuilt _ _ | retry _ _ | conflict _ | fail _ =>
    exact absurd hafter (hmove _ _ (by simp))

/-- Under the condition, the step of the optimistic store is fresh. -/
theorem freshStep_of_builtOnCurrent (h : Transition common merge s action s')
    (hcurrent : builtOnCurrent s action = true)
    (hstep : OptimisticStore.Step (mergeOf common merge) s.abstract s'.abstract) :
    OptimisticStore.FreshStep (mergeOf common merge) s.abstract s'.abstract := by
  refine ⟨hstep, ?_⟩
  intro client snapshot hopened hcommitted
  obtain ⟨entries, hphase⟩ := abstract_eq_opened hopened
  have hafter : s'.phase client = .accepted := abstract_eq_committed.mp hcommitted
  -- a client that is accepted in this step has submitted in it
  obtain rfl := submit_of_accepted h (by simp [hphase]) hafter
  exact eq_of_builtOnCurrent hcurrent hphase

/-- Under the condition, a step of a correspondence merge changes the correspondence list at
most. -/
theorem sameOutside_of_builtOnCurrent (h : Transition common merge s action s')
    (hmerge : ∀ client, (merge client).letterType = none) (hcurrent : builtOnCurrent s action = true)
    (hown : ∀ f, action ≠ .otherParty f) :
    SameOutsideCorrespondence s.caseData s'.caseData := by
  cases h with
  | @accept client entries caseData hphase =>
    -- what is submitted was built on the case as it is stored
    obtain rfl := eq_of_builtOnCurrent hcurrent hphase
    show SameOutsideCorrespondence s.caseData ((merge client).apply common entries s.caseData)
    rw [Merge.apply, hmerge client]
    rfl
  | otherParty f => exact absurd rfl (hown f)
  | takeSnapshot _ _ | storeSnapshot _ _ | build _ _ _ | readCase _ _ | openReady _
  | openBuilt _ _ | retry _ _ | conflict _ | fail _ => rfl

theorem acceptedEntries_accept (client : ι) (caseData : SscsCaseData) :
    acceptedEntries merge ((s.accept (.commit client) caseData).move client .accepted) =
      acceptedEntries merge s ++ (merge client).entry.toList := by
  have hlog : ((s.accept (.commit client) caseData).move client .accepted).log =
      s.log ++ [.commit client] := rfl
  unfold acceptedEntries
  rw [hlog, OptimisticStore.commits_concat_commit, List.filterMap_append]
  rfl

/-- Under the condition, the entries of accepted merges stay in the list. -/
theorem subperm_of_builtOnCurrent (h : Transition common merge s action s')
    (hmerge : ∀ client, (merge client).letterType = none) (hbuilt : EntriesBuilt merge s)
    (hcurrent : builtOnCurrent s action = true)
    (hkeeps : ∀ f, action = .otherParty f → KeepsCorrespondence f)
    (hs : (acceptedEntries merge s).Subperm s.caseData.correspondences) :
    (acceptedEntries merge s').Subperm s'.caseData.correspondences := by
  cases h with
  | @accept client entries caseData hphase =>
    obtain rfl := eq_of_builtOnCurrent hcurrent hphase
    have hentries : entries = (merge client).entry.toList :=
      hbuilt client entries (by simp [hphase, Phase.entries])
    have happly : (merge client).apply common entries s.caseData =
        CcdNotificationsPdfService.addCorrespondences common entries s.caseData := by
      rw [Merge.apply, hmerge client]
    rw [acceptedEntries_accept, ← hentries]
    show (acceptedEntries merge s ++ entries).Subperm
      ((merge client).apply common entries s.caseData).correspondences
    rw [happly]
    -- the sorted list is a permutation of the stored entries and the new ones
    have hsorted := (common.sortReverseOrder_perm (s.caseData.correspondences ++ entries)).symm
    exact ((List.subperm_append_right entries).mpr hs).trans hsorted.subperm
  | otherParty f =>
    have hlog : acceptedEntries merge (s.accept (.foreign f) (f s.caseData)) =
        acceptedEntries merge s := by
      unfold acceptedEntries
      rw [CaseState.accept, OptimisticStore.commits_concat_foreign]
    rw [hlog]
    exact hs.trans (hkeeps f rfl s.caseData)
  | takeSnapshot _ _ | storeSnapshot _ _ | build _ _ _ | readCase _ _ | openReady _
  | openBuilt _ _ | retry _ _ | conflict _ | fail _ => exact hs

end Step

/-! ## Runs -/

section Run

variable (common : SscsCommon) (merge : ι → Merge)

theorem allBuiltOnCurrent_append {s : CaseState ι} {before after : List (Action ι)} :
    allBuiltOnCurrent common merge s (before ++ after) =
      (allBuiltOnCurrent common merge s before &&
        allBuiltOnCurrent common merge (run common merge s before) after) := by
  induction before generalizing s with
  | nil => rfl
  | cons action before ih =>
    -- the second part starts where the first one leads to
    have hrest := @ih (step common merge s action)
    simp only [List.cons_append, allBuiltOnCurrent, hrest, Bool.and_assoc]
    rfl

/-- What holds all through a run of correspondence merges that meets the condition. -/
structure CurrentInvariant (initial : SscsCaseData) (s : CaseState ι) : Prop where
  entriesBuilt : EntriesBuilt merge s
  serial : OptimisticStore.Serial (mergeOf common merge) initial s.abstract
  counted : OptimisticStore.Counted s.abstract
  subperm : (acceptedEntries merge s).Subperm s.caseData.correspondences

variable {common} {merge}

theorem CurrentInvariant.step {initial : SscsCaseData} {s : CaseState ι} {action : Action ι}
    (hs : CurrentInvariant common merge initial s)
    (hmerge : ∀ client, (merge client).letterType = none) (hcurrent : builtOnCurrent s action = true)
    (hkeeps : ∀ f, action = .otherParty f → KeepsCorrespondence f) :
    CurrentInvariant common merge initial (step common merge s action) := by
  rcases step_cases common merge s action with hsame | h
  · rw [hsame]
    exact hs
  · have hbuilt := hs.entriesBuilt.transition common h
    have hsubperm := subperm_of_builtOnCurrent h hmerge hs.entriesBuilt hcurrent hkeeps hs.subperm
    rcases abstract_transition common hs.entriesBuilt h with hsame | hstep
    · exact ⟨hbuilt, hsame ▸ hs.serial, hsame ▸ hs.counted, hsubperm⟩
    -- the version check lets old data through, and the hypothesis does not
    · have hfresh := freshStep_of_builtOnCurrent h hcurrent hstep
      exact ⟨hbuilt, hfresh.serial hs.serial, hstep.counted hs.counted, hsubperm⟩

theorem CurrentInvariant.run {initial : SscsCaseData} {s : CaseState ι}
    {actions : List (Action ι)} (hs : CurrentInvariant common merge initial s)
    (hmerge : ∀ client, (merge client).letterType = none)
    (hcurrent : allBuiltOnCurrent common merge s actions = true)
    (hkeeps : ∀ f, .otherParty f ∈ actions → KeepsCorrespondence f) :
    CurrentInvariant common merge initial (run common merge s actions) := by
  induction actions generalizing s with
  | nil => exact hs
  | cons action actions ih =>
    -- the condition is on every step, each in the state it is taken in
    obtain ⟨hfirst, hrest⟩ := Bool.and_eq_true_iff.mp hcurrent
    apply ih
    · exact hs.step hmerge hfirst fun f hf => hkeeps f (by simp [hf])
    · exact hrest
    · exact fun f hf => hkeeps f (List.mem_cons_of_mem action hf)

/-- **No lost update**: a run of e-mail and letter merges of the first generation, between
updates of other parties that remove no correspondence, loses nothing when each accepted
submission was built on the case as it was stored then. -/
theorem noLostUpdate_of_builtOnCurrent (common : SscsCommon) (merge : ι → Merge)
    (hv1 : ∀ client, dataFlow (merge client) ≠ .consumer) (initial : SscsCaseData) (version : ℕ)
    (actions : List (Action ι))
    (hkeeps : ∀ f, .otherParty f ∈ actions → KeepsCorrespondence f)
    (hcurrent : allBuiltOnCurrent common merge (.start initial version) actions = true) :
    NoLostUpdate common merge (.start initial version) actions := by
  have hmerge : ∀ client, (merge client).letterType = none := by
    intro client
    have hflow := hv1 client
    rw [Ne, dataFlow_eq_consumer_iff, not_or, Option.not_isSome_iff_eq_none] at hflow
    exact hflow.2
  have hstart : CurrentInvariant common merge initial (.start initial version) :=
    ⟨entriesBuilt_start merge initial version, OptimisticStore.serial_start initial version,
      OptimisticStore.counted_start initial version, List.nil_subperm⟩
  have hrun := hstart.run hmerge hcurrent hkeeps
  refine ⟨?_, hrun.subperm, ?_, hrun.serial⟩
  · intro client entry haccepted hentry
    have hcommitted : client ∈ OptimisticStore.commits
        (run common merge (.start initial version) actions).log :=
      (hrun.counted.mem_iff client).mpr (abstract_eq_committed.mpr haccepted)
    exact hrun.subperm.subset (List.mem_filterMap.mpr ⟨client, hcommitted, hentry⟩)
  · intro before action after hsplit hown
    -- the condition at this very step, out of that on the whole run
    subst hsplit
    rw [allBuiltOnCurrent_append] at hcurrent
    have hrest := (Bool.and_eq_true_iff.mp hcurrent).2
    have hbefore := (Bool.and_eq_true_iff.mp hrest).1
    rw [run_concat]
    rcases step_cases common merge (run common merge (.start initial version) before) action
      with hsame | h
    · rw [hsame]
      rfl
    · exact sameOutside_of_builtOnCurrent h hmerge hbefore hown

end Run

/-! ## Two letters -/

/-- A letter sent on the given day. -/
def letterOf (sentOn : String) : Merge :=
  { Merge.sample .v1 (.letter [1] none) with
    correspondence :=
      { value := some
          { sentOn := some sentOn
            eventType := some "appealReceived"
            correspondenceType := some .letter } } }

/-- Two letters for one case. -/
def letters (second : Bool) : Merge :=
  letterOf (if second then "23 Jan 2021 11:33" else "22 Jan 2021 11:33")

/-- Both letters read the case before either writes it. -/
def interleaved : List (Action Bool) :=
  [.storePdf false, .storePdf true, .readCase false, .readCase true, .openEvent false,
    .submit false, .openEvent true, .submit true]

/-- The second letter reads the case after the first has written it, and after another party
has. -/
def consecutive : List (Action Bool) :=
  [.storePdf false, .storePdf true, .readCase false, .openEvent false, .submit false,
    .otherParty fun caseData => { caseData with evidenceHandled := some "Yes" },
    .readCase true, .openEvent true, .submit true]

theorem noLostUpdate_consecutive :
    NoLostUpdate .bySentOn letters (.start World.sample.caseData 0) consecutive := by
  apply noLostUpdate_of_builtOnCurrent
  · intro client
    cases client <;> decide
  · intro f hf
    simp only [consecutive, List.mem_cons, Action.otherParty.injEq, reduceCtorEq, false_or,
      List.not_mem_nil, or_false] at hf
    subst hf
    exact fun caseData => List.Subperm.refl _
  · decide

/-- The first of two interleaved letters is accepted and lost. -/
theorem letter_lost_in_interleaving :
    ¬ ∀ (merge : Bool → Merge) (initial : SscsCaseData) (actions : List (Action Bool)),
      (∀ client, dataFlow (merge client) ≠ .consumer) →
      (∀ f, .otherParty f ∈ actions → KeepsCorrespondence f) →
        NoLostUpdate .bySentOn merge (.start initial 0) actions := by
  intro hclaim
  have hinterleaved := hclaim letters World.sample.caseData interleaved
    (by intro client; cases client <;> decide) (by intro f hf; simp [interleaved] at hf)
  have honly : (run .bySentOn letters (.start World.sample.caseData 0)
      interleaved).caseData.correspondences = (letters true).entry.toList := by decide
  have hdiffer : (letters false).entry ≠ (letters true).entry := by decide
  obtain ⟨entry, hentry⟩ : ∃ entry, (letters false).entry = some entry := ⟨_, rfl⟩
  -- the first letter is accepted, yet the list holds the second one only
  have hpresent := hinterleaved.present false entry (by decide) hentry
  rw [honly, Option.mem_toList] at hpresent
  exact hdiffer (hentry.trans hpresent.symm)

end SscsPdfEmail.Concurrency
