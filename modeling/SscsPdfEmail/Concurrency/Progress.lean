import Mathlib.Data.Fintype.Card
import SscsPdfEmail.Concurrency.CaseClients

/-!
# Progress of Concurrent Merges

The operations of the second generation try again after a conflict, those of the first do not.

- A conflict is the price of an update of somebody else: no client meets more conflicts than
  updates of others were accepted (`conflicts_le`), so among `n` clients none meets as many as
  `n` (`conflicts_lt_card`).
- From every state that a run can reach, a consumer-based call that is left alone ends within
  five steps of its own (`leftAlone`).  A call that tries again is then accepted, and has merged
  its correspondence into the case as it was stored; a reasonable adjustment of the first
  generation is accepted as well, unless its open event is out of date, for then it is refused
  and leaves the case as it was.

The first part rests on the invariant `Paid`: the version of an open event counts the updates
that were accepted before it, and every conflict so far was paid for by one of these.  The second
rests on `HoldsCurrent`: a consumer-based call never holds data of its own, and data with an
event that is up to date are the stored ones.
-/

namespace SscsPdfEmail.Concurrency

open SscsPdfEmail.Domain SscsPdfEmail.Service
open SscsPdfEmail.Library

variable {ι : Type} [DecidableEq ι]

/-! ## Conflicts -/

/-- A submission that CCD refuses because the case has changed. -/
def isConflict (s : CaseState ι) (client : ι) : Action ι → Bool
  | .submit other =>
    match s.phase client with
    | .opened _ _ version => other = client && version ≠ s.version
    | _ => false
  | _ => false

theorem isConflict_iff {s : CaseState ι} {client : ι} {action : Action ι} :
    isConflict s client action = true ↔
      action = .submit client ∧ ∃ entries caseData version,
        s.phase client = .opened entries caseData version ∧ version ≠ s.version := by
  unfold isConflict
  cases action with
  | submit other =>
    cases hphase : s.phase client with
    -- only a client with an open event can meet a conflict
    | opened entries caseData version => simp
    | idle | snapshot _ | built _ | ready _ _ | accepted | rejected => simp
  | takeSnapshot _ | storePdf _ | readCase _ | openEvent _ | fail _ | otherParty _ => simp

/-- The accepted updates of all but one client. -/
def others (client : ι) (log : List (OptimisticStore.Event ι SscsCaseData)) : ℕ :=
  log.countP fun
    | .commit other => other ≠ client
    | .foreign _ => true

theorem others_concat_self (client : ι) (log : List (OptimisticStore.Event ι SscsCaseData)) :
    others client (log ++ [.commit client]) = others client log := by
  simp [others]

theorem others_concat_of_ne {client other : ι} (h : other ≠ client)
    (log : List (OptimisticStore.Event ι SscsCaseData)) :
    others client (log ++ [.commit other]) = others client log + 1 := by
  simp [others, h]

theorem others_concat_foreign (client : ι) (log : List (OptimisticStore.Event ι SscsCaseData))
    (f : SscsCaseData → SscsCaseData) :
    others client (log ++ [.foreign f]) = others client log + 1 := by
  simp [others]

section Conflicts

variable (common : SscsCommon) (merge : ι → Merge)

/-- The conflicts that a client meets in a run. -/
def conflicts (client : ι) (s : CaseState ι) : List (Action ι) → ℕ
  | [] => 0
  | action :: actions =>
    (if isConflict s client action then 1 else 0) +
      conflicts client (step common merge s action) actions

/-- The conflicts of a client so far are paid for by the updates of others: by those accepted
before its event was opened while it has an open one, and by all of them in any case. -/
structure Paid (initial : ℕ) (client : ι) (refused : ℕ) (s : CaseState ι) : Prop where
  paid : refused ≤ others client s.log
  version : s.phase client ≠ .accepted → initial + others client s.log = s.version
  opened : ∀ entries caseData version, s.phase client = .opened entries caseData version →
    initial + refused ≤ version ∧ version ≤ s.version

omit [DecidableEq ι] in
theorem CaseState.phase_start (caseData : SscsCaseData) (version : ℕ) (client : ι) :
    (CaseState.start caseData version : CaseState ι).phase client = .idle := rfl

theorem paid_start (caseData : SscsCaseData) (version : ℕ) (client : ι) :
    Paid version client 0 (.start caseData version) where
  paid := Nat.zero_le _
  version _ := rfl
  opened _ _ _ h := by cases h

variable {initial : ℕ} {client other : ι} {refused : ℕ} {s : CaseState ι}

/-- Steps of another client, none of them accepted, change nothing for this one. -/
theorem Paid.move_other (hs : Paid initial client refused s) (h : client ≠ other)
    (phase : Phase) : Paid initial client refused (s.move other phase) := by
  have hphase : (s.move other phase).phase client = s.phase client :=
    Function.update_of_ne h ..
  exact ⟨hs.paid, fun hne => hs.version (hphase ▸ hne),
    fun entries caseData version ho => hs.opened entries caseData version (hphase ▸ ho)⟩

/-- A client that is not yet accepted goes on without an open event. -/
theorem Paid.move_self (hs : Paid initial client refused s) (h : s.phase client ≠ .accepted)
    {phase : Phase}
    (hphase : ∀ entries caseData version, phase ≠ .opened entries caseData version) :
    Paid initial client refused (s.move client phase) := by
  have hself : (s.move client phase).phase client = phase := Function.update_self ..
  exact ⟨hs.paid, fun _ => hs.version h,
    fun entries caseData version ho => absurd (hself ▸ ho) (hphase _ _ _)⟩

/-- An event is opened at the version that all updates so far have led to. -/
theorem Paid.move_opened (hs : Paid initial client refused s) (h : s.phase client ≠ .accepted)
    (entries : List Correspondence) (caseData : SscsCaseData) :
    Paid initial client refused (s.move client (.opened entries caseData s.version)) := by
  have hself : (s.move client (.opened entries caseData s.version)).phase client =
      .opened entries caseData s.version := Function.update_self ..
  refine ⟨hs.paid, fun _ => hs.version h, fun entries' caseData' version ho => ?_⟩
  rw [hself] at ho
  cases ho
  have hpaid := hs.paid
  have hversion := hs.version h
  -- all that was refused was paid for by updates before this version
  exact ⟨by omega, Nat.le_refl _⟩

/-- An update of somebody else pays for a further conflict. -/
theorem Paid.accept (hs : Paid initial client refused s)
    {event : OptimisticStore.Event ι SscsCaseData}
    (hevent : others client (s.log ++ [event]) = others client s.log + 1)
    (caseData : SscsCaseData) : Paid initial client refused (s.accept event caseData) where
  paid := by
    show refused ≤ others client (s.log ++ [event])
    have hpaid := hs.paid
    omega
  version h := by
    show initial + others client (s.log ++ [event]) = s.version + 1
    have hversion := hs.version h
    omega
  opened entries caseData version ho := by
    obtain ⟨hpaid, hle⟩ := hs.opened entries caseData version ho
    exact ⟨hpaid, Nat.le_succ_of_le hle⟩

theorem Paid.commit (hs : Paid initial client refused s) (caseData : SscsCaseData) :
    Paid initial client refused
      ((s.accept (.commit client) caseData).move client .accepted) := by
  have hself : ((s.accept (.commit client) caseData).move client .accepted).phase client =
      .accepted := Function.update_self ..
  -- an accepted client has no open event, and its own update is not among those of others
  refine ⟨?_, fun hne => absurd hself hne, fun _ _ _ ho => by rw [hself] at ho; cases ho⟩
  show refused ≤ others client (s.log ++ [.commit client])
  rw [others_concat_self]
  exact hs.paid

variable {merge}

theorem Paid.transition (hs : Paid initial client refused s) {action : Action ι}
    {s' : CaseState ι} (h : Transition common merge s action s') :
    Paid initial client refused s' := by
  -- what another client does matters only when it is accepted
  have hmove : ∀ {other : ι} {phase : Phase}, s.phase other ≠ .accepted →
      (∀ entries caseData version, phase ≠ .opened entries caseData version) →
        Paid initial client refused (s.move other phase) := by
    intro other phase hother hphase
    by_cases hclient : client = other
    · subst hclient
      exact hs.move_self hother hphase
    · exact hs.move_other hclient phase
  have hopen : ∀ {other : ι} (entries : List Correspondence) (caseData : SscsCaseData),
      s.phase other ≠ .accepted →
        Paid initial client refused (s.move other (.opened entries caseData s.version)) := by
    intro other entries caseData hother
    by_cases hclient : client = other
    · subst hclient
      exact hs.move_opened hother entries caseData
    · exact hs.move_other hclient _
  cases h with
  | takeSnapshot hphase _ => exact hmove (by simp [hphase]) (by simp)
  | storeSnapshot hphase _ => exact hmove (by simp [hphase]) (by simp)
  | build hphase _ _ => exact hmove (by simp [hphase]) (by simp)
  | readCase hphase _ => exact hmove (by simp [hphase]) (by simp)
  | openReady hphase => exact hopen _ _ (by simp [hphase])
  | openBuilt hphase _ => exact hopen _ _ (by simp [hphase])
  | retry hphase _ => exact hmove (by simp [hphase]) (by simp)
  | conflict hphase => exact hmove hphase (by simp)
  | fail hphase => exact hmove hphase (by simp)
  | @accept other entries caseData hphase =>
    by_cases hclient : client = other
    · subst hclient
      exact hs.commit _
    · exact (hs.accept (others_concat_of_ne (Ne.symm hclient) s.log) _).move_other hclient _
  | otherParty f => exact hs.accept (others_concat_foreign client s.log f) _

/-- A conflict uses up the update that it comes from. -/
theorem Paid.conflict (hs : Paid initial client refused s) {action : Action ι}
    (h : isConflict s client action = true) :
    Paid initial client (refused + 1) (step common merge s action) := by
  obtain ⟨rfl, entries, caseData, version, hphase, hversion⟩ := isConflict_iff.mp h
  have hpending : s.phase client ≠ .accepted := by simp [hphase]
  obtain ⟨hpaid, hle⟩ := hs.opened entries caseData version hphase
  have hcurrent := hs.version hpending
  -- the event was opened before the last of the updates
  have hmore : refused + 1 ≤ others client s.log := by omega
  have hmove : ∀ phase : Phase,
      (∀ entries caseData version, phase ≠ .opened entries caseData version) →
      Paid initial client (refused + 1) (s.move client phase) := by
    intro phase hnone
    have hself : (s.move client phase).phase client = phase := Function.update_self ..
    exact ⟨hmore, fun _ => hcurrent, fun _ _ _ ho => absurd (hself ▸ ho) (hnone _ _ _)⟩
  simp only [step, hphase, if_neg hversion]
  split
  · exact hmove _ (by simp)
  · exact hmove _ (by simp)

theorem Paid.step (hs : Paid initial client refused s) (action : Action ι) :
    Paid initial client (refused + if isConflict s client action then 1 else 0)
      (step common merge s action) := by
  by_cases hconflict : isConflict s client action = true
  · rw [if_pos hconflict]
    exact hs.conflict common hconflict
  · rw [if_neg hconflict]
    rcases step_cases common merge s action with hsame | htransition
    · rw [hsame]
      exact hs
    · exact hs.transition common htransition

theorem Paid.run (hs : Paid initial client refused s) (actions : List (Action ι)) :
    Paid initial client (refused + conflicts common merge client s actions)
      (run common merge s actions) := by
  induction actions generalizing s refused with
  | nil => exact hs
  | cons action actions ih =>
    have hstep : Paid initial client (refused + if isConflict s client action then 1 else 0)
        (Concurrency.step common merge s action) := hs.step common action
    -- the conflicts of the rest come on top of those so far
    have hrest := ih hstep
    rwa [Nat.add_assoc] at hrest

variable (merge)

/-- The conflicts of a run have been paid for. -/
theorem paid_run (caseData : SscsCaseData) (version : ℕ) (actions : List (Action ι))
    (client : ι) :
    Paid version client (conflicts common merge client (.start caseData version) actions)
      (run common merge (.start caseData version) actions) := by
  have hrun : Paid version client
      (0 + conflicts common merge client (.start caseData version) actions)
      (run common merge (.start caseData version) actions) :=
    (paid_start caseData version client).run common actions
  rwa [Nat.zero_add] at hrun

/-- **Conflicts are bounded**: in no run does a client meet more conflicts than updates of
others were accepted. -/
theorem conflicts_le (caseData : SscsCaseData) (version : ℕ) (actions : List (Action ι))
    (client : ι) :
    conflicts common merge client (.start caseData version) actions ≤
      others client (run common merge (.start caseData version) actions).log :=
  (paid_run common merge caseData version actions client).paid

/-- Two calls whose events are open at the same time: one is accepted, and the other
then meets a conflict. -/
def overlapping : List (Action Bool) :=
  [.storePdf false, .storePdf true, .openEvent false, .openEvent true, .submit false,
    .submit true]

/-! ### Clients only -/

/-- The calls keep their entries, and each is accepted at most once. -/
structure Orderly (s : CaseState ι) : Prop where
  entriesBuilt : EntriesBuilt merge s
  counted : OptimisticStore.Counted s.abstract

variable {merge}

theorem Orderly.step (hs : Orderly merge s) (action : Action ι) :
    Orderly merge (Concurrency.step common merge s action) := by
  rcases step_cases common merge s action with hsame | h
  · rw [hsame]
    exact hs
  · have hbuilt := hs.entriesBuilt.transition common h
    -- the log of accepted submissions is kept by the abstract store
    rcases abstract_transition common hs.entriesBuilt h with hsame | hstep
    · exact ⟨hbuilt, hsame ▸ hs.counted⟩
    · exact ⟨hbuilt, hstep.counted hs.counted⟩

theorem Orderly.run (hs : Orderly merge s) (actions : List (Action ι)) :
    Orderly merge (Concurrency.run common merge s actions) := by
  induction actions generalizing s with
  | nil => exact hs
  | cons action actions ih => exact ih (hs.step common action)

omit [DecidableEq ι] in
theorem orderly_start (caseData : SscsCaseData) (version : ℕ) :
    Orderly merge (.start caseData version) :=
  ⟨entriesBuilt_start merge caseData version, OptimisticStore.counted_start caseData version⟩

/-- The accepted updates of other parties. -/
def foreigns (log : List (OptimisticStore.Event ι SscsCaseData)) : ℕ :=
  log.countP fun
    | .foreign _ => true
    | .commit _ => false

/-- An accepted update of another party. -/
def Action.isOtherParty : Action ι → Bool
  | .otherParty _ => true
  | _ => false

/-- The accepted updates of other parties, in order. -/
def updatesOf (log : List (OptimisticStore.Event ι SscsCaseData)) :
    List (SscsCaseData → SscsCaseData) :=
  log.filterMap fun
    | .foreign f => some f
    | .commit _ => none

/-- The update that is an action of another party. -/
def Action.update : Action ι → Option (SscsCaseData → SscsCaseData)
  | .otherParty f => some f
  | _ => none

theorem updatesOf_transition {action : Action ι} {s' : CaseState ι}
    (h : Transition common merge s action s') :
    updatesOf s'.log = updatesOf s.log ++ action.update.toList := by
  -- only accepted steps write to the log, and those of clients are no foreign updates
  cases h with
  | accept hphase => simp [CaseState.move, CaseState.accept, updatesOf, Action.update]
  | otherParty g => simp [CaseState.accept, updatesOf, Action.update]
  | takeSnapshot _ _ | storeSnapshot _ _ | build _ _ _ | readCase _ _ | openReady _
  | openBuilt _ _ | retry _ _ | conflict _ | fail _ => exact (List.append_nil _).symm

theorem updatesOf_run (actions : List (Action ι)) :
    updatesOf (run common merge s actions).log =
      updatesOf s.log ++ actions.filterMap Action.update := by
  induction actions generalizing s with
  | nil => exact (List.append_nil _).symm
  | cons action actions ih =>
    have hstep : updatesOf (Concurrency.step common merge s action).log =
        updatesOf s.log ++ action.update.toList := by
      rcases step_cases common merge s action with hsame | h
      · -- other parties need not wait for anything
        cases action with
        | otherParty f =>
          have hforeign : Transition common merge s (.otherParty f) _ := .otherParty f
          exact updatesOf_transition common hforeign
        | takeSnapshot _ | storePdf _ | readCase _ | openEvent _ | submit _ | fail _ =>
          rw [hsame]
          exact (List.append_nil _).symm
      · exact updatesOf_transition common h
    have hactions : (action :: actions).filterMap Action.update =
        action.update.toList ++ actions.filterMap Action.update := by
      cases action <;> rfl
    have hrest : updatesOf (run common merge s (action :: actions)).log = _ :=
      ih (s := Concurrency.step common merge s action)
    rw [hrest, hstep, hactions, List.append_assoc]

omit [DecidableEq ι] in
theorem length_updatesOf (log : List (OptimisticStore.Event ι SscsCaseData)) :
    (updatesOf log).length = foreigns log := by
  rw [updatesOf, foreigns, List.length_filterMap_eq_countP]
  exact congrFun (congrArg List.countP (funext fun event => by cases event <;> rfl)) log

omit [DecidableEq ι] in
theorem length_filterMap_update (actions : List (Action ι)) :
    (actions.filterMap Action.update).length = actions.countP Action.isOtherParty := by
  rw [List.length_filterMap_eq_countP]
  exact congrFun (congrArg List.countP (funext fun action => by cases action <;> rfl)) actions

theorem foreigns_run (actions : List (Action ι)) :
    foreigns (run common merge s actions).log =
      foreigns s.log + actions.countP Action.isOtherParty := by
  rw [← length_updatesOf, updatesOf_run, List.length_append, length_updatesOf,
    length_filterMap_update]

theorem others_eq (client : ι) (log : List (OptimisticStore.Event ι SscsCaseData)) :
    others client log =
      ((OptimisticStore.commits log).filter (· ≠ client)).length + foreigns log := by
  induction log with
  | nil => rfl
  | cons event log ih =>
    cases event with
    | foreign f =>
      have hothers : others client (.foreign f :: log) = others client log + 1 := by
        simp [others]
      have hforeigns : foreigns (.foreign f :: log) = foreigns log + 1 := by
        simp [foreigns]
      have hcommits : OptimisticStore.commits
          (.foreign f :: log : List (OptimisticStore.Event ι SscsCaseData)) =
          OptimisticStore.commits log := rfl
      rw [hothers, hforeigns, hcommits, ih]
      rfl
    | commit other =>
      have hforeigns : foreigns (.commit other :: log) = foreigns log := by
        simp [foreigns]
      have hcommits : OptimisticStore.commits
          (.commit other :: log : List (OptimisticStore.Event ι SscsCaseData)) =
          other :: OptimisticStore.commits log := rfl
      rw [hforeigns, hcommits]
      -- the client's own commit counts on neither side
      by_cases hother : other = client
      · simpa [others, hother] using ih
      · have hothers : others client (.commit other :: log) = others client log + 1 := by
          simp [others, hother]
        rw [hothers, ih, List.filter_cons_of_pos (by simpa using hother), List.length_cons]
        omega

variable (merge)

/-- A client meets fewer conflicts than there are clients and updates of other parties. -/
theorem conflicts_lt [Fintype ι] (caseData : SscsCaseData) (version : ℕ)
    (actions : List (Action ι)) (client : ι) :
    conflicts common merge client (.start caseData version) actions <
      Fintype.card ι + actions.countP Action.isOtherParty := by
  have hle := (paid_run common merge caseData version actions client).paid
  have hforeigns : foreigns (run common merge (.start caseData version) actions).log =
      0 + actions.countP Action.isOtherParty := foreigns_run common actions
  -- every client is accepted at most once
  have hcounted : OptimisticStore.Counted
      (run common merge (.start caseData version) actions).abstract :=
    ((orderly_start caseData version).run common actions).counted
  -- the client itself is not among the others
  have hnodup : (client :: (OptimisticStore.commits
      (run common merge (.start caseData version) actions).log).filter (· ≠ client)).Nodup :=
    List.nodup_cons.mpr ⟨by simp, hcounted.nodup.filter _⟩
  have hcard := hnodup.length_le_card
  rw [List.length_cons] at hcard
  rw [others_eq] at hle
  omega

/-- **Among clients only**, no client meets as many conflicts as there are clients. -/
theorem conflicts_lt_card [Fintype ι] (common : SscsCommon) (merge : ι → Merge)
    (caseData : SscsCaseData) (version : ℕ) {actions : List (Action ι)}
    (hown : ∀ f, .otherParty f ∉ actions) (client : ι) :
    conflicts common merge client (.start caseData version) actions < Fintype.card ι := by
  have hnone : actions.countP Action.isOtherParty = 0 := by
    rw [List.countP_eq_zero]
    intro action haction
    -- no action is one of another party
    cases action with
    | otherParty f => exact absurd haction (hown f)
    | takeSnapshot _ | storePdf _ | readCase _ | openEvent _ | submit _ | fail _ =>
      simp [Action.isOtherParty]
  have hlt := conflicts_lt common merge caseData version actions client
  rwa [hnone] at hlt

theorem conflicts_overlapping :
    conflicts .bySentOn (fun _ : Bool => Merge.sample .v2 .email) true
        (.start World.sample.caseData 0) overlapping < Fintype.card Bool :=
  conflicts_lt_card .bySentOn _ World.sample.caseData 0 (by simp [overlapping]) true

end Conflicts

/-! ## A client that is left alone -/

section Alone

variable (common : SscsCommon) (merge : ι → Merge)

/-- Steps that bring a call to its end from wherever it stands: an event that was open may be
out of date, in which case it is opened again. -/
def alone (client : ι) : List (Action ι) :=
  [.storePdf client, .openEvent client, .submit client, .openEvent client, .submit client]

/-- A consumer-based call has no data of its own, and an open event that is still current has
the data as it is stored. -/
structure HoldsCurrent (client : ι) (s : CaseState ι) : Prop where
  snapshot : ∀ caseData, s.phase client ≠ .snapshot caseData
  ready : ∀ entries caseData, s.phase client ≠ .ready entries caseData
  opened : ∀ entries caseData version, s.phase client = .opened entries caseData version →
    version ≤ s.version ∧ (version = s.version → caseData = s.caseData)

variable {merge} {client : ι} {s : CaseState ι}

omit [DecidableEq ι] in
theorem holdsCurrent_start (caseData : SscsCaseData) (version : ℕ) :
    HoldsCurrent client (.start caseData version) where
  snapshot _ h := by cases h
  ready _ _ h := by cases h
  opened _ _ _ h := by cases h

omit [DecidableEq ι] in
theorem HoldsCurrent.accept (hs : HoldsCurrent client s)
    (event : OptimisticStore.Event ι SscsCaseData) (caseData : SscsCaseData) :
    HoldsCurrent client (s.accept event caseData) where
  snapshot := hs.snapshot
  ready := hs.ready
  opened entries caseData' version ho := by
    have hle := (hs.opened entries caseData' version ho).1
    -- no open event is current any more
    refine ⟨Nat.le_succ_of_le hle, fun heq => ?_⟩
    have hversion : version = s.version + 1 := heq
    omega

theorem HoldsCurrent.move_other (hs : HoldsCurrent client s) {other : ι} (h : client ≠ other)
    (phase : Phase) : HoldsCurrent client (s.move other phase) := by
  have hphase : (s.move other phase).phase client = s.phase client :=
    Function.update_of_ne h ..
  exact ⟨fun d hd => hs.snapshot d (hphase ▸ hd), fun e d hd => hs.ready e d (hphase ▸ hd),
    fun e d v hd => hs.opened e d v (hphase ▸ hd)⟩

/-- Where a consumer-based call may go. -/
theorem holdsCurrent_move_self {phase : Phase} (hsnapshot : ∀ caseData, phase ≠ .snapshot caseData)
    (hready : ∀ entries caseData, phase ≠ .ready entries caseData)
    (hopened : ∀ entries caseData version, phase = .opened entries caseData version →
      caseData = s.caseData ∧ version = s.version) :
    HoldsCurrent client (s.move client phase) := by
  have hself : (s.move client phase).phase client = phase := Function.update_self ..
  refine ⟨fun d hd => hsnapshot d (hself ▸ hd), fun e d hd => hready e d (hself ▸ hd),
    fun e d v hd => ?_⟩
  obtain ⟨rfl, rfl⟩ := hopened e d v (hself ▸ hd)
  exact ⟨Nat.le_refl _, fun _ => rfl⟩

theorem HoldsCurrent.transition (hflow : dataFlow (merge client) = .consumer)
    (hs : HoldsCurrent client s) {action : Action ι} {s' : CaseState ι}
    (h : Transition common merge s action s') : HoldsCurrent client s' := by
  have hplain : ∀ {other : ι} {phase : Phase}, (∀ caseData, phase ≠ .snapshot caseData) →
      (∀ entries caseData, phase ≠ .ready entries caseData) →
      (∀ entries caseData version, phase ≠ .opened entries caseData version) →
        HoldsCurrent client (s.move other phase) := by
    intro other phase hsnapshot hready hopened
    by_cases hother : client = other
    · subst hother
      exact holdsCurrent_move_self hsnapshot hready fun e d v hd => absurd hd (hopened e d v)
    · exact hs.move_other hother phase
  -- a step that only another kind of call takes is not one of this client
  have hforeign : ∀ {other : ι} (phase : Phase), client ≠ other →
      HoldsCurrent client (s.move other phase) := fun phase hother => hs.move_other hother phase
  -- a consumer-based call opens its event with the case as it is stored
  cases h with
  | takeSnapshot _ hother =>
    refine hforeign _ ?_
    rintro rfl
    rw [hflow] at hother
    cases hother
  | storeSnapshot hphase _ =>
    refine hforeign _ ?_
    rintro rfl
    exact hs.snapshot _ hphase
  | build _ _ _ => exact hplain (by simp) (by simp) (by simp)
  | readCase _ hother =>
    refine hforeign _ ?_
    rintro rfl
    rw [hflow] at hother
    cases hother
  | openReady hphase =>
    refine hforeign _ ?_
    rintro rfl
    exact hs.ready _ _ hphase
  | @openBuilt other entries _ _ =>
    by_cases hother : client = other
    · subst hother
      refine holdsCurrent_move_self (by simp) (by simp) fun e d v hd => ?_
      cases hd
      exact ⟨rfl, rfl⟩
    · exact hforeign _ hother
  | @accept other entries caseData hphase =>
    by_cases hother : client = other
    · subst hother
      exact holdsCurrent_move_self (by simp) (by simp) (by simp)
    · exact (hs.accept _ _).move_other hother _
  | retry _ _ => exact hplain (by simp) (by simp) (by simp)
  | conflict _ => exact hplain (by simp) (by simp) (by simp)
  | fail _ => exact hplain (by simp) (by simp) (by simp)
  | otherParty f => exact hs.accept _ _

variable (merge)

/-- What becomes of a consumer-based call that is left alone in a state. -/
structure LeftAlone (client : ι) (entries : List Correspondence) (s s' : CaseState ι) : Prop where
  /-- It is accepted if it tries again after conflicts, or meets none, and has then merged its
  correspondence into the case as it was. -/
  accepted : retries (merge client) = true ∨ isConflict s client (.submit client) = false →
    s'.phase client = .accepted ∧ s'.caseData = (merge client).apply common entries s.caseData
  /-- Otherwise it is refused, and leaves the case alone. -/
  rejected : retries (merge client) = false → isConflict s client (.submit client) = true →
    s'.phase client = .rejected ∧ s'.caseData = s.caseData

variable {merge} in
/-- The steps, from a state in which an event that is up to date has been opened with the data
as it is stored. -/
theorem leftAlone_run {client : ι} {s : CaseState ι} {entries : List Correspondence}
    (hflow : dataFlow (merge client) = .consumer)
    (hentries : (merge client).entries = .ok entries) (hbuilt : EntriesBuilt merge s)
    (hs : HoldsCurrent client s) (haccepted : s.phase client ≠ .accepted)
    (hrejected : s.phase client ≠ .rejected) :
    LeftAlone common merge client entries s (run common merge s (alone client)) := by
  -- what the call has built so far are its entries
  have hkept : ∀ entries', (s.phase client).entries = some entries' → entries' = entries :=
    fun entries' h => (hbuilt client entries' h).trans (Merge.entries_eq _ hentries).symm
  cases hphase : s.phase client with
  | idle =>
    refine ⟨fun _ => ?_, fun _ hconflict => ?_⟩
    · simp [run, alone, step, CaseState.move, CaseState.accept, hphase, hflow, hentries]
    · simp [isConflict, hphase] at hconflict
  | built entries' =>
    obtain rfl := hkept entries' (by simp [hphase, Phase.entries])
    refine ⟨fun _ => ?_, fun _ hconflict => ?_⟩
    · simp [run, alone, step, CaseState.move, CaseState.accept, hphase, hflow]
    · simp [isConflict, hphase] at hconflict
  | opened entries' caseData version =>
    obtain rfl := hkept entries' (by simp [hphase, Phase.entries])
    by_cases hcurrent : version = s.version
    · obtain rfl := (hs.opened _ _ _ hphase).2 hcurrent
      refine ⟨fun _ => ?_, fun _ hconflict => ?_⟩
      · simp [run, alone, step, CaseState.move, CaseState.accept, hphase, hcurrent]
      · simp [isConflict, hphase, hcurrent] at hconflict
    · -- the event is out of date: only a call that tries again opens it once more
      have hconflict : isConflict s client (.submit client) = true := by
        simp [isConflict, hphase, hcurrent]
      refine ⟨fun hagain => ?_, fun honce _ => ?_⟩
      · have hretries := hagain.resolve_right (by simp [hconflict])
        simp [run, alone, step, CaseState.move, CaseState.accept, hphase, hflow, hcurrent,
          hretries]
      · simp [run, alone, step, CaseState.move, hphase, hcurrent, honce]
  -- the other phases are not those of a consumer-based call that is still to be accepted
  | snapshot caseData => exact absurd hphase (hs.snapshot caseData)
  | ready entries' caseData => exact absurd hphase (hs.ready entries' caseData)
  | accepted => exact absurd hphase haccepted
  | rejected => exact absurd hphase hrejected

/-- **Left alone**, a consumer-based call ends within five steps, from every state that a run of
any clients and other parties leads to.  A call that tries again after conflicts is accepted; one
that does not is accepted unless its event was opened before the latest update. -/
theorem leftAlone {client : ι} {entries : List Correspondence}
    (hflow : dataFlow (merge client) = .consumer)
    (hentries : (merge client).entries = .ok entries)
    (caseData : SscsCaseData) (version : ℕ) (actions : List (Action ι))
    (haccepted : (run common merge (.start caseData version) actions).phase client ≠ .accepted)
    (hrejected : (run common merge (.start caseData version) actions).phase client ≠ .rejected) :
    LeftAlone common merge client entries (run common merge (.start caseData version) actions)
      (run common merge (.start caseData version) (actions ++ alone client)) := by
  -- the two invariants hold in every state that is reached
  have hholds := run_invariant common merge (HoldsCurrent client)
    (fun _ _ _ hs h => hs.transition common hflow h) (holdsCurrent_start caseData version) actions
  have hbuilt := run_invariant common merge (EntriesBuilt merge)
    (fun _ _ _ hs h => hs.transition common h) (entriesBuilt_start merge caseData version) actions
  have hrun := leftAlone_run common hflow hentries hbuilt hholds haccepted hrejected
  rwa [← run_append] at hrun

/-- A letter for reasonable adjustment that meets a conflict, by the operation of a generation. -/
def overlappingLetter (generation : Generation) : Merge :=
  .sample generation (.reasonableAdjustment [1] .appellant)

/-- Two such letters whose events are open at the same time, one of which has been accepted. -/
def overlappingState (generation : Generation) (actions : List (Action Bool)) :
    CaseState Bool :=
  run .bySentOn (fun _ => overlappingLetter generation) (.start World.sample.caseData 0) actions

/-- Where an event is out of date, the second generation is accepted and the first refused. -/
theorem leftAlone_overlapping :
    ((overlappingState .v2 (overlapping ++ alone true)).phase true = .accepted ∧
      (overlappingState .v2 (overlapping ++ alone true)).caseData =
        (overlappingLetter .v2).apply .bySentOn (overlappingLetter .v2).entry.toList
          (overlappingState .v2 overlapping).caseData) ∧
      (overlappingState .v1 (overlapping.dropLast ++ alone true)).phase true = .rejected ∧
        (overlappingState .v1 (overlapping.dropLast ++ alone true)).caseData =
          (overlappingState .v1 overlapping.dropLast).caseData :=
  ⟨(leftAlone .bySentOn (fun _ => overlappingLetter .v2) rfl rfl _ _ overlapping (by decide)
      (by decide)).accepted (Or.inl rfl),
    (leftAlone .bySentOn (fun _ => overlappingLetter .v1) rfl rfl _ _ overlapping.dropLast
      (by decide) (by decide)).rejected rfl (by decide)⟩

end Alone

end SscsPdfEmail.Concurrency
