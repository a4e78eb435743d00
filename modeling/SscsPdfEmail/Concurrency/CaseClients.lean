import SscsPdfEmail.Library.OptimisticStore
import SscsPdfEmail.Service.NotificationRuns

/-!
# Concurrent Clients of a Case

Any number of clients that each run one merge operation on the same case, one step at a time,
between the updates of other parties.  The steps are those of the operations: the caller of
`mergeCorrespondenceIntoCcd` takes a snapshot of the case before the PDF is stored,
`mergeLetterCorrespondenceIntoCcd` reads the case after it, and both open their event only when
they submit; the consumer-based operations read the case as their event is opened.

CCD accepts a submission when the version of the case has not changed since the event was opened.
A refused submission is tried again by the operations of the second generation, and ends the
call in the first.

`Transition` says once what a step can change, with its guards; every invariant of runs is
derived from it.  A client that runs alone does what the sequential call does
(`run_program_eq_next`), and each step is one of the abstract store, or not seen there
(`abstract_transition`).
-/

namespace SscsPdfEmail.Concurrency

open SscsPdfEmail.Domain SscsPdfEmail.Service
open SscsPdfEmail.Library

/-! ## Data flow of the operations -/

/-- Where the data comes from that a merge submits. -/
inductive DataFlow where
  /-- `mergeCorrespondenceIntoCcd`: from the caller. -/
  | callerSnapshot
  /-- `mergeLetterCorrespondenceIntoCcd`: from `getByCaseId`. -/
  | freshRead
  /-- The others: from the event, through a consumer. -/
  | consumer
deriving DecidableEq, Repr

def dataFlow (m : Merge) : DataFlow :=
  match m.notification, m.generation with
  | .email, .v1 => .callerSnapshot
  | .letter _ _, .v1 => .freshRead
  | _, _ => .consumer

/-- Whether the merge tries again after a conflict: `updateCaseV2` does,
`updateCaseWithoutRetry` and `updateCaseV2WithoutRetry` do not. -/
def retries (m : Merge) : Bool := m.generation = .v2

/-- The consumer-based operations are those of the second generation and the
reasonable-adjustment merges. -/
theorem dataFlow_eq_consumer_iff {m : Merge} :
    dataFlow m = .consumer ↔ m.generation = .v2 ∨ m.letterType.isSome := by
  unfold dataFlow Merge.letterType
  cases m.generation <;> cases m.notification <;> simp

/-! ## States and steps -/

/-- How far a call has come. -/
inductive Phase where
  | idle
  | snapshot (caseData : SscsCaseData)
  | built (entries : List Correspondence)
  | ready (entries : List Correspondence) (caseData : SscsCaseData)
  | opened (entries : List Correspondence) (caseData : SscsCaseData) (version : ℕ)
  | accepted
  | rejected
deriving DecidableEq, Repr

/-- The stored case with its version, the calls, and the accepted updates so far. -/
structure CaseState (ι : Type) where
  caseData : SscsCaseData
  version : ℕ
  phase : ι → Phase
  log : List (OptimisticStore.Event ι SscsCaseData)

inductive Action (ι : Type) where
  /-- The caller takes the case data that it will pass to the call. -/
  | takeSnapshot (client : ι)
  /-- The call stores its PDF and builds the entries. -/
  | storePdf (client : ι)
  /-- The call reads the case with `getByCaseId`. -/
  | readCase (client : ι)
  /-- The update starts its event. -/
  | openEvent (client : ι)
  /-- The update submits its event. -/
  | submit (client : ι)
  /-- The call ends with an exception, or with a refusal of CCD for another reason. -/
  | fail (client : ι)
  /-- An accepted update of another party. -/
  | otherParty (update : SscsCaseData → SscsCaseData)

variable {ι : Type} [DecidableEq ι]

namespace CaseState

/-- A case that no call has turned to yet. -/
def start (caseData : SscsCaseData) (version : ℕ) : CaseState ι :=
  ⟨caseData, version, fun _ => .idle, []⟩

/-- A call moves on; the stored case does not change. -/
def move (s : CaseState ι) (client : ι) (phase : Phase) : CaseState ι :=
  { s with phase := Function.update s.phase client phase }

/-- An accepted update. -/
def accept (s : CaseState ι) (event : OptimisticStore.Event ι SscsCaseData)
    (caseData : SscsCaseData) : CaseState ι :=
  { s with
    caseData := caseData
    version := s.version + 1
    log := s.log ++ [event] }

end CaseState

section Steps

variable (common : SscsCommon) (merge : ι → Merge)

/-- One step; an action that is not enabled changes nothing. -/
def step (s : CaseState ι) : Action ι → CaseState ι
  | .takeSnapshot client =>
    match s.phase client, dataFlow (merge client) with
    | .idle, .callerSnapshot => s.move client (.snapshot s.caseData)
    | _, _ => s
  | .storePdf client =>
    match s.phase client, dataFlow (merge client), (merge client).entries with
    | .snapshot caseData, _, .ok entries => s.move client (.ready entries caseData)
    | .idle, .freshRead, .ok entries => s.move client (.built entries)
    | .idle, .consumer, .ok entries => s.move client (.built entries)
    | _, _, _ => s
  | .readCase client =>
    match s.phase client, dataFlow (merge client) with
    | .built entries, .freshRead => s.move client (.ready entries s.caseData)
    | _, _ => s
  | .openEvent client =>
    match s.phase client, dataFlow (merge client) with
    | .ready entries caseData, _ => s.move client (.opened entries caseData s.version)
    -- the consumer works on the data that the event was started with
    | .built entries, .consumer => s.move client (.opened entries s.caseData s.version)
    | _, _ => s
  | .submit client =>
    match s.phase client with
    | .opened entries caseData version =>
      if version = s.version then
        (s.accept (.commit client) ((merge client).apply common entries caseData)).move client
          .accepted
      else if retries (merge client) then s.move client (.built entries)
      else s.move client .rejected
    | _ => s
  | .fail client =>
    match s.phase client with
    | .accepted => s
    | _ => s.move client .rejected
  | .otherParty f => s.accept (.foreign f) (f s.caseData)

/-- A run: the steps in the order in which they happen. -/
def run (s : CaseState ι) (actions : List (Action ι)) : CaseState ι :=
  actions.foldl (step common merge) s

theorem run_concat (s : CaseState ι) (actions : List (Action ι)) (action : Action ι) :
    run common merge s (actions ++ [action]) =
      step common merge (run common merge s actions) action :=
  List.foldl_concat ..

theorem run_append (s : CaseState ι) (before after : List (Action ι)) :
    run common merge s (before ++ after) = run common merge (run common merge s before) after :=
  List.foldl_append

/-- The steps of a call that meets no conflict and no failure. -/
def program (client : ι) : List (Action ι) :=
  match dataFlow (merge client) with
  | .callerSnapshot => [.takeSnapshot client, .storePdf client, .openEvent client, .submit client]
  | .freshRead => [.storePdf client, .readCase client, .openEvent client, .submit client]
  | .consumer => [.storePdf client, .openEvent client, .submit client]

/-- A call that runs alone takes its steps to the outcome of the operation. -/
theorem run_program {s : CaseState ι} {client : ι} {entries : List Correspondence}
    (hidle : s.phase client = .idle) (hentries : (merge client).entries = .ok entries) :
    let s' := run common merge s (program merge client)
    s'.phase client = .accepted ∧
      s'.caseData = (merge client).apply common entries s.caseData := by
  unfold program
  -- the steps of each data flow, run symbolically
  cases hflow : dataFlow (merge client) <;>
    simp [run, step, CaseState.move, CaseState.accept, hidle, hflow, hentries]

/-- The outcome is that of the sequential call, when CCD accepts it. -/
theorem run_program_eq_next {s : CaseState ι} {client : ι} {w : World}
    (hidle : s.phase client = .idle) (hw : w.caseData = s.caseData)
    (haccepted : (merge client).acceptedNext common w = true) :
    (run common merge s (program merge client)).caseData =
      ((merge client).next common w).caseData := by
  -- a call that CCD accepts has built its entries and reached it
  have hsubmits : (merge client).submits w.refreshCaller = true := by
    rw [Merge.acceptedNext, Merge.acceptedAt_eq] at haccepted
    exact (Bool.and_eq_true_iff.mp haccepted).1
  have hbuilt : (merge client).entries.toBool = true := (Bool.and_eq_true_iff.mp hsubmits).1
  cases hentries : (merge client).entries with
  -- there would be no submission
  | error e =>
    rw [hentries] at hbuilt
    cases hbuilt
  | ok entries =>
    rw [Merge.caseData_next, haccepted, if_pos rfl, hw, ← Merge.entries_eq _ hentries]
    exact (run_program common merge hidle hentries).2

end Steps

/-! ## What a step can do -/

section Transitions

variable (common : SscsCommon) (merge : ι → Merge)

/-- The changes that an action can make, with their guards. -/
inductive Transition (s : CaseState ι) : Action ι → CaseState ι → Prop where
  | takeSnapshot {client : ι} : s.phase client = .idle →
      dataFlow (merge client) = .callerSnapshot →
        Transition s (.takeSnapshot client) (s.move client (.snapshot s.caseData))
  | storeSnapshot {client : ι} {entries : List Correspondence} {caseData : SscsCaseData} :
      s.phase client = .snapshot caseData → (merge client).entries = .ok entries →
        Transition s (.storePdf client) (s.move client (.ready entries caseData))
  | build {client : ι} {entries : List Correspondence} : s.phase client = .idle →
      dataFlow (merge client) ≠ .callerSnapshot → (merge client).entries = .ok entries →
        Transition s (.storePdf client) (s.move client (.built entries))
  | readCase {client : ι} {entries : List Correspondence} : s.phase client = .built entries →
      dataFlow (merge client) = .freshRead →
        Transition s (.readCase client) (s.move client (.ready entries s.caseData))
  | openReady {client : ι} {entries : List Correspondence} {caseData : SscsCaseData} :
      s.phase client = .ready entries caseData →
        Transition s (.openEvent client) (s.move client (.opened entries caseData s.version))
  | openBuilt {client : ι} {entries : List Correspondence} : s.phase client = .built entries →
      dataFlow (merge client) = .consumer →
        Transition s (.openEvent client) (s.move client (.opened entries s.caseData s.version))
  | accept {client : ι} {entries : List Correspondence} {caseData : SscsCaseData} :
      s.phase client = .opened entries caseData s.version →
        Transition s (.submit client)
          ((s.accept (.commit client) ((merge client).apply common entries caseData)).move
            client .accepted)
  | retry {client : ι} {entries : List Correspondence} {caseData : SscsCaseData}
      {version : ℕ} : s.phase client = .opened entries caseData version →
        retries (merge client) = true →
        Transition s (.submit client) (s.move client (.built entries))
  | conflict {client : ι} : s.phase client ≠ .accepted →
      Transition s (.submit client) (s.move client .rejected)
  | fail {client : ι} : s.phase client ≠ .accepted →
      Transition s (.fail client) (s.move client .rejected)
  | otherParty (f : SscsCaseData → SscsCaseData) :
      Transition s (.otherParty f) (s.accept (.foreign f) (f s.caseData))

theorem step_cases (s : CaseState ι) (action : Action ι) :
    step common merge s action = s ∨
      Transition common merge s action (step common merge s action) := by
  -- a step that its guard forbids does nothing; otherwise the guard is that of the change
  cases action with
  | takeSnapshot client =>
    simp only [step]
    split
    · rename_i hphase hflow
      exact Or.inr (.takeSnapshot hphase hflow)
    · exact Or.inl rfl
  | storePdf client =>
    simp only [step]
    split
    · rename_i hphase hentries
      exact Or.inr (.storeSnapshot hphase hentries)
    · rename_i hphase hflow hentries
      exact Or.inr (.build hphase (by simp [hflow]) hentries)
    · rename_i hphase hflow hentries
      exact Or.inr (.build hphase (by simp [hflow]) hentries)
    · exact Or.inl rfl
  | readCase client =>
    simp only [step]
    split
    · rename_i hphase hflow
      exact Or.inr (.readCase hphase hflow)
    · exact Or.inl rfl
  | openEvent client =>
    simp only [step]
    split
    · rename_i hphase
      exact Or.inr (.openReady hphase)
    · rename_i hphase hflow
      exact Or.inr (.openBuilt hphase hflow)
    · exact Or.inl rfl
  | submit client =>
    simp only [step]
    split
    · rename_i entries caseData version hphase
      -- with an open event the submission is accepted, tried again or refused
      split
      · rename_i hversion
        subst hversion
        exact Or.inr (.accept hphase)
      · split
        · rename_i hretries
          exact Or.inr (.retry hphase hretries)
        · exact Or.inr (.conflict (by simp [hphase]))
    · exact Or.inl rfl
  | fail client =>
    simp only [step]
    split
    · exact Or.inl rfl
    · rename_i hphase
      exact Or.inr (.fail hphase)
  | otherParty f => exact Or.inr (.otherParty f)

/-- An invariant of the transitions holds all through a run. -/
theorem run_invariant (Inv : CaseState ι → Prop)
    (hstep : ∀ s action s', Inv s → Transition common merge s action s' → Inv s')
    {s : CaseState ι}
    (hs : Inv s) (actions : List (Action ι)) : Inv (run common merge s actions) := by
  induction actions generalizing s with
  | nil => exact hs
  | cons action actions ih =>
    apply ih
    -- an action that is not enabled changes nothing
    rcases step_cases common merge s action with hsame | htransition
    · rw [hsame]
      exact hs
    · exact hstep s action _ hs htransition

end Transitions

/-! ## The clients as users of an optimistic store -/

/-- The phase of a call as that of a client of an optimistic store. -/
def Phase.abstract : Phase → OptimisticStore.Phase SscsCaseData
  | .idle | .built _ => .idle
  | .snapshot caseData | .ready _ caseData => .holding caseData
  | .opened _ caseData version => .opened caseData version
  | .accepted => .committed
  | .rejected => .aborted

theorem abstract_eq_committed {phase : Phase} :
    phase.abstract = .committed ↔ phase = .accepted := by
  cases phase <;> simp [Phase.abstract]

/-- The entries that a call has built. -/
def Phase.entries : Phase → Option (List Correspondence)
  | .built entries | .ready entries _ | .opened entries _ _ => some entries
  | _ => none

def CaseState.abstract (s : CaseState ι) : OptimisticStore.State ι SscsCaseData where
  value := s.caseData
  version := s.version
  phase client := (s.phase client).abstract
  log := s.log

theorem abstract_move (s : CaseState ι) (client : ι) (phase : Phase) :
    (s.move client phase).abstract = s.abstract.move client phase.abstract := by
  have hphase : (fun other => ((s.move client phase).phase other).abstract) =
      Function.update (fun other => (s.phase other).abstract) client phase.abstract := by
    funext other
    -- one client at a time
    by_cases hother : other = client
    · subst hother
      simp [CaseState.move]
    · simp [CaseState.move, hother]
  simp only [CaseState.abstract, OptimisticStore.State.move, hphase]
  rfl

section Simulation

variable (common : SscsCommon) (merge : ι → Merge)

/-- What the update of a client makes of the case data. -/
def mergeOf (client : ι) : SscsCaseData → SscsCaseData :=
  (merge client).apply common (merge client).entry.toList

/-- The entries at hand are those of the merge, built once and kept over retries. -/
def EntriesBuilt (s : CaseState ι) : Prop :=
  ∀ client entries, (s.phase client).entries = some entries →
    entries = (merge client).entry.toList

omit [DecidableEq ι] in
theorem entriesBuilt_start (caseData : SscsCaseData) (version : ℕ) :
    EntriesBuilt merge (CaseState.start caseData version : CaseState ι) := by
  intro client entries h
  cases h

variable {merge}

theorem EntriesBuilt.move {s : CaseState ι} (hs : EntriesBuilt merge s) {client : ι}
    {phase : Phase}
    (hphase : ∀ entries, phase.entries = some entries →
      entries = (merge client).entry.toList) : EntriesBuilt merge (s.move client phase) := by
  intro other entries h
  -- what the client holds now is given, and the others hold what they held
  by_cases hother : other = client
  · subst hother
    exact hphase entries (by simpa [CaseState.move] using h)
  · exact hs other entries (by simpa [CaseState.move, hother] using h)

theorem EntriesBuilt.transition {s s' : CaseState ι} {action : Action ι}
    (hs : EntriesBuilt merge s) (h : Transition common merge s action s') :
    EntriesBuilt merge s' := by
  -- entries come from the store, or from the phase before
  cases h with
  | takeSnapshot hphase hflow => exact hs.move fun entries h => by cases h
  | storeSnapshot hphase hentries =>
    exact hs.move fun entries h => by cases h; exact Merge.entries_eq _ hentries
  | build hphase hflow hentries =>
    exact hs.move fun entries h => by cases h; exact Merge.entries_eq _ hentries
  | readCase hphase hflow =>
    exact hs.move fun entries h => by cases h; exact hs _ _ (by simp [hphase, Phase.entries])
  | openReady hphase =>
    exact hs.move fun entries h => by cases h; exact hs _ _ (by simp [hphase, Phase.entries])
  | openBuilt hphase hflow =>
    exact hs.move fun entries h => by cases h; exact hs _ _ (by simp [hphase, Phase.entries])
  | accept hphase =>
    have haccept : ∀ event caseData, EntriesBuilt merge (s.accept event caseData) :=
      fun _ _ => hs
    exact (haccept _ _).move fun entries h => by cases h
  | retry hphase hretries =>
    exact hs.move fun entries h => by cases h; exact hs _ _ (by simp [hphase, Phase.entries])
  | conflict hphase => exact hs.move fun entries h => by cases h
  | fail hphase => exact hs.move fun entries h => by cases h
  | otherParty f => exact hs

/-- **Simulation**: each transition of the calls is a step of clients of an optimistic store,
or none at all. -/
theorem abstract_transition {s s' : CaseState ι} {action : Action ι}
    (hs : EntriesBuilt merge s) (h : Transition common merge s action s') :
    s'.abstract = s.abstract ∨
      OptimisticStore.Step (mergeOf common merge) s.abstract s'.abstract := by
  have habstract : ∀ client phase, s.phase client = phase →
      s.abstract.phase client = phase.abstract := by
    intro client phase hphase
    simp only [CaseState.abstract, hphase]
  cases h with
  | takeSnapshot hphase hflow =>
    rw [abstract_move]
    exact Or.inr (.read _ (habstract _ _ hphase))
  | storeSnapshot hphase hentries =>
    -- the store does not see a client store its PDF
    rw [abstract_move]
    exact Or.inl (OptimisticStore.State.move_eq_self (habstract _ (.snapshot _) hphase))
  | build hphase hflow hentries =>
    rw [abstract_move]
    exact Or.inl (OptimisticStore.State.move_eq_self (habstract _ .idle hphase))
  | readCase hphase hflow =>
    rw [abstract_move]
    exact Or.inr (.read _ (habstract _ (.built _) hphase))
  | openReady hphase =>
    rw [abstract_move]
    exact Or.inr (.openHeld _ _ (habstract _ _ hphase))
  | openBuilt hphase hflow =>
    rw [abstract_move]
    exact Or.inr (.openFresh _ (habstract _ _ hphase))
  | @accept client entries caseData hphase =>
    -- what is submitted is the update of the client only because its entries were kept
    have hentries : entries = (merge client).entry.toList :=
      hs client entries (by simp [hphase, Phase.entries])
    subst hentries
    rw [abstract_move]
    exact Or.inr (.commit client caseData (habstract _ _ hphase))
  | retry hphase hretries =>
    rw [abstract_move]
    exact Or.inr (.retry _ _ _ (habstract _ _ hphase))
  | conflict hphase =>
    rw [abstract_move]
    exact Or.inr (.abort _ (mt abstract_eq_committed.mp hphase))
  | fail hphase =>
    rw [abstract_move]
    exact Or.inr (.abort _ (mt abstract_eq_committed.mp hphase))
  | otherParty f => exact Or.inr (.foreign f)

end Simulation

end SscsPdfEmail.Concurrency
