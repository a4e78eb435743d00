import Mathlib.Logic.Function.Basic
import Mathlib.Data.List.Nodup

/-!
# Optimistic Updates of a Versioned Store

Clients that update a shared value without locking it.  A client takes a snapshot, opens an
update and submits the value it computes from the snapshot; the store accepts the submission when
its version has not changed since the update was opened.  Other parties may update the value at
any time, and a client that meets a conflict may start over.

- A run in which every accepted snapshot was the current value is serial: the value is the
  accepted updates applied one after another (`FreshStep.serial`).
- When the snapshot is taken as the update is opened, the version check makes every run serial
  (`Step.fresh`).
- Every client is accepted at most once (`Step.counted`).

Each is an invariant of single steps.  The log of accepted updates is part of the state, so that
the order in which a run is serial can be named; it is not something that the store needs.
-/

namespace SscsPdfEmail.Library.OptimisticStore

/-! ## States -/

/-- Where a client stands. -/
inductive Phase (V : Type*) where
  | idle
  | holding (snapshot : V)
  | opened (snapshot : V) (version : ℕ)
  | committed
  | aborted

/-- An accepted update: by a client, or by somebody outside the protocol. -/
inductive Event (ι V : Type*) where
  | commit (client : ι)
  | foreign (update : V → V)

structure State (ι V : Type*) where
  value : V
  version : ℕ
  phase : ι → Phase V
  log : List (Event ι V)

variable {ι V : Type*} (update : ι → V → V)

/-- The value after one accepted update. -/
def Event.apply : Event ι V → V → V
  | .commit client => update client
  | .foreign f => f

/-- The accepted updates, applied one after another. -/
def replay (initial : V) (log : List (Event ι V)) : V :=
  log.foldl (fun value event => event.apply update value) initial

theorem replay_concat (initial : V) (log : List (Event ι V)) (event : Event ι V) :
    replay update initial (log ++ [event]) = event.apply update (replay update initial log) :=
  List.foldl_concat ..

/-- The clients whose update was accepted, in order. -/
def commits (log : List (Event ι V)) : List ι :=
  log.filterMap fun
    | .commit client => some client
    | .foreign _ => none

theorem commits_concat_commit (log : List (Event ι V)) (client : ι) :
    commits (log ++ [.commit client]) = commits log ++ [client] := by
  simp [commits]

theorem commits_concat_foreign (log : List (Event ι V)) (f : V → V) :
    commits (log ++ [.foreign f]) = commits log := by
  simp [commits]

/-! ## Steps -/

variable [DecidableEq ι]

namespace State

variable (s : State ι V)

/-- A client moves on; the store does not change. -/
def move (client : ι) (phase : Phase V) : State ι V :=
  { s with phase := Function.update s.phase client phase }

/-- An accepted update. -/
def accept (event : Event ι V) (value : V) : State ι V :=
  { s with value := value, version := s.version + 1, log := s.log ++ [event] }

end State

/-- A step of a client or of somebody else. -/
inductive Step (s : State ι V) : State ι V → Prop where
  | read (client : ι) : s.phase client = .idle → Step s (s.move client (.holding s.value))
  | openHeld (client : ι) (snapshot : V) : s.phase client = .holding snapshot →
      Step s (s.move client (.opened snapshot s.version))
  | openFresh (client : ι) : s.phase client = .idle →
      Step s (s.move client (.opened s.value s.version))
  | commit (client : ι) (snapshot : V) : s.phase client = .opened snapshot s.version →
      Step s ((s.accept (.commit client) (update client snapshot)).move client .committed)
  | retry (client : ι) (snapshot : V) (version : ℕ) : s.phase client = .opened snapshot version →
      Step s (s.move client .idle)
  | abort (client : ι) : s.phase client ≠ .committed → Step s (s.move client .aborted)
  | foreign (f : V → V) : Step s (s.accept (.foreign f) (f s.value))

variable {update}

/-- A store that no client has turned to yet. -/
def State.start (value : V) (version : ℕ) : State ι V :=
  ⟨value, version, fun _ => .idle, []⟩

/-- Moving a client to the phase it is in changes nothing. -/
theorem State.move_eq_self {s : State ι V} {client : ι} {phase : Phase V}
    (h : s.phase client = phase) : s.move client phase = s := by
  subst h
  simp only [State.move, Function.update_eq_self]

/-! ## Serial runs -/

/-- The value is the accepted updates applied one after another. -/
def Serial (update : ι → V → V) (initial : V) (s : State ι V) : Prop :=
  s.value = replay update initial s.log

omit [DecidableEq ι] in
theorem serial_start (value : V) (version : ℕ) :
    Serial update value (State.start value version) := rfl

/-- A step in which only a client that holds the current value is accepted. -/
def FreshStep (update : ι → V → V) (s s' : State ι V) : Prop :=
  Step update s s' ∧ ∀ client snapshot, s.phase client = .opened snapshot s.version →
    s'.phase client = .committed → snapshot = s.value

/-- Fresh steps keep a run serial. -/
theorem FreshStep.serial {initial : V} {s s' : State ι V} (h : FreshStep update s s')
    (hs : Serial update initial s) : Serial update initial s' := by
  obtain ⟨hstep, hfresh⟩ := h
  -- only an accepted update changes the value and the log
  cases hstep with
  | read client hclient => exact hs
  | openHeld client snapshot hclient => exact hs
  | openFresh client hclient => exact hs
  | retry client snapshot version hclient => exact hs
  | abort client hclient => exact hs
  | commit client snapshot hclient =>
    have hcurrent : snapshot = s.value :=
      hfresh client snapshot hclient (Function.update_self ..)
    show update client snapshot = replay update initial (s.log ++ [.commit client])
    rw [replay_concat, ← hs, hcurrent]
    rfl
  | foreign f =>
    show f s.value = replay update initial (s.log ++ [.foreign f])
    rw [replay_concat, ← hs]
    rfl

/-! ## The version check -/

/-- An update that is open at the current version was computed from the current value, and
no client holds a snapshot without having opened its update. -/
structure UpToDate (s : State ι V) : Prop where
  opened : ∀ client snapshot version, s.phase client = .opened snapshot version →
    version ≤ s.version ∧ (version = s.version → snapshot = s.value)
  holding : ∀ client snapshot, s.phase client ≠ .holding snapshot

omit [DecidableEq ι] in
theorem upToDate_start (value : V) (version : ℕ) :
    UpToDate (State.start value version : State ι V) where
  opened client snapshot opened h := by cases h
  holding client snapshot h := by cases h

theorem UpToDate.move {s : State ι V} (hs : UpToDate s) {client : ι} {phase : Phase V}
    (hopened : ∀ snapshot version, phase = .opened snapshot version →
      snapshot = s.value ∧ version = s.version)
    (hholding : ∀ snapshot, phase ≠ .holding snapshot) : UpToDate (s.move client phase) where
  opened other snapshot version h := by
    -- the other clients keep their phase
    by_cases hother : other = client
    · subst hother
      have hphase : phase = .opened snapshot version := by
        simpa [State.move] using h
      obtain ⟨rfl, rfl⟩ := hopened snapshot version hphase
      exact ⟨Nat.le_refl _, fun _ => rfl⟩
    · have hphase : s.phase other = .opened snapshot version := by
        simpa [State.move, hother] using h
      exact hs.opened other snapshot version hphase
  holding other snapshot h := by
    by_cases hother : other = client
    · subst hother
      exact hholding snapshot (by simpa [State.move] using h)
    · exact hs.holding other snapshot (by simpa [State.move, hother] using h)

omit [DecidableEq ι] in
/-- After an accepted update no open update is at the current version. -/
theorem UpToDate.accept {s : State ι V} (hs : UpToDate s) (event : Event ι V) (value : V) :
    UpToDate (s.accept event value) where
  opened client snapshot version h := by
    have hle := (hs.opened client snapshot version h).1
    -- the version has moved past every open update
    refine ⟨Nat.le_succ_of_le hle, fun heq => ?_⟩
    have hversion : version = s.version + 1 := heq
    omega
  holding := hs.holding

/-- Steps that take no snapshot ahead of opening keep a state up to date. -/
theorem Step.upToDate {s s' : State ι V} (h : Step update s s') (hs : UpToDate s)
    (hholding : ∀ client snapshot, s'.phase client ≠ .holding snapshot) : UpToDate s' := by
  -- the first two steps take or use a snapshot ahead of opening, which nobody does
  cases h with
  | read client hclient => exact absurd (Function.update_self ..) (hholding client s.value)
  | openHeld client snapshot hclient => exact absurd hclient (hs.holding client snapshot)
  | openFresh client hclient =>
    apply hs.move
    · intro snapshot version heq
      cases heq
      exact ⟨rfl, rfl⟩
    · exact fun snapshot heq => by cases heq
  | commit client snapshot hclient =>
    apply (hs.accept _ _).move
    · exact fun snapshot version heq => by cases heq
    · exact fun snapshot heq => by cases heq
  | retry client snapshot version hclient =>
    apply hs.move
    · exact fun snapshot version heq => by cases heq
    · exact fun snapshot heq => by cases heq
  | abort client hclient =>
    apply hs.move
    · exact fun snapshot version heq => by cases heq
    · exact fun snapshot heq => by cases heq
  | foreign f => exact hs.accept _ _

/-- In an up-to-date state every step is fresh: the version check has done its work. -/
theorem Step.fresh {s s' : State ι V} (h : Step update s s') (hs : UpToDate s) :
    FreshStep update s s' := by
  refine ⟨h, ?_⟩
  intro client snapshot hopened _
  exact (hs.opened client snapshot s.version hopened).2 rfl

/-! ## Acceptance at most once -/

/-- The log holds each accepted client once, and no other client. -/
structure Counted (s : State ι V) : Prop where
  nodup : (commits s.log).Nodup
  mem_iff : ∀ client, client ∈ commits s.log ↔ s.phase client = .committed

omit [DecidableEq ι] in
theorem counted_start (value : V) (version : ℕ) :
    Counted (State.start value version : State ι V) where
  nodup := List.nodup_nil
  mem_iff client := iff_of_false List.not_mem_nil (fun h => by cases h)

theorem Counted.move {s : State ι V} (hs : Counted s) {client : ι} {phase : Phase V}
    (hbefore : s.phase client ≠ .committed) (hafter : phase ≠ .committed) :
    Counted (s.move client phase) where
  nodup := hs.nodup
  mem_iff other := by
    -- the log is the same, and the client is on neither side of the change a committed one
    by_cases hother : other = client
    · subst hother
      have hphase : (s.move other phase).phase other = phase := Function.update_self ..
      rw [hphase]
      exact iff_of_false (fun hmem => hbefore ((hs.mem_iff other).mp hmem)) hafter
    · have hphase : (s.move client phase).phase other = s.phase other :=
        Function.update_of_ne hother ..
      rw [hphase]
      exact hs.mem_iff other

/-- A client that is not yet accepted can be. -/
theorem Counted.commit {s : State ι V} (hs : Counted s) {client : ι}
    (hbefore : s.phase client ≠ .committed) (value : V) :
    Counted ((s.accept (.commit client) value).move client .committed) := by
  have hnew : client ∉ commits s.log := fun hmem => hbefore ((hs.mem_iff client).mp hmem)
  have hlog : commits ((s.accept (.commit client) value).move client .committed).log =
      commits s.log ++ [client] := commits_concat_commit s.log client
  constructor
  · -- the client was not committed, so it is not in the log yet
    rw [hlog, List.nodup_append]
    refine ⟨hs.nodup, List.nodup_singleton client, ?_⟩
    intro a ha b hb heq
    obtain rfl := List.mem_singleton.mp hb
    exact hnew (heq ▸ ha)
  · -- it is committed from now on, and nothing changes for the others
    intro other
    rw [hlog, List.mem_append, List.mem_singleton]
    by_cases hother : other = client
    · subst hother
      exact iff_of_true (Or.inr rfl) (Function.update_self ..)
    · have hphase : ((s.accept (.commit client) value).move client .committed).phase other =
          s.phase other := Function.update_of_ne hother ..
      rw [hphase, hs.mem_iff other]
      exact or_iff_left hother

theorem Step.counted {s s' : State ι V} (h : Step update s s') (hs : Counted s) :
    Counted s' := by
  -- only the two steps that the store accepts write to the log
  cases h with
  | read client hclient => exact hs.move (by simp [hclient]) (by simp)
  | openHeld client snapshot hclient => exact hs.move (by simp [hclient]) (by simp)
  | openFresh client hclient => exact hs.move (by simp [hclient]) (by simp)
  | retry client snapshot version hclient => exact hs.move (by simp [hclient]) (by simp)
  | abort client hclient => exact hs.move hclient (by simp)
  | commit client snapshot hclient => exact hs.commit (by simp [hclient]) _
  | foreign f =>
    have hlog := commits_concat_foreign s.log f
    exact ⟨hlog ▸ hs.nodup, fun client => hlog ▸ hs.mem_iff client⟩

end SscsPdfEmail.Library.OptimisticStore
