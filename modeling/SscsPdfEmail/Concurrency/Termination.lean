import SscsPdfEmail.Concurrency.Progress

/-!
# Every Call Comes to an End

Calls that take their steps in turns, in an order that nobody controls, between the updates of
other parties.  A turn of a call is the next step of its operation (`nextAction`).  A PDF that
cannot be stored ends the call; apart from this and from conflicts every step succeeds, for which
idam and CCD have to answer.

A call ends after at most four turns of its own and two more for each conflict: `stepsLeft`
counts what is left to do, every turn takes one off, and only a conflict puts anything back
(`stepsLeft_nextAction`).  Since a conflict is the price of an update of somebody else, there are
fewer of them than calls and foreign updates together.  So a call has ended after a number of
turns that is known in advance, the ones that try again have been accepted, and it is enough for
`updateCaseV2` to try as often as that (`finishes_of_turns`).
-/

namespace SscsPdfEmail.Concurrency

open SscsPdfEmail.Domain SscsPdfEmail.Service
open SscsPdfEmail.Library

variable {ι : Type} [DecidableEq ι]

/-! ## Turns -/

/-- Whose turn it is: a call that takes its next step, or another party with an update. -/
inductive Turn (ι : Type) where
  | call (client : ι)
  | otherParty (update : SscsCaseData → SscsCaseData)

def Turn.isOf (client : ι) : Turn ι → Bool
  | .call other => other = client
  | .otherParty _ => false

def Turn.isOtherParty : Turn ι → Bool
  | .call _ => false
  | .otherParty _ => true

def Turn.update : Turn ι → Option (SscsCaseData → SscsCaseData)
  | .call _ => none
  | .otherParty f => some f

section Schedules

variable (common : SscsCommon) (merge : ι → Merge)

/-- The step that a call takes next.  A call that cannot have its PDF stored ends with the
exception; one that has ended stays as it is. -/
def nextAction (s : CaseState ι) (client : ι) : Action ι :=
  match s.phase client, dataFlow (merge client), (merge client).entries with
  | .idle, .callerSnapshot, _ => .takeSnapshot client
  | .idle, _, .ok _ | .snapshot _, _, .ok _ => .storePdf client
  -- a PDF that cannot be stored ends the call; idam and CCD are taken to answer
  | .idle, _, .error _ | .snapshot _, _, .error _ => .fail client
  | .built _, .freshRead, _ => .readCase client
  | .built _, _, _ | .ready _ _, _, _ => .openEvent client
  | .opened _ _ _, _, _ => .submit client
  -- a turn of a call that has ended changes nothing
  | .accepted, _, _ | .rejected, _, _ => .fail client

def Turn.action (s : CaseState ι) : Turn ι → Action ι
  | .call client => nextAction merge s client
  | .otherParty f => .otherParty f

/-- The actions that a schedule comes to. -/
def actionsOf (s : CaseState ι) : List (Turn ι) → List (Action ι)
  | [] => []
  | turn :: turns =>
    turn.action merge s :: actionsOf (step common merge s (turn.action merge s)) turns

/-- The turns in the order of a schedule. -/
def runTurns (s : CaseState ι) (turns : List (Turn ι)) : CaseState ι :=
  run common merge s (actionsOf common merge s turns)

/-! ## Whose Step an Action Is -/

/-- The call that an action is a step of. -/
def Action.client : Action ι → Option ι
  | .takeSnapshot client | .storePdf client | .readCase client | .openEvent client
  | .submit client | .fail client => some client
  | .otherParty _ => none

variable {common merge} {s : CaseState ι} {client : ι}

omit [DecidableEq ι] in
theorem client_nextAction : (nextAction merge s client).client = some client := by
  unfold nextAction
  split <;> rfl

/-- A step leaves the other calls where they are. -/
theorem phase_step_of_ne {action : Action ι} (h : action.client ≠ some client) :
    (step common merge s action).phase client = s.phase client := by
  have hmove : ∀ {other : ι} (s : CaseState ι) (phase : Phase), some other ≠ some client →
      (s.move other phase).phase client = s.phase client := by
    intro other s phase hother
    exact Function.update_of_ne (fun heq => hother (congrArg some heq.symm)) ..
  -- every change of a phase is a move of the client whose step it is
  rcases step_cases common merge s action with hsame | htransition
  · rw [hsame]
  · generalize step common merge s action = s' at htransition
    cases htransition with
    | otherParty f => rfl
    | takeSnapshot _ _ | storeSnapshot _ _ | build _ _ _ | readCase _ _ | openReady _
    | openBuilt _ _ | retry _ _ | conflict _ | fail _ => exact hmove s _ h
    | accept hphase => exact hmove (s.accept _ _) _ h

theorem filterMap_update_actionsOf (s : CaseState ι) (turns : List (Turn ι)) :
    (actionsOf common merge s turns).filterMap Action.update = turns.filterMap Turn.update := by
  induction turns generalizing s with
  | nil => rfl
  | cons turn turns ih =>
    -- a turn of a call is never the update of another party
    have haction : (turn.action merge s).update = turn.update := by
      cases turn with
      | otherParty f => rfl
      | call client =>
        show (nextAction merge s client).update = none
        unfold nextAction
        split <;> rfl
    rw [actionsOf, List.filterMap_cons, List.filterMap_cons, ih, haction]

omit [DecidableEq ι] in
theorem length_filterMap_turns (turns : List (Turn ι)) :
    (turns.filterMap Turn.update).length = turns.countP Turn.isOtherParty := by
  rw [List.length_filterMap_eq_countP]
  exact congrFun (congrArg List.countP (funext fun turn => by cases turn <;> rfl)) turns

theorem countP_isOtherParty_actionsOf (s : CaseState ι) (turns : List (Turn ι)) :
    (actionsOf common merge s turns).countP Action.isOtherParty =
      turns.countP Turn.isOtherParty := by
  rw [← length_filterMap_update, filterMap_update_actionsOf, length_filterMap_turns]

/-! ## The End of a Call -/

/-- A call has ended, one way or the other. -/
def Phase.Ended (phase : Phase) : Prop := phase = .accepted ∨ phase = .rejected

/-- Turns that a call has before it, if it meets no conflict. -/
def Phase.stepsLeft (flow : DataFlow) : Phase → ℕ
  | .idle => 4
  | .snapshot _ => 3
  | .built _ => if flow = .consumer then 2 else 3
  | .ready _ _ => 2
  | .opened _ _ _ => 1
  | .accepted | .rejected => 0

theorem stepsLeft_pos {flow : DataFlow} {phase : Phase} (h : ¬ phase.Ended) :
    0 < phase.stepsLeft flow := by
  -- every phase but the two last ones leaves something to do
  cases phase with
  | accepted => exact absurd (Or.inl rfl) h
  | rejected => exact absurd (Or.inr rfl) h
  | built entries =>
    simp only [Phase.stepsLeft]
    split <;> omega
  | idle | snapshot _ | ready _ _ | opened _ _ _ => simp [Phase.stepsLeft]

/-- A move of one call concerns the phase of a call only if it is the same one. -/
theorem phase_move {P : Phase → Prop} {s : CaseState ι} {other : ι} {phase : Phase}
    (hkept : P (s.phase client)) (hnew : client = other → P phase) :
    P ((s.move other phase).phase client) := by
  -- either it is the client that has moved, or nothing is new for it
  have hphase : (s.move other phase).phase client =
      if client = other then phase else s.phase client := Function.update_apply ..
  rw [hphase]
  split
  · exact hnew ‹_›
  · exact hkept

/-- A call that has ended does not start again. -/
theorem ended_transition {action : Action ι} {s' : CaseState ι}
    (h : Transition common merge s action s') (hs : (s.phase client).Ended) :
    (s'.phase client).Ended := by
  -- a call that goes on is another one than the call that has ended
  have hpending : ∀ {other : ι} {phase : Phase}, ¬ (s.phase other).Ended →
      ((s.move other phase).phase client).Ended := by
    intro other phase hother
    refine phase_move hs ?_
    rintro rfl
    exact absurd hs hother
  cases h with
  | otherParty f => exact hs
  | takeSnapshot hphase _ | storeSnapshot hphase _ | build hphase _ _ | readCase hphase _
  | openReady hphase | openBuilt hphase _ | retry hphase _ =>
    exact hpending (by simp [hphase, Phase.Ended])
  | conflict _ | fail _ => exact phase_move hs fun _ => Or.inr rfl
  | accept hphase => exact phase_move (s := s.accept _ _) hs fun _ => Or.inl rfl

theorem ended_run (hs : (s.phase client).Ended) (actions : List (Action ι)) :
    ((run common merge s actions).phase client).Ended :=
  run_invariant common merge (fun s => (s.phase client).Ended)
    (fun _ _ _ hs h => ended_transition h hs) hs actions

/-- A call that works on a snapshot of its caller has no entries without it. -/
def BuiltAhead (merge : ι → Merge) (client : ι) (phase : Phase) : Prop :=
  ∀ entries, phase = .built entries → dataFlow (merge client) ≠ .callerSnapshot

theorem flow_of_retries {m : Merge} (h : retries m = true) : dataFlow m = .consumer :=
  dataFlow_eq_consumer_iff.mpr (Or.inl (of_decide_eq_true h))

theorem builtAhead_transition {action : Action ι} {s' : CaseState ι}
    (h : Transition common merge s action s') (hs : BuiltAhead merge client (s.phase client)) :
    BuiltAhead merge client (s'.phase client) := by
  -- entries are built by the two kinds of call that have not looked at the case before
  cases h with
  | otherParty f => exact hs
  | takeSnapshot _ _ | storeSnapshot _ _ | readCase _ _ | openReady _ | openBuilt _ _
  | conflict _ | fail _ =>
    exact phase_move hs fun _ entries hbuilt => by cases hbuilt
  | build _ hflow _ => exact phase_move hs fun heq _ _ => heq ▸ hflow
  | retry _ hretries =>
    refine phase_move hs fun heq _ _ => ?_
    subst heq
    -- only consumer-based calls are tried again
    rw [flow_of_retries hretries]
    decide
  | accept _ => exact phase_move (s := s.accept _ _) hs fun _ entries hbuilt => by cases hbuilt

/-! ## One Turn -/

variable (common) in
/-- A turn of a call brings it nearer to its end, unless it meets a conflict. -/
theorem stepsLeft_nextAction (hbuilt : BuiltAhead merge client (s.phase client))
    (hpending : ¬ (s.phase client).Ended) :
    ((step common merge s (nextAction merge s client)).phase client).stepsLeft
        (dataFlow (merge client)) + 1 ≤
      (s.phase client).stepsLeft (dataFlow (merge client)) +
        2 * if isConflict s client (nextAction merge s client) then 1 else 0 := by
  -- every action brings the call one step nearer to its end, but for a conflict, which costs
  -- two
  cases hphase : s.phase client with
  | accepted => exact absurd (Or.inl hphase) hpending
  | rejected => exact absurd (Or.inr hphase) hpending
  | idle =>
    apply Nat.le_add_right_of_le
    cases hflow : dataFlow (merge client) <;> cases hentries : (merge client).entries <;>
      simp [nextAction, step, CaseState.move, hphase, hflow, hentries, Phase.stepsLeft]
  | snapshot caseData =>
    apply Nat.le_add_right_of_le
    cases hentries : (merge client).entries <;>
      simp [nextAction, step, CaseState.move, hphase, hentries, Phase.stepsLeft]
  | built entries =>
    cases hflow : dataFlow (merge client) with
    -- such a call has its snapshot before it builds anything
    | callerSnapshot => exact absurd hflow (hbuilt entries hphase)
    | freshRead | consumer =>
      simp [nextAction, step, CaseState.move, hphase, hflow, Phase.stepsLeft]
  | ready entries caseData =>
    simp [nextAction, step, CaseState.move, hphase, Phase.stepsLeft]
  | opened entries caseData version =>
    by_cases hversion : version = s.version
    · simp [nextAction, step, CaseState.move, CaseState.accept, hphase, hversion, Phase.stepsLeft]
    · -- the event is out of date: the call starts over, or ends
      have hconflict : isConflict s client (nextAction merge s client) = true := by
        simp [nextAction, isConflict, hphase, hversion]
      rw [hconflict]
      cases hretries : retries (merge client) with
      | true =>
        simp [nextAction, step, CaseState.move, hphase, hversion, hretries, Phase.stepsLeft,
          flow_of_retries hretries]
      | false =>
        simp [nextAction, step, CaseState.move, hphase, hversion, hretries, Phase.stepsLeft]

/-- A call that tries again and whose PDF can be stored is not rejected. -/
theorem not_rejected_nextAction (hretries : retries (merge client) = true)
    {entries : List Correspondence} (hentries : (merge client).entries = .ok entries)
    (hs : s.phase client ≠ .rejected) :
    (step common merge s (nextAction merge s client)).phase client ≠ .rejected := by
  have hflow := flow_of_retries hretries
  -- the PDF is stored and every conflict is tried again, so nothing rejects the call
  cases hphase : s.phase client with
  | rejected => exact absurd hphase hs
  | accepted => simp [nextAction, step, hphase]
  | idle => simp [nextAction, step, CaseState.move, hphase, hflow, hentries]
  | snapshot caseData => simp [nextAction, step, CaseState.move, hphase, hentries]
  | built entries' => simp [nextAction, step, CaseState.move, hphase, hflow]
  | ready entries' caseData => simp [nextAction, step, CaseState.move, hphase]
  | opened entries' caseData version =>
    by_cases hversion : version = s.version <;>
      simp [nextAction, step, CaseState.move, CaseState.accept, hphase, hversion, hretries]

/-! ## All Turns -/

variable (common merge)

/-- Where a call stands after a turn that is not its own. -/
theorem phase_turn_of_not_isOf {turn : Turn ι} (h : turn.isOf client = false) :
    (step common merge s (turn.action merge s)).phase client = s.phase client := by
  apply phase_step_of_ne
  cases turn with
  | otherParty f => exact fun heq => by cases heq
  -- the turn of another call
  | call other =>
    rw [Turn.action, client_nextAction]
    intro heq
    simp [Turn.isOf, Option.some.inj heq] at h

/-- A call that has not ended has used its turns, down to those that are left and those that
conflicts have cost. -/
theorem ended_or_turns_le (turns : List (Turn ι))
    (hbuilt : BuiltAhead merge client (s.phase client)) :
    ((runTurns common merge s turns).phase client).Ended ∨
      turns.countP (Turn.isOf client) +
          ((runTurns common merge s turns).phase client).stepsLeft (dataFlow (merge client)) ≤
        (s.phase client).stepsLeft (dataFlow (merge client)) +
          2 * conflicts common merge client s (actionsOf common merge s turns) := by
  induction turns generalizing s with
  | nil => exact Or.inr (by simp [runTurns, actionsOf, run, conflicts])
  | cons turn turns ih =>
    have hbuilt' : BuiltAhead merge client
        ((step common merge s (turn.action merge s)).phase client) := by
      rcases step_cases common merge s (turn.action merge s) with hsame | htransition
      · rwa [hsame]
      · exact builtAhead_transition htransition hbuilt
    have hconflicts : conflicts common merge client s (actionsOf common merge s (turn :: turns)) =
        (if isConflict s client (turn.action merge s) then 1 else 0) +
          conflicts common merge client (step common merge s (turn.action merge s))
            (actionsOf common merge (step common merge s (turn.action merge s)) turns) := rfl
    by_cases hended : (s.phase client).Ended
    · exact Or.inl (ended_run hended _)
    · refine (ih hbuilt').imp_right fun hle => ?_
      show _ + ((runTurns common merge (step common merge s (turn.action merge s))
        turns).phase client).stepsLeft _ ≤ _
      rw [hconflicts, List.countP_cons]
      cases hown : turn.isOf client with
      | false =>
        rw [phase_turn_of_not_isOf common merge hown] at hle
        simp only [Bool.false_eq_true, if_false]
        omega
      | true =>
        -- a turn of the call itself
        obtain rfl : turn = .call client := by
          cases turn with
          | otherParty f => cases hown
          | call other => exact congrArg Turn.call (of_decide_eq_true hown)
        have haction : nextAction merge s client = (Turn.call client).action merge s := rfl
        have hturn := stepsLeft_nextAction common hbuilt hended
        rw [haction] at hturn
        rw [if_pos rfl]
        omega

/-- What is promised of a call that gets its turns, when nothing fails but the storing of PDFs
and submissions that meet a conflict. -/
structure Finishes [Fintype ι] (caseData : SscsCaseData) (version : ℕ) (turns : List (Turn ι))
    (client : ι) : Prop where
  ended : ((runTurns common merge (.start caseData version) turns).phase client).Ended
  /-- With a PDF that can be stored, a call that tries again is accepted, ... -/
  accepted : retries (merge client) = true → ∀ entries, (merge client).entries = .ok entries →
    (runTurns common merge (.start caseData version) turns).phase client = .accepted
  /-- ... and need not try again as often as there are calls and updates of other parties. -/
  conflicts_lt : conflicts common merge client (.start caseData version)
      (actionsOf common merge (.start caseData version) turns) <
    Fintype.card ι + turns.countP Turn.isOtherParty

theorem not_rejected_runTurns (hretries : retries (merge client) = true)
    {entries : List Correspondence} (hentries : (merge client).entries = .ok entries)
    (hs : s.phase client ≠ .rejected) (turns : List (Turn ι)) :
    (runTurns common merge s turns).phase client ≠ .rejected := by
  induction turns generalizing s with
  | nil => exact hs
  | cons turn turns ih =>
    apply ih
    -- turns of others do not touch the call, and its own do not reject it
    cases hown : turn.isOf client with
    | false => rwa [phase_turn_of_not_isOf common merge hown]
    | true =>
      cases turn with
      | otherParty f => cases hown
      | call other =>
        obtain rfl : other = client := of_decide_eq_true hown
        exact not_rejected_nextAction hretries hentries hs

/-- Every conflict of a call is the price of an update of somebody else. -/
theorem conflicts_turns_lt [Fintype ι] (caseData : SscsCaseData) (version : ℕ)
    (turns : List (Turn ι)) (client : ι) :
    conflicts common merge client (.start caseData version)
        (actionsOf common merge (.start caseData version) turns) <
      Fintype.card ι + turns.countP Turn.isOtherParty := by
  -- the actions of a schedule have as many foreign updates as its turns
  have hlt := conflicts_lt common merge caseData version
    (actionsOf common merge (.start caseData version) turns) client
  rwa [countP_isOtherParty_actionsOf] at hlt

/-- Conflicts cannot keep a call from its end for more turns than these. -/
theorem ended_of_turns [Fintype ι] (caseData : SscsCaseData) (version : ℕ)
    {turns : List (Turn ι)} (client : ι)
    (hturns : 2 * (Fintype.card ι + turns.countP Turn.isOtherParty) + 2 ≤
      turns.countP (Turn.isOf client)) :
    ((runTurns common merge (.start caseData version) turns).phase client).Ended := by
  have hbuilt : BuiltAhead merge client
      ((CaseState.start caseData version : CaseState ι).phase client) :=
    fun _ h => by cases h
  rcases ended_or_turns_le common merge turns hbuilt with hended | hle
  · exact hended
  · -- a call that has not ended has a turn left, which the conflicts so far do not pay for
    have hlt := conflicts_turns_lt common merge caseData version turns client
    have hfour : ((CaseState.start caseData version : CaseState ι).phase client).stepsLeft
        (dataFlow (merge client)) = 4 := rfl
    by_contra hpending
    have hpos : 0 < ((runTurns common merge (.start caseData version) turns).phase
        client).stepsLeft (dataFlow (merge client)) := stepsLeft_pos hpending
    omega

/-- **Every call ends**: whatever the order of the turns, a call has ended once it has had two
turns for itself and two for each call and each update of another party. -/
theorem finishes_of_turns [Fintype ι] (caseData : SscsCaseData) (version : ℕ)
    {turns : List (Turn ι)} (client : ι)
    (hturns : 2 * (Fintype.card ι + turns.countP Turn.isOtherParty) + 2 ≤
      turns.countP (Turn.isOf client)) :
    Finishes common merge caseData version turns client where
  ended := ended_of_turns common merge caseData version client hturns
  accepted hretries entries hentries := by
    -- it has ended, and rejection is ruled out
    have hended := ended_of_turns common merge caseData version client hturns
    exact hended.resolve_right
      (not_rejected_runTurns common merge hretries hentries (by simp [CaseState.phase_start]) turns)
  conflicts_lt := conflicts_turns_lt common merge caseData version turns client

/-- Two e-mail merges that take turns, the second of them once more for the conflict. -/
theorem finishes_alternating :
    Finishes .bySentOn (fun _ : Bool => Merge.sample .v2 .email) World.sample.caseData 0
      (List.replicate 6 [Turn.call false, .call true]).flatten true :=
  finishes_of_turns .bySentOn _ World.sample.caseData 0 true (by decide)

end Schedules

end SscsPdfEmail.Concurrency
