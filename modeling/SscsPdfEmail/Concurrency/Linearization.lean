import SscsPdfEmail.Concurrency.CaseClients
import SscsPdfEmail.Service.ReasonableAdjustmentRuns

/-!
# Consumer-Based Operations Are Linearizable

The second generation of the merges, and the reasonable-adjustment merges of the first, hand CCD
a consumer.  However their steps interleave, conflict and are tried again, the stored case is the
accepted merges applied one after another, in the order of their submits (`linearized`).

The calls simulate clients of a versioned store that take their snapshot as they open their
update, for which every run is serial.  What is left is to read the log of that store as calls:
each call is in it once, and its entries are those that it built before its first attempt,
however often it was tried again.  Without other parties the outcome is that of sequential calls
(`SequentialOutcome`), list by list and with everything else unchanged.
-/

namespace SscsPdfEmail.Concurrency

open SscsPdfEmail.Domain SscsPdfEmail.Service
open SscsPdfEmail.Library
open SscsPdfEmail.Service.CcdNotificationsPdfService

/-! ## Sequences of merges of all kinds -/

/-- The cases differ in the correspondence list, the letters and their flag at most. -/
def SameOutsideMerges (initial final : SscsCaseData) : Prop :=
  final = { initial with
    correspondence := final.correspondence
    reasonableAdjustmentsLetters := final.reasonableAdjustmentsLetters
    reasonableAdjustmentsOutstanding := final.reasonableAdjustmentsOutstanding }

theorem SameOutsideMerges.trans {initial middle final : SscsCaseData}
    (h : SameOutsideMerges initial middle) (h' : SameOutsideMerges middle final) :
    SameOutsideMerges initial final := by
  unfold SameOutsideMerges at *
  rw [h', h]

section Sequential

variable {common : SscsCommon} (hflag : common.UpdatesOnlyFlag)

include hflag

theorem addLetters_of_updatesOnlyFlag (entries : List Correspondence) (party : LetterType)
    (caseData : SscsCaseData) :
    (addLetters common entries party caseData).correspondence = caseData.correspondence ∧
      SameOutsideMerges caseData (addLetters common entries party caseData) := by
  unfold addLetters
  -- sscs-common is handed the letters and sets the flag by them
  obtain ⟨flag, hupdate⟩ := hflag { caseData with
    reasonableAdjustmentsLetters :=
      some (buildCorrespondenceByParty common caseData entries party) }
  rw [hupdate]
  exact ⟨rfl, rfl⟩

theorem sameOutsideMerges_applyAll (caseData : SscsCaseData) (ms : List Merge) :
    SameOutsideMerges caseData (Merge.applyAll common caseData ms) := by
  induction ms generalizing caseData with
  | nil => rfl
  | cons m ms ih =>
    -- each merge writes one of the lists, and with letters the flag
    have hfirst : SameOutsideMerges caseData (m.apply common m.entry.toList caseData) := by
      unfold Merge.apply
      cases m.letterType with
      | none => rfl
      | some party => exact (addLetters_of_updatesOnlyFlag hflag _ party caseData).2
    exact hfirst.trans (ih _)

/-- Whatever else is merged, the correspondence list gets the entries brought for it. -/
theorem correspondence_applyAll (caseData : SscsCaseData) (ms : List Merge) :
    (Merge.applyAll common caseData ms).correspondence =
      mergedList common caseData.correspondence
        ((ms.filter (·.letterType = none)).map Merge.entry) := by
  induction ms generalizing caseData with
  | nil => rfl
  | cons m ms ih =>
    have hrest : (Merge.applyAll common caseData (m :: ms)).correspondence = _ :=
      ih (m.apply common m.entry.toList caseData)
    rw [hrest]
    -- only merges without a party reach the list of correspondence
    cases hm : m.letterType with
    | none =>
      have hentries : ((m :: ms).filter (·.letterType = none)).map Merge.entry =
          m.entry :: (ms.filter (·.letterType = none)).map Merge.entry := by
        simp [hm]
      rw [hentries, ← mergedList_cons, Merge.apply, hm]
      rfl
    | some party =>
      have hentries : (m :: ms).filter (·.letterType = none) =
          ms.filter (·.letterType = none) := by
        simp [hm]
      rw [hentries, Merge.apply, hm]
      show mergedList common (addLetters common m.entry.toList party caseData).correspondence _ =
        _
      rw [(addLetters_of_updatesOnlyFlag hflag _ party caseData).1]

end Sequential

/-! ## The invariant -/

variable {ι : Type} [DecidableEq ι]

/-- What holds all through a run of consumer-based merges. -/
structure ConsumerInvariant (common : SscsCommon) (merge : ι → Merge) (initial : SscsCaseData)
    (s : CaseState ι) : Prop where
  entriesBuilt : EntriesBuilt merge s
  upToDate : OptimisticStore.UpToDate s.abstract
  serial : OptimisticStore.Serial (mergeOf common merge) initial s.abstract
  counted : OptimisticStore.Counted s.abstract

section Invariant

variable {common : SscsCommon} {merge : ι → Merge}
  (hconsumer : ∀ client, dataFlow (merge client) = .consumer)

include hconsumer

/-- A consumer-based merge holds no data before its event is open. -/
theorem not_holding_of_transition {s s' : CaseState ι} {action : Action ι}
    (h : Transition common merge s action s')
    (hs : ∀ client caseData, s.abstract.phase client ≠ .holding caseData) :
    ∀ client caseData, s'.abstract.phase client ≠ .holding caseData := by
  have hmove : ∀ (s₁ : CaseState ι) client phase,
      (∀ caseData, phase.abstract ≠ .holding caseData) →
      (∀ client caseData, s₁.abstract.phase client ≠ .holding caseData) →
      ∀ other caseData, (s₁.move client phase).abstract.phase other ≠ .holding caseData := by
    intro s₁ client phase hphase hs₁ other caseData
    -- the other clients stay where they are
    rw [abstract_move]
    by_cases hother : other = client
    · subst hother
      simpa [OptimisticStore.State.move] using hphase caseData
    · simpa [OptimisticStore.State.move, hother] using hs₁ other caseData
  cases h with
  | @takeSnapshot client hphase hflow =>
    rw [hconsumer client] at hflow
    cases hflow
  | @storeSnapshot client entries caseData hphase hentries =>
    refine absurd ?_ (hs client caseData)
    simp [CaseState.abstract, hphase, Phase.abstract]
  | build hphase hflow hentries => exact hmove _ _ _ (fun caseData h => by cases h) hs
  | @readCase client entries hphase hflow =>
    rw [hconsumer client] at hflow
    cases hflow
  | @openReady client entries caseData hphase =>
    refine absurd ?_ (hs client caseData)
    simp [CaseState.abstract, hphase, Phase.abstract]
  | openBuilt hphase hflow => exact hmove _ _ _ (fun caseData h => by cases h) hs
  | accept hphase => exact hmove (s.accept _ _) _ _ (fun caseData h => by cases h) hs
  | retry hphase hretries => exact hmove _ _ _ (fun caseData h => by cases h) hs
  | conflict hphase => exact hmove _ _ _ (fun caseData h => by cases h) hs
  | fail hphase => exact hmove _ _ _ (fun caseData h => by cases h) hs
  | otherParty f => exact hs

theorem ConsumerInvariant.transition {initial : SscsCaseData} {s s' : CaseState ι}
    {action : Action ι} (hs : ConsumerInvariant common merge initial s)
    (h : Transition common merge s action s') :
    ConsumerInvariant common merge initial s' := by
  have hbuilt := hs.entriesBuilt.transition common h
  -- a step of a call is a step of the abstract store, or is not seen there
  rcases abstract_transition common hs.entriesBuilt h with hsame | hstep
  · exact ⟨hbuilt, hsame ▸ hs.upToDate, hsame ▸ hs.serial, hsame ▸ hs.counted⟩
  · have hholding := not_holding_of_transition hconsumer h hs.upToDate.holding
    exact ⟨hbuilt, hstep.upToDate hs.upToDate hholding,
      (hstep.fresh hs.upToDate).serial hs.serial, hstep.counted hs.counted⟩

theorem consumerInvariant_run (initial : SscsCaseData) (version : ℕ)
    (actions : List (Action ι)) :
    ConsumerInvariant common merge initial
      (run common merge (.start initial version) actions) := by
  apply run_invariant common merge (ConsumerInvariant common merge initial)
  · exact fun s action s' hs h => hs.transition hconsumer h
  · -- nothing has happened at the start
    exact ⟨entriesBuilt_start merge initial version,
      OptimisticStore.upToDate_start initial version,
      OptimisticStore.serial_start initial version,
      OptimisticStore.counted_start initial version⟩

end Invariant

/-! ## Linearization -/

/-- The accepted merges, in the order of their submits. -/
def acceptedOrder (merge : ι → Merge) (s : CaseState ι) : List Merge :=
  (OptimisticStore.commits s.log).map merge

/-- No other party has updated the case. -/
def OnlyMerges (s : CaseState ι) : Prop :=
  ∀ f, OptimisticStore.Event.foreign f ∉ s.log

omit [DecidableEq ι] in
theorem replay_eq_applyAll (common : SscsCommon) (merge : ι → Merge) (caseData : SscsCaseData)
    (log : List (OptimisticStore.Event ι SscsCaseData))
    (hown : ∀ f, OptimisticStore.Event.foreign f ∉ log) :
    OptimisticStore.replay (mergeOf common merge) caseData log =
      Merge.applyAll common caseData ((OptimisticStore.commits log).map merge) := by
  -- by induction on the log, every event of which is a commit
  induction log generalizing caseData with
  | nil => rfl
  | cons event log ih =>
    have hrest := fun caseData => ih caseData fun f hf => hown f (List.mem_cons_of_mem event hf)
    cases event with
    | foreign f => exact absurd List.mem_cons_self (hown f)
    | commit client => exact hrest (mergeOf common merge client caseData)

/-- The outcome of a run that no other party interferes with, compared with running the
accepted merges one after another. -/
structure SequentialOutcome (common : SscsCommon) (accepted : List Merge)
    (initial final : SscsCaseData) : Prop where
  /-- The accepted merges, applied in order. -/
  applied : final = Merge.applyAll common initial accepted
  /-- The same as calling the operations one after another, each of them accepted. -/
  called : ∀ w : World, w.caseData = initial →
    Merge.acceptedMerges common w accepted = accepted →
      (Merge.run common w accepted).caseData = final
  /-- Each accepted merge contributes its stored correspondence exactly once ... -/
  correspondence : MergedList common initial.correspondence
    ((accepted.filter (·.letterType = none)).map Merge.entry) final.correspondence
  /-- ... or its letter, to the party it is addressed to. -/
  letters : ∀ party, MergedList common (initial.lettersOf party)
    (Merge.entriesFor party accepted) (final.lettersOf party)
  /-- Nothing else changes but the flag. -/
  frame : SameOutsideMerges initial final

/-- What is promised of a run of concurrent consumer-based merges. -/
structure Linearized (common : SscsCommon) (merge : ι → Merge) (initial : SscsCaseData)
    (s : CaseState ι) : Prop where
  /-- The stored case is the accepted updates, applied in the order of their submits. -/
  serial : s.caseData = OptimisticStore.replay (mergeOf common merge) initial s.log
  /-- No merge is accepted twice ... -/
  nodup : (OptimisticStore.commits s.log).Nodup
  /-- ... and exactly the accepted ones are applied. -/
  accepted_iff : ∀ client,
    client ∈ OptimisticStore.commits s.log ↔ s.phase client = .accepted
  sequential : OnlyMerges s →
    SequentialOutcome common (acceptedOrder merge s) initial s.caseData

omit [DecidableEq ι] in
theorem sequentialOutcome {common : SscsCommon} (hflag : common.UpdatesOnlyFlag)
    {accepted : List Merge} {initial final : SscsCaseData}
    (happlied : final = Merge.applyAll common initial accepted) :
    SequentialOutcome common accepted initial final where
  applied := happlied
  called w hw haccepted := by rw [Merge.caseData_run, haccepted, hw, happlied]
  correspondence := by
    rw [happlied, correspondence_applyAll hflag]
    exact mergedList_spec common _ _
  letters party := by
    rw [happlied, Merge.lettersOf_applyAll]
    exact mergedList_spec common _ _
  -- each part of the outcome is a fact about merges applied one after another
  frame := happlied ▸ sameOutsideMerges_applyAll hflag initial accepted

/-- **Linearizability**: every interleaving of the steps of any number of consumer-based
merges has the outcome of the accepted ones run in the order of their submits. -/
theorem linearized (common : SscsCommon) (hflag : common.UpdatesOnlyFlag) (merge : ι → Merge)
    (hconsumer : ∀ client, dataFlow (merge client) = .consumer) (initial : SscsCaseData)
    (version : ℕ) (actions : List (Action ι)) :
    Linearized common merge initial
      (run common merge (.start initial version) actions) := by
  have hrun : ConsumerInvariant common merge initial
      (run common merge (.start initial version) actions) :=
    consumerInvariant_run hconsumer initial version actions
  have hserial := hrun.serial
  -- the log of accepted submissions is the order that the outcome is read in
  refine ⟨hserial, hrun.counted.nodup, ?_, ?_⟩
  · intro client
    rw [← abstract_eq_committed]
    exact hrun.counted.mem_iff client
  · intro hown
    exact sequentialOutcome hflag (hserial.trans (replay_eq_applyAll common merge initial _ hown))

/-- Two e-mail merges of the second generation that meet a conflict: the second is submitted
at an old version, and again after a retry. -/
def conflictingEmails : List (Action Bool) :=
  [.storePdf false, .storePdf true, .openEvent false, .openEvent true, .submit false,
    .submit true, .openEvent true, .submit true]

theorem linearized_conflictingEmails :
    Linearized .bySentOn (fun _ : Bool => Merge.sample .v2 .email) World.sample.caseData
      (run .bySentOn (fun _ => Merge.sample .v2 .email) (.start World.sample.caseData 0)
        conflictingEmails) := by
  apply linearized .bySentOn SscsCommon.bySentOn_updatesOnlyFlag
  intro client
  rfl

end SscsPdfEmail.Concurrency
