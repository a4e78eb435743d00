import SscsPdfEmail.Concurrency.Termination
import SscsPdfEmail.Service.CaseHistory

/-!
# Calls in Any Order

Calls of the second generation that run at the same time, each of them tried again until CCD
accepts it, while other parties update the rest of the case.  The schedule decides in which order
that happens.  As long as no two entries of a list tie, the case does not show it: the calls
leave what they leave one after another when the others have finished, in whatever order
(`converges`).

Three facts are put together.  Every call is accepted, since it has turns enough.  The case is
the accepted updates applied in the order of the log, in which updates of others that neither
read nor write what merges write can be moved to the front (`replay_of_outside`).  And merges
applied one after another leave lists that are sorted, so their order shows only where entries
tie (`Merge.applyAll_eq_of_perm`).
-/

namespace SscsPdfEmail

open SscsPdfEmail.Domain SscsPdfEmail.Service
open SscsPdfEmail.Library
open SscsPdfEmail.Service.CcdNotificationsPdfService

namespace Service.Merge

/-! ## Merges in Any Order -/

/-- The list that a merge of a kind writes: the letters of a party, or the correspondence. -/
def listFor (caseData : SscsCaseData) : Option LetterType → Option (List Correspondence)
  | none => caseData.correspondence
  | some party => caseData.lettersOf party

/-- No two entries of a list tie, those that the merges bring to it included. -/
def NoTies (common : SscsCommon) (caseData : SscsCaseData) (ms : List Merge) : Prop :=
  ∀ party, TieFree common.newestFirst
    ((listFor caseData party).getD [] ++ (entriesTo party ms).filterMap id)

variable {common : SscsCommon} {ms ms' : List Merge}

theorem entriesTo_perm (hperm : ms.Perm ms') (party : Option LetterType) :
    (entriesTo party ms).Perm (entriesTo party ms') :=
  (hperm.filter _).map _

theorem NoTies.perm {caseData : SscsCaseData} (h : NoTies common caseData ms)
    (hperm : ms.Perm ms') : NoTies common caseData ms' := by
  intro party
  exact (h party).perm (((entriesTo_perm hperm party).filterMap id).append_left _)

/-- A kept letter leaves a container to keep it in. -/
theorem isSome_letters_applyAll (common : SscsCommon) (caseData : SscsCaseData) {m : Merge}
    (hm : m ∈ ms) (hletter : m.letterType.isSome = true) :
    (applyAll common caseData ms).reasonableAdjustmentsLetters.isSome = true := by
  obtain ⟨party, hparty⟩ := Option.isSome_iff_exists.mp hletter
  -- the merge adds to the letters of its party, which are then there
  have hentries : entriesFor party ms ≠ [] := by
    have hmem : m.entry ∈ entriesFor party ms :=
      List.mem_map_of_mem (List.mem_filter.mpr ⟨hm, by simp [hparty]⟩)
    exact List.ne_nil_of_mem hmem
  have hlist := (mergedList_spec common (caseData.lettersOf party) _).present hentries
  rw [← lettersOf_applyAll] at hlist
  unfold SscsCaseData.lettersOf at hlist
  cases hletters : (applyAll common caseData ms).reasonableAdjustmentsLetters with
  | none => simp [hletters] at hlist
  | some letters => rfl

section Flag

variable (hflag : FlagOfLetters common)

include hflag

theorem caseHistory_applyAll (caseData : SscsCaseData) (ms : List Merge) :
    CaseHistory common caseData (ms.map .merged) (applyAll common caseData ms) := by
  induction ms generalizing caseData with
  | nil => exact CaseHistory.refl caseData
  | cons m ms ih => exact CaseHistory.merged hflag (ih (m.apply common m.entry.toList caseData))

theorem listFor_applyAll (caseData : SscsCaseData) (ms : List Merge)
    (party : Option LetterType) :
    listFor (applyAll common caseData ms) party =
      mergedList common (listFor caseData party) (entriesTo party ms) := by
  cases party with
  | none => exact Concurrency.correspondence_applyAll hflag.updatesOnlyFlag caseData ms
  | some party => exact lettersOf_applyAll common caseData ms party

theorem listFor_applyAll_eq_of_perm {caseData : SscsCaseData} (hperm : ms.Perm ms')
    (hfree : NoTies common caseData ms) (party : Option LetterType) :
    listFor (applyAll common caseData ms) party =
      listFor (applyAll common caseData ms') party := by
  rw [listFor_applyAll hflag, listFor_applyAll hflag]
  exact mergedList_eq_of_perm common (entriesTo_perm hperm party) (hfree party)

/-- The letters with their flag, from the lists of the parties. -/
theorem letters_applyAll_eq_of_perm {caseData : SscsCaseData} (hperm : ms.Perm ms')
    (hfree : NoTies common caseData ms) :
    (applyAll common caseData ms).reasonableAdjustmentsLetters =
        (applyAll common caseData ms').reasonableAdjustmentsLetters ∧
      (applyAll common caseData ms).reasonableAdjustmentsOutstanding =
        (applyAll common caseData ms').reasonableAdjustmentsOutstanding := by
  have history := caseHistory_applyAll hflag caseData ms
  have history' := caseHistory_applyAll hflag caseData ms'
  have hany : (ms.map Change.merged).any Change.isLetter =
      (ms'.map Change.merged).any Change.isLetter := (hperm.map _).any_eq
  cases hletter : (ms.map Change.merged).any Change.isLetter with
  | false =>
    -- without a letter, the container may be missing and the flag out of date
    obtain ⟨hletters, houtstanding⟩ := history.noLetter hletter
    obtain ⟨hletters', houtstanding'⟩ := history'.noLetter (hany ▸ hletter)
    exact ⟨hletters.trans hletters'.symm, houtstanding.trans houtstanding'.symm⟩
  | true =>
    have hupdate := history.outstanding hletter
    have hupdate' := history'.outstanding (hany ▸ hletter)
    obtain ⟨change, hchange, hkept⟩ := List.any_eq_true.mp hletter
    obtain ⟨m, hm, rfl⟩ := List.mem_map.mp hchange
    obtain ⟨letters, hletters⟩ := Option.isSome_iff_exists.mp
      (isSome_letters_applyAll common caseData hm hkept)
    obtain ⟨letters', hletters'⟩ := Option.isSome_iff_exists.mp
      (isSome_letters_applyAll common caseData (hperm.mem_iff.mp hm) hkept)
    have hsame : letters = letters' := by
      apply ReasonableAdjustmentsLetters.eq_of_ofParty
      intro party
      have hparty := listFor_applyAll_eq_of_perm hflag hperm hfree (some party)
      simpa [listFor, SscsCaseData.lettersOf, hletters, hletters'] using hparty
    have hcontainer : (applyAll common caseData ms).reasonableAdjustmentsLetters =
        (applyAll common caseData ms').reasonableAdjustmentsLetters := by
      rw [hletters, hletters', hsame]
    refine ⟨hcontainer, ?_⟩
    obtain ⟨flag, hflag⟩ := hflag
    rw [hflag] at hupdate hupdate'
    rw [← hupdate, ← hupdate']
    exact congrArg flag hcontainer

/-- When no two entries of a list tie, the order of the merges leaves no trace in the case. -/
theorem applyAll_eq_of_perm {caseData : SscsCaseData} (hperm : ms.Perm ms')
    (hfree : NoTies common caseData ms) :
    applyAll common caseData ms = applyAll common caseData ms' := by
  have hframe := Concurrency.sameOutsideMerges_applyAll hflag.updatesOnlyFlag caseData ms
  have hframe' := Concurrency.sameOutsideMerges_applyAll hflag.updatesOnlyFlag caseData ms'
  -- the two cases agree in each part that merges write, and all else is as before
  have hcorrespondence : (applyAll common caseData ms).correspondence =
      (applyAll common caseData ms').correspondence :=
    listFor_applyAll_eq_of_perm hflag hperm hfree none
  obtain ⟨hletters, houtstanding⟩ := letters_applyAll_eq_of_perm hflag hperm hfree
  unfold Concurrency.SameOutsideMerges at hframe hframe'
  rw [hframe, hframe', hcorrespondence, hletters, houtstanding]

end Flag

/-! ## One Call after Another -/

/-- Whether a merge of the second generation is accepted does not depend on the case. -/
theorem acceptedNext_of_v2 {m : Merge} (hm : m.generation = .v2) (w w' : World) :
    m.acceptedNext common w = m.acceptedNext common w' := by
  have hreaches : ∀ w, m.reachesCcd w = m.env.idamTokens.toBool := by
    intro w
    simp [reachesCcd, hm]
  simp only [acceptedNext, acceptedAt_eq, submits, hreaches]

theorem entries_of_acceptedNext {m : Merge} {w : World} (h : m.acceptedNext common w = true) :
    ∃ entries, m.entries = .ok entries := by
  rw [acceptedNext, acceptedAt_eq, submits] at h
  cases hentries : m.entries with
  | ok entries => exact ⟨entries, rfl⟩
  | error e => simp [hentries, Except.toBool] at h

theorem caseData_run_of_v2 {w : World} (hv2 : ∀ m ∈ ms, m.generation = .v2)
    (haccepted : ∀ m ∈ ms, m.acceptedNext common w = true) :
    (run common w ms).caseData = applyAll common w.caseData ms := by
  -- whether CCD accepts a merge of the second generation does not depend on the case
  have hfilter : acceptedMerges common w ms = ms.filter (·.acceptedNext common w) := by
    apply acceptedMerges_eq_filter common fun _ => True
    · intro m _ w _
      trivial
    · intro m hm w₁ _
      exact acceptedNext_of_v2 (hv2 m hm) w₁ w
    · trivial
  rw [caseData_run, hfilter, List.filter_eq_self.mpr haccepted]

end Service.Merge

namespace Concurrency

/-! ## The Rest of the Case -/

/-- An update that neither reads nor writes what merges write. -/
def Outside (f : SscsCaseData → SscsCaseData) : Prop :=
  ∀ caseData correspondence letters outstanding,
    f { caseData with
        correspondence := correspondence
        reasonableAdjustmentsLetters := letters
        reasonableAdjustmentsOutstanding := outstanding } =
      { f caseData with
        correspondence := correspondence
        reasonableAdjustmentsLetters := letters
        reasonableAdjustmentsOutstanding := outstanding }

/-- Updates one after another. -/
def updateAll (caseData : SscsCaseData) (updates : List (SscsCaseData → SscsCaseData)) :
    SscsCaseData :=
  updates.foldl (fun caseData f => f caseData) caseData

section Outside

variable {f : SscsCaseData → SscsCaseData} (hf : Outside f)

include hf

theorem Outside.eq_self (caseData : SscsCaseData) :
    f caseData =
      { f caseData with
        correspondence := caseData.correspondence
        reasonableAdjustmentsLetters := caseData.reasonableAdjustmentsLetters
        reasonableAdjustmentsOutstanding := caseData.reasonableAdjustmentsOutstanding } :=
  hf caseData caseData.correspondence caseData.reasonableAdjustmentsLetters
    caseData.reasonableAdjustmentsOutstanding

theorem Outside.listFor (caseData : SscsCaseData) (party : Option LetterType) :
    Merge.listFor (f caseData) party = Merge.listFor caseData party := by
  rw [hf.eq_self]
  cases party <;> rfl

/-- Such an update may come before a merge or after it. -/
theorem Outside.apply {common : SscsCommon} (hflag : FlagOfLetters common) (m : Merge)
    (entries : List Correspondence) (caseData : SscsCaseData) :
    f (m.apply common entries caseData) = m.apply common entries (f caseData) := by
  cases hm : m.letterType with
  | none =>
    have happly := hf caseData (addCorrespondences common entries caseData).correspondence
      caseData.reasonableAdjustmentsLetters caseData.reasonableAdjustmentsOutstanding
    rw [Merge.apply_of_correspondence common hm, addCorrespondences]
    conv_rhs => rw [addCorrespondences, hf.eq_self]
    exact happly
  | some party =>
    have happly := fun letters => hf caseData caseData.correspondence letters
    rw [Merge.apply_of_party common hm, addLetters, addLetters]
    obtain ⟨flag, hflag⟩ := hflag
    rw [hflag, hflag]
    -- sscs-common computes the flag from the letters, which the update has not touched
    conv_rhs => rw [hf.eq_self]
    exact happly _ _

end Outside

section Updates

variable {common : SscsCommon} {updates : List (SscsCaseData → SscsCaseData)}

theorem listFor_updateAll (houtside : ∀ f ∈ updates, Outside f) (caseData : SscsCaseData)
    (party : Option LetterType) :
    Merge.listFor (updateAll caseData updates) party = Merge.listFor caseData party := by
  induction updates generalizing caseData with
  | nil => rfl
  | cons f updates ih =>
    -- none of the updates touches the list
    have hrest := ih (fun g hg => houtside g (List.mem_cons_of_mem f hg)) (f caseData)
    exact hrest.trans ((houtside f List.mem_cons_self).listFor caseData party)

theorem updateAll_apply (hflag : FlagOfLetters common) (houtside : ∀ f ∈ updates, Outside f)
    (m : Merge) (entries : List Correspondence) (caseData : SscsCaseData) :
    updateAll (m.apply common entries caseData) updates =
      m.apply common entries (updateAll caseData updates) := by
  induction updates generalizing caseData with
  | nil => rfl
  | cons f updates ih =>
    -- the merge passes the first update, and then the others
    have hfirst := (houtside f List.mem_cons_self).apply hflag m entries caseData
    have hrest := ih (fun g hg => houtside g (List.mem_cons_of_mem f hg)) (f caseData)
    rw [← hfirst] at hrest
    exact hrest

variable {ι : Type}

/-- A log is replayed by the updates of the other parties first, and then the merges. -/
theorem replay_of_outside (hflag : FlagOfLetters common) (merge : ι → Merge)
    (caseData : SscsCaseData) (log : List (OptimisticStore.Event ι SscsCaseData))
    (houtside : ∀ f ∈ updatesOf log, Outside f) :
    OptimisticStore.replay (mergeOf common merge) caseData log =
      Merge.applyAll common (updateAll caseData (updatesOf log))
        ((OptimisticStore.commits log).map merge) := by
  induction log generalizing caseData with
  | nil => rfl
  | cons event log ih =>
    cases event with
    | foreign f =>
      exact ih (f caseData) fun g hg => houtside g (List.mem_cons_of_mem f hg)
    | commit client =>
      -- the updates that the log holds after the merge move in front of it
      have hmove := updateAll_apply hflag houtside (merge client) (merge client).entry.toList
        caseData
      have hrest : OptimisticStore.replay (mergeOf common merge) caseData
          (.commit client :: log) = _ := ih (mergeOf common merge client caseData) houtside
      rw [hrest]
      exact congrArg (Merge.applyAll common · ((OptimisticStore.commits log).map merge)) hmove

end Updates

/-! ## Calls at the Same Time -/

variable {ι : Type} [DecidableEq ι]

/-- With enough turns, a call that is tried again is accepted. -/
theorem accepted_of_turns [Fintype ι] (common : SscsCommon) {merge : ι → Merge} {client : ι}
    (hretries : retries (merge client) = true) {entries : List Correspondence}
    (hentries : (merge client).entries = .ok entries) (initial : SscsCaseData) (version : ℕ)
    {turns : List (Turn ι)}
    (hturns : 2 * (Fintype.card ι + turns.countP Turn.isOtherParty) + 2 ≤
      turns.countP (Turn.isOf client)) :
    (runTurns common merge (.start initial version) turns).phase client = .accepted := by
  -- the call has ended, and calls that are tried again are not rejected
  have hended := ended_of_turns common merge initial version client hturns
  exact hended.resolve_right (not_rejected_runTurns common merge hretries hentries
    (by simp [CaseState.phase_start]) _)

theorem updatesOf_runTurns (common : SscsCommon) (merge : ι → Merge) (initial : SscsCaseData)
    (version : ℕ) (turns : List (Turn ι)) :
    updatesOf (runTurns common merge (.start initial version) turns).log =
      turns.filterMap Turn.update := by
  rw [runTurns, updatesOf_run, filterMap_update_actionsOf]
  rfl

/-- What is promised of calls that come to their end together, while other parties update the
case. -/
structure Converged (common : SscsCommon) (merge : ι → Merge) (initial : SscsCaseData)
    (updates : List (SscsCaseData → SscsCaseData)) (order : List ι) (s : CaseState ι) : Prop where
  accepted : ∀ client, s.phase client = .accepted
  /-- CCD has taken one update of each call. -/
  once : (OptimisticStore.commits s.log).Perm order
  /-- The case is as if the calls had been made in the given order, after the updates. -/
  caseData : s.caseData =
    (Merge.run common (.ofCase (updateAll initial updates)) (order.map merge)).caseData

/-- **Convergence**: however calls of the second generation take their turns among updates of the
rest of the case, unless entries tie they leave what they leave one after another when the
updates have been made, whatever the order. -/
theorem converges [Fintype ι] {common : SscsCommon} (hflag : FlagOfLetters common)
    {merge : ι → Merge} (hretries : ∀ client, retries (merge client) = true)
    {initial : SscsCaseData}
    (haccepted : ∀ client, (merge client).acceptedNext common (.ofCase initial) = true)
    {order : List ι} (hnodup : order.Nodup) (hall : ∀ client, client ∈ order)
    (hfree : Merge.NoTies common initial (order.map merge)) (version : ℕ)
    {turns : List (Turn ι)} (houtside : ∀ f ∈ turns.filterMap Turn.update, Outside f)
    (hturns : ∀ client, 2 * (Fintype.card ι + turns.countP Turn.isOtherParty) + 2 ≤
      turns.countP (Turn.isOf client)) :
    Converged common merge initial (turns.filterMap Turn.update) order
      (runTurns common merge (.start initial version) turns) := by
  have hphase : ∀ client, (runTurns common merge (.start initial version)
      turns).phase client = .accepted := by
    intro client
    obtain ⟨entries, hentries⟩ := Merge.entries_of_acceptedNext (haccepted client)
    exact accepted_of_turns common (hretries client) hentries initial version (hturns client)
  have hinvariant : ConsumerInvariant common merge initial
      (runTurns common merge (.start initial version) turns) :=
    consumerInvariant_run (fun client => flow_of_retries (hretries client)) initial version _
  -- the log holds every call, each of them once
  have hcommits : (OptimisticStore.commits
      (runTurns common merge (.start initial version) turns).log).Perm order := by
    refine (List.perm_ext_iff_of_nodup hinvariant.counted.nodup hnodup).mpr fun client => ?_
    refine iff_of_true ?_ (hall client)
    exact (hinvariant.counted.mem_iff client).mpr (abstract_eq_committed.mpr (hphase client))
  refine ⟨hphase, hcommits, ?_⟩
  have hupdates := updatesOf_runTurns common merge initial version turns
  -- the case of the log, which is that of the calls in the order of their submits, ...
  have hserial : (runTurns common merge (.start initial version) turns).caseData =
      Merge.applyAll common (updateAll initial (turns.filterMap Turn.update))
        (order.map merge) := by
    have hreplayed := replay_of_outside hflag merge initial
      (runTurns common merge (.start initial version) turns).log (by rwa [hupdates])
    rw [hupdates] at hreplayed
    have hperm := hcommits.map merge
    have hfree' : Merge.NoTies common (updateAll initial (turns.filterMap Turn.update))
        (order.map merge) := by
      intro party
      rw [listFor_updateAll houtside]
      exact hfree party
    exact (hinvariant.serial.trans hreplayed).trans
      (Merge.applyAll_eq_of_perm hflag hperm (hfree'.perm hperm.symm))
  -- ... and that of the calls in the given order
  have hcalled : (Merge.run common (.ofCase (updateAll initial (turns.filterMap Turn.update)))
      (order.map merge)).caseData =
        Merge.applyAll common (updateAll initial (turns.filterMap Turn.update))
          (order.map merge) := by
    have hv2 : ∀ client, (merge client).generation = .v2 :=
      fun client => of_decide_eq_true (hretries client)
    apply Merge.caseData_run_of_v2
    · intro m hm
      obtain ⟨client, -, rfl⟩ := List.mem_map.mp hm
      exact hv2 client
    · intro m hm
      obtain ⟨client, -, rfl⟩ := List.mem_map.mp hm
      exact (Merge.acceptedNext_of_v2 (hv2 client) _ _).trans (haccepted client)
  rw [hserial, hcalled]

/-- An e-mail, and a letter a year before it. -/
def emailAndLetter : Bool → Merge
  | false => .sample .v2 .email
  | true =>
    { Merge.sample .v2 (.letter [1] (some "Notify")) with
      correspondence :=
        { value := some
            { sentOn := some "22 Jan 2020 11:33"
              eventType := some "appealReceived"
              correspondenceType := some .letter } } }

/-- Turns of the two, with an update in between. -/
def emailAndLetterTurns : List (Turn Bool) :=
  [.call false, .call true, .call false,
    .otherParty fun caseData => { caseData with evidenceHandled := some "Yes" }] ++
    (List.replicate 7 [.call true, .call false]).flatten

theorem converges_emailAndLetter :
    Converged .bySentOn emailAndLetter World.sample.caseData
      (emailAndLetterTurns.filterMap Turn.update) [true, false]
      (runTurns .bySentOn emailAndLetter (.start World.sample.caseData 0)
        emailAndLetterTurns) := by
  apply converges flagOfLetters_bySentOn
  · decide
  · decide
  · decide
  · decide
  · intro party
    rcases party with _ | _ | _ | _ | _ | _ <;> decide
  · intro f hf
    obtain rfl := List.mem_singleton.mp hf
    exact fun _ _ _ _ => rfl
  · decide

end Concurrency

end SscsPdfEmail
