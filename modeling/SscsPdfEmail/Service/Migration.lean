import SscsPdfEmail.Concurrency.Linearization
import SscsPdfEmail.Service.CorrespondenceRuns
import SscsPdfEmail.Service.MergedLetters

/-!
# Moving to the Second Generation

Each merge operation exists in two generations, and its callers can be moved from the first to
the second one at a time.  The first generation takes more steps before the update that can fail:
it reads the id of the case out of the case, and for a letter the case out of CCD, and it fetches
its tokens where nobody catches the exception.

- A run of merges loses nothing when its callers move: calls that returned still return, updates
  that were accepted still are, and the lists contain what they did (`nothingLost`).
- Where the steps of its own succeed, the first generation comes to the same as the second,
  update by update (`sameRun`).

A merge that was refused before the move may be accepted after it, so the runs are compared in
step, each call in the world that its own run has led to.
-/

namespace SscsPdfEmail.Service

open SscsPdfEmail.Domain
open SscsPdfEmail.Concurrency (addLetters_of_updatesOnlyFlag correspondence_applyAll
  sameOutsideMerges_applyAll SameOutsideMerges)
open CcdNotificationsPdfService

/-! ## Calls That Return -/

variable {α β : Type}

/-- A call returns normally. -/
def Returns (x : Call α) (w : World) : Prop := ∃ a w', x.run w = .ok a w'

/-- A failure, if it is one, that the handler of the updates carries on from. -/
def Caught (result : Except JavaException α) : Prop := ∀ e, result = .error e → e = .ccd

theorem returns_bind {x : Call α} {f : α → Call β} {result : Except JavaException α}
    {w w' : World} (hrun : x.run w = finish result w') :
    Returns (x >>= f) w ↔ ∃ a, result = .ok a ∧ Returns (f a) w' := by
  unfold Returns
  rw [EStateM.run_bind, hrun]
  cases result with
  | ok a => simp
  | error e => simp

theorem returns_fromExcept_bind {result : Except JavaException α} {f : α → Call β} {w : World} :
    Returns (fromExcept result >>= f) w ↔ ∃ a, result = .ok a ∧ Returns (f a) w :=
  returns_bind (run_fromExcept result w)

theorem returns_bind_pure {x : Call α} {f : α → β} {w : World} :
    Returns (x >>= fun a => pure (f a)) w ↔ Returns x w := by
  unfold Returns
  rw [EStateM.run_bind]
  cases x.run w with
  | ok a w' => simp
  | error e w' => simp

theorem returns_carryOn {fallback : α} {update : Call α} {result : Except JavaException α}
    {w w' : World} (hrun : update.run w = finish result w') :
    Returns (carryOn fallback update) w ↔ Caught result := by
  unfold Returns Caught carryOn
  rw [run_tryCatch, hrun]
  cases result with
  | ok a => simp
  | error e =>
    constructor
    · rintro ⟨a, w₁, hreturn⟩ e' he'
      obtain rfl := Except.error.inj he'
      -- every other exception is thrown again
      cases e <;> first | rfl | cases hreturn
    · intro hcaught
      obtain rfl := hcaught e rfl
      exact ⟨fallback, w', rfl⟩

theorem Ccd.submit_run (env : Env) (caseId : Option ℤ) (eventType : EventType)
    (summary description : String) (caseData : SscsCaseData) (w : World) :
    (Ccd.submit env caseId eventType summary description caseData).run w =
      finish (env.ccdUpdate.map fun _ => { data := some caseData })
        (w.addUpdate ⟨caseId, eventType, summary, description, caseData, env.accepts⟩) := by
  unfold Ccd.submit
  cases env.ccdUpdate <;> rfl

theorem caught_map {result : Except JavaException α} {f : α → β} :
    Caught (result.map f) ↔ Caught result := by
  cases result <;> simp [Caught, Except.map]

theorem returns_updateCaseInCcd {env : Env} {caseData : SscsCaseData} {caseId : Option ℤ}
    {eventType : EventType} {description : String} {w : World} :
    Returns (updateCaseInCcd env caseData caseId eventType description) w ↔
      Caught env.ccdUpdate :=
  (returns_carryOn (Ccd.submit_run ..)).trans caught_map

theorem returns_updateCaseV2InCcd {env : Env} {consumer : SscsCaseData → SscsCaseData}
    {caseId : Option ℤ} {eventType : EventType} {description : String} {w : World} :
    Returns (updateCaseV2InCcd env consumer caseId eventType description) w ↔
      Caught env.ccdUpdate :=
  (returns_carryOn (Ccd.submit_run ..)).trans caught_map

namespace Merge

variable (common : SscsCommon) {m : Merge} {w : World}

/-- The external systems answer so that a merge of the second generation returns. -/
structure Answered (m : Merge) : Prop where
  entries : m.entries.toBool = true
  tokens : Caught m.env.idamTokens
  update : m.env.idamTokens.toBool = true → Caught m.env.ccdUpdate

theorem returns_updateV2 (summary description : String) (entries : List Correspondence) :
    Returns (carryOn () do
      let _ ← fromExcept m.env.idamTokens
      let _ ← Ccd.updateCaseV2 m.env m.caseId m.eventType summary description
        (m.apply common entries)) w ↔
      Caught m.env.idamTokens ∧
        (m.env.idamTokens.toBool = true → Caught m.env.ccdUpdate) := by
  -- the handler covers the tokens as well as the update
  cases hidam : m.env.idamTokens with
  | error e =>
    have hrun : (do
        let _ ← fromExcept (.error e : Except JavaException IdamTokens)
        let _ ← Ccd.updateCaseV2 m.env m.caseId m.eventType summary description
          (m.apply common entries)).run w = finish (.error e) w := rfl
    rw [returns_carryOn hrun]
    simp [Caught, Except.toBool]
  | ok tokens =>
    have hrun : (do
        let _ ← fromExcept (.ok tokens)
        let _ ← Ccd.updateCaseV2 m.env m.caseId m.eventType summary description
          (m.apply common entries)).run w =
          finish (m.env.ccdUpdate.map fun _ => ())
            (w.addUpdate ⟨m.caseId, m.eventType, summary, description,
              m.apply common entries w.caseData, m.env.accepts⟩) := by
      show ((Ccd.submit m.env m.caseId m.eventType summary description
        (m.apply common entries w.caseData)) >>= fun _ => pure ()).run w = _
      -- the update is submitted, and its outcome is that of CCD
      rw [EStateM.run_bind, Ccd.submit_run]
      cases m.env.ccdUpdate <;> rfl
    rw [returns_carryOn hrun, caught_map]
    simp [Caught, Except.toBool]

/-- A merge of the second generation returns or not whatever the case is. -/
theorem returns_iff_of_v2 (h : m.generation = .v2) :
    Returns (m.call common) w ↔ m.Answered := by
  obtain ⟨summary, description, hcall⟩ := m.call_of_v2 common h
  rw [hcall, returns_bind (m.entriesCall_run w)]
  simp only [returns_updateV2]
  constructor
  · rintro ⟨entries, hentries, htokens, hupdate⟩
    exact ⟨by simp [hentries, Except.toBool], htokens, hupdate⟩
  · -- nothing but the entries, the tokens and the update is asked for
    rintro ⟨hentries, htokens, hupdate⟩
    cases hok : m.entries with
    | error e =>
      rw [hok] at hentries
      cases hentries
    | ok entries => exact ⟨entries, rfl, htokens, hupdate⟩

theorem toBool_of_eq_ok {result : Except JavaException α} {a : α} (h : result = .ok a) :
    result.toBool = true := by
  rw [h]
  rfl

/-- The first generation takes all the steps of the second one. -/
theorem answered_of_returns (h : Returns (m.call common) w) : m.Answered := by
  cases hg : m.generation with
  | v2 => exact (returns_iff_of_v2 common hg).mp h
  | v1 =>
    -- a call of the first generation needs tokens, so it returns only where they are fetched
    have hanswered : (∃ entries, m.entries = .ok entries) →
        (∃ tokens, m.env.idamTokens = .ok tokens) → Caught m.env.ccdUpdate → m.Answered := by
      rintro ⟨entries, hentries⟩ ⟨tokens, htokens⟩ hupdate
      refine ⟨toBool_of_eq_ok hentries, fun e he => ?_, fun _ => hupdate⟩
      rw [htokens] at he
      cases he
    cases hparty : m.letterType with
    | some party =>
      rw [m.call_of_reasonableAdjustmentV1 common hg hparty, returns_fromExcept_bind] at h
      obtain ⟨tokens, htokens, h⟩ := h
      rw [returns_bind (m.entriesCall_run w)] at h
      obtain ⟨entries, hentries, h⟩ := h
      rw [returns_bind_pure, returns_updateCaseV2InCcd] at h
      exact hanswered ⟨entries, hentries⟩ ⟨tokens, htokens⟩ h
    | none =>
      -- what the two others do in between has succeeded too
      cases hn : m.notification with
      | reasonableAdjustment letterDocument letterType => simp [Merge.letterType, hn] at hparty
      | reasonableAdjustmentPdfs pdfs letterType => simp [Merge.letterType, hn] at hparty
      | email =>
        rw [m.call_of_emailV1 common hg hn, returns_bind (m.entriesCall_run w)] at h
        obtain ⟨entries, hentries, h⟩ := h
        obtain ⟨caseId, -, h⟩ := returns_fromExcept_bind.mp h
        obtain ⟨tokens, htokens, h⟩ := returns_fromExcept_bind.mp h
        rw [returns_bind_pure, returns_updateCaseInCcd] at h
        exact hanswered ⟨entries, hentries⟩ ⟨tokens, htokens⟩ h
      | letter pdf senderType =>
        rw [m.call_of_letterV1 common hg hn, returns_bind (m.entriesCall_run w)] at h
        obtain ⟨entries, hentries, h⟩ := h
        obtain ⟨tokens, htokens, h⟩ := returns_fromExcept_bind.mp h
        obtain ⟨found, -, h⟩ := returns_fromExcept_bind.mp h
        obtain ⟨caseId, -, h⟩ := returns_fromExcept_bind.mp h
        rw [returns_bind_pure, returns_updateCaseInCcd] at h
        exact hanswered ⟨entries, hentries⟩ ⟨tokens, htokens⟩ h

/-! ## One Call -/

variable (m)

/-- The same merge by the operation of the second generation. -/
def upgrade : Merge := { m with generation := .v2 }

theorem returns_upgrade (h : Returns (m.call common) w) (w' : World) :
    Returns (m.upgrade.call common) w' :=
  (returns_iff_of_v2 common rfl).mpr
    ⟨(answered_of_returns common h).entries, (answered_of_returns common h).tokens,
      (answered_of_returns common h).update⟩

/-- What the second generation needs to submit its update. -/
theorem submits_upgrade (w : World) :
    m.upgrade.submits w = (m.entries.toBool && m.env.idamTokens.toBool) := by
  have hentries : m.upgrade.entries = m.entries := rfl
  have hreaches : m.upgrade.reachesCcd w = m.env.idamTokens.toBool := by
    simp [reachesCcd, upgrade]
  rw [submits, hentries, hreaches]

theorem acceptedNext_upgrade_of_acceptedNext (h : m.acceptedNext common w = true) (w' : World) :
    m.upgrade.acceptedNext common w' = true := by
  have henv : m.upgrade.env = m.env := rfl
  rw [acceptedNext, acceptedAt_eq, submits, reachesCcd] at h
  rw [acceptedNext, acceptedAt_eq, submits_upgrade, henv]
  grind

/-- The second generation stores what the first stores, and does not wait for the tokens. -/
theorem uploads_sublist_upgrade : m.uploads.Sublist m.upgrade.uploads := by
  have hstores : m.upgrade.uploads = m.entriesUploads := rfl
  rw [hstores, uploads]
  split
  · exact List.Sublist.refl _
  · exact List.nil_sublist _

/-! ## Runs -/

/-- Upgrading takes no update from a run. -/
theorem acceptedMerges_upgrade (w w' : World) (ms : List Merge) :
    ((acceptedMerges common w ms).map upgrade).Sublist
      (acceptedMerges common w' (ms.map upgrade)) := by
  induction ms generalizing w w' with
  | nil => exact List.Sublist.refl _
  | cons m ms ih =>
    have hrest := ih (m.next common w) (m.upgrade.next common w')
    rw [List.map_cons, acceptedMerges, acceptedMerges]
    -- an accepted merge is accepted after the move; a refused one may be
    cases haccepted : m.acceptedNext common w with
    | true =>
      rw [m.acceptedNext_upgrade_of_acceptedNext common haccepted w']
      exact hrest.cons_cons m.upgrade
    | false =>
      rw [if_neg Bool.false_ne_true]
      split
      · exact hrest.cons m.upgrade
      · exact hrest

theorem uploads_run (w : World) (ms : List Merge) :
    (run common w ms).uploads = w.uploads ++ ms.flatMap uploads := by
  induction ms generalizing w with
  | nil => exact (List.append_nil _).symm
  | cons m ms ih =>
    have hrest := ih (m.next common w)
    -- what a merge uploads does not depend on the world
    have hm : (m.next common w).uploads = w.uploads ++ m.uploads :=
      m.uploads_worldAfter_call common w.refreshCaller
    rw [hm, List.append_assoc] at hrest
    exact hrest

theorem uploads_run_upgrade (w : World) (ms : List Merge) :
    (run common w ms).uploads.Sublist (run common w (ms.map upgrade)).uploads := by
  rw [uploads_run, uploads_run]
  apply List.Sublist.append_left
  induction ms with
  | nil => exact List.Sublist.refl _
  | cons m ms ih => exact m.uploads_sublist_upgrade.append ih

/-! ### Lists -/

/-- The entries that a sequence of merges brings for a party, or for the correspondence. -/
def entriesTo (party : Option LetterType) (ms : List Merge) : List (Option Correspondence) :=
  (ms.filter (·.letterType = party)).map entry

theorem entriesTo_upgrade (party : Option LetterType) (ms : List Merge) :
    entriesTo party (ms.map upgrade) = entriesTo party ms := by
  rw [entriesTo, List.filter_map, List.map_map]
  rfl

theorem entriesTo_acceptedMerges_upgrade (party : Option LetterType) (w : World)
    (ms : List Merge) :
    (entriesTo party (acceptedMerges common w ms)).Sublist
      (entriesTo party (acceptedMerges common w (ms.map upgrade))) := by
  rw [← entriesTo_upgrade]
  exact ((acceptedMerges_upgrade common w w ms).filter _).map _

section Frame

variable {common} (hflag : common.UpdatesOnlyFlag)

include hflag

/-- A merge writes the correspondence, or the letters and their flag. -/
theorem apply_frame (entries : List Correspondence) (caseData : SscsCaseData) :
    SameOutsideMerges caseData (m.apply common entries caseData) := by
  unfold apply
  cases m.letterType with
  | none => rfl
  | some party => exact (addLetters_of_updatesOnlyFlag hflag entries party caseData).2

theorem ccdCaseId_apply (entries : List Correspondence) (caseData : SscsCaseData) :
    (m.apply common entries caseData).ccdCaseId = caseData.ccdCaseId := by
  rw [m.apply_frame hflag]

end Frame

/-- All of one list is in another one, in the same order where the first is newest first. -/
structure Contained (list list' : List Correspondence) : Prop where
  subperm : list.Subperm list'
  sublist : list.Pairwise common.newestFirst → list.Sublist list'

theorem contained_mergedList (initial : Option (List Correspondence))
    {entries entries' : List (Option Correspondence)} (h : entries.Sublist entries') :
    Contained common ((mergedList common initial entries).getD [])
      ((mergedList common initial entries').getD []) :=
  ⟨mergedList_subperm common h, mergedList_sublist common h⟩

/-- What is promised to callers that move to the second generation. -/
structure NothingLost (w : World) (ms : List Merge) : Prop where
  /-- A call that returned still returns. -/
  returns : ∀ before m after, ms = before ++ m :: after →
    Returns (m.call common) (run common w before).refreshCaller →
    Returns (m.upgrade.call common) (run common w (before.map upgrade)).refreshCaller
  /-- A merge that was accepted still is. -/
  accepted : ((acceptedMerges common w ms).map upgrade).Sublist
    (acceptedMerges common w (ms.map upgrade))
  /-- Every file that was uploaded still is. -/
  uploads : (run common w ms).uploads.Sublist (run common w (ms.map upgrade)).uploads
  correspondence : Contained common (run common w ms).caseData.correspondences
    (run common w (ms.map upgrade)).caseData.correspondences
  letters : ∀ party, Contained common (((run common w ms).caseData.lettersOf party).getD [])
    (((run common w (ms.map upgrade)).caseData.lettersOf party).getD [])

/-- **Migration**: a run of merges loses nothing when its callers move to the second
generation, whatever the external systems answer. -/
theorem nothingLost {common : SscsCommon} (hflag : common.UpdatesOnlyFlag) (w : World)
    (ms : List Merge) : NothingLost common w ms where
  returns before m after _ h := m.returns_upgrade common h _
  accepted := acceptedMerges_upgrade common w w ms
  uploads := uploads_run_upgrade common w ms
  correspondence := by
    -- a longer list of accepted merges leaves a longer list of entries
    simp only [SscsCaseData.correspondences, caseData_run, correspondence_applyAll hflag]
    exact contained_mergedList common _ (entriesTo_acceptedMerges_upgrade common none w ms)
  letters party := by
    simp only [caseData_run, lettersOf_applyAll]
    exact contained_mergedList common _
      (entriesTo_acceptedMerges_upgrade common (some party) w ms)

/-- Letters and an e-mail merged by operations of the first generation. -/
def samplesV1 : List Merge :=
  [.sample .v1 .email, .sample .v1 (.letter [1] (some "Notify")),
    .sample .v1 (.reasonableAdjustment [2] .appellant)]

theorem nothingLost_samplesV1 : NothingLost .bySentOn .sample samplesV1 :=
  nothingLost SscsCommon.bySentOn_updatesOnlyFlag .sample samplesV1

/-! ## The Same Run -/

/-- What an update is to the case. -/
def effect (update : CcdUpdate) : EventType × SscsCaseData × Bool :=
  (update.eventType, update.caseData, update.accepted)

/-- The steps succeed that a merge of the first generation takes on its own, or earlier than
the second: it reads the case and its id, and fetches the tokens before it stores a letter for
reasonable adjustment. -/
def ownSteps (caseData : SscsCaseData) : Bool :=
  match m.generation, m.notification with
  | .v1, .email => (parseLong caseData.ccdCaseId).toBool
  | .v1, .letter _ _ => m.env.getByCaseId.toBool && (parseLong caseData.ccdCaseId).toBool
  | .v1, .reasonableAdjustment _ _ | .v1, .reasonableAdjustmentPdfs _ _ =>
    m.env.idamTokens.toBool
  | .v2, _ => true

theorem submits_upgrade_of_ownSteps (h : m.ownSteps w.caseData = true) (w' : World) :
    m.upgrade.submits w' = m.submits w.refreshCaller := by
  have hcaller : w.refreshCaller.callerCaseData = w.caseData := rfl
  have hcase : w.refreshCaller.caseData = w.caseData := rfl
  rw [submits_upgrade, submits, reachesCcd, hcaller, hcase]
  unfold ownSteps at h
  cases hg : m.generation <;> cases hn : m.notification <;> simp_all

theorem uploads_upgrade_of_ownSteps {caseData : SscsCaseData} (h : m.ownSteps caseData = true) :
    m.upgrade.uploads = m.uploads := by
  have hstores : m.stores = true := by
    unfold ownSteps at h
    unfold stores letterType
    cases hg : m.generation <;> cases hn : m.notification <;> simp_all
  rw [uploads, uploads, hstores]
  rfl

/-- The update of a merge, by its effect. -/
theorem effects_next (w : World) :
    (m.next common w).updates.map effect =
      w.updates.map effect ++
        if m.submits w.refreshCaller then
          [(m.eventType, m.apply common m.entry.toList w.caseData, m.env.accepts)]
        else [] := by
  -- what comes before the update submits nothing
  have hprepared : (m.prepared common w.refreshCaller).updates = w.updates := rfl
  unfold next
  rcases m.worldAfter_call common w.refreshCaller with
    ⟨hsubmits, hw⟩ | ⟨hsubmits, update, hupdate, hw⟩
  · simp [hw, hprepared, hsubmits]
  · obtain ⟨entries, hentries, hdata⟩ := hupdate.caseData
    rw [m.entries_eq hentries, base_refreshCaller] at hdata
    simp [hw, World.addUpdate, hprepared, hsubmits, effect, hupdate.eventType, hdata,
      hupdate.accepted]

/-- Two runs leave the same case and the same files, by updates of the same effect. -/
structure SameRun (w w' : World) : Prop where
  caseData : w.caseData = w'.caseData
  uploads : w.uploads = w'.uploads
  updates : w.updates.map effect = w'.updates.map effect

theorem SameRun.next {w w' : World} (hsame : SameRun w w') (h : m.ownSteps w.caseData = true) :
    SameRun (m.next common w) (m.upgrade.next common w') where
  caseData := by
    -- where the own steps succeed, both generations get as far as CCD
    have haccepted : m.upgrade.acceptedNext common w' = m.acceptedNext common w := by
      rw [acceptedNext, acceptedNext, acceptedAt_eq, acceptedAt_eq, m.submits_upgrade_of_ownSteps h]
      rfl
    rw [caseData_next, caseData_next, haccepted, hsame.caseData]
    rfl
  uploads := by
    rw [Merge.next, Merge.next, uploads_worldAfter_call, uploads_worldAfter_call,
      m.uploads_upgrade_of_ownSteps h]
    exact congrArg (· ++ m.uploads) hsame.uploads
  updates := by
    rw [effects_next, effects_next, m.submits_upgrade_of_ownSteps h, hsame.updates, hsame.caseData]
    rfl

theorem ccdCaseId_next_of_flag {common : SscsCommon} (hflag : common.UpdatesOnlyFlag)
    (w : World) : (m.next common w).caseData.ccdCaseId = w.caseData.ccdCaseId := by
  rw [caseData_next]
  split
  · exact m.ccdCaseId_apply hflag _ _
  · rfl

/-- Of the case, the steps of its own depend on the id. -/
theorem ownSteps_congr {caseData caseData' : SscsCaseData}
    (hid : caseData.ccdCaseId = caseData'.ccdCaseId) :
    m.ownSteps caseData = m.ownSteps caseData' := by
  simp only [ownSteps, hid]

/-- **The same run**: where the steps succeed that only the first generation takes, the second
generation leaves the same case and the same files, by the same updates but for their texts. -/
theorem sameRun {common : SscsCommon} (hflag : common.UpdatesOnlyFlag) (w : World)
    (ms : List Merge) (hms : ∀ m ∈ ms, m.ownSteps w.caseData = true) :
    SameRun (run common w ms) (run common w (ms.map upgrade)) := by
  have hrun : ∀ w₁ w₂ : World, w₁.caseData.ccdCaseId = w.caseData.ccdCaseId → SameRun w₁ w₂ →
      SameRun (run common w₁ ms) (run common w₂ (ms.map upgrade)) := by
    induction ms with
    | nil => exact fun _ _ _ hsame => hsame
    | cons m ms ih =>
      intro w₁ w₂ hid hsame
      have hown : m.ownSteps w₁.caseData = true :=
        (m.ownSteps_congr hid).trans (hms m List.mem_cons_self)
      -- the id of the case stays, and with it what the steps come to
      have hid' : (m.next common w₁).caseData.ccdCaseId = w.caseData.ccdCaseId :=
        (m.ccdCaseId_next_of_flag hflag w₁).trans hid
      exact ih (fun m' hm' => hms m' (List.mem_cons_of_mem m hm')) _ _ hid'
        (hsame.next common m hown)
  exact hrun w w rfl ⟨rfl, rfl, rfl⟩

theorem sameRun_samplesV1 :
    SameRun (run .bySentOn .sample samplesV1) (run .bySentOn .sample (samplesV1.map upgrade)) :=
  sameRun SscsCommon.bySentOn_updatesOnlyFlag .sample samplesV1 (by decide)

end Merge

end SscsPdfEmail.Service
