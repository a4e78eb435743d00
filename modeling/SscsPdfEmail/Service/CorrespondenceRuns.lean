import SscsPdfEmail.Service.NotificationRuns
import SscsPdfEmail.Domain.MergedList

/-!
# Runs of Correspondence Merges

The e-mail and letter merges of both generations, in any mix and with any outcome of the document
stores and of CCD, all do the same to the stored case: the accepted ones merge their entries into
its correspondence list (`Merge.correspondenceRun`).

The list holds the initial entries and those of the accepted merges that stored a document,
newest first, and each new entry tells which merge it comes from.  Nothing else of the case
changes, and a merge that was refused or failed leaves the case as it found it.  The order of the
calls shows only in entries of the same time; where there are none, the calls may be reordered,
and each may be replaced by the operation of the other generation.
-/

namespace SscsPdfEmail.Service

open SscsPdfEmail.Library SscsPdfEmail.Domain
open CcdNotificationsPdfService

namespace Merge

variable (common : SscsCommon)

/-! ## Accepted merges -/

theorem apply_of_correspondence {m : Merge} (hm : m.letterType = none)
    (entries : List Correspondence) :
    m.apply common entries = addCorrespondences common entries := by
  simp only [apply, hm]

/-- Accepted correspondence merges change the correspondence list and nothing else. -/
theorem applyAll_correspondence (caseData : SscsCaseData) (ms : List Merge)
    (hms : ∀ m ∈ ms, m.letterType = none) :
    applyAll common caseData ms =
      { caseData with
        correspondence := mergedList common caseData.correspondence (ms.map entry) } := by
  induction ms generalizing caseData with
  | nil => rfl
  | cons m ms ih =>
    have hm : m.letterType = none := hms m List.mem_cons_self
    have hrest := ih (addCorrespondences common m.entry.toList caseData)
      fun m' hm' => hms m' (List.mem_cons_of_mem m hm')
    -- the first merge sorts its entry in, the others start from there
    rw [List.map_cons, ← mergedList_cons]
    calc applyAll common caseData (m :: ms)
        = applyAll common (addCorrespondences common m.entry.toList caseData) ms := by
          rw [← apply_of_correspondence common hm]
          rfl
      _ = _ := hrest

theorem caseData_run_of_correspondence (w : World) (ms : List Merge)
    (hms : ∀ m ∈ ms, m.letterType = none) :
    (run common w ms).caseData =
      { w.caseData with
        correspondence := mergedList common w.caseData.correspondence
          ((acceptedMerges common w ms).map entry) } := by
  rw [caseData_run]
  exact applyAll_correspondence common w.caseData _
    fun m hm => hms m (acceptedMerges_subset common w ms hm)

/-! ## Acceptance -/

/-- Whether a correspondence merge is accepted depends on the case only through its id. -/
theorem acceptedNext_congr {m : Merge} {w w' : World}
    (hid : w.caseData.ccdCaseId = w'.caseData.ccdCaseId) :
    m.acceptedNext common w = m.acceptedNext common w' := by
  have hreaches : m.reachesCcd w.refreshCaller = m.reachesCcd w'.refreshCaller := by
    simp only [reachesCcd, World.refreshCaller, hid]
  simp only [acceptedNext, acceptedAt_eq, submits, hreaches]

theorem ccdCaseId_next {m : Merge} (hm : m.letterType = none) (w : World) :
    (m.next common w).caseData.ccdCaseId = w.caseData.ccdCaseId := by
  rw [caseData_next, apply_of_correspondence common hm]
  split <;> rfl

/-- Permuting a run permutes its accepted merges. -/
theorem acceptedMerges_perm (w : World) {ms ms' : List Merge} (hperm : ms'.Perm ms)
    (hms : ∀ m ∈ ms, m.letterType = none) :
    (acceptedMerges common w ms').Perm (acceptedMerges common w ms) := by
  -- the case keeps its id throughout a run, so acceptance is the same at every step
  have hfilter : ∀ ms₁ : List Merge, (∀ m ∈ ms₁, m.letterType = none) →
      acceptedMerges common w ms₁ = ms₁.filter (·.acceptedNext common w) := by
    intro ms₁ hms₁
    apply acceptedMerges_eq_filter common
      (fun w₁ => w₁.caseData.ccdCaseId = w.caseData.ccdCaseId)
    · intro m hm w₁ hw₁
      exact (ccdCaseId_next common (hms₁ m hm) w₁).trans hw₁
    · intro m _ w₁ hw₁
      exact acceptedNext_congr common hw₁
    · rfl
  have hms' : ∀ m ∈ ms', m.letterType = none := by
    intro m hm
    exact hms m (hperm.mem_iff.mp hm)
  rw [hfilter ms hms, hfilter ms' hms']
  exact hperm.filter _

/-! ## The run specification -/

/-- What is promised of a run of correspondence merges on a case. -/
structure CorrespondenceRun (w : World) (ms : List Merge) : Prop where
  /-- The final list is the initial one with the entries of the accepted merges: untouched
  before the first accepted merge, sorted after it, nothing lost, duplicated or overtaken. -/
  list : MergedList common w.caseData.correspondence
    ((acceptedMerges common w ms).map entry) (run common w ms).caseData.correspondence
  /-- One new entry for each accepted merge whose document was stored: the supplied
  correspondence with the link of that document. -/
  provenance : List.Forall₂ Records ((acceptedMerges common w ms).filter storesDocument)
    (((acceptedMerges common w ms).map entry).filterMap id)
  /-- Nothing but the list changes. -/
  frame : (run common w ms).caseData =
    { w.caseData with correspondence := (run common w ms).caseData.correspondence }
  /-- A merge that CCD does not accept leaves the stored case as it was. -/
  rejected : ∀ before m after, ms = before ++ m :: after →
    m.acceptedNext common (run common w before) = false →
    (run common w (before ++ [m])).caseData = (run common w before).caseData
  /-- With distinct keys, neither the order of the merges matters ... -/
  reordered : TieFree common.newestFirst
      (w.caseData.correspondences ++ ((acceptedMerges common w ms).map entry).filterMap id) →
    ∀ ms' : List Merge, ms'.Perm ms →
      (run common w ms').caseData = (run common w ms).caseData
  /-- ... nor by which operation each entry was merged. -/
  interchanged : TieFree common.newestFirst
      (w.caseData.correspondences ++ ((acceptedMerges common w ms).map entry).filterMap id) →
    ∀ (w' : World) (ms' : List Merge), w'.caseData = w.caseData →
      (∀ m ∈ ms', m.letterType = none) →
      ((acceptedMerges common w' ms').map entry).Perm
        ((acceptedMerges common w ms).map entry) →
      (run common w' ms').caseData = (run common w ms).caseData

theorem caseData_run_eq_of_perm {w w' : World} {ms ms' : List Merge}
    (hms : ∀ m ∈ ms, m.letterType = none) (hms' : ∀ m ∈ ms', m.letterType = none)
    (hcase : w'.caseData = w.caseData)
    (hperm : ((acceptedMerges common w' ms').map entry).Perm
      ((acceptedMerges common w ms).map entry))
    (hfree : TieFree common.newestFirst
      (w.caseData.correspondences ++ ((acceptedMerges common w ms).map entry).filterMap id)) :
    (run common w' ms').caseData = (run common w ms).caseData := by
  -- both cases are the initial one with a merged list
  rw [caseData_run_of_correspondence common w ms hms,
    caseData_run_of_correspondence common w' ms' hms', hcase]
  rw [mergedList_eq_of_perm common hperm.symm hfree]

/-- **Sequential runs**: any mix of the four correspondence merges, with any outcome of each
store and each CCD update, keeps the promises of `CorrespondenceRun`. -/
theorem correspondenceRun (w : World) (ms : List Merge)
    (hms : ∀ m ∈ ms, m.letterType = none) : CorrespondenceRun common w ms where
  list := by
    rw [caseData_run_of_correspondence common w ms hms]
    exact mergedList_spec common _ _
  provenance := forall₂_records _
  frame := by rw [caseData_run_of_correspondence common w ms hms]
  rejected before m after hsplit hrejected := by
    rw [run_append]
    -- the merge that was refused, made after those before it
    show (m.next common (run common w before)).caseData = _
    rw [caseData_next, hrejected]
    rfl
  reordered hfree ms' hperm := by
    have hms' : ∀ m ∈ ms', m.letterType = none := fun m hm => hms m (hperm.mem_iff.mp hm)
    -- which merges are accepted does not depend on their order
    have hentries := (acceptedMerges_perm common w hperm hms).map entry
    exact caseData_run_eq_of_perm common hms hms' rfl hentries hfree
  interchanged hfree w' ms' hcase hms' hperm :=
    caseData_run_eq_of_perm common hms hms' hcase hperm hfree

/-- Two merges of different generations, both accepted, on a case without
correspondence. -/
theorem correspondenceRun_letter_email :
    CorrespondenceRun .bySentOn World.sample
      [.sample .v2 (.letter [1] (some "Notify")), .sample .v1 .email] :=
  correspondenceRun .bySentOn World.sample
    [.sample .v2 (.letter [1] (some "Notify")), .sample .v1 .email] (by decide)

end Merge

end SscsPdfEmail.Service
