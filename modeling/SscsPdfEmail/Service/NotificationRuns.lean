import SscsPdfEmail.Service.NotificationMerge

/-!
# Runs of Notification Merges

What one merge leaves of the stored case, by whether CCD accepted its update, and what a sequence
of merges leaves of it: the accepted ones, applied one after another (`Merge.caseData_run`).

Every call of a run is given the case as it is stored when it is made, and a call that ends with
an exception is followed by the next one.  `acceptedMerges` picks the merges that CCD has
accepted in the course of a run, each in the case that the ones before have left.  Whether a
merge is accepted often does not depend on that case; the accepted merges are then a plain
selection (`acceptedMerges_eq_filter`).  An entry records its merge: message, date and type, with
the link to the document that was stored for it (`Records`).
-/

namespace SscsPdfEmail.Service

open SscsPdfEmail.Domain

namespace Merge

variable (common : SscsCommon) (m : Merge)

/-! ## Accepted merges -/

/-- The entry that the merge adds, if its document is stored. -/
def entry : Option Correspondence :=
  match m.storedDocument with
  | .ok document => document.map (entryOf m.correspondence)
  | .error _ => none

theorem entries_eq {entries : List Correspondence} (h : m.entries = .ok entries) :
    entries = m.entry.toList := by
  unfold Merge.entries at h
  unfold entry
  -- the entries are those of the stored document, and an entry is one of these
  cases hdocument : m.storedDocument with
  | error e =>
    rw [hdocument] at h
    cases h
  | ok document =>
    rw [hdocument] at h
    cases h
    cases document <;> rfl

/-- Whether CCD accepted an update of the call. -/
def acceptedAt (w : World) : Bool :=
  ((worldAfter (m.call common) w).updates.drop w.updates.length).any (·.accepted)

theorem acceptedAt_eq (w : World) :
    m.acceptedAt common w = (m.submits w && m.env.accepts) := by
  unfold acceptedAt
  have hprepared : (m.prepared common w).updates = w.updates := rfl
  -- the only update after the call is the one it has submitted
  rcases m.worldAfter_call common w with ⟨hsubmits, hw⟩ | ⟨hsubmits, update, hupdate, hw⟩
  · simp [hw, hprepared, hsubmits]
  · simp [hw, World.addUpdate, hprepared, hsubmits, hupdate.accepted]

/-- The stored case after a merge: changed exactly when an update was accepted. -/
theorem caseData_worldAfter_call (w : World) :
    (worldAfter (m.call common) w).caseData =
      if m.acceptedAt common w then m.apply common m.entry.toList (m.base w)
      else w.caseData := by
  rw [acceptedAt_eq]
  -- what precedes the update does not touch the stored case
  have hprepared : (m.prepared common w).caseData = w.caseData := rfl
  rcases m.worldAfter_call common w with ⟨hsubmits, hw⟩ | ⟨hsubmits, update, hupdate, hw⟩
  · simp [hw, hprepared, hsubmits]
  · obtain ⟨entries, hentries, hdata⟩ := hupdate.caseData
    rw [m.entries_eq hentries] at hdata
    simp [hw, World.addUpdate, hprepared, hsubmits, hupdate.accepted, hdata]

/-! ## New entries -/

/-- Whether the document of a merge is stored. -/
def storesDocument (m : Merge) : Bool :=
  match m.storedDocument with
  | .ok (some _) => true
  | _ => false

/-- The entry of a merge is the supplied correspondence with the link of the document that
was stored for it. -/
def Records (m : Merge) (entry : Correspondence) : Prop :=
  ∃ document, m.storedDocument = .ok (some document) ∧
    entry = setDocumentLink m.correspondence (document.value.bind (·.documentLink))

theorem storedDocument_of_storesDocument {m : Merge} (h : m.storesDocument = true) :
    ∃ document, m.storedDocument = .ok (some document) := by
  unfold storesDocument at h
  split at h
  · rename_i document hdocument
    exact ⟨document, hdocument⟩
  · cases h

theorem entry_of_storesDocument {m : Merge} (h : m.storesDocument = true) :
    ∃ entry, m.entry = some entry ∧ m.Records entry := by
  obtain ⟨document, hdocument⟩ := storedDocument_of_storesDocument h
  refine ⟨entryOf m.correspondence document, ?_, document, hdocument, rfl⟩
  simp only [Merge.entry, hdocument, Option.map_some]

theorem entry_of_not_storesDocument {m : Merge} (h : m.storesDocument = false) :
    m.entry = none := by
  unfold Merge.entry
  cases hdocument : m.storedDocument with
  | error e => rfl
  | ok document =>
    cases document with
    | none => rfl
    | some document => simp [storesDocument, hdocument] at h

/-- One entry for each merge that stored its document, in order. -/
theorem forall₂_records (ms : List Merge) :
    List.Forall₂ Records (ms.filter storesDocument) ((ms.map entry).filterMap id) := by
  induction ms with
  | nil => exact List.Forall₂.nil
  | cons m ms ih =>
    -- a merge whose document was stored has an entry with its link, any other has none
    cases hstores : m.storesDocument with
    | true =>
      obtain ⟨entry, hentry, hrecords⟩ := entry_of_storesDocument hstores
      rw [List.filter_cons_of_pos hstores, List.map_cons, hentry]
      exact List.Forall₂.cons hrecords ih
    | false =>
      have hentry := entry_of_not_storesDocument hstores
      rw [List.filter_cons_of_neg (by simp [hstores]), List.map_cons, hentry]
      exact ih

end Merge

/-- A merge of an e-mail sent for the event `appealReceived`, with every system
answering. -/
def Merge.sample (generation : Generation) (notification : Notification) : Merge where
  env := .answering
  generation := generation
  notification := notification
  caseId := some 1
  correspondence :=
    { value := some
        { sentOn := some "22 Jan 2021 11:33"
          eventType := some "appealReceived"
          correspondenceType := some .email } }

example : (Merge.sample .v1 .email).acceptedAt .bySentOn .sample = true := by decide

/-! ## Sequential runs -/

/-- The caller reads the case before the next call. -/
def World.refreshCaller (w : World) : World := { w with callerCaseData := w.caseData }

namespace Merge

variable (common : SscsCommon) (m : Merge)

/-- One merge of a sequential run, which is given the current data of the case. -/
def next (w : World) : World := worldAfter (m.call common) w.refreshCaller

/-- Whether CCD accepts the update of the next merge. -/
def acceptedNext (w : World) : Bool := m.acceptedAt common w.refreshCaller

theorem base_refreshCaller (w : World) : m.base w.refreshCaller = w.caseData := by
  unfold base
  split <;> rfl

theorem caseData_next (w : World) :
    (m.next common w).caseData =
      if m.acceptedNext common w then m.apply common m.entry.toList w.caseData
      else w.caseData := by
  rw [next, caseData_worldAfter_call, base_refreshCaller]
  rfl

/-- The world after a run of merges. -/
def run (w : World) (ms : List Merge) : World := ms.foldl (fun w m => m.next common w) w

theorem run_append (w : World) (ms ms' : List Merge) :
    run common w (ms ++ ms') = run common (run common w ms) ms' :=
  List.foldl_append

/-- The merges of a run whose update CCD accepted, in order. -/
def acceptedMerges (w : World) : List Merge → List Merge
  | [] => []
  | m :: ms =>
    if m.acceptedNext common w then m :: acceptedMerges (m.next common w) ms
    else acceptedMerges (m.next common w) ms

/-- The data that a sequence of accepted merges makes of a case. -/
def applyAll (caseData : SscsCaseData) (ms : List Merge) : SscsCaseData :=
  ms.foldl (fun caseData m => m.apply common m.entry.toList caseData) caseData

/-- **Runs**: the stored case is the initial one with the accepted merges applied to it,
one after another. -/
theorem caseData_run (w : World) (ms : List Merge) :
    (run common w ms).caseData =
      applyAll common w.caseData (acceptedMerges common w ms) := by
  -- by induction on the run, from the world that the first merge leaves
  induction ms generalizing w with
  | nil => rfl
  | cons m ms ih =>
    have hstep := m.caseData_next common w
    have hrest : (run common w (m :: ms)).caseData =
        applyAll common (m.next common w).caseData
          (acceptedMerges common (m.next common w) ms) := ih (m.next common w)
    rw [hrest, hstep]
    by_cases haccepted : m.acceptedNext common w
    · simp only [acceptedMerges, haccepted, if_true]
      rfl
    · simp only [acceptedMerges, haccepted, Bool.false_eq_true, if_false]

theorem acceptedMerges_subset (w : World) (ms : List Merge) :
    acceptedMerges common w ms ⊆ ms := by
  induction ms generalizing w with
  | nil => exact List.Subset.refl []
  | cons m ms ih =>
    unfold acceptedMerges
    split
    · exact List.cons_subset_cons m (ih _)
    · exact List.subset_cons_of_subset m (ih _)

/-- Where the acceptance of each merge of a run is the same in every world that the run
passes through, the accepted merges can be told beforehand. -/
theorem acceptedMerges_eq_filter (passes : World → Prop) {w w' : World} {ms : List Merge}
    (hnext : ∀ m ∈ ms, ∀ w, passes w → passes (m.next common w))
    (haccepted : ∀ m ∈ ms, ∀ w, passes w → m.acceptedNext common w = m.acceptedNext common w')
    (hw : passes w) :
    acceptedMerges common w ms = ms.filter (·.acceptedNext common w') := by
  induction ms generalizing w with
  | nil => rfl
  | cons m ms ih =>
    -- acceptance does not depend on which of the worlds the merge is made in
    have hm := haccepted m List.mem_cons_self w hw
    have hrest := ih (fun m' hm' => hnext m' (List.mem_cons_of_mem m hm'))
      (fun m' hm' => haccepted m' (List.mem_cons_of_mem m hm'))
      (hnext m List.mem_cons_self w hw)
    rw [acceptedMerges, hrest, hm, List.filter_cons]

end Merge

end SscsPdfEmail.Service
