import SscsPdfEmail.Domain.CaseData

/-!
# Merging Entries into a List

Every merge of the services appends at most one entry to a nullable list and sorts the result.
`mergedList` is the list that a whole sequence of merges comes to, in one sort, and `MergedList`
is what is promised of it: the initial entries and the new ones, none lost and none doubled,
newest first, those of the same time in the order in which they came.

The two are connected by `mergedList_spec`, and to the code by `mergedList_concat`: one more
merge sorts a list that was sorted already together with the new entry.  A sequence with more
entries leaves a list that contains the other, with multiplicity (`mergedList_subperm`), and in
the same order where the initial list was sorted (`mergedList_sublist`).
-/

namespace SscsPdfEmail.Domain

open SscsPdfEmail.Library

variable (common : SscsCommon)

/-- The list after merges that bring the given entries, in order; `none` stands for a merge
that brings no entry but still sorts. -/
def mergedList (initial : Option (List Correspondence)) (entries : List (Option Correspondence)) :
    Option (List Correspondence) :=
  match entries with
  | [] => initial
  | _ :: _ => some (common.sortReverseOrder (initial.getD [] ++ entries.filterMap id))

/-- The promise made of a list that entries are merged into. -/
structure MergedList (initial : Option (List Correspondence))
    (entries : List (Option Correspondence)) (final : Option (List Correspondence)) : Prop where
  /-- Without a merge the list stays as it is, null or unsorted. -/
  untouched : entries = [] → final = initial
  /-- A merge leaves a list. -/
  present : entries ≠ [] → final.isSome
  /-- A merge leaves the list newest first. -/
  sorted : entries ≠ [] → (final.getD []).Pairwise common.newestFirst
  /-- No entry is lost or duplicated. -/
  perm : (final.getD []).Perm (initial.getD [] ++ entries.filterMap id)
  /-- Entries that compare equal keep their order of arrival. -/
  stable : ∀ c, (final.getD []).filter (tiesWith common.newestFirst c) =
    (initial.getD [] ++ entries.filterMap id).filter (tiesWith common.newestFirst c)

/-- One merge, then the others. -/
theorem mergedList_cons (initial : Option (List Correspondence)) (entry : Option Correspondence)
    (entries : List (Option Correspondence)) :
    mergedList common
        (some (common.sortReverseOrder (initial.getD [] ++ entry.toList))) entries =
      mergedList common initial (entry :: entries) := by
  have hentries : (entry :: entries).filterMap id = entry.toList ++ entries.filterMap id := by
    cases entry <;> rfl
  cases entries with
  | nil => simp only [mergedList, hentries, List.filterMap_nil, List.append_nil]
  | cons e es =>
    -- the sort in between is absorbed by the one at the end
    simp only [mergedList, hentries, Option.getD_some, common.sortReverseOrder_append,
      List.append_assoc]

/-- The others, then one more merge. -/
theorem mergedList_concat (initial : Option (List Correspondence))
    (entries : List (Option Correspondence)) (entry : Option Correspondence) :
    mergedList common initial (entries ++ [entry]) =
      some (common.sortReverseOrder
        ((mergedList common initial entries).getD [] ++ entry.toList)) := by
  have hentry : [entry].filterMap id = entry.toList := by cases entry <;> rfl
  cases entries with
  | nil => simp only [mergedList, List.nil_append, hentry]
  -- the list was sorted before, so sorting it again with one more entry is sorting everything
  | cons e es =>
    simp only [mergedList, List.cons_append, Option.getD_some, common.sortReverseOrder_append]
    rw [← List.cons_append, List.filterMap_append, hentry, List.append_assoc]

theorem mergedList_spec (initial : Option (List Correspondence))
    (entries : List (Option Correspondence)) :
    MergedList common initial entries (mergedList common initial entries) := by
  cases entries with
  -- without a merge the list stays null if it is
  | nil =>
    refine ⟨fun _ => rfl, fun h => absurd rfl h, fun h => absurd rfl h, ?_, ?_⟩
    · simp [mergedList]
    · simp [mergedList]
  | cons e es =>
    refine ⟨fun h => absurd h (List.cons_ne_nil e es), fun _ => rfl, ?_, ?_, ?_⟩
    · exact fun _ => common.sortReverseOrder_pairwise _
    · exact common.sortReverseOrder_perm _
    · exact fun c => common.filter_sortReverseOrder _ c

section Fewer

variable {initial : Option (List Correspondence)} {entries entries' : List (Option Correspondence)}
  (h : entries.Sublist entries')

include h

/-- Merging fewer entries loses none but those left out, -/
theorem mergedList_subperm :
    ((mergedList common initial entries).getD []).Subperm
      ((mergedList common initial entries').getD []) := by
  -- sorting does not change which entries there are
  have hfewer : (initial.getD [] ++ entries.filterMap id).Subperm
      (initial.getD [] ++ entries'.filterMap id) :=
    ((h.filterMap id).append_left (initial.getD [])).subperm
  have hperm := (mergedList_spec common initial entries).perm
  have hperm' := (mergedList_spec common initial entries').perm
  exact hperm.subperm_right.mpr (hperm'.subperm_left.mpr hfewer)

/-- and keeps the others in order, unless the list was never sorted. -/
theorem mergedList_sublist
    (hsorted : ((mergedList common initial entries).getD []).Pairwise common.newestFirst) :
    ((mergedList common initial entries).getD []).Sublist
      ((mergedList common initial entries').getD []) := by
  have hfewer : (initial.getD [] ++ entries.filterMap id).Sublist
      (initial.getD [] ++ entries'.filterMap id) :=
    (h.filterMap id).append_left (initial.getD [])
  cases entries' with
  | nil =>
    obtain rfl := List.sublist_nil.mp h
    exact List.Sublist.refl _
  | cons e' es' =>
    cases entries with
    -- the initial list is returned as it is, so it has to be sorted already
    | nil =>
      rw [List.filterMap_nil, List.append_nil] at hfewer
      exact List.sublist_insertionSort hsorted hfewer
    | cons e es => exact insertionSort_sublist hfewer

end Fewer

/-- When no two entries tie, the order in which they were merged leaves no trace. -/
theorem mergedList_eq_of_perm {initial : Option (List Correspondence)}
    {entries entries' : List (Option Correspondence)} (hperm : entries.Perm entries')
    (hfree : TieFree common.newestFirst (initial.getD [] ++ entries.filterMap id)) :
    mergedList common initial entries = mergedList common initial entries' := by
  cases entries with
  | nil =>
    obtain rfl : entries' = [] := List.nil_perm.mp hperm
    rfl
  | cons e es =>
    cases entries' with
    | nil => exact absurd (List.perm_nil.mp hperm) (List.cons_ne_nil e es)
    | cons e' es' =>
      -- both sides sort the same elements, and without ties that determines the list
      have hall := (hperm.filterMap id).append_left (initial.getD [])
      exact congrArg some (insertionSort_eq_of_perm hall hfree)

end SscsPdfEmail.Domain
