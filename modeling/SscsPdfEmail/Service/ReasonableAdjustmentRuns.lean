import SscsPdfEmail.Service.NotificationRuns
import SscsPdfEmail.Domain.MergedList

/-!
# Runs of Reasonable-Adjustment Merges

The reasonable-adjustment merges keep one list of letters for each party in a shared container.
A run of them, in any mix of parties and generations, treats each list as if the others did not
exist (`Merge.reasonableAdjustmentRun`).

The list of a party holds its initial letters and those of the accepted merges for it, newest
first, and a party for which no merge was accepted keeps the list it had, a missing one included.
Merges for different parties commute, whatever the times of their letters.  The container may be
missing at first, in which case each list starts out empty; that is the one thing the five
branches of `buildCorrespondenceByParty` have to agree on, and one lemma about the branches is
all that the results on runs use.
-/

namespace SscsPdfEmail.Service

open SscsPdfEmail.Library SscsPdfEmail.Domain
open CcdNotificationsPdfService

variable (common : SscsCommon)

/-! ## One party at a time -/

/-- Each branch of `buildCorrespondenceByParty` writes the list it has read and keeps the
other four. -/
theorem ofParty_buildCorrespondenceByParty (caseData : SscsCaseData)
    (entries : List Correspondence) (party other : LetterType) :
    (buildCorrespondenceByParty common caseData entries party).ofParty other =
      if other = party then
        some (common.sortReverseOrder ((caseData.lettersOf party).getD [] ++ entries))
      else caseData.lettersOf other := by
  unfold SscsCaseData.lettersOf buildCorrespondenceByParty
  cases caseData.reasonableAdjustmentsLetters with
  | none => cases party <;> cases other <;> rfl
  | some letters => cases party <;> cases other <;> rfl

theorem letters_addLetters (caseData : SscsCaseData) (entries : List Correspondence)
    (party : LetterType) :
    (addLetters common entries party caseData).reasonableAdjustmentsLetters =
      some (buildCorrespondenceByParty common caseData entries party) :=
  common.update_reasonableAdjustmentsLetters _

theorem lettersOf_addLetters (caseData : SscsCaseData) (entries : List Correspondence)
    (party other : LetterType) :
    (addLetters common entries party caseData).lettersOf other =
      if other = party then
        some (common.sortReverseOrder ((caseData.lettersOf party).getD [] ++ entries))
      else caseData.lettersOf other := by
  rw [← ofParty_buildCorrespondenceByParty, SscsCaseData.lettersOf, letters_addLetters,
    Option.bind_some]

/-- Of the case, an addition reads only the container of the letters. -/
theorem letters_addLetters_congr {caseData caseData' : SscsCaseData}
    (hletters : caseData.reasonableAdjustmentsLetters = caseData'.reasonableAdjustmentsLetters)
    (entries : List Correspondence) (party : LetterType) :
    (addLetters common entries party caseData).reasonableAdjustmentsLetters =
      (addLetters common entries party caseData').reasonableAdjustmentsLetters := by
  simp only [letters_addLetters, buildCorrespondenceByParty, hletters]

/-- A container is determined by the lists of the five parties. -/
theorem ReasonableAdjustmentsLetters.eq_of_ofParty {letters letters' : ReasonableAdjustmentsLetters}
    (h : ∀ party, letters.ofParty party = letters'.ofParty party) : letters = letters' := by
  obtain ⟨appellant, appointee, representative, jointParty, otherParty⟩ := letters
  obtain rfl := h .appellant
  obtain rfl := h .appointee
  obtain rfl := h .representative
  obtain rfl := h .jointParty
  obtain rfl := h .otherParty
  rfl

/-- Additions for two parties commute. -/
theorem letters_addLetters_comm (caseData : SscsCaseData)
    (entries entries' : List Correspondence) {party party' : LetterType}
    (hne : party ≠ party') :
    (addLetters common entries' party'
        (addLetters common entries party caseData)).reasonableAdjustmentsLetters =
      (addLetters common entries party
        (addLetters common entries' party' caseData)).reasonableAdjustmentsLetters := by
  rw [letters_addLetters, letters_addLetters]
  apply congrArg some
  apply ReasonableAdjustmentsLetters.eq_of_ofParty
  intro other
  simp only [ofParty_buildCorrespondenceByParty, lettersOf_addLetters]
  -- each of the two lists was read as the other addition had left it: unchanged
  rw [if_neg hne, if_neg hne.symm]
  by_cases hparty : other = party
  · subst hparty
    simp only [hne, if_true, if_false]
  · simp only [hparty, if_false]

namespace Merge

/-! ## Accepted merges -/

theorem apply_of_party {m : Merge} {party : LetterType} (hm : m.letterType = some party)
    (entries : List Correspondence) :
    m.apply common entries = addLetters common entries party := by
  simp only [apply, hm]

/-- The entries that a sequence of merges brings for one party. -/
def entriesFor (party : LetterType) (ms : List Merge) : List (Option Correspondence) :=
  (ms.filter (·.letterType = some party)).map entry

/-- Whatever else is merged, a party's list gets the entries brought for it. -/
theorem lettersOf_applyAll (caseData : SscsCaseData) (ms : List Merge) (party : LetterType) :
    (applyAll common caseData ms).lettersOf party =
      mergedList common (caseData.lettersOf party) (entriesFor party ms) := by
  induction ms generalizing caseData with
  | nil => rfl
  | cons m ms ih =>
    have hrest : (applyAll common caseData (m :: ms)).lettersOf party = _ :=
      ih (m.apply common m.entry.toList caseData)
    rw [hrest]
    -- a merge for nobody, for this party, or for another one
    cases hm : m.letterType with
    | none =>
      have hother : entriesFor party (m :: ms) = entriesFor party ms := by
        simp [entriesFor, hm]
      rw [hother, apply, hm]
      rfl
    | some addressed =>
      rw [apply_of_party common hm, lettersOf_addLetters]
      by_cases hparty : party = addressed
      · subst hparty
        rw [if_pos rfl, mergedList_cons]
        simp only [entriesFor, List.filter_cons, hm, decide_true, if_true, List.map_cons]
      · have hother : ¬ m.letterType = some party := by
          intro h
          exact hparty (Option.some.inj (h.symm.trans hm))
        rw [if_neg hparty]
        simp only [entriesFor, List.filter_cons, hother, decide_false, Bool.false_eq_true,
          if_false]

/-- Of the case, a run reads only the container of the letters. -/
theorem letters_applyAll_congr {caseData caseData' : SscsCaseData} (ms : List Merge)
    (hms : ∀ m ∈ ms, m.letterType.isSome)
    (hletters : caseData.reasonableAdjustmentsLetters =
      caseData'.reasonableAdjustmentsLetters) :
    (applyAll common caseData ms).reasonableAdjustmentsLetters =
      (applyAll common caseData' ms).reasonableAdjustmentsLetters := by
  induction ms generalizing caseData caseData' with
  | nil => exact hletters
  | cons m ms ih =>
    obtain ⟨party, hm⟩ := Option.isSome_iff_exists.mp (hms m List.mem_cons_self)
    apply ih (fun m' hm' => hms m' (List.mem_cons_of_mem m hm'))
    -- the letters are made of letters only
    simp only [apply_of_party common hm]
    exact letters_addLetters_congr common hletters _ _

/-! ## Acceptance -/

/-- Whether a reasonable-adjustment merge is accepted does not depend on the case. -/
theorem acceptedNext_of_party {m : Merge} {party : LetterType}
    (hm : m.letterType = some party) (w w' : World) :
    m.acceptedNext common w = m.acceptedNext common w' := by
  simp only [acceptedNext, acceptedAt_eq, submits, reachesCcd_of_party hm]

theorem acceptedMerges_of_party (w : World) (ms : List Merge)
    (hms : ∀ m ∈ ms, m.letterType.isSome) :
    acceptedMerges common w ms = ms.filter (·.acceptedNext common w) := by
  apply acceptedMerges_eq_filter common fun _ => True
  · intro m _ w _
    trivial
  · intro m hm w₁ _
    obtain ⟨party, hparty⟩ := Option.isSome_iff_exists.mp (hms m hm)
    exact acceptedNext_of_party common hparty w₁ w
  · trivial

/-! ## The run specification -/

/-- What is promised of a run of reasonable-adjustment merges on a case. -/
structure ReasonableAdjustmentRun (w : World) (ms : List Merge) : Prop where
  /-- Each party's list is its initial one with the entries of the accepted merges that
  addressed the party: untouched without any, sorted otherwise, nothing lost or
  duplicated. -/
  lists : ∀ party, MergedList common (w.caseData.lettersOf party)
    (entriesFor party (acceptedMerges common w ms))
    ((run common w ms).caseData.lettersOf party)
  /-- The new entries of a party are the letters stored for it. -/
  provenance : ∀ party, List.Forall₂ Records
    (((acceptedMerges common w ms).filter (·.letterType = some party)).filter storesDocument)
    ((entriesFor party (acceptedMerges common w ms)).filterMap id)
  /-- Merges addressed to different parties commute on the letters, wherever they stand in
  the run. -/
  commute : ∀ before m m' after, ms = before ++ m :: m' :: after →
    m.letterType ≠ m'.letterType →
    (run common w (before ++ m' :: m :: after)).caseData.reasonableAdjustmentsLetters =
      (run common w ms).caseData.reasonableAdjustmentsLetters

/-- Swapping two neighbours that address different parties. -/
theorem letters_run_swap (w : World) (before : List Merge) (m m' : Merge) (after : List Merge)
    (hms : ∀ n ∈ before ++ m :: m' :: after, n.letterType.isSome)
    (hne : m.letterType ≠ m'.letterType) :
    (run common w (before ++ m' :: m :: after)).caseData.reasonableAdjustmentsLetters =
      (run common w (before ++ m :: m' :: after)).caseData.reasonableAdjustmentsLetters := by
  have hperm : (before ++ m' :: m :: after).Perm (before ++ m :: m' :: after) :=
    (List.Perm.swap m m' after).append_left before
  have hms' : ∀ n ∈ before ++ m' :: m :: after, n.letterType.isSome := by
    intro n hn
    exact hms n (hperm.mem_iff.mp hn)
  obtain ⟨party, hparty⟩ := Option.isSome_iff_exists.mp (hms m (by simp))
  obtain ⟨party', hparty'⟩ := Option.isSome_iff_exists.mp (hms m' (by simp))
  have hafter : ∀ n ∈ after.filter (·.acceptedNext common w), n.letterType.isSome := by
    intro n hn
    have hn' : n ∈ after := (List.mem_filter.mp hn).1
    exact hms n (by simp [hn'])
  rw [caseData_run, caseData_run, acceptedMerges_of_party common w _ hms,
    acceptedMerges_of_party common w _ hms']
  simp only [List.filter_append, List.filter_cons]
  -- unless both are accepted, the accepted merges are the same either way
  cases hm : m.acceptedNext common w with
  | false => rfl
  | true =>
    cases hm' : m'.acceptedNext common w with
    | false => rfl
    | true =>
      simp only [if_true, applyAll, List.foldl_append, List.foldl_cons]
      apply letters_applyAll_congr common _ hafter
      rw [apply_of_party common hparty, apply_of_party common hparty']
      apply letters_addLetters_comm
      intro h
      rw [hparty, hparty', h] at hne
      exact hne rfl

/-- **Per-party isolation**: any run of reasonable-adjustment merges keeps the promises of
`ReasonableAdjustmentRun`. -/
theorem reasonableAdjustmentRun (w : World) (ms : List Merge)
    (hms : ∀ m ∈ ms, m.letterType.isSome) : ReasonableAdjustmentRun common w ms where
  lists party := by
    rw [caseData_run, lettersOf_applyAll]
    exact mergedList_spec common _ _
  provenance party := forall₂_records _
  commute before m m' after hsplit hne := by
    subst hsplit
    exact letters_run_swap common w before m m' after hms hne

/-- Letters for two parties, by operations of both generations. -/
theorem reasonableAdjustmentRun_appellant_representative :
    ReasonableAdjustmentRun .bySentOn World.sample
      [.sample .v1 (.reasonableAdjustment [1] .appellant),
        .sample .v2 (.reasonableAdjustmentPdfs [[2], [3]] .representative)] :=
  reasonableAdjustmentRun .bySentOn World.sample
    [.sample .v1 (.reasonableAdjustment [1] .appellant),
      .sample .v2 (.reasonableAdjustmentPdfs [[2], [3]] .representative)] (by decide)

end Merge

end SscsPdfEmail.Service
