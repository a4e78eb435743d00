import Mathlib.Data.List.Sort
import Mathlib.Data.List.Pairwise

/-!
# Stable Sorting by a Total Preorder

A stable sort is determined by its input: two sorted lists that keep every class of tied elements
in the same order are equal.  From this follow the laws that a list kept sorted under repeated
insertion needs:

- sorting a sorted prefix together with new elements is sorting everything at once
  (`insertionSort_insertionSort_append`);
- without ties, the result depends only on the elements and not on their order
  (`insertionSort_eq_of_perm`);
- sorting fewer elements gives a sublist (`insertionSort_sublist`).

Elements are tied when each is related to the other, which makes them no more equal than two
letters of the same day are.  `TieFree` says that no two places of a list are tied.  It can be
decided, and does not depend on the order of the list.
-/

namespace SscsPdfEmail.Library

variable {α : Type*} (r : α → α → Prop)

/-! ## Ties -/

/-- Two elements tie when the preorder puts each before the other. -/
def Ties (a b : α) : Prop := r a b ∧ r b a

/-- Boolean form of `Ties r a`, for filtering one class of tied elements. -/
def tiesWith [DecidableRel r] (a b : α) : Bool := decide (r a b ∧ r b a)

/-- No two positions of the list hold tied elements. -/
def TieFree (l : List α) : Prop := l.Pairwise fun a b => ¬ Ties r a b

variable {r}

theorem Ties.symm {a b : α} (h : Ties r a b) : Ties r b a := ⟨h.2, h.1⟩

theorem tiesWith_iff [DecidableRel r] {a b : α} : tiesWith r a b = true ↔ Ties r a b :=
  decide_eq_true_iff

instance [DecidableRel r] (l : List α) : Decidable (TieFree r l) :=
  haveI : DecidableRel (Ties r) := fun _ _ => decidable_of_iff _ tiesWith_iff
  inferInstanceAs (Decidable (l.Pairwise fun a b => ¬ Ties r a b))

theorem TieFree.perm {l₁ l₂ : List α} (h : TieFree r l₁) (hperm : l₁.Perm l₂) :
    TieFree r l₂ :=
  (hperm.pairwise_iff (fun hab hba => hab hba.symm)).mp h

/-- In a tie-free list, tied members are the same element. -/
theorem TieFree.eq_of_ties {l : List α} (h : TieFree r l) {a b : α}
    (ha : a ∈ l) (hb : b ∈ l) (hab : Ties r a b) : a = b := by
  induction l with
  | nil => cases ha
  | cons c l ih =>
    obtain ⟨hc, hl⟩ := List.pairwise_cons.mp h
    -- no two places of the list are tied, so both elements stand at the same one
    rcases List.mem_cons.mp ha with rfl | hal
    · rcases List.mem_cons.mp hb with rfl | hbl
      · rfl
      · exact absurd hab (hc b hbl)
    · rcases List.mem_cons.mp hb with rfl | hbl
      · exact absurd hab.symm (hc a hal)
      · exact ih hl hal hbl

/-! ## Stability of insertion sort -/

variable [DecidableRel r]

/-- Insertion passes over an element only if it does not belong before it, so it
keeps the order inside any class of mutually related elements. -/
theorem filter_orderedInsert {p : α → Bool}
    (hp : ∀ a b, p a = true → p b = true → r a b) (a : α) (l : List α) :
    (l.orderedInsert r a).filter p = (a :: l).filter p := by
  induction l with
  | nil => rfl
  | cons b l ih =>
    by_cases hab : r a b
    · rw [List.orderedInsert_cons_of_le r l hab]
    · -- `a` passes `b`, so the two are not of one class
      rw [List.orderedInsert_of_not_le r l hab, List.filter_cons, ih]
      by_cases ha : p a = true
      · have hb : ¬ p b = true := fun hb => hab (hp a b ha hb)
        simp [ha, hb]
      · simp [ha, List.filter_cons]

/-- **Stability**: sorting keeps the order inside any class of mutually related
elements. -/
theorem filter_insertionSort {p : α → Bool}
    (hp : ∀ a b, p a = true → p b = true → r a b) (l : List α) :
    (l.insertionSort r).filter p = l.filter p := by
  induction l with
  | nil => rfl
  | cons a l ih =>
    -- the inserted element stays in front of those it is tied with
    rw [List.insertionSort_cons, filter_orderedInsert hp, List.filter_cons, ih,
      ← List.filter_cons]

section Uniqueness

variable [Std.Total r]

theorem tiesWith_self (a : α) : tiesWith r a a = true := by
  have hself : r a a := (total_of r a a).elim id id
  exact tiesWith_iff.mpr ⟨hself, hself⟩

/-- Lists with the same classes of tied elements have the same members. -/
theorem mem_of_filter_tiesWith_eq {l₁ l₂ : List α} {a : α}
    (hties : l₁.filter (tiesWith r a) = l₂.filter (tiesWith r a)) (ha : a ∈ l₁) : a ∈ l₂ := by
  have hclass : a ∈ l₁.filter (tiesWith r a) := List.mem_filter.mpr ⟨ha, tiesWith_self a⟩
  rw [hties] at hclass
  exact (List.mem_filter.mp hclass).1

/-- **Uniqueness of the stable sort**: two sorted lists with the same classes of tied
elements, each class in the same order, are equal. -/
theorem eq_of_filter_tiesWith_eq {l₁ l₂ : List α} (h₁ : l₁.Pairwise r)
    (h₂ : l₂.Pairwise r)
    (hties : ∀ a, l₁.filter (tiesWith r a) = l₂.filter (tiesWith r a)) : l₁ = l₂ := by
  have hself : ∀ c, r c c := fun c => (tiesWith_iff.mp (tiesWith_self c)).1
  -- by induction on the first list: the heads agree, and so do the tails class by class
  induction l₁ generalizing l₂ with
  | nil =>
    cases l₂ with
    | nil => rfl
    | cons b u =>
      exact absurd (mem_of_filter_tiesWith_eq (hties b).symm List.mem_cons_self) (by simp)
  | cons a t ih =>
    cases l₂ with
    | nil => exact absurd (mem_of_filter_tiesWith_eq (hties a) List.mem_cons_self) (by simp)
    | cons b u =>
      -- each head is a member of the other list, so the two heads tie
      have hab : r a b := by
        rcases List.mem_cons.mp (mem_of_filter_tiesWith_eq (hties b).symm
          List.mem_cons_self) with rfl | hb
        · exact hself _
        · exact List.rel_of_pairwise_cons h₁ hb
      have hba : r b a := by
        rcases List.mem_cons.mp (mem_of_filter_tiesWith_eq (hties a)
          List.mem_cons_self) with rfl | ha
        · exact hself _
        · exact List.rel_of_pairwise_cons h₂ ha
      have hhead := hties a
      rw [List.filter_cons_of_pos (tiesWith_self a),
        List.filter_cons_of_pos (tiesWith_iff.mpr ⟨hab, hba⟩)] at hhead
      obtain rfl : a = b := (List.cons.inj hhead).1
      congr 1
      refine ih h₁.of_cons h₂.of_cons fun c => ?_
      have hc := hties c
      by_cases hca : tiesWith r c a = true
      · rw [List.filter_cons_of_pos hca, List.filter_cons_of_pos hca] at hc
        exact (List.cons.inj hc).2
      · rwa [List.filter_cons_of_neg hca, List.filter_cons_of_neg hca] at hc

end Uniqueness

variable [IsTrans α r]

theorem filter_tiesWith_insertionSort (a : α) (l : List α) :
    (l.insertionSort r).filter (tiesWith r a) = l.filter (tiesWith r a) := by
  apply filter_insertionSort
  intro b c hb hc
  exact trans_of r (tiesWith_iff.mp hb).2 (tiesWith_iff.mp hc).1

variable [Std.Total r]

/-- Sorting the concatenation of an already sorted list and new elements gives what
sorting all of them at once gives. -/
theorem insertionSort_insertionSort_append (xs ys : List α) :
    (xs.insertionSort r ++ ys).insertionSort r = (xs ++ ys).insertionSort r := by
  refine eq_of_filter_tiesWith_eq (List.pairwise_insertionSort r _)
    (List.pairwise_insertionSort r _) fun a => ?_
  simp only [filter_tiesWith_insertionSort, List.filter_append]

/-- Sorting fewer elements leaves a part of what sorting all of them leaves, in the same
order. -/
theorem insertionSort_sublist {l₁ l₂ : List α} (h : l₁.Sublist l₂) :
    (l₁.insertionSort r).Sublist (l₂.insertionSort r) := by
  induction h with
  | slnil => exact List.Sublist.refl _
  -- an element of the longer list only: inserting it makes the sorted list longer
  | cons a _ ih =>
    rw [List.insertionSort_cons]
    exact ih.trans (List.sublist_orderedInsert a _)
  -- inserting the same element into both keeps one within the other
  | cons_cons a _ ih =>
    rw [List.insertionSort_cons, List.insertionSort_cons]
    exact List.Sublist.orderedInsert_sublist a ih (List.pairwise_insertionSort r _)

/-- Without ties, the sorted list depends only on which elements are sorted. -/
theorem insertionSort_eq_of_perm {l₁ l₂ : List α} (hperm : l₁.Perm l₂)
    (hfree : TieFree r l₁) : l₁.insertionSort r = l₂.insertionSort r := by
  refine List.Perm.eq_of_pairwise ?_ (List.pairwise_insertionSort r _)
    (List.pairwise_insertionSort r _) ?_
  · -- two sorted lists with the same elements differ at most in the order of tied ones
    intro a b ha hb hab hba
    have ha' : a ∈ l₁ := (List.mem_insertionSort r).mp ha
    have hb' : b ∈ l₁ := hperm.mem_iff.mpr ((List.mem_insertionSort r).mp hb)
    exact hfree.eq_of_ties ha' hb' ⟨hab, hba⟩
  · have hleft : (l₁.insertionSort r).Perm l₁ := List.perm_insertionSort r l₁
    exact (hleft.trans hperm).trans (List.perm_insertionSort r l₂).symm

end SscsPdfEmail.Library
