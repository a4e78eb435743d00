import Mathlib.Data.List.Basic

/-!
# Views of a State

Actions of several kinds act on one state, and a view shows a part of it.  Where the actions of
one kind work on the view alone and the others leave it as it is (`ActsOn`), a run is seen as the
run of these actions only (`ActsOn.view_foldl`).

A family of views, one for each kind, that together show the whole state *separates* the actions
(`Separates`).  Runs that agree in the actions of each kind are then the same to all views, and
so end in the same state (`foldl_eq_of_filter_eq`), in whatever order the kinds alternate.
Nothing is asked of actions of the same kind, which need not commute.

Both facts are inductions on the run; what has to be shown of a system is only about a single
action in a single state.
-/

namespace SscsPdfEmail.Library

variable {σ β α κ : Type*}

/-- The actions that are `own` act on a view as `stepOn` says, and the others not at all. -/
structure ActsOn (step : σ → α → σ) (view : σ → β) (stepOn : β → α → β) (own : α → Bool) :
    Prop where
  view_own : ∀ s a, own a = true → view (step s a) = stepOn (view s) a
  view_other : ∀ s a, own a = false → view (step s a) = view s

variable {step : σ → α → σ} {view : σ → β} {stepOn : β → α → β} {own : α → Bool}

/-- What is seen of a run is the run of the own actions. -/
theorem ActsOn.view_foldl (h : ActsOn step view stepOn own) (s : σ) (actions : List α) :
    view (actions.foldl step s) = (actions.filter own).foldl stepOn (view s) := by
  induction actions generalizing s with
  | nil => rfl
  | cons a actions ih =>
    have hrest := ih (step s a)
    -- an action of the kind is one step on the view; any other is not seen
    cases hown : own a with
    | true =>
      rw [List.filter_cons_of_pos hown, List.foldl_cons, List.foldl_cons, hrest]
      rw [h.view_own s a hown]
    | false =>
      rw [List.filter_cons_of_neg (by simp [hown]), List.foldl_cons, hrest]
      rw [h.view_other s a hown]

/-- The others may as well be left out of a run. -/
theorem ActsOn.view_foldl_filter (h : ActsOn step view stepOn own) (s : σ) (actions : List α) :
    view (actions.foldl step s) = view ((actions.filter own).foldl step s) := by
  rw [h.view_foldl, h.view_foldl, List.filter_filter]
  simp only [Bool.and_self]

/-- Views for the kinds of actions, which together show all of the state. -/
structure Separates [DecidableEq κ] (step : σ → α → σ) (kind : α → κ) (view : κ → σ → β)
    (stepOn : κ → β → α → β) : Prop where
  actsOn : ∀ k, ActsOn step (view k) (stepOn k) fun a => kind a = k
  eq_of_view : ∀ s s', (∀ k, view k s = view k s') → s = s'

/-- It does not matter how the actions of the different kinds alternate. -/
theorem Separates.foldl_eq_of_filter_eq [DecidableEq κ] {kind : α → κ} {view : κ → σ → β}
    {stepOn : κ → β → α → β} (h : Separates step kind view stepOn) {actions actions' : List α}
    (hsame : ∀ k, actions.filter (fun a => kind a = k) = actions'.filter fun a => kind a = k)
    (s : σ) : actions.foldl step s = actions'.foldl step s := by
  apply h.eq_of_view
  intro k
  rw [(h.actsOn k).view_foldl, (h.actsOn k).view_foldl, hsame k]

end SscsPdfEmail.Library
