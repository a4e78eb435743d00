import Mathlib.Init

/-!
# Failure Atomicity

Calls that change a state and may fail half-way through, in the monad of Lean in which an
exception leaves the changes made so far in place.  A view shows the part of the state that
matters.

A call *keeps* the view if it never changes what is seen (`Keeps`), and keeps it *on failure* if
what is seen is as before whenever the call fails (`KeepsOnFailure`).  The second property does
not compose by itself: a call that has changed the view may be followed by one that fails.  It
does compose with calls in front that keep the view, so a call that changes the view in its last
step only keeps it on failure (`KeepsOnFailure.bind`), and dropping or converting what the last
step returns does no harm (`KeepsOnFailure.bind_pure`).
-/

namespace SscsPdfEmail.Library

variable {ε σ α β γ : Type}

/-- What is seen of the state is the same after the call has failed. -/
structure KeepsOnFailure (view : σ → γ) (x : EStateM ε σ α) : Prop where
  eq_of_error : ∀ s e s', x.run s = .error e s' → view s' = view s

/-- What is seen of the state is the same after the call. -/
structure Keeps (view : σ → γ) (x : EStateM ε σ α) : Prop extends KeepsOnFailure view x where
  eq_of_ok : ∀ s a s', x.run s = .ok a s' → view s' = view s

variable {view : σ → γ} {x : EStateM ε σ α} {f : α → EStateM ε σ β}

theorem keeps_pure (a : α) : Keeps view (pure a : EStateM ε σ α) where
  eq_of_ok s a' s' h := by
    cases h
    rfl
  eq_of_error s e s' h := by cases h

theorem keeps_get : Keeps view (get : EStateM ε σ σ) where
  eq_of_ok s a s' h := by
    cases h
    rfl
  eq_of_error s e s' h := by cases h

theorem keeps_modify {g : σ → σ} (hg : ∀ s, view (g s) = view s) :
    Keeps view (modify g : EStateM ε σ PUnit) where
  eq_of_ok s a s' h := by
    cases h
    exact hg s
  eq_of_error s e s' h := by cases h

/-- The view may be changed by the second of two calls if that one keeps it on failure. -/
theorem KeepsOnFailure.bind (hx : Keeps view x) (hf : ∀ a, KeepsOnFailure view (f a)) :
    KeepsOnFailure view (x >>= f) where
  eq_of_error s e s' h := by
    rw [EStateM.run_bind] at h
    -- either the first call fails, or it returns and the second one fails
    cases hrun : x.run s with
    | error e₁ s₁ =>
      rw [hrun] at h
      obtain ⟨rfl, rfl⟩ := EStateM.Result.error.inj h
      exact hx.eq_of_error s e₁ s₁ hrun
    | ok a s₁ =>
      rw [hrun] at h
      -- by then the first call has returned, which is why it has to keep the view whatever it
      -- does
      exact ((hf a).eq_of_error s₁ e s' h).trans (hx.eq_of_ok s a s₁ hrun)

theorem Keeps.bind (hx : Keeps view x) (hf : ∀ a, Keeps view (f a)) :
    Keeps view (x >>= f) where
  toKeepsOnFailure := KeepsOnFailure.bind hx fun a => (hf a).toKeepsOnFailure
  eq_of_ok s b s' h := by
    rw [EStateM.run_bind] at h
    cases hrun : x.run s with
    -- the composed call has returned, so the first one has not failed
    | error e₁ s₁ =>
      rw [hrun] at h
      cases h
    | ok a s₁ =>
      rw [hrun] at h
      exact ((hf a).eq_of_ok s₁ b s' h).trans (hx.eq_of_ok s a s₁ hrun)

/-- Nothing can fail once only the value is changed. -/
theorem KeepsOnFailure.bind_pure (hx : KeepsOnFailure view x) (g : α → β) :
    KeepsOnFailure view (x >>= fun a => pure (g a)) where
  eq_of_error s e s' h := by
    rw [EStateM.run_bind] at h
    cases hrun : x.run s with
    | error e₁ s₁ =>
      rw [hrun] at h
      obtain ⟨rfl, rfl⟩ := EStateM.Result.error.inj h
      exact hx.eq_of_error s e₁ s₁ hrun
    -- what follows cannot fail
    | ok a s₁ =>
      rw [hrun] at h
      cases h

end SscsPdfEmail.Library
