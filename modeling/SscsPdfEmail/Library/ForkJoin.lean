import Mathlib.Data.List.Count
import Mathlib.Data.List.Flatten
import Mathlib.Logic.Function.Basic

/-!
# Forking Tasks and Joining Their Results

Tasks that run side by side and share nothing.  Each asks its environment questions, one at a
time, and ends with a value or an error; a schedule says whose turn it is.  The join returns the
values of all tasks, or the error of any task that has ended with one, for which it does not wait
for the others.

- Whatever the schedule, a task ends as it does when it runs alone, and asks the same questions
  in the same order (`Follows.run`).
- A task that has had as many turns as it has questions has ended (`ended_of_turns`), and enough
  turns for all tasks can follow any schedule (`exists_turns`).

A task is a tree of questions.  `Returns` says what a task that returns has asked, and `Asks`
what it never asks; both are computed through `>>=`, so that a program is examined line by line.
The answers are fixed in advance and may differ from task to task, which leaves room for an
environment that the other tasks have changed.
-/

namespace SscsPdfEmail.Library.ForkJoin

/-! ## Tasks -/

/-- A computation that asks questions of type `Q`; `A` is the type of the answers to each. -/
inductive Task (Q : Type) (A : Q → Type) (E α : Type) where
  | done (result : Except E α)
  | ask (question : Q) (next : A question → Task Q A E α)

variable {Q : Type} {A : Q → Type} {E α β : Type}

namespace Task

/-- Ask a question and return the answer. -/
def question (q : Q) : Task Q A E (A q) := .ask q fun a => .done (.ok a)

/-- One task after another; an error ends both. -/
protected def bind : Task Q A E α → (α → Task Q A E β) → Task Q A E β
  | .done (.ok a), f => f a
  | .done (.error e), _ => .done (.error e)
  | .ask q next, f => .ask q fun a => (next a).bind f

/-- A handler that replaces an error by another one. -/
def mapError (f : E → E) : Task Q A E α → Task Q A E α
  | .done r => .done (r.mapError f)
  | .ask q next => .ask q fun a => (next a).mapError f

instance : Monad (Task Q A E) where
  pure a := .done (.ok a)
  bind := Task.bind

/-- The result of a task that gets the given answers. -/
def result (answer : (q : Q) → A q) : Task Q A E α → Except E α
  | .done r => r
  | .ask q next => (next (answer q)).result answer

/-- The questions of a task that gets the given answers, in order. -/
def questions (answer : (q : Q) → A q) : Task Q A E α → List Q
  | .done _ => []
  | .ask q next => q :: (next (answer q)).questions answer

variable (answer : (q : Q) → A q)

@[simp] theorem result_pure (a : α) : (pure a : Task Q A E α).result answer = .ok a := rfl

@[simp] theorem result_done (r : Except E α) :
    (.done r : Task Q A E α).result answer = r := rfl

@[simp] theorem result_ask (q : Q) (next : A q → Task Q A E α) :
    (.ask q next : Task Q A E α).result answer = (next (answer q)).result answer := rfl

@[simp] theorem result_question (q : Q) :
    (question q : Task Q A E (A q)).result answer = .ok (answer q) := rfl

@[simp] theorem questions_pure (a : α) : (pure a : Task Q A E α).questions answer = [] := rfl

@[simp] theorem questions_done (r : Except E α) :
    (.done r : Task Q A E α).questions answer = [] := rfl

@[simp] theorem questions_ask (q : Q) (next : A q → Task Q A E α) :
    (.ask q next : Task Q A E α).questions answer = q :: (next (answer q)).questions answer :=
  rfl

@[simp] theorem questions_question (q : Q) :
    (question q : Task Q A E (A q)).questions answer = [q] := rfl

theorem result_bind (t : Task Q A E α) (f : α → Task Q A E β) :
    (t >>= f).result answer = t.result answer >>= fun a => (f a).result answer := by
  induction t with
  | done r => cases r <;> rfl
  | ask q next ih => exact ih (answer q)

/-- The second task asks its questions when the first has a value. -/
theorem questions_bind (t : Task Q A E α) (f : α → Task Q A E β) :
    (t >>= f).questions answer =
      t.questions answer ++
        match t.result answer with
        | .ok a => (f a).questions answer
        | .error _ => [] := by
  -- by induction on the first task; what follows it asks only if the first one returns
  induction t with
  | done r => cases r <;> rfl
  | ask q next ih => exact congrArg (q :: ·) (ih (answer q))

theorem result_mapError (f : E → E) (t : Task Q A E α) :
    (t.mapError f).result answer = (t.result answer).mapError f := by
  induction t with
  | done r => rfl
  | ask q next ih => exact ih (answer q)

theorem questions_mapError (f : E → E) (t : Task Q A E α) :
    (t.mapError f).questions answer = t.questions answer := by
  induction t with
  | done r => rfl
  | ask q next ih => exact congrArg (q :: ·) (ih (answer q))

/-- A task without questions has ended. -/
theorem eq_done_of_questions_eq_nil {t : Task Q A E α} (h : t.questions answer = []) :
    t = .done (t.result answer) := by
  cases t with
  | done r => rfl
  | ask q next => cases h

/-- The task returns a value and has asked certain questions by then. -/
def Returns (t : Task Q A E α) (a : α) (asked : List Q) : Prop :=
  t.result answer = .ok a ∧ t.questions answer = asked

/-- All that a task asks has a property. -/
def Asks (P : Q → Prop) (t : Task Q A E α) : Prop := ∀ q ∈ t.questions answer, P q

variable {answer}

@[simp] theorem returns_pure {a b : α} {asked : List Q} :
    Returns answer (pure a : Task Q A E α) b asked ↔ b = a ∧ asked = [] := by
  simp [Returns, eq_comm]

@[simp] theorem returns_done {r : Except E α} {a : α} {asked : List Q} :
    Returns answer (.done r : Task Q A E α) a asked ↔ r = .ok a ∧ asked = [] := by
  simp [Returns, eq_comm]

/-- One task after another, each with its own questions. -/
theorem returns_bind {t : Task Q A E α} {f : α → Task Q A E β} {b : β} {asked : List Q} :
    Returns answer (t >>= f) b asked ↔
      ∃ a first rest, Returns answer t a first ∧ Returns answer (f a) b rest ∧
        asked = first ++ rest := by
  unfold Returns
  rw [result_bind, questions_bind]
  cases hresult : t.result answer with
  -- an error of the first task is the end of both
  | error e =>
    refine ⟨fun h => (nomatch h.1), ?_⟩
    rintro ⟨a, first, rest, ⟨ha, -⟩, -⟩
    cases ha
  | ok a =>
    constructor
    · rintro ⟨hvalue, hasked⟩
      exact ⟨a, _, _, ⟨rfl, rfl⟩, ⟨hvalue, rfl⟩, hasked.symm⟩
    -- the value that is handed on is the only one the first task can return
    · rintro ⟨a', first, rest, ⟨ha, hfirst⟩, ⟨hvalue, hrest⟩, hasked⟩
      obtain rfl : a = a' := Except.ok.inj ha
      exact ⟨hvalue, by rw [hasked, ← hfirst, ← hrest]⟩

theorem returns_mapError {f : E → E} {t : Task Q A E α} {a : α} {asked : List Q} :
    Returns answer (t.mapError f) a asked ↔ Returns answer t a asked := by
  unfold Returns
  rw [result_mapError, questions_mapError]
  cases t.result answer with
  | ok a' => rfl
  | error e => exact ⟨fun h => (nomatch h.1), fun h => (nomatch h.1)⟩

theorem asks_done {P : Q → Prop} (r : Except E α) : Asks answer P (.done r : Task Q A E α) := by
  intro q hq
  cases hq

theorem asks_ask {P : Q → Prop} {q : Q} {next : A q → Task Q A E α} :
    Asks answer P (.ask q next) ↔ P q ∧ Asks answer P (next (answer q)) := by
  simp [Asks]

/-- What the second task asks may depend on the value of the first. -/
theorem asks_bind {P : Q → Prop} {t : Task Q A E α} {f : α → Task Q A E β} :
    Asks answer P (t >>= f) ↔
      Asks answer P t ∧ ∀ a, t.result answer = .ok a → Asks answer P (f a) := by
  unfold Asks
  rw [questions_bind]
  cases t.result answer with
  | error e => simp
  | ok a => simp [or_imp, forall_and]

theorem asks_mapError {P : Q → Prop} {f : E → E} {t : Task Q A E α} :
    Asks answer P (t.mapError f) ↔ Asks answer P t := by
  rw [Asks, questions_mapError, Asks]

end Task

/-! ## Pools -/

/-- Where the tasks stand, and the questions asked so far. -/
structure Pool (ι Q : Type) (A : Q → Type) (E α : Type) where
  task : ι → Task Q A E α
  log : List (ι × Q) := []

variable {ι : Type} [DecidableEq ι]

/-- The questions of one task in a log. -/
def questionsOf (log : List (ι × Q)) (i : ι) : List Q :=
  log.filterMap fun event => if event.1 = i then some event.2 else none

theorem questionsOf_concat_self (log : List (ι × Q)) (i : ι) (q : Q) :
    questionsOf (log ++ [(i, q)]) i = questionsOf log i ++ [q] := by
  simp [questionsOf]

theorem questionsOf_concat_of_ne (log : List (ι × Q)) {i j : ι} (h : j ≠ i) (q : Q) :
    questionsOf (log ++ [(j, q)]) i = questionsOf log i := by
  simp [questionsOf, h]

/-- A log without questions of any task is empty. -/
theorem eq_nil_of_questionsOf {log : List (ι × Q)} (h : ∀ i, questionsOf log i = []) :
    log = [] := by
  cases log with
  | nil => rfl
  | cons event log =>
    have hfirst := h event.1
    simp [questionsOf] at hfirst

section Runs

variable (answer : ι → (q : Q) → A q)

/-- The turn of a task: it gets the answer to its question and goes on to the next one. -/
def step (s : Pool ι Q A E α) (i : ι) : Pool ι Q A E α :=
  match s.task i with
  | .done _ => s
  | .ask q next =>
    { task := Function.update s.task i (next (answer i q))
      log := s.log ++ [(i, q)] }

/-- A run: the turns in the order in which they are given. -/
def run (s : Pool ι Q A E α) (schedule : List ι) : Pool ι Q A E α :=
  schedule.foldl (step answer) s

/-- What the join may return: the values of all tasks, or the error of any of them. -/
inductive Joined (s : Pool ι Q A E α) : Except E (ι → α) → Prop where
  | values (values : ι → α) : (∀ i, s.task i = .done (.ok (values i))) → Joined s (.ok values)
  | failed (i : ι) (e : E) : s.task i = .done (.error e) → Joined s (.error e)

/-- The tasks are on the way that they would take alone. -/
structure Follows (task : ι → Task Q A E α) (s : Pool ι Q A E α) : Prop where
  result : ∀ i, (s.task i).result (answer i) = (task i).result (answer i)
  asked : ∀ i, questionsOf s.log i ++ (s.task i).questions (answer i) =
    (task i).questions (answer i)

theorem follows_start (task : ι → Task Q A E α) : Follows answer task { task } :=
  ⟨fun _ => rfl, fun _ => rfl⟩

variable {answer}

/-- A turn leaves every task on its way. -/
theorem Follows.step {task : ι → Task Q A E α} {s : Pool ι Q A E α}
    (hs : Follows answer task s) (i : ι) : Follows answer task (step answer s i) := by
  unfold ForkJoin.step
  cases hi : s.task i with
  -- a turn of a task that has ended is lost
  | done r => exact hs
  | ask q next =>
    -- the task goes on with the answer to its question, and only its own part of the log grows
    have hresult := hs.result i
    have hasked := hs.asked i
    rw [hi] at hresult hasked
    refine ⟨fun j => ?_, fun j => ?_⟩
    · by_cases hj : j = i
      · subst hj
        simpa using hresult
      · simpa [hj] using hs.result j
    · by_cases hj : j = i
      · subst hj
        simpa [questionsOf_concat_self] using hasked
      · simpa [questionsOf_concat_of_ne s.log (Ne.symm hj), hj] using hs.asked j

/-- **Interleaving**: under every schedule, the tasks stay on the way that they would take
alone. -/
theorem Follows.run {task : ι → Task Q A E α} {s : Pool ι Q A E α}
    (hs : Follows answer task s) (schedule : List ι) :
    Follows answer task (run answer s schedule) := by
  induction schedule generalizing s with
  | nil => exact hs
  | cons i schedule ih => exact ih (hs.step i)

theorem Follows.task_eq_done {task : ι → Task Q A E α} {s : Pool ι Q A E α}
    (hs : Follows answer task s) {i : ι} {r : Except E α} (hi : s.task i = .done r) :
    (task i).result (answer i) = r ∧ questionsOf s.log i = (task i).questions (answer i) := by
  have hresult := hs.result i
  have hasked := hs.asked i
  rw [hi] at hresult hasked
  exact ⟨hresult.symm, by simpa using hasked⟩

/-- What is in the log is asked by one of the tasks when it runs alone. -/
theorem Follows.mem_questions {task : ι → Task Q A E α} {s : Pool ι Q A E α}
    (hs : Follows answer task s) {i : ι} {q : Q} (h : (i, q) ∈ s.log) :
    q ∈ (task i).questions (answer i) := by
  rw [← hs.asked i]
  apply List.mem_append_left
  exact List.mem_filterMap.mpr ⟨(i, q), h, if_pos rfl⟩

/-! ## Turns -/

variable (answer)

/-- A turn takes one question off the task whose turn it is. -/
theorem length_questions_step (s : Pool ι Q A E α) (i j : ι) :
    (((step answer s i).task j).questions (answer j)).length =
      ((s.task j).questions (answer j)).length - if i = j then 1 else 0 := by
  unfold step
  -- only the task whose turn it is has one question less, if it has any left
  cases hi : s.task i with
  | done r =>
    by_cases hij : i = j
    · subst hij
      simp [hi]
    · simp [hij]
  | ask q next =>
    by_cases hij : i = j
    · subst hij
      simp [hi]
    · simp [hij, Function.update_of_ne (Ne.symm hij)]

theorem length_questions_run (s : Pool ι Q A E α) (schedule : List ι) (j : ι) :
    (((run answer s schedule).task j).questions (answer j)).length =
      ((s.task j).questions (answer j)).length - schedule.count j := by
  induction schedule generalizing s with
  | nil => rfl
  | cons i schedule ih =>
    -- the turns of `j` among the rest of the schedule are those counted so far, less the first
    show (((run answer (step answer s i) schedule).task j).questions (answer j)).length = _
    rw [ih, length_questions_step, List.count_cons, Nat.sub_sub, Nat.add_comm]
    simp only [beq_iff_eq]

variable {answer}

/-- A task that has had as many turns as it has questions has ended. -/
theorem ended_of_turns {task : ι → Task Q A E α} {schedule : List ι} {i : ι}
    (h : ((task i).questions (answer i)).length ≤ schedule.count i) :
    (run answer { task } schedule).task i = .done ((task i).result (answer i)) := by
  have hfollows := (follows_start answer task).run schedule
  have hlength := length_questions_run answer { task } schedule i
  -- no question is left, so the task is a result, and it is the one the task always had
  have hnone : ((run answer { task } schedule).task i).questions (answer i) = [] := by
    apply List.eq_nil_of_length_eq_zero
    rw [hlength]
    exact Nat.sub_eq_zero_of_le h
  rw [← hfollows.result i]
  exact Task.eq_done_of_questions_eq_nil _ hnone

variable (answer) in
/-- Every run can be brought to its end, whatever turns were given before. -/
theorem exists_turns (task : ι → Task Q A E α) {order : List ι} (horder : ∀ i, i ∈ order) :
    ∃ more : List ι, ∀ schedule i,
      ((task i).questions (answer i)).length ≤ (schedule ++ more).count i := by
  -- every task in turn gets as many turns as it has questions
  refine ⟨order.flatMap fun i =>
    List.replicate ((task i).questions (answer i)).length i, fun schedule i => ?_⟩
  have hsublist : (List.replicate ((task i).questions (answer i)).length i).Sublist
      (order.flatMap fun i => List.replicate ((task i).questions (answer i)).length i) :=
    List.sublist_flatten_of_mem (List.mem_map.mpr ⟨i, horder i, rfl⟩)
  have hcount := hsublist.count_le i
  rw [List.count_replicate_self] at hcount
  rw [List.count_append]
  omega

end Runs

end SscsPdfEmail.Library.ForkJoin
