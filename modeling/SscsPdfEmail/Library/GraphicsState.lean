import Mathlib.Algebra.Group.Action.Defs
import Mathlib.Data.List.Infix

/-!
# Graphics State of a Content Stream

A page description is a sequence of operators over a current transformation and a stack of
saved ones.  Transformations are a monoid acting on points; what a stream paints is the list
of its marks, each with the transformation it is left under, and what it shows the list of
places that these end up at.

The main result is that putting a transformation in front of a well-nested stream paints the
same marks, each under its own transformation followed by the new one (`paintings_wrap`),
whatever the stream does inside.  So every mark is moved by that transformation
(`marks_wrap`), and a balanced stream ends where it starts (`after_wrap`).
-/

namespace SscsPdfEmail.Library

variable {M P : Type*}

/-- The operators that matter for where marks end up. -/
inductive GraphicsOperator (M P : Type*) where
  /-- Push the current transformation. -/
  | save
  /-- Go back to the transformation saved last. -/
  | restore
  /-- Apply a transformation before the current one. -/
  | concat (m : M)
  /-- Leave a mark at a point of user space. -/
  | mark (p : P)
deriving DecidableEq

/-- Current transformation and the saved ones, last saved first. -/
structure GraphicsState (M : Type*) where
  current : M
  saved : List M

namespace GraphicsState

/-- State of a fresh page. -/
def initial [One M] : GraphicsState M := ⟨1, []⟩

/-- Effect of one operator on the state.  A restore without a save is ignored. -/
def step [Mul M] (state : GraphicsState M) : GraphicsOperator M P → GraphicsState M
  | .save => ⟨state.current, state.current :: state.saved⟩
  | .restore =>
    match state.saved with
    -- viewers ignore a restore without a save
    | [] => state
    | m :: saved => ⟨m, saved⟩
  | .concat m => ⟨state.current * m, state.saved⟩
  | .mark _ => state

/-- Where one operator leaves a mark, if it does. -/
def shown [SMul M P] (state : GraphicsState M) : GraphicsOperator M P → Option P
  | .mark p => some (state.current • p)
  | _ => none

/-- Where the marks of a stream end up, in order. -/
def marks [Mul M] [SMul M P] (state : GraphicsState M) : List (GraphicsOperator M P) → List P
  | [] => []
  | op :: ops => (state.shown op).toList ++ marks (state.step op) ops

/-- State after a whole stream. -/
def after [Mul M] (state : GraphicsState M) (ops : List (GraphicsOperator M P)) :
    GraphicsState M :=
  ops.foldl step state

/-- The transformation and the point of the mark that one operator leaves, if it does. -/
def painted (state : GraphicsState M) : GraphicsOperator M P → Option (M × P)
  | .mark p => some (state.current, p)
  | _ => none

/-- The marks of a stream, in order, each with the transformation that it is left under. -/
def paintings [Mul M] (state : GraphicsState M) : List (GraphicsOperator M P) → List (M × P)
  | [] => []
  | op :: ops => (state.painted op).toList ++ paintings (state.step op) ops

/-- A mark ends up where the transformation it is left under takes it. -/
theorem marks_eq_map_paintings [Mul M] [SMul M P] (state : GraphicsState M)
    (ops : List (GraphicsOperator M P)) :
    state.marks ops = (state.paintings ops).map fun painting => painting.1 • painting.2 := by
  induction ops generalizing state with
  | nil => rfl
  | cons op ops ih =>
    rw [marks, paintings, List.map_append, ih]
    -- only a painting operator adds to either list
    cases op with
    | mark p => rfl
    | save | restore | concat => rfl

theorem paintings_append [Mul M] (state : GraphicsState M)
    (first second : List (GraphicsOperator M P)) :
    state.paintings (first ++ second) =
      state.paintings first ++ (state.after first).paintings second := by
  induction first generalizing state with
  | nil => rfl
  | cons op ops ih =>
    rw [List.cons_append, paintings, paintings, ih, List.append_assoc]
    rfl

theorem after_append [Mul M] (state : GraphicsState M)
    (first second : List (GraphicsOperator M P)) :
    state.after (first ++ second) = (state.after first).after second :=
  List.foldl_append

/-- The same state seen through a transformation, over further saved transformations. -/
def under [Mul M] (m : M) (below : List M) (state : GraphicsState M) : GraphicsState M :=
  ⟨m * state.current, state.saved.map (m * ·) ++ below⟩

end GraphicsState

/-! ## Nesting -/

/-- Saves at the disposal of what follows an operator; `none` when it restores too much. -/
def depthAfter : ℕ → GraphicsOperator M P → Option ℕ
  | depth, .save => some (depth + 1)
  | 0, .restore => none
  | depth + 1, .restore => some depth
  | depth, .concat _ => some depth
  | depth, .mark _ => some depth

/-- The stream restores nothing that it has not saved, `depth` saves being at its disposal. -/
def WellNested (depth : ℕ) (ops : List (GraphicsOperator M P)) : Prop :=
  (ops.foldlM depthAfter depth).isSome

instance (depth : ℕ) (ops : List (GraphicsOperator M P)) : Decidable (WellNested depth ops) :=
  inferInstanceAs (Decidable (_ = true))

theorem wellNested_cons_iff {depth : ℕ} {op : GraphicsOperator M P}
    {ops : List (GraphicsOperator M P)} :
    WellNested depth (op :: ops) ↔
      ∃ depth', depthAfter depth op = some depth' ∧ WellNested depth' ops := by
  unfold WellNested
  rw [List.foldlM_cons]
  -- the first operator restores more than was saved, or leads to some depth
  cases depthAfter depth op with
  | none => simp
  | some depth' => simp

/-! ### Counting -/

/-- Number of saves of a stream. -/
def saves (ops : List (GraphicsOperator M P)) : ℕ :=
  ops.countP fun op => match op with
    | .save => true
    | _ => false

/-- Number of restores of a stream. -/
def restores (ops : List (GraphicsOperator M P)) : ℕ :=
  ops.countP fun op => match op with
    | .restore => true
    | _ => false

/-- No beginning of the stream has more restores than saves. -/
def RestoresCovered (ops : List (GraphicsOperator M P)) : Prop :=
  ∀ front, front <+: ops → restores front ≤ saves front

theorem saves_append (first second : List (GraphicsOperator M P)) :
    saves (first ++ second) = saves first + saves second :=
  List.countP_append

theorem restores_append (first second : List (GraphicsOperator M P)) :
    restores (first ++ second) = restores first + restores second :=
  List.countP_append

theorem depthAfter_eq_some_iff {depth depth' : ℕ} {op : GraphicsOperator M P} :
    depthAfter depth op = some depth' ↔ depth' + restores [op] = depth + saves [op] := by
  cases op with
  | save => simp [depthAfter, saves, restores, eq_comm]
  | restore =>
    cases depth with
    -- there is nothing to restore at depth zero, and no depth makes up for it
    | zero => simp [depthAfter, saves, restores]
    | succ depth => simp [depthAfter, saves, restores, eq_comm]
  | concat m => simp [depthAfter, saves, restores, eq_comm]
  | mark p => simp [depthAfter, saves, restores, eq_comm]

/-- The saves left at the end are those made and not restored. -/
theorem foldlM_depthAfter_add {depth depth' : ℕ} {ops : List (GraphicsOperator M P)}
    (h : ops.foldlM depthAfter depth = some depth') :
    depth' + restores ops = depth + saves ops := by
  induction ops generalizing depth with
  | nil =>
    obtain rfl : depth = depth' := by simpa using h
    rfl
  | cons op ops ih =>
    rw [List.foldlM_cons] at h
    obtain ⟨middle, hop, hops⟩ := Option.bind_eq_some_iff.mp h
    -- the balance of the first operator and that of the rest add up
    have hhead := depthAfter_eq_some_iff.mp hop
    have htail := ih hops
    rw [← List.singleton_append, saves_append, restores_append]
    omega

/-- **Nesting by counting**: with some saves at its disposal, a stream is well-nested iff no
beginning of it restores more than these and its own. -/
theorem wellNested_iff {depth : ℕ} {ops : List (GraphicsOperator M P)} :
    WellNested depth ops ↔ ∀ front, front <+: ops → restores front ≤ depth + saves front := by
  induction ops generalizing depth with
  | nil =>
    refine iff_of_true rfl fun front hfront => ?_
    rw [List.prefix_nil.mp hfront]
    exact Nat.zero_le _
  | cons op ops ih =>
    rw [wellNested_cons_iff]
    constructor
    · rintro ⟨depth', hop, hops⟩ front hfront
      have hhead := depthAfter_eq_some_iff.mp hop
      rcases List.prefix_cons_iff.mp hfront with rfl | ⟨rest, rfl, hrest⟩
      · exact Nat.zero_le _
      · have htail := ih.mp hops rest hrest
        rw [← List.singleton_append, saves_append, restores_append]
        omega
    · intro hall
      -- the operator alone is a beginning, so it leaves a depth for what follows
      have hhead := hall [op] (List.prefix_append [op] ops)
      refine ⟨depth + saves [op] - restores [op], depthAfter_eq_some_iff.mpr (by omega), ?_⟩
      refine ih.mpr fun rest hrest => ?_
      have hfront := hall (op :: rest) (List.cons_prefix_cons.mpr ⟨rfl, hrest⟩)
      rw [← List.singleton_append, saves_append, restores_append] at hfront
      omega

theorem WellNested.of_le {depth depth' : ℕ} {ops : List (GraphicsOperator M P)}
    (h : WellNested depth ops) (hle : depth ≤ depth') : WellNested depth' ops := by
  refine wellNested_iff.mpr fun front hfront => ?_
  have hfewer := wellNested_iff.mp h front hfront
  omega

theorem wellNested_append_iff {depth depth' : ℕ} {first second : List (GraphicsOperator M P)}
    (h : first.foldlM depthAfter depth = some depth') :
    WellNested depth (first ++ second) ↔ WellNested depth' second := by
  unfold WellNested
  rw [List.foldlM_append, h]
  rfl

theorem wellNested_zero_iff {ops : List (GraphicsOperator M P)} :
    WellNested 0 ops ↔ RestoresCovered ops := by
  rw [wellNested_iff]
  simp only [Nat.zero_add, RestoresCovered]

namespace GraphicsState

/-! ## Moving a Whole Stream -/

variable [Monoid M]

/-- An operator keeps to the saves it has, so it does not see the transformation around it. -/
theorem step_under {state : GraphicsState M} {op : GraphicsOperator M P} {depth' : ℕ}
    (h : depthAfter state.saved.length op = some depth') (m : M) (below : List M) :
    (state.under m below).step op = (state.step op).under m below ∧
      (state.step op).saved.length = depth' := by
  cases op with
  | save =>
    obtain rfl : state.saved.length + 1 = depth' := by simpa [depthAfter] using h
    exact ⟨rfl, rfl⟩
  | restore =>
    -- the depth says that there is a save left, so the stack below is out of reach
    obtain ⟨current, saved⟩ := state
    cases saved with
    | nil => simp [depthAfter] at h
    | cons top saved =>
      obtain rfl : saved.length = depth' := by simpa [depthAfter] using h
      exact ⟨rfl, rfl⟩
  | concat n =>
    obtain rfl : state.saved.length = depth' := by simpa [depthAfter] using h
    exact ⟨by simp [step, under, mul_assoc], rfl⟩
  | mark p =>
    obtain rfl : state.saved.length = depth' := by simpa [depthAfter] using h
    exact ⟨rfl, rfl⟩

theorem painted_under (state : GraphicsState M) (op : GraphicsOperator M P) (m : M)
    (below : List M) :
    (state.under m below).painted op =
      (state.painted op).map fun painting => (m * painting.1, painting.2) := by
  cases op with
  | mark p => rfl
  | save | restore | concat => rfl

/-- Under a transformation, a well-nested stream paints its marks under that as well. -/
theorem paintings_under (state : GraphicsState M) {ops : List (GraphicsOperator M P)}
    (h : WellNested state.saved.length ops) (m : M) (below : List M) :
    (state.under m below).paintings ops =
      (state.paintings ops).map fun painting => (m * painting.1, painting.2) := by
  -- by induction on the stream, from the state that the first operator leaves
  induction ops generalizing state with
  | nil => rfl
  | cons op ops ih =>
    obtain ⟨depth', hdepth, hops⟩ := wellNested_cons_iff.mp h
    obtain ⟨hstep, hlen⟩ := step_under hdepth m below
    rw [← hlen] at hops
    rw [paintings, paintings, List.map_append, hstep, ih _ hops, painted_under]
    cases state.painted op with
    | none => rfl
    | some painting => rfl

/-- The whole stack is seen through the transformation, not only its top. -/
theorem after_under (state : GraphicsState M) {ops : List (GraphicsOperator M P)}
    (h : WellNested state.saved.length ops) (m : M) (below : List M) :
    (state.under m below).after ops = (state.after ops).under m below ∧
      ops.foldlM depthAfter state.saved.length = some (state.after ops).saved.length := by
  -- the depth is the length of the stack, which is what `step_under` asks for at each operator
  induction ops generalizing state with
  | nil => exact ⟨rfl, rfl⟩
  | cons op ops ih =>
    obtain ⟨depth', hdepth, hops⟩ := wellNested_cons_iff.mp h
    obtain ⟨hstep, hlen⟩ := step_under hdepth m below
    rw [← hlen] at hops
    obtain ⟨hafter, hfold⟩ := ih _ hops
    constructor
    · show ((state.under m below).step op).after ops = _
      rw [hstep, hafter]
      rfl
    · rw [List.foldlM_cons, hdepth, ← hlen]
      exact hfold

/-! ## Wrapping a Stream -/

/-- A transformation set up between two saves in front of a stream, and taken back by two
restores at its end. -/
def wrap (m : M) (ops : List (GraphicsOperator M P)) : List (GraphicsOperator M P) :=
  [.save, .concat m, .save] ++ ops ++ [.restore, .restore]

/-- The operators in front set up the transformation, over two saved ones. -/
theorem after_open (m : M) :
    (initial : GraphicsState M).after
      ([.save, .concat m, .save] : List (GraphicsOperator M P)) = initial.under m [m, 1] := by
  simp [after, step, under, initial]

/-- **Wrapping a stream** adds no mark, and leaves each under its own transformation followed
by the new one. -/
theorem paintings_wrap {ops : List (GraphicsOperator M P)} (h : WellNested 0 ops) (m : M) :
    (initial : GraphicsState M).paintings (wrap m ops) =
      (initial.paintings ops).map fun painting => (m * painting.1, painting.2) := by
  have hmoved := paintings_under initial h m [m, 1]
  -- neither the operators in front nor those at the end leave a mark.
  have hsilent : ∀ state : GraphicsState M,
      state.paintings ([.restore, .restore] : List (GraphicsOperator M P)) = [] := fun _ => rfl
  rw [wrap, paintings_append, paintings_append, after_open, hmoved, hsilent, List.append_nil]
  rfl

/-- Wrapping a stream moves each of its marks and adds none. -/
theorem marks_wrap [MulAction M P] {ops : List (GraphicsOperator M P)} (h : WellNested 0 ops)
    (m : M) : (initial : GraphicsState M).marks (wrap m ops) = (initial.marks ops).map (m • ·) := by
  rw [marks_eq_map_paintings, marks_eq_map_paintings, paintings_wrap h, List.map_map, List.map_map]
  exact List.map_congr_left fun painting _ => mul_smul m painting.1 painting.2

omit [Monoid M] in
theorem saves_wrap (m : M) (ops : List (GraphicsOperator M P)) :
    saves (wrap m ops) = saves ops + 2 := by
  rw [wrap, saves_append, saves_append]
  show 2 + saves ops + 0 = saves ops + 2
  omega

omit [Monoid M] in
theorem restores_wrap (m : M) (ops : List (GraphicsOperator M P)) :
    restores (wrap m ops) = restores ops + 2 := by
  rw [wrap, restores_append, restores_append]
  show 0 + restores ops + 2 = restores ops + 2
  omega

omit [Monoid M] in
/-- The two restores at the end take back the two saves in front, and no others. -/
theorem wellNested_wrap {ops : List (GraphicsOperator M P)} (h : WellNested 0 ops) (m : M) :
    WellNested 0 (wrap m ops) := by
  have hinside : WellNested 2 ops := h.of_le (Nat.zero_le 2)
  obtain ⟨depth, hfold⟩ := Option.isSome_iff_exists.mp hinside
  -- the stream restores no more than it saves, so the two saves in front are still there
  have hcount := foldlM_depthAfter_add hfold
  have hcovered := wellNested_zero_iff.mp h ops List.prefix_rfl
  obtain ⟨rest, rfl⟩ : ∃ rest, depth = rest + 2 := ⟨depth - 2, by omega⟩
  have hopen : ([.save, .concat m, .save] : List (GraphicsOperator M P)).foldlM depthAfter 0 =
      some 2 := rfl
  rw [wrap, List.append_assoc, wellNested_append_iff hopen, wellNested_append_iff hfold]
  rfl

/-- **A balanced stream** in a wrapping ends in the state it starts in. -/
theorem after_wrap {ops : List (GraphicsOperator M P)} (h : WellNested 0 ops)
    (hbalanced : saves ops = restores ops) (m : M) :
    (initial : GraphicsState M).after (wrap m ops) = initial := by
  obtain ⟨hafter, hfold⟩ := after_under (initial : GraphicsState M) h m [m, 1]
  -- nothing that the stream has saved is left, so the restores meet the two saves in front
  have hcount := foldlM_depthAfter_add hfold
  have hempty : ((initial : GraphicsState M).after ops).saved = [] := by
    apply List.eq_nil_of_length_eq_zero
    have hnone : (initial : GraphicsState M).saved.length = 0 := rfl
    omega
  rw [wrap, after_append, after_append, after_open, hafter, under, hempty]
  rfl

end GraphicsState

end SscsPdfEmail.Library
