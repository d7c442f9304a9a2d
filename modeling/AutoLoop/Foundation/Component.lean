import Mathlib.Logic.Basic

/-!
# Deterministic components, their runs and refinement

A component answers each operation and moves to a new state.  A simulation
between two components with the same operations and answers makes every run of
one answer like the same run of the other.  An invariant that a step preserves
exactly under a condition holds throughout a run exactly when each step meets
the condition.
-/

namespace AutoLoop

variable {State View Op Out : Type}

structure Component (State Op Out : Type) where
  initial : State
  step : State → Op → Out × State

namespace Component

variable {component concrete : Component State Op Out}
variable {abstract : Component View Op Out}

/-- Answers and final state of a sequence of operations. -/
def run (component : Component State Op Out) :
    State → List Op → List Out × State
  | state, [] => ([], state)
  | state, op :: rest =>
    let answer := component.step state op
    let later := run component answer.2 rest
    (answer.1 :: later.1, later.2)

@[simp] theorem run_nil (state : State) :
    component.run state [] = ([], state) := rfl

@[simp] theorem run_cons (state : State) (op : Op) (rest : List Op) :
    component.run state (op :: rest) =
      ((component.step state op).1 :: (component.run (component.step state op).2 rest).1,
        (component.run (component.step state op).2 rest).2) := rfl

theorem run_append (state : State) (earlier later : List Op) :
    (component.run state (earlier ++ later)).2 =
      (component.run (component.run state earlier).2 later).2 := by
  induction earlier generalizing state with
  | nil => rfl
  | cons op rest ih => exact ih (component.step state op).2

/-! ## Refinement -/

/-- A relation under which the two components give equal answers and stay
related. -/
structure Simulation (concrete : Component State Op Out)
    (abstract : Component View Op Out) where
  Related : State → View → Prop
  initial : Related concrete.initial abstract.initial
  answer : ∀ {state view} (op : Op), Related state view →
    (concrete.step state op).1 = (abstract.step view op).1
  step : ∀ {state view} (op : Op), Related state view →
    Related (concrete.step state op).2 (abstract.step view op).2

theorem Simulation.run (simulation : Simulation concrete abstract) {state : State} {view : View}
    (related : simulation.Related state view) (ops : List Op) :
    (concrete.run state ops).1 = (abstract.run view ops).1 ∧
      simulation.Related (concrete.run state ops).2 (abstract.run view ops).2 := by
  induction ops generalizing state view with
  | nil => exact ⟨rfl, related⟩
  | cons op rest ih =>
    have later := ih (simulation.step op related)
    simp only [run_cons, List.cons.injEq]
    exact ⟨⟨simulation.answer op related, later.1⟩, later.2⟩

/-! ## Invariants over runs -/

/-- The property holds in the starting state and after every operation. -/
def Always (component : Component State Op Out) (property : State → Prop) :
    State → List Op → Prop
  | state, [] => property state
  | state, op :: rest =>
    property state ∧ Always component property (component.step state op).2 rest

/-- The condition holds of every operation in the state it is applied to. -/
def EachStep (component : Component State Op Out)
    (condition : State → Op → Prop) : State → List Op → Prop
  | _, [] => True
  | state, op :: rest =>
    condition state op ∧ EachStep component condition (component.step state op).2 rest

instance decidableAlways {property : State → Prop} [DecidablePred property] :
    ∀ state ops, Decidable (component.Always property state ops)
  | state, [] => inferInstanceAs (Decidable (property state))
  | state, op :: rest =>
    have : Decidable (component.Always property (component.step state op).2 rest) :=
      decidableAlways _ rest
    inferInstanceAs (Decidable (_ ∧ _))

instance decidableEachStep {condition : State → Op → Prop}
    [∀ state op, Decidable (condition state op)] :
    ∀ state ops, Decidable (component.EachStep condition state ops)
  | _, [] => .isTrue trivial
  | state, op :: rest =>
    have : Decidable (component.EachStep condition (component.step state op).2 rest) :=
      decidableEachStep _ rest
    inferInstanceAs (Decidable (_ ∧ _))

section
variable {property : State → Prop} {state : State} {ops : List Op}
  (always : component.Always property state ops)
include always

theorem Always.head :
    property state := by
  cases ops with
  | nil => exact always
  | cons op rest => exact always.1

theorem Always.run : property (component.run state ops).2 := by
  induction ops generalizing state with
  | nil => exact always
  | cons op rest ih => exact ih always.2

end

theorem Always.of_step {property : State → Prop} {state : State} (start : property state)
    (step : ∀ state op, property state → property (component.step state op).2) (ops : List Op) :
    component.Always property state ops := by
  induction ops generalizing state with
  | nil => exact start
  | cons op rest ih => exact ⟨start, ih (step state op start)⟩

theorem Always.mono {property other : State → Prop} {state : State} {ops : List Op}
    (always : component.Always property state ops)
    (weaken : ∀ state, property state → other state) : component.Always other state ops := by
  induction ops generalizing state with
  | nil => exact weaken state always
  | cons op rest ih => exact ⟨weaken state always.1, ih always.2⟩

theorem EachStep.of_forall {condition : State → Op → Prop}
    (holds : ∀ state op, condition state op) (state : State) (ops : List Op) :
    component.EachStep condition state ops := by
  induction ops generalizing state with
  | nil => trivial
  | cons op rest ih => exact ⟨holds state op, ih _⟩

theorem eachStep_append {condition : State → Op → Prop} {state : State} {earlier later : List Op} :
    component.EachStep condition state (earlier ++ later) ↔
      component.EachStep condition state earlier ∧
        component.EachStep condition (component.run state earlier).2 later := by
  induction earlier generalizing state with
  | nil => exact ⟨fun each => ⟨trivial, each⟩, And.right⟩
  | cons op rest ih =>
    rw [List.cons_append, EachStep, EachStep, ih, and_assoc]
    rfl

theorem EachStep.run_invariant {invariant : State → Prop} {condition : State → Op → Prop}
    {state : State} {ops : List Op} (each : component.EachStep condition state ops)
    (start : invariant state)
    (step : ∀ state op, invariant state → condition state op →
      invariant (component.step state op).2) :
    invariant (component.run state ops).2 := by
  induction ops generalizing state with
  | nil => exact start
  | cons op rest ih => exact ih each.2 (step state op start each.1)

theorem EachStep.mono {condition other : State → Op → Prop} {state : State} {ops : List Op}
    (each : component.EachStep condition state ops)
    (weaken : ∀ state op, condition state op → other state op) :
    component.EachStep other state ops := by
  induction ops generalizing state with
  | nil => trivial
  | cons op rest ih => exact ⟨weaken state op each.1, ih each.2⟩

theorem EachStep.always {property : State → Prop} {condition : State → Op → Prop}
    {state : State} {ops : List Op} (each : component.EachStep condition state ops)
    (start : property state)
    (step : ∀ state op, property state → condition state op →
      property (component.step state op).2) : component.Always property state ops := by
  induction ops generalizing state with
  | nil => exact start
  | cons op rest ih => exact ⟨start, ih each.2 (step state op start each.1)⟩

theorem EachStep.and {condition other : State → Op → Prop} {state : State} {ops : List Op}
    (each : component.EachStep condition state ops) (also : component.EachStep other state ops) :
    component.EachStep (fun state op => condition state op ∧ other state op) state ops := by
  induction ops generalizing state with
  | nil => trivial
  | cons op rest ih => exact ⟨⟨each.1, also.1⟩, ih each.2 also.2⟩

theorem Always.eachStep {property : State → Prop} {state : State} {ops : List Op}
    (always : component.Always property state ops) :
    component.EachStep (fun state op => property state ∧ property (component.step state op).2)
      state ops := by
  induction ops generalizing state with
  | nil => trivial
  | cons op rest ih => exact ⟨⟨always.1, always.2.head⟩, ih always.2⟩

theorem Always.and_kept {property kept : State → Prop} {state : State} {ops : List Op}
    (always : component.Always property state ops) (start : kept state)
    (step : ∀ state op, kept state → kept (component.step state op).2) :
    component.Always (fun state => property state ∧ kept state) state ops := by
  induction ops generalizing state with
  | nil => exact ⟨always, start⟩
  | cons op rest ih => exact ⟨⟨always.1, start⟩, ih always.2 (step state op start)⟩

theorem Always.congr {assumption property other : State → Prop} {state : State} {ops : List Op}
    (always : component.Always assumption state ops)
    (same : ∀ state, assumption state → (property state ↔ other state)) :
    component.Always property state ops ↔ component.Always other state ops := by
  induction ops generalizing state with
  | nil => exact same state always
  | cons op rest ih => exact and_congr (same state always.1) (ih always.2)

theorem EachStep.of_invariant {invariant : State → Prop}
    {condition property : State → Op → Prop} {state : State} {ops : List Op}
    (each : component.EachStep condition state ops) (start : invariant state)
    (step : ∀ state op, invariant state → condition state op →
      property state op ∧ invariant (component.step state op).2) :
    component.EachStep property state ops := by
  induction ops generalizing state with
  | nil => trivial
  | cons op rest ih =>
    obtain ⟨meets, later⟩ := each
    obtain ⟨holds, next⟩ := step state op start meets
    exact ⟨holds, ih later next⟩

theorem always_iff_eachStep {property : State → Prop}
    {assumption condition : State → Op → Prop}
    (exact : ∀ state op, property state → assumption state op →
      (property (component.step state op).2 ↔ condition state op))
    {state : State} (start : property state) {ops : List Op}
    (assumed : component.EachStep assumption state ops) :
    component.Always property state ops ↔ component.EachStep condition state ops := by
  induction ops generalizing state with
  | nil => exact ⟨fun _ => trivial, fun _ => start⟩
  | cons op rest ih =>
    obtain ⟨first, later⟩ := assumed
    constructor
    · intro always
      have next := always.2.head
      exact ⟨(exact state op start first).mp next, (ih next later).mp always.2⟩
    · intro each
      have next := (exact state op start first).mpr each.1
      exact ⟨start, (ih next later).mpr each.2⟩

theorem always_iff_of_invariant {invariant property : State → Prop}
    {condition : State → Op → Prop} (holds : ∀ state, invariant state → property state)
    (kept : ∀ state op, invariant state → condition state op →
      invariant (component.step state op).2)
    (needed : ∀ state op, invariant state → property (component.step state op).2 →
      condition state op)
    {state : State} (start : invariant state) {ops : List Op} :
    component.Always property state ops ↔ component.EachStep condition state ops := by
  induction ops generalizing state with
  | nil => exact ⟨fun _ => trivial, fun _ => holds state start⟩
  | cons op rest ih =>
    constructor
    · intro always
      have meets := needed state op start always.2.head
      exact ⟨meets, (ih (kept state op start meets)).mp always.2⟩
    · intro each
      exact ⟨holds state start, (ih (kept state op start each.1)).mpr each.2⟩

/-! ## Two components side by side -/

/-- Both components answer the same operations. -/
def beside (component : Component State Op Out) (other : Component View Op Out) :
    Component (State × View) Op (Out × Out) where
  initial := (component.initial, other.initial)
  step := fun pair op =>
    (((component.step pair.1 op).1, (other.step pair.2 op).1),
      ((component.step pair.1 op).2, (other.step pair.2 op).2))

theorem same_answers_iff_eachStep {related : State → View → Prop}
    {assumption condition : State × View → Op → Prop}
    (exact : ∀ state view op, related state view → assumption (state, view) op →
      ((concrete.step state op).1 = (abstract.step view op).1 ↔ condition (state, view) op))
    (kept : ∀ state view op, related state view → assumption (state, view) op →
      condition (state, view) op →
        related (concrete.step state op).2 (abstract.step view op).2)
    {state : State} {view : View} (start : related state view) {ops : List Op}
    (assumed : (concrete.beside abstract).EachStep assumption (state, view) ops) :
    (concrete.run state ops).1 = (abstract.run view ops).1 ↔
      (concrete.beside abstract).EachStep condition (state, view) ops := by
  induction ops generalizing state view with
  | nil => exact ⟨fun _ => trivial, fun _ => rfl⟩
  | cons op rest ih =>
    obtain ⟨first, later⟩ := assumed
    rw [run_cons, run_cons, List.cons.injEq, exact state view op start first]
    constructor
    · rintro ⟨meets, same⟩
      exact ⟨meets, (ih (kept state view op start first meets) later).mp same⟩
    · rintro ⟨meets, each⟩
      exact ⟨meets, (ih (kept state view op start first meets) later).mpr each⟩

end Component

end AutoLoop
