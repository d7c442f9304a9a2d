import Mathlib.Logic.Basic

/-!
# Fallible effectful computations

A computation reads and changes a world and ends with a value or an error
message.  The world survives an error: what was done before a failure stays
done, which is how a Rust function behaves that leaves early through `?`.

Specifications are triples with one postcondition for each way of ending.  The
rules follow the constructors of a computation, and a relation that composes
(a frame, a growing log) is carried through a whole computation at once by
`Keeps`.
-/

namespace AutoLoop

variable {World α β γ : Type}

/-- A computation over `World` that ends in a value or in an error message. -/
def Effect (World α : Type) : Type := World → Except String α × World

namespace Effect

instance : Monad (Effect World) where
  pure value := fun world => (.ok value, world)
  bind action next := fun world =>
    match action world with
    | (.ok value, world) => next value world
    | (.error message, world) => (.error message, world)

/-- End with an error. -/
def fail (message : String) : Effect World α := fun world => (.error message, world)

/-- Run a computation and observe how it ended instead of failing with it. -/
def attempt (action : Effect World α) : Effect World (Except String α) :=
  fun world => (.ok (action world).1, (action world).2)

/-- The `?` operator on a result that involves no effect. -/
def ofExcept (result : Except String α) : Effect World α := fun world => (result, world)

def modify (change : World → World) : Effect World Unit :=
  fun world => (.ok (), change world)

/-- Run a computation on a part of the world. -/
def zoom {Part : Type} (get : World → Part) (set : Part → World → World)
    (action : Effect Part α) : Effect World α :=
  fun world => ((action (get world)).1, set (action (get world)).2 world)

@[simp] theorem pure_apply (value : α) (world : World) :
    (pure value : Effect World α) world = (.ok value, world) := rfl

@[simp] theorem fail_apply (message : String) (world : World) :
    (fail message : Effect World α) world = (.error message, world) := rfl

@[simp] theorem attempt_apply (action : Effect World α) (world : World) :
    attempt action world = (.ok (action world).1, (action world).2) := rfl

@[simp] theorem ofExcept_apply (result : Except String α) (world : World) :
    (ofExcept result : Effect World α) world = (result, world) := rfl

@[simp] theorem zoom_apply {Part : Type} (get : World → Part)
    (set : Part → World → World) (action : Effect Part α) (world : World) :
    zoom get set action world =
      ((action (get world)).1, set (action (get world)).2 world) := rfl

@[simp] theorem modify_apply (change : World → World) (world : World) :
    modify change world = (.ok (), change world) := rfl

theorem bind_apply (action : Effect World α) (next : α → Effect World β) (world : World) :
    (action >>= next) world =
      match action world with
      | (.ok value, world) => next value world
      | (.error message, world) => (.error message, world) := rfl

section
variable {action : Effect World α}

variable {next : α → Effect World β}

/-- A sequence succeeds exactly when both of its parts do. -/
theorem bind_eq_ok {world final : World} {result : β} :
    (action >>= next) world = (.ok result, final) ↔
      ∃ value middle, action world = (.ok value, middle) ∧
        next value middle = (.ok result, final) := by
  rw [bind_apply]
  constructor
  · intro ran
    split at ran
    · next value middle first => exact ⟨value, middle, first, ran⟩
    · cases ran
  · rintro ⟨value, middle, first, second⟩
    rw [first]
    exact second

theorem exists_run {world : World} {answer : Except String α}
    (answered : (action world).1 = answer) :
    ∃ final, action world = (answer, final) :=
  ⟨(action world).2, Prod.ext answered rfl⟩

@[simp] theorem bind_of_ok
    {world middle : World} {value : α} (first : action world = (.ok value, middle)) :
    (action >>= next) world = next value middle := by
  rw [bind_apply, first]

@[simp] theorem bind_of_error {world middle : World} {message : String}
    (first : action world = (.error message, middle)) :
    (action >>= next) world = (.error message, middle) := by
  rw [bind_apply, first]

end

theorem bind_pure_apply (action : Effect World α) (view : α → β) (world : World) :
    (action >>= fun value => pure (view value)) world =
      ((action world).1.map view, (action world).2) := by
  rw [bind_apply]
  split
  · next value final ran => rw [ran]; rfl
  · next message final ran => rw [ran]; rfl

/-! ## Triples -/

/-- From every world that meets `before`, the computation ends in a value and a
world that meet `after`, or in an error and a world that meet `failed`. -/
def Triple (before : World → Prop) (action : Effect World α)
    (after : α → World → Prop) (failed : String → World → Prop) : Prop :=
  ∀ world, before world →
    match action world with
    | (.ok value, final) => after value final
    | (.error message, final) => failed message final

namespace Triple

variable {before : World → Prop} {action : Effect World α}
variable {after : α → World → Prop} {failed : String → World → Prop}

theorem pure {value : α} (holds : ∀ world, before world → after value world) :
    Triple before (Pure.pure value) after failed :=
  fun world start => holds world start

theorem bind {next : α → Effect World β} {final : β → World → Prop}
    (first : Triple before action after failed)
    (second : ∀ value, Triple (after value) (next value) final failed) :
    Triple before (action >>= next) final failed := by
  intro world start
  have ends := first world start
  rw [bind_apply]
  split at ends
  · next value reached first => exact second value reached ends
  · exact ends

end Triple

/-- From every world that meets the invariant, the computation succeeds and ends
in a world that meets it. -/
def Maintains (invariant : World → Prop) (action : Effect World α) : Prop :=
  Triple invariant action (fun _ => invariant) (fun _ _ => False)

namespace Maintains

variable {invariant : World → Prop}

theorem pure (value : α) : Maintains invariant (Pure.pure value) :=
  Triple.pure fun _ held => held

theorem bind {action : Effect World α} {next : α → Effect World β}
    (first : Maintains invariant action) (second : ∀ value, Maintains invariant (next value)) :
    Maintains invariant (action >>= next) :=
  Triple.bind first second

theorem exists_run {action : Effect World α} (maintained : Maintains invariant action)
    {world : World} (held : invariant world) :
    ∃ value final, action world = (.ok value, final) ∧ invariant final := by
  have ends := maintained world held
  cases ran : action world with
  | mk answer final =>
    rw [ran] at ends
    cases answer with
    | error message => cases ends
    | ok value => exact ⟨value, final, rfl, ends⟩

end Maintains

/-! ## Relations kept by a whole computation -/

/-- The initial and the final world are related, however the computation ends. -/
def Keeps (relation : World → World → Prop) (action : Effect World α) : Prop :=
  ∀ world, relation world (action world).2

namespace Keeps

variable {relation : World → World → Prop}

theorem of_run {action : Effect World α} (kept : Keeps relation action) {before after : World}
    {answer : Except String α} (ran : action before = (answer, after)) : relation before after := by
  have related := kept before
  rwa [ran] at related

section
variable (refl : ∀ world, relation world world)
include refl

theorem pure (value : α) :
    Keeps relation (Pure.pure value) :=
  fun world => refl world

theorem fail (message : String) :
    Keeps relation (Effect.fail message : Effect World α) :=
  fun world => refl world

theorem ofExcept (result : Except String α) :
    Keeps relation (Effect.ofExcept result : Effect World α) :=
  fun world => refl world

end

theorem attempt {action : Effect World α} (kept : Keeps relation action) :
    Keeps relation (Effect.attempt action) :=
  fun world => kept world

theorem bind (trans : ∀ first second third,
      relation first second → relation second third → relation first third)
    {action : Effect World α} {next : α → Effect World β}
    (first : Keeps relation action) (second : ∀ value, Keeps relation (next value)) :
    Keeps relation (action >>= next) := by
  intro world
  have started := first world
  rw [bind_apply]
  split
  · next value middle ran =>
    rw [ran] at started
    exact trans _ _ _ started (second value middle)
  · next message middle ran =>
    rw [ran] at started
    exact started

end Keeps

end Effect

end AutoLoop
