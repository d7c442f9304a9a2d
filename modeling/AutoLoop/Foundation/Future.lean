import AutoLoop.Foundation.Component
import AutoLoop.Foundation.Effect
import Mathlib.Data.List.Basic

/-!
# Asynchronous computations and their interleavings

An asynchronous computation accesses a shared world step by step; between two
steps other computations may run.  Run alone it is an effectful computation.  A
pool interleaves any number of them in any order.

Properties of all interleavings follow from the computations one by one: an
outline says what a computation relies on while others run and what it guarantees
at each of its own accesses, and a pool of conforming computations stays sound as
long as no guarantee breaks what another computation relies on.
-/

namespace AutoLoop

variable {World Access Call α β : Type}

/-- A computation that has ended, or that accesses the shared world once and goes
on with what it found.  `observe` names the access. -/
inductive Future (World Access α : Type) : Type where
  | done (answer : Except String α)
  | access (observe : World → Access) (change : World → World)
      (next : World → Future World Access α)

namespace Future

def bind : Future World Access α → (α → Future World Access β) → Future World Access β
  | .done (.ok value), next => next value
  | .done (.error message), _ => .done (.error message)
  | .access observe change rest, next =>
    .access observe change fun world => bind (rest world) next

instance : Monad (Future World Access) where
  pure value := .done (.ok value)
  bind := bind

/-- End with an error. -/
def fail (message : String) : Future World Access α := .done (.error message)

def call (observe : World → Access) (action : Effect World α) : Future World Access α :=
  .access observe (fun world => (action world).2) fun world => .done (action world).1

/-- Observe how a computation ended instead of failing with it. -/
def attempt : Future World Access α → Future World Access (Except String α)
  | .done answer => .done (.ok answer)
  | .access observe change next => .access observe change fun world => attempt (next world)

def isDone : Future World Access α → Bool
  | .done _ => true
  | .access .. => false

/-! ## Running alone -/

/-- What the computation does when nothing else runs. -/
def run : Future World Access α → Effect World α
  | .done answer => Effect.ofExcept answer
  | .access _ change next => fun world => run (next world) (change world)

@[simp] theorem run_pure (value : α) :
    run (pure value : Future World Access α) = pure value := rfl

@[simp] theorem run_fail (message : String) :
    run (fail message : Future World Access α) = Effect.fail message := rfl

@[simp] theorem run_call (observe : World → Access) (action : Effect World α) :
    run (call observe action) = action := rfl

@[simp] theorem run_bind (first : Future World Access α) (next : α → Future World Access β) :
    run (first >>= next) = run first >>= fun value => run (next value) := by
  funext world
  induction first generalizing world with
  | done answer =>
    cases answer with
    | ok value => rfl
    | error message => rfl
  | access observe change rest ih => exact ih world (change world)

section
variable {first : Future World Access α} {next : α → Future World Access β}

/-- A computation that answers goes on with its answer. -/
theorem run_bind_of_ok
    {value : α} {before after : World} (ran : first.run before = (.ok value, after)) :
    (first >>= next).run before = (next value).run after := by
  rw [run_bind, Effect.bind_of_ok ran]

theorem run_bind_of_error {message : String} {before after : World}
    (ran : first.run before = (.error message, after)) :
    (first >>= next).run before = (.error message, after) := by
  rw [run_bind, Effect.bind_of_error ran]

theorem parts_of_run_bind
    {value : β} {before after : World} (ran : (first >>= next).run before = (.ok value, after)) :
    ∃ found middle, first.run before = (.ok found, middle) ∧
      (next found).run middle = (.ok value, after) := by
  cases ended : first.run before with
  | mk answer middle =>
    cases answer with
    | error message =>
      rw [run_bind_of_error ended] at ran
      cases ran
    | ok found =>
      rw [run_bind_of_ok ended] at ran
      exact ⟨found, middle, rfl, ran⟩

end

@[simp] theorem run_attempt (future : Future World Access α) :
    run (attempt future) = Effect.attempt (run future) := by
  funext world
  induction future generalizing world with
  | done answer => rfl
  | access observe change rest ih => exact ih world (change world)

theorem run_attempt_of {future : Future World Access α} {answer : Except String α}
    {before after : World} (ran : future.run before = (answer, after)) :
    (attempt future).run before = (.ok answer, after) := by
  rw [run_attempt, Effect.attempt_apply, ran]

end Future

/-! ## Outlines -/

/-- What a computation that has performed some accesses relies on and what it
guarantees. -/
structure Outline (World Access : Type) where
  /-- What other computations may do to the world between two steps. -/
  rely : List Access → World → World → Prop
  /-- What holds between two steps. -/
  during : List Access → World → Prop
  /-- When an access may be performed. -/
  allowed : List Access → Access → World → Prop
  /-- What an access does to the world. -/
  guarantee : List Access → Access → World → World → Prop

namespace Outline

/-- From a world, under interference as relied on, every allowed step keeps the
guarantee, and an end meets `after`. -/
def Conforms (outline : Outline World Access)
    (after : List Access → Except String α → World → Prop) :
    List Access → Future World Access α → World → Prop
  | past, .done answer, world => after past answer world
  | past, .access observe change next, world =>
    ∀ later, outline.rely past world later →
      outline.during past later ∧
        (outline.allowed past (observe later) later →
          outline.guarantee past (observe later) later (change later) ∧
            Conforms outline after (past ++ [observe later]) (next later) (change later))

variable {outline : Outline World Access}
variable {after : List Access → Except String α → World → Prop}

namespace Conforms

theorem of_call {past : List Access} {observe : World → Access} {action : Effect World α}
    {world : World}
    (step : ∀ later, outline.rely past world later → outline.during past later ∧
        (outline.allowed past (observe later) later →
          outline.guarantee past (observe later) later (action later).2 ∧
            after (past ++ [observe later]) (action later).1 (action later).2)) :
    outline.Conforms after past (Future.call observe action) world :=
  step

theorem bind {final : List Access → Except String β → World → Prop}
    {next : α → Future World Access β} {past : List Access}
    {future : Future World Access α} {world : World}
    (first : outline.Conforms after past future world)
    (second : ∀ past value world, after past (.ok value) world →
      outline.Conforms final past (next value) world)
    (failed : ∀ past message world, after past (.error message) world →
      final past (.error message) world) :
    outline.Conforms final past (future >>= next) world := by
  induction future generalizing past world with
  | done answer =>
    cases answer with
    | ok value => exact second past value world first
    | error message => exact failed past message world first
  | access observe change rest ih =>
    intro later relied
    obtain ⟨holds, step⟩ := first later relied
    refine ⟨holds, fun allowed => ?_⟩
    exact ⟨(step allowed).1, ih later (step allowed).2⟩

theorem attempt {final : List Access → Except String (Except String α) → World → Prop}
    {past : List Access} {future : Future World Access α} {world : World}
    (conforms : outline.Conforms after past future world)
    (ended : ∀ past answer world, after past answer world → final past (.ok answer) world) :
    outline.Conforms final past (Future.attempt future) world := by
  induction future generalizing past world with
  | done answer => exact ended past answer world conforms
  | access observe change next ih =>
    intro later relied
    obtain ⟨holds, step⟩ := conforms later relied
    refine ⟨holds, fun allowed => ?_⟩
    exact ⟨(step allowed).1, ih later (step allowed).2⟩

/-- Interference as relied on does not break conformance of a computation that
has not ended. -/
theorem of_rely (trans : ∀ past first second third, outline.rely past first second →
      outline.rely past second third → outline.rely past first third)
    {past : List Access} {observe : World → Access} {change : World → World}
    {next : World → Future World Access α} {world later : World}
    (conforms : outline.Conforms after past (.access observe change next) world)
    (relied : outline.rely past world later) :
    outline.Conforms after past (.access observe change next) later :=
  fun final reliedLater => conforms final (trans past _ _ _ relied reliedLater)

end Conforms

end Outline

/-! ## Pools -/

/-- A computation in a pool: the call it was started with, the accesses it has
performed and what is left of it. -/
structure Job (World Access Call α : Type) where
  call : Call
  past : List Access
  rest : Future World Access α

/-- Computations over one world, in the order in which they were started. -/
structure Pool (World Access Call α : Type) where
  world : World
  jobs : List (Job World Access Call α)

inductive PoolEvent (Call : Type) where
  | start (call : Call)
  | advance (index : Nat)
  deriving DecidableEq, Repr

namespace Pool

variable {program : Call → Future World Access α} {pool : Pool World Access Call α}

/-- A call joins the pool, or one computation performs its next access. -/
def step (program : Call → Future World Access α) (pool : Pool World Access Call α) :
    PoolEvent Call → Pool World Access Call α
  | .start call => { pool with jobs := pool.jobs ++ [⟨call, [], program call⟩] }
  | .advance index =>
    match pool.jobs[index]? with
    | none => pool
    | some job =>
      match job.rest with
      | .done _ => pool
      | .access observe change next =>
        { world := change pool.world
          jobs := pool.jobs.set index
            ⟨job.call, job.past ++ [observe pool.world], next pool.world⟩ }

/-- The pool as a component; what the computations answer is in its state. -/
def component (program : Call → Future World Access α) (initial : Pool World Access Call α) :
    Component (Pool World Access Call α) (PoolEvent Call) Unit where
  initial
  step := fun pool event => ((), step program pool event)

/-- The access that a computation is about to perform. -/
def nextAccess (pool : Pool World Access Call α) (index : Nat) : Option Access :=
  match pool.jobs[index]? with
  | some ⟨_, _, .access observe _ _⟩ => some (observe pool.world)
  | _ => none

theorem advance_cases (program : Call → Future World Access α)
    (pool : Pool World Access Call α) (index : Nat) :
    step program pool (.advance index) = pool ∨
      ∃ job observe change next, pool.jobs[index]? = some job ∧
        job.rest = .access observe change next ∧
        pool.nextAccess index = some (observe pool.world) ∧
        step program pool (.advance index) = ⟨change pool.world,
          pool.jobs.set index ⟨job.call, job.past ++ [observe pool.world], next pool.world⟩⟩ := by
  cases found : pool.jobs[index]? with
  | none => exact Or.inl (by simp only [step, found])
  | some job =>
    obtain ⟨call, past, rest⟩ := job
    cases rest with
    | done answer => exact Or.inl (by simp only [step, found])
    | access observe change next =>
      refine Or.inr ⟨⟨call, past, .access observe change next⟩, observe, change, next, ?_⟩
      simp only [step, nextAccess, found, and_self]

/-- The world meets the invariant, and every computation conforms to its
outline. -/
structure Sound (invariant : World → Prop) (outline : Call → Outline World Access)
    (after : Call → List Access → Except String α → World → Prop)
    (pool : Pool World Access Call α) : Prop where
  world : invariant pool.world
  jobs : ∀ (index : Nat) job, pool.jobs[index]? = some job →
    (outline job.call).Conforms (after job.call) job.past job.rest pool.world

variable {invariant : World → Prop} {outline : Call → Outline World Access}
variable {after : Call → List Access → Except String α → World → Prop}

theorem Sound.start (sound : Sound invariant outline after pool) {call : Call}
    (conforms : (outline call).Conforms (after call) [] (program call) pool.world) :
    Sound invariant outline after (step program pool (.start call)) where
  world := sound.world
  jobs := by
    intro index job found
    simp only [step] at found ⊢
    rw [List.getElem?_append] at found
    split at found
    · exact sound.jobs index job found
    · cases place : index - pool.jobs.length with
      | zero =>
        rw [place] at found
        cases found
        exact conforms
      | succ beyond =>
        rw [place] at found
        cases found

theorem Sound.advance (sound : Sound invariant outline after pool)
    (trans : ∀ call past first second third, (outline call).rely past first second →
      (outline call).rely past second third → (outline call).rely past first third)
    (refl : ∀ call past world, (outline call).rely past world world)
    {index : Nat}
    (allowed : ∀ job access, pool.jobs[index]? = some job → pool.nextAccess index = some access →
        (outline job.call).allowed job.past access pool.world)
    (kept : ∀ job access later, pool.jobs[index]? = some job → pool.nextAccess index = some access →
      (outline job.call).guarantee job.past access pool.world later → invariant later)
    (apart : ∀ job access later, pool.jobs[index]? = some job →
      pool.nextAccess index = some access →
      (outline job.call).guarantee job.past access pool.world later →
        ∀ (other : Nat) otherJob, other ≠ index → pool.jobs[other]? = some otherJob →
          (otherJob.rest.isDone = false →
            (outline otherJob.call).rely otherJob.past pool.world later) ∧
          ∀ answer, otherJob.rest = .done answer →
            after otherJob.call otherJob.past answer pool.world →
              after otherJob.call otherJob.past answer later) :
    Sound invariant outline after (step program pool (.advance index)) := by
  cases advance_cases program pool index with
  | inl unchanged =>
    rw [unchanged]
    exact sound
  | inr performed =>
    obtain ⟨job, observe, change, next, found, shape, isNext, isStep⟩ := performed
    have conforms := sound.jobs index job found
    rw [shape] at conforms
    obtain ⟨-, performed⟩ := conforms pool.world (refl _ _ _)
    obtain ⟨guaranteed, goesOn⟩ := performed (allowed job _ found isNext)
    rw [isStep]
    constructor
    · exact kept job _ _ found isNext guaranteed
    · intro other otherJob otherFound
      simp only at otherFound ⊢
      rw [List.getElem?_set] at otherFound
      split at otherFound
      · split at otherFound
        · cases otherFound
          exact goesOn
        · cases otherFound
      · next different =>
        have otherConforms := sound.jobs other otherJob otherFound
        obtain ⟨relied, settled⟩ := apart job _ _ found isNext guaranteed other
          otherJob (Ne.symm different) otherFound
        cases otherShape : otherJob.rest with
        | done answer =>
          rw [otherShape] at otherConforms
          exact settled answer otherShape otherConforms
        | access otherObserve otherChange otherNext =>
          rw [otherShape] at otherConforms
          apply otherConforms.of_rely (trans otherJob.call)
          apply relied
          rw [otherShape]
          rfl

theorem advance_of_none {index : Nat} (ended : pool.nextAccess index = none) :
    step program pool (.advance index) = pool := by
  cases advance_cases program pool index with
  | inl unchanged => exact unchanged
  | inr performed =>
    obtain ⟨job, observe, change, next, -, -, isNext, -⟩ := performed
    rw [ended] at isNext
    cases isNext

theorem Sound.advance_guaranteed (sound : Sound invariant outline after pool)
    (program : Call → Future World Access α)
    (refl : ∀ call past world, (outline call).rely past world world)
    {index : Nat} {access : Access} (isNext : pool.nextAccess index = some access)
    (allowed : ∀ job, pool.jobs[index]? = some job →
      (outline job.call).allowed job.past access pool.world) :
    ∃ job later rest, pool.jobs[index]? = some job ∧ job.rest.isDone = false ∧
      (outline job.call).guarantee job.past access pool.world later ∧
      step program pool (.advance index) =
        ⟨later, pool.jobs.set index ⟨job.call, job.past ++ [access], rest⟩⟩ := by
  cases found : pool.jobs[index]? with
  | none =>
    rw [nextAccess, found] at isNext
    cases isNext
  | some job =>
    obtain ⟨call, past, rest⟩ := job
    cases rest with
    | done answer =>
      rw [nextAccess, found] at isNext
      cases isNext
    | access observe change next =>
      rw [nextAccess, found] at isNext
      cases isNext
      obtain ⟨-, performed⟩ := sound.jobs index _ found pool.world (refl _ _ _)
      obtain ⟨guaranteed, -⟩ := performed (allowed _ found)
      refine ⟨_, _, next pool.world, rfl, rfl, guaranteed, ?_⟩
      simp only [step, found]

end Pool

end AutoLoop
