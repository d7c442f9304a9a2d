import Mathlib.Data.List.Perm.Basic
import AutoLoop.Foundation.Effect

/-!
# The syscall scheduler

Capability calls of a plan are queued and then drained: the next request is the
one of highest priority, and among these the oldest.  `drainOrder` is the order
in which a queue is emptied; draining runs the executor along it.
-/

namespace AutoLoop.NoumenonCore

variable {World : Type}

inductive SyscallKind where
  | capabilityCall
  deriving DecidableEq, Repr

structure SyscallRequest where
  syscallId : UInt64
  stepId : String
  kind : SyscallKind
  capability : String
  input : String
  priority : UInt8
  seq : UInt64
  deriving DecidableEq, Repr

structure SyscallResponse where
  syscallId : UInt64
  stepId : String
  output : String
  costUnits : UInt64
  deriving DecidableEq, Repr

/-- The queue of an `InMemorySyscallQueue`, oldest request first. -/
abbrev SyscallQueue := List SyscallRequest

namespace SyscallQueue

/-- An item is dequeued before the best one found so far. -/
def precedes (item best : SyscallRequest) : Bool :=
  let higher := decide (item.priority > best.priority)
  let equalOlder := decide (item.priority = best.priority ∧ item.seq < best.seq)
  higher || equalOlder

/-- The body of the selection loop. -/
def selectBetter (queue : SyscallQueue) (bestIdx : Nat) (item : SyscallRequest × Nat) : Nat :=
  match queue[bestIdx]? with
  | some best => if precedes item.1 best then item.2 else bestIdx
  | none => bestIdx

/-- The position of the request to dequeue, found in one pass over the queue. -/
def bestIdx (queue : SyscallQueue) : Nat :=
  queue.zipIdx.foldl (selectBetter queue) 0

def dequeue (queue : SyscallQueue) : Option (SyscallRequest × SyscallQueue) :=
  match queue[bestIdx queue]? with
  | some request => some (request, queue.eraseIdx (bestIdx queue))
  | none => none

theorem selectBetter_lt {queue : SyscallQueue} {bestIdx : Nat} {item : SyscallRequest × Nat}
    (bestLt : bestIdx < queue.length) (itemLt : item.2 < queue.length) :
    selectBetter queue bestIdx item < queue.length := by
  rw [selectBetter, List.getElem?_eq_getElem bestLt]
  dsimp only
  split
  · exact itemLt
  · exact bestLt

theorem bestIdx_lt {queue : SyscallQueue} (nonempty : queue ≠ []) :
    bestIdx queue < queue.length := by
  apply List.foldlRecOn (motive := (· < queue.length))
  · exact List.length_pos_of_ne_nil nonempty
  · intro best bestLt item membership
    exact selectBetter_lt bestLt (List.snd_lt_of_mem_zipIdx membership)

theorem dequeue_cases (queue : SyscallQueue) :
    (queue = [] ∧ dequeue queue = none) ∨
      ∃ request rest, dequeue queue = some (request, rest) ∧
        queue.Perm (request :: rest) := by
  by_cases empty : queue = []
  · subst empty
    exact Or.inl ⟨rfl, rfl⟩
  · have inBounds := bestIdx_lt empty
    refine Or.inr ⟨queue[bestIdx queue], queue.eraseIdx (bestIdx queue), ?_, ?_⟩
    · rw [dequeue, List.getElem?_eq_getElem inBounds]
    · exact (List.getElem_cons_eraseIdx_perm inBounds).symm

/-- The requests of a queue in the order in which repeated dequeuing returns
them.  Every dequeue shortens the queue, so its length bounds their number. -/
def drainOrderFuel : Nat → SyscallQueue → List SyscallRequest
  | 0, _ => []
  | fuel + 1, queue =>
    match dequeue queue with
    | some (request, rest) => request :: drainOrderFuel fuel rest
    | none => []

def drainOrder (queue : SyscallQueue) : List SyscallRequest :=
  drainOrderFuel queue.length queue

theorem drainOrderFuel_perm {fuel : Nat} {queue : SyscallQueue}
    (enough : queue.length ≤ fuel) : (drainOrderFuel fuel queue).Perm queue := by
  induction fuel generalizing queue with
  | zero =>
    rw [List.length_eq_zero_iff.mp (Nat.le_zero.mp enough)]
    exact List.Perm.refl []
  | succ fuel ih =>
    rcases dequeue_cases queue with ⟨rfl, nothing⟩ | ⟨request, rest, next, perm⟩
    · rw [drainOrderFuel, nothing]
    · have shorter := perm.length_eq
      rw [List.length_cons] at shorter
      rw [drainOrderFuel, next]
      exact ((ih (by omega)).cons request).trans perm.symm

theorem drainOrder_perm (queue : SyscallQueue) : (drainOrder queue).Perm queue :=
  drainOrderFuel_perm (Nat.le_refl _)

end SyscallQueue

structure SyscallScheduler where
  queue : SyscallQueue := []
  counter : UInt64 := 0
  deriving Repr

namespace SyscallScheduler

def submit (scheduler : SyscallScheduler) (stepId capability input : String)
    (priority : UInt8) : SyscallScheduler :=
  let counter := scheduler.counter + 1
  let request : SyscallRequest :=
    { syscallId := counter
      stepId := stepId
      kind := .capabilityCall
      capability := capability
      input := input
      priority := priority
      seq := counter }
  { queue := scheduler.queue ++ [request], counter := counter }

def respond (request : SyscallRequest) (result : String × UInt64) : SyscallResponse where
  syscallId := request.syscallId
  stepId := request.stepId
  output := result.1
  costUnits := result.2

/-- The loop of `drain`: dequeue and execute until the queue is empty. -/
def drainFuel (executor : SyscallRequest → Effect World (String × UInt64)) :
    Nat → SyscallQueue → Effect World (List SyscallResponse)
  | 0, _ => pure []
  | fuel + 1, queue =>
    match SyscallQueue.dequeue queue with
    | some (request, rest) => do
        let result ← executor request
        let later ← drainFuel executor fuel rest
        pure (respond request result :: later)
    | none => pure []

def drain (scheduler : SyscallScheduler)
    (executor : SyscallRequest → Effect World (String × UInt64)) :
    Effect World (List SyscallResponse) :=
  drainFuel executor scheduler.queue.length scheduler.queue

def executeAll (executor : SyscallRequest → Effect World (String × UInt64)) :
    List SyscallRequest → Effect World (List SyscallResponse)
  | [] => pure []
  | request :: rest => do
      let result ← executor request
      let later ← executeAll executor rest
      pure (respond request result :: later)

theorem drain_eq_executeAll (scheduler : SyscallScheduler)
    (executor : SyscallRequest → Effect World (String × UInt64)) :
    scheduler.drain executor =
      executeAll executor (SyscallQueue.drainOrder scheduler.queue) := by
  rw [drain, SyscallQueue.drainOrder]
  generalize scheduler.queue.length = fuel
  generalize scheduler.queue = queue
  induction fuel generalizing queue with
  | zero => rfl
  | succ fuel ih =>
    rw [drainFuel, SyscallQueue.drainOrderFuel]
    cases SyscallQueue.dequeue queue with
    | none => rfl
    | some next =>
      dsimp only
      rw [executeAll, ih]

end SyscallScheduler

end AutoLoop.NoumenonCore
