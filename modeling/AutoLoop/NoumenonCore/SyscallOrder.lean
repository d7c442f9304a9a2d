import AutoLoop.Foundation.StableSort
import AutoLoop.NoumenonCore.Syscall
import Mathlib.Algebra.Ring.Nat

/-!
# The order of a drain

Dequeuing takes the request of highest priority and the oldest among equals, so a
drain is a stable sort of the submissions by falling priority.  The executor is
called along this order until it fails.
-/

namespace AutoLoop.NoumenonCore

open List

variable {World : Type}

/-- The arguments of one call of `SyscallScheduler::submit`. -/
structure Submission where
  stepId : String
  capability : String
  input : String
  priority : UInt8
  deriving DecidableEq, Repr

namespace SyscallQueue

/-- Falling priority as a key to sort by. -/
def rank (request : SyscallRequest) : Natᵒᵈ := OrderDual.toDual request.priority.toNat

def age (request : SyscallRequest) : Nat := request.seq.toNat

theorem precedes_iff {item best : SyscallRequest} :
    precedes item best = true ↔ Before rank age item best := by
  rw [precedes, Bool.or_eq_true, decide_eq_true_eq, decide_eq_true_eq]
  apply or_congr
  · exact UInt8.lt_iff_toNat_lt
  · apply and_congr
    · exact UInt8.toNat_inj.symm
    · exact UInt64.lt_iff_toNat_lt

/-- Of two requests with different numbers one goes first. -/
theorem before_of_not_precedes {item best : SyscallRequest} (apart : age item ≠ age best)
    (behind : ¬precedes item best = true) : Before rank age best item := by
  rw [precedes_iff, Before, not_or, not_and, not_lt, not_lt] at behind
  rcases behind.1.lt_or_eq with higher | same
  · exact Or.inl higher
  · exact Or.inr ⟨same, lt_of_le_of_ne (behind.2 same.symm) apart.symm⟩

structure BestOf (queue : SyscallQueue) (seen bestIdx : Nat) : Prop where
  inQueue : bestIdx < queue.length
  first : ∀ (other : Nat) (isOther : other < queue.length), other < seen → other ≠ bestIdx →
    Before rank age queue[bestIdx] queue[other]

/-- Requests carry different numbers. -/
def Numbered (queue : SyscallQueue) : Prop :=
  queue.Pairwise fun first second => age first < age second

variable {queue : SyscallQueue}

theorem Numbered.apart (numbered : Numbered queue) {left right : Nat}
    (leftIn : left < queue.length) (rightIn : right < queue.length) (differ : left ≠ right) :
    age queue[left] ≠ age queue[right] := by
  rw [Numbered, pairwise_iff_getElem] at numbered
  rcases Nat.lt_or_gt_of_ne differ with before | after
  · exact (numbered left right leftIn rightIn before).ne
  · exact (numbered right left rightIn leftIn after).ne'

/-- One step of the selection loop looks at one more request. -/
theorem BestOf.selectBetter (numbered : Numbered queue)
    {seen bestIdx : Nat} (best : BestOf queue seen bestIdx) (inBounds : seen < queue.length) :
    BestOf queue (seen + 1) (selectBetter queue bestIdx (queue[seen], seen)) := by
  rw [SyscallQueue.selectBetter, getElem?_eq_getElem best.inQueue]
  dsimp only
  split
  · next better =>
    refine ⟨inBounds, fun other isOther old isNew => ?_⟩
    have goesFirst := precedes_iff.mp better
    by_cases wasBest : other = bestIdx
    · subst wasBest
      exact goesFirst
    · exact goesFirst.trans (best.first other isOther (by omega) wasBest)
  · next behind =>
    refine ⟨best.inQueue, fun other isOther old isNew => ?_⟩
    by_cases isSeen : other = seen
    · subst isSeen
      exact before_of_not_precedes (numbered.apart inBounds best.inQueue isNew) behind
    · exact best.first other isOther (by omega) isNew

theorem BestOf.foldl (numbered : Numbered queue) {seen bestIdx : Nat}
    (best : BestOf queue seen bestIdx) :
    BestOf queue queue.length
      (((queue.drop seen).zipIdx seen).foldl (SyscallQueue.selectBetter queue) bestIdx) := by
  by_cases inBounds : seen < queue.length
  · rw [drop_eq_getElem_cons inBounds, zipIdx_cons, foldl_cons]
    exact BestOf.foldl numbered (best.selectBetter numbered inBounds)
  · rw [drop_eq_nil_of_le (by omega), zipIdx_nil, foldl_nil]
    exact ⟨best.inQueue, fun other isOther _ isNew => best.first other isOther (by omega) isNew⟩
  termination_by queue.length - seen

theorem bestIdx_best (numbered : Numbered queue) (nonempty : queue ≠ []) :
    BestOf queue queue.length (bestIdx queue) := by
  have start : BestOf queue 0 0 :=
    ⟨length_pos_of_ne_nil nonempty, fun _ _ old => absurd old (Nat.not_lt_zero _)⟩
  exact start.foldl numbered

theorem dequeue_first {queue rest : SyscallQueue} {request : SyscallRequest}
    (numbered : Numbered queue) (next : dequeue queue = some (request, rest)) :
    Numbered rest ∧ ∀ other ∈ rest, Before rank age request other := by
  by_cases empty : queue = []
  · subst empty
    cases next
  · have best := bestIdx_best numbered empty
    rw [dequeue, getElem?_eq_getElem best.inQueue] at next
    cases next
    refine ⟨numbered.sublist (eraseIdx_sublist _ _), fun other stays => ?_⟩
    obtain ⟨position, isOther, differs, rfl⟩ := mem_eraseIdx_iff_getElem.mp stays
    exact best.first position isOther isOther differs

theorem drainOrderFuel_pairwise {fuel : Nat} {queue : SyscallQueue}
    (enough : queue.length ≤ fuel) (numbered : Numbered queue) :
    (drainOrderFuel fuel queue).Pairwise (Before rank age) := by
  induction fuel generalizing queue with
  | zero => exact List.Pairwise.nil
  | succ fuel ih =>
    rw [drainOrderFuel]
    rcases dequeue_cases queue with ⟨rfl, nothing⟩ | ⟨request, rest, next, perm⟩
    · rw [nothing]
      exact List.Pairwise.nil
    · have shorter := perm.length_eq
      rw [length_cons] at shorter
      obtain ⟨restNumbered, first⟩ := dequeue_first numbered next
      have restPerm : (drainOrderFuel fuel rest).Perm rest := drainOrderFuel_perm (by omega)
      rw [next]
      apply pairwise_cons.mpr ⟨?_, ih (by omega) restNumbered⟩
      intro other membership
      exact first other (restPerm.mem_iff.mp membership)

theorem drainOrder_eq_sortByKey (numbered : Numbered queue) :
    drainOrder queue = sortByKey rank queue :=
  eq_sortByKey numbered (drainOrderFuel_pairwise (Nat.le_refl _) numbered) (drainOrder_perm queue)

end SyscallQueue

/-- The request queued for the submission at a position. -/
def Submission.request (submission : Submission × Nat) : SyscallRequest where
  syscallId := UInt64.ofNat (submission.2 + 1)
  stepId := submission.1.stepId
  kind := .capabilityCall
  capability := submission.1.capability
  input := submission.1.input
  priority := submission.1.priority
  seq := UInt64.ofNat (submission.2 + 1)

namespace SyscallScheduler

def submitAll (scheduler : SyscallScheduler) (submissions : List Submission) :
    SyscallScheduler :=
  submissions.foldl (fun scheduler submission =>
    scheduler.submit submission.stepId submission.capability submission.input
      submission.priority) scheduler

/-- Submitting appends the requests with consecutive numbers. -/
theorem submitAll_from {scheduler : SyscallScheduler} {count : Nat}
    (counted : scheduler.counter = UInt64.ofNat count) (submissions : List Submission) :
    (scheduler.submitAll submissions).queue =
      scheduler.queue ++ (submissions.zipIdx count).map Submission.request := by
  induction submissions generalizing scheduler count with
  | nil => simp [submitAll]
  | cons submission rest ih =>
    have next : scheduler.counter + 1 = UInt64.ofNat (count + 1) := by
      rw [counted, UInt64.ofNat_add]
      rfl
    rw [submitAll, foldl_cons]
    refine (ih (by exact next)).trans ?_
    rw [submit, zipIdx_cons, map_cons, append_assoc, next]
    rfl

theorem queue_submitAll (submissions : List Submission) :
    (submitAll {} submissions).queue = submissions.zipIdx.map Submission.request := by
  have counted : (SyscallScheduler.counter {}) = UInt64.ofNat 0 := rfl
  rw [submitAll_from counted, nil_append]

theorem numbered_submitAll {submissions : List Submission} (few : submissions.length < 2 ^ 64) :
    SyscallQueue.Numbered (submitAll {} submissions).queue := by
  rw [queue_submitAll, SyscallQueue.Numbered, pairwise_map, pairwise_iff_getElem]
  intro left right leftIn rightIn before
  rw [length_zipIdx] at leftIn rightIn
  simp only [getElem_zipIdx, SyscallQueue.age, Submission.request, UInt64.toNat_ofNat']
  rw [Nat.mod_eq_of_lt (by omega), Nat.mod_eq_of_lt (by omega)]
  omega

/-! ## Executing along the order -/

inductive Answered (executor : SyscallRequest → Effect World (String × UInt64)) :
    List SyscallRequest → List (String × UInt64) → World → World → Prop where
  | nil (world : World) : Answered executor [] [] world world
  | cons {request : SyscallRequest} {requests : List SyscallRequest}
      {result : String × UInt64} {results : List (String × UInt64)} {before middle after : World}
      (answered : executor request before = (.ok result, middle))
      (rest : Answered executor requests results middle after) :
      Answered executor (request :: requests) (result :: results) before after

variable {executor : SyscallRequest → Effect World (String × UInt64)}

theorem executeAll_cases (requests : List SyscallRequest) (before : World) :
    (∃ results after, Answered executor requests results before after ∧
      executeAll executor requests before = (.ok (requests.zipWith respond results), after)) ∨
    ∃ earlier failed later results middle message after, requests = earlier ++ failed :: later ∧
      Answered executor earlier results before middle ∧
      executor failed middle = (.error message, after) ∧
      executeAll executor requests before = (.error message, after) := by
  induction requests generalizing before with
  | nil => exact Or.inl ⟨[], before, .nil before, rfl⟩
  | cons request rest ih =>
    rw [executeAll]
    cases ended : executor request before with
    | mk answer middle =>
      cases answer with
      | error message =>
        refine Or.inr ⟨[], request, rest, [], before, message, middle, rfl, .nil before, ended, ?_⟩
        rw [Effect.bind_of_error ended]
      | ok result =>
        rw [Effect.bind_of_ok ended]
        rcases ih middle with ⟨results, after, answered, ran⟩ |
          ⟨earlier, failed, later, results, stopped, message, after, shape, answered, fails, ran⟩
        · refine Or.inl ⟨result :: results, after, .cons ended answered, ?_⟩
          rw [Effect.bind_of_ok ran]
          rfl
        · refine Or.inr ⟨request :: earlier, failed, later, result :: results, stopped,
            message, after, congrArg (request :: ·) shape, .cons ended answered, fails, ?_⟩
          rw [Effect.bind_of_error ran]

/-- Higher priority first, and by position among equals. -/
def Submission.Precedes (first second : Submission × Nat) : Prop :=
  second.1.priority < first.1.priority ∨
    (first.1.priority = second.1.priority ∧ first.2 < second.2)

/-- The submissions with their positions in the order of a drain. -/
def drained (submissions : List Submission) : List (Submission × Nat) :=
  sortByKey (fun submission => SyscallQueue.rank (Submission.request submission))
    submissions.zipIdx

theorem pairwise_drained (submissions : List Submission) :
    (drained submissions).Pairwise Submission.Precedes := by
  have numbered : submissions.zipIdx.Pairwise fun first second => first.2 < second.2 := by
    rw [pairwise_iff_getElem]
    intro left right leftIn rightIn before
    simpa only [getElem_zipIdx, Nat.zero_add] using before
  have sorted : (drained submissions).Pairwise
      (Before (fun submission => SyscallQueue.rank (Submission.request submission)) Prod.snd) :=
    before_sortByKey numbered
  apply sorted.imp
  intro first second goesFirst
  rcases goesFirst with higher | ⟨same, earlier⟩
  · exact Or.inl (UInt8.lt_iff_toNat_lt.mpr higher)
  · exact Or.inr ⟨UInt8.toNat_inj.mp same, earlier⟩

theorem drainOrder_submitAll {submissions : List Submission} (few : submissions.length < 2 ^ 64) :
    SyscallQueue.drainOrder (submitAll {} submissions).queue =
      (drained submissions).map Submission.request := by
  rw [SyscallQueue.drainOrder_eq_sortByKey (numbered_submitAll few), queue_submitAll,
    sortByKey_map, drained]

/-- Draining answers the submissions by falling priority and, within one priority, in
the order in which they were submitted.  An executor that fails is called on a prefix of
this order only. -/
theorem drain_in_order (submissions : List Submission) (few : submissions.length < 2 ^ 64)
    (executor : SyscallRequest → Effect World (String × UInt64)) (before : World) :
    ∃ order : List (Submission × Nat),
      order.Perm submissions.zipIdx ∧ order.Pairwise Submission.Precedes ∧
      ((∀ request world, ∃ result after, executor request world = (.ok result, after)) →
        ∃ results after, Answered executor (order.map Submission.request) results before after ∧
          (submitAll {} submissions).drain executor before =
            (.ok ((order.map Submission.request).zipWith respond results), after)) ∧
      ∀ message after, (submitAll {} submissions).drain executor before = (.error message, after) →
        ∃ earlier failed later results middle, order = earlier ++ failed :: later ∧
          Answered executor (earlier.map Submission.request) results before middle ∧
          executor (Submission.request failed) middle = (.error message, after) := by
  refine ⟨drained submissions, sortByKey_perm _ _, pairwise_drained submissions, ?_⟩
  rw [drain_eq_executeAll, drainOrder_submitAll few]
  rcases @executeAll_cases _ executor ((drained submissions).map Submission.request)
      before with ⟨results, final, answered, ran⟩ |
    ⟨earlier, failed, later, results, middle, reason, final, shape, answered, fails, ran⟩
  · refine ⟨fun _ => ⟨results, final, answered, ran⟩, fun message after failing => ?_⟩
    rw [ran] at failing
    cases failing
  · constructor
    · intro neverFails
      obtain ⟨result, after, succeeds⟩ := neverFails failed middle
      rw [fails] at succeeds
      cases succeeds
    · intro message after failing
      rw [ran] at failing
      cases failing
      obtain ⟨first, others, isOrder, rfl, rest⟩ := map_eq_append_iff.mp shape
      obtain ⟨stopped, last, rfl, rfl, rfl⟩ := map_eq_cons_iff.mp rest
      exact ⟨first, stopped, last, results, middle, isOrder, answered, fails⟩

/-- Three submissions, the second one urgent. -/
def threeSubmissions : List Submission :=
  [⟨"s1", "x", "i1", 1⟩, ⟨"s2", "x", "i2", 5⟩, ⟨"s3", "x", "i3", 1⟩]

/-- An executor that answers with the step and keeps no state. -/
def echoStep (request : SyscallRequest) : Effect Unit (String × UInt64) :=
  pure (request.stepId, 1)

theorem three_drained_in_order :
    ∃ (order : List (Submission × Nat)) (results : List (String × UInt64)),
      order.Perm threeSubmissions.zipIdx ∧ order.Pairwise Submission.Precedes ∧
      (submitAll {} threeSubmissions).drain echoStep () =
        (.ok ((order.map Submission.request).zipWith respond results), ()) := by
  obtain ⟨order, perm, sorted, succeeds, -⟩ :=
    drain_in_order threeSubmissions (by decide) echoStep ()
  obtain ⟨results, after, answered, ran⟩ :=
    succeeds fun request world => ⟨(request.stepId, 1), world, rfl⟩
  exact ⟨order, results, perm, sorted, ran⟩

end SyscallScheduler

end AutoLoop.NoumenonCore
