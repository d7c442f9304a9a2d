import AutoLoop.Foundation.LinkedChain
import AutoLoop.Session.Workflow

/-!
# The audit trail of a workflow

The records that the sink has taken are the path of the machine as long as the sink
takes the record of every hop that changes the state.  A refused record leaves the
machine in the state of the hop.
-/

namespace AutoLoop.Session

open LinkedChain (Linked linked_snoc links)

namespace WorkflowMachine

variable {machine : WorkflowMachine} {target : WorkflowState} {signal : WorkflowSignal}
variable {reason : Option String}

/-- The records are a path of edges from the first state to the current one. -/
structure InStep (machine : WorkflowMachine) : Prop where
  linked : Linked (·.origin) (·.target) .intake machine.records
  ends : (links (·.target) .intake machine.records).getLast? = some machine.state
  edges : ∀ record ∈ machine.records, nextState record.origin record.signal = .ok record.target

section
variable (machine : WorkflowMachine) (call : WorkflowSignal × Option String)

/-- A signal that ends in an error leaves the state as it was. -/
def FailsInPlace : Prop :=
  (apply call.1 call.2 machine).1.isOk = false →
    (apply call.1 call.2 machine).2.state = machine.state

/-- The sink takes the record of every hop that changes the state. -/
def Answered : Prop :=
  if Verifies machine.state call.1 then
    machine.moment.accepts = true ∧ (machine.host (machine.hops + 1)).accepts = true
  else
    ∀ target, nextState machine.state call.1 = .ok target → target ≠ machine.state →
      machine.moment.accepts = true

end

theorem inStep_new (sessionId : String) (host : Nat → AuditMoment) :
    InStep (new sessionId host) where
  linked := trivial
  ends := rfl
  edges := fun _ membership => absurd membership List.not_mem_nil

theorem InStep.hopped_iff (inStep : InStep machine) (edge : nextState machine.state signal = .ok target) :
    InStep (machine.hopped target signal reason) ↔
      (target ≠ machine.state → machine.moment.accepts = true) := by
  constructor
  · intro after different
    by_contra refused
    have ends := after.ends
    rw [hopped, if_neg refused, inStep.ends] at ends
    exact different (Option.some.inj ends).symm
  · intro answered
    by_cases accepted : machine.moment.accepts = true
    · refine ⟨?_, ?_, ?_⟩
      · rw [hopped, if_pos accepted]
        exact linked_snoc.mpr ⟨inStep.linked, inStep.ends⟩
      · rw [hopped, if_pos accepted, links, List.map_append]
        simp [hopRecord, List.getLast?_cons]
      · intro record membership
        rw [hopped, if_pos accepted] at membership
        rcases List.mem_append.mp membership with earlier | isLast
        · exact inStep.edges record earlier
        · rw [List.mem_singleton.mp isLast]
          exact edge
    · have stays : target = machine.state := by
        by_contra different
        exact accepted (answered different)
      refine ⟨?_, ?_, ?_⟩
      · rw [hopped, if_neg accepted]
        exact inStep.linked
      · rw [hopped, if_neg accepted, stays]
        exact inStep.ends
      · rw [hopped, if_neg accepted]
        exact inStep.edges

/-- The edge of the hop to verification. -/
theorem nextState_of_verifies (verifies : Verifies machine.state signal) :
    nextState machine.state signal = .ok .verifying := by
  obtain ⟨isExecuting, verdict⟩ := verifies
  rw [isExecuting]
  cases verdict with
  | inl passed =>
    subst passed
    rfl
  | inr rejected =>
    subst rejected
    rfl

theorem InStep.apply_iff (inStep : InStep machine) (call : WorkflowSignal × Option String) :
    InStep (apply call.1 call.2 machine).2 ↔ Answered machine call := by
  obtain ⟨signal, reason⟩ := call
  have outcome := applied signal reason machine
  rw [Answered]
  generalize apply signal reason machine = ran at outcome ⊢
  obtain ⟨answer, after⟩ := ran
  simp only at outcome ⊢
  cases outcome with
  | refused error =>
    have single : ¬Verifies machine.state signal := by
      intro verifies
      rw [nextState_of_verifies verifies] at error
      cases error
    rw [if_neg single]
    refine ⟨fun _ target isNext => ?_, fun _ => inStep⟩
    rw [error] at isNext
    cases isNext
  | hop target isNext single =>
    rw [if_neg single]
    apply (inStep.hopped_iff isNext).trans
    constructor
    · intro answered other isOther different
      have same := isNext.symm.trans isOther
      cases same
      exact answered different
    · intro answered
      exact answered target isNext
  | unverified verifies refused =>
    have isNext := nextState_of_verifies verifies
    rw [if_pos verifies]
    apply (inStep.hopped_iff isNext).trans
    constructor
    · intro answered
      rw [answered (by rw [verifies.1]; exact nofun)] at refused
      cases refused
    · rintro ⟨accepted, -⟩
      rw [accepted] at refused
      cases refused
  | verified verifies accepted target isNext =>
    have first : InStep (machine.hopped .verifying signal none) :=
      (inStep.hopped_iff (nextState_of_verifies verifies)).mpr fun _ => accepted
    obtain ⟨other, isOther, different, -⟩ := nextState_verifying verifies.2
    have same := isNext.symm.trans isOther
    cases same
    rw [if_pos verifies]
    apply (first.hopped_iff isNext).trans
    exact ⟨fun answered => ⟨accepted, answered different⟩, fun answered _ => answered.2⟩

theorem Answered.failsInPlace {call : WorkflowSignal × Option String}
    (answered : Answered machine call) : FailsInPlace machine call := by
  obtain ⟨signal, reason⟩ := call
  have outcome := applied signal reason machine
  rw [FailsInPlace]
  rw [Answered] at answered
  generalize apply signal reason machine = ran at outcome ⊢
  obtain ⟨answer, after⟩ := ran
  simp only at outcome ⊢
  intro failed
  cases outcome with
  | refused error => rfl
  | hop target isNext single =>
    rw [if_neg single] at answered
    by_contra moved
    have accepted := answered target isNext moved
    rw [if_pos accepted] at failed
    cases failed
  | unverified verifies refused =>
    rw [if_pos verifies, refused] at answered
    cases answered.1
  | verified verifies accepted target isNext =>
    rw [if_pos verifies] at answered
    have second : (machine.hopped .verifying signal none).moment.accepts = true := answered.2
    rw [if_pos second] at failed
    cases failed

end WorkflowMachine

open WorkflowMachine

/-- The audit trail is the path of the machine, and errors leave the state as it was,
throughout a run exactly when the sink takes the record of every hop that changes the
state. -/
theorem audit_trail_is_run_iff (sessionId : String) (host : Nat → AuditMoment)
    (calls : List (WorkflowSignal × Option String)) :
    ((workflow sessionId host).Always InStep (new sessionId host) calls ∧
        (workflow sessionId host).EachStep FailsInPlace (new sessionId host) calls) ↔
      (workflow sessionId host).EachStep Answered (new sessionId host) calls := by
  have free : (workflow sessionId host).EachStep (fun _ _ => True) (new sessionId host) calls :=
    .of_forall (fun _ _ => trivial) _ _
  have exact : (workflow sessionId host).Always InStep (new sessionId host) calls ↔
      (workflow sessionId host).EachStep Answered (new sessionId host) calls :=
    Component.always_iff_eachStep (fun machine call inStep _ => inStep.apply_iff call)
      (inStep_new sessionId host) free
  rw [exact]
  constructor
  · exact And.left
  · intro each
    exact ⟨each, each.mono fun machine call answered => answered.failsInPlace⟩

/-- A sink that refuses the first record. -/
def refusesFirst : Nat → AuditMoment
  | 0 => ⟨0, false⟩
  | _ => ⟨0, true⟩

theorem refused_record_moves_machine :
    ¬∀ (sessionId : String) (host : Nat → AuditMoment)
        (calls : List (WorkflowSignal × Option String)),
      (workflow sessionId host).Always InStep (new sessionId host) calls ∧
        (workflow sessionId host).EachStep FailsInPlace (new sessionId host) calls := by
  intro always
  obtain ⟨-, failsInPlace, -⟩ := always "s" refusesFirst [(.intentReceived, none)]
  have stays := failsInPlace (by decide)
  revert stays
  decide

end AutoLoop.Session
