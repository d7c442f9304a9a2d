import AutoLoop.Foundation.Component
import AutoLoop.Foundation.Effect

/-!
# The workflow machine

The transition table of a session's workflow and the machine that follows it.  Each
hop changes the state first and then offers a record to the audit sink, which can
refuse it.
-/

namespace AutoLoop.Session

open Effect

inductive WorkflowState where
  | intake
  | policyReview
  | planned
  | scheduled
  | executing
  | verifying
  | closed
  | blocked
  deriving DecidableEq, Repr

inductive WorkflowSignal where
  | intentReceived
  | policyApproved
  | policyRejected
  | planCommitted
  | taskScheduled
  | executionStarted
  | executionFailed
  | runtimeBlocked
  | verifyPassed
  | verifyRejected
  | closed
  deriving DecidableEq, Repr

/-- `{:?}`. -/
def WorkflowState.debug : WorkflowState → String
  | .intake => "Intake"
  | .policyReview => "PolicyReview"
  | .planned => "Planned"
  | .scheduled => "Scheduled"
  | .executing => "Executing"
  | .verifying => "Verifying"
  | .closed => "Closed"
  | .blocked => "Blocked"

/-- `{:?}`. -/
def WorkflowSignal.debug : WorkflowSignal → String
  | .intentReceived => "IntentReceived"
  | .policyApproved => "PolicyApproved"
  | .policyRejected => "PolicyRejected"
  | .planCommitted => "PlanCommitted"
  | .taskScheduled => "TaskScheduled"
  | .executionStarted => "ExecutionStarted"
  | .executionFailed => "ExecutionFailed"
  | .runtimeBlocked => "RuntimeBlocked"
  | .verifyPassed => "VerifyPassed"
  | .verifyRejected => "VerifyRejected"
  | .closed => "Closed"

section
variable (origin : WorkflowState) (signal : WorkflowSignal)

/-- The text of a `TransitionError`. -/
def transitionError : String :=
  "invalid workflow transition: " ++ origin.debug ++ " --(" ++ signal.debug ++ ")-> ?"

def nextState :
    Except String WorkflowState :=
  match origin, signal with
  | .intake, .intentReceived => .ok .policyReview
  | .policyReview, .policyApproved => .ok .planned
  | .policyReview, .policyRejected => .ok .policyReview
  | .planned, .planCommitted => .ok .scheduled
  | .scheduled, .taskScheduled => .ok .executing
  | .executing, .executionStarted => .ok .executing
  | .executing, .executionFailed => .ok .planned
  | .executing, .runtimeBlocked => .ok .blocked
  | .executing, .verifyPassed => .ok .verifying
  | .executing, .verifyRejected => .ok .verifying
  | .verifying, .verifyRejected => .ok .planned
  | .verifying, .verifyPassed => .ok .closed
  | .blocked, .policyApproved => .ok .planned
  | .closed, .closed => .ok .closed
  | _, .closed => .ok .closed
  | .executing, .taskScheduled => .ok .executing
  | .executing, .planCommitted => .ok .executing
  | .executing, .policyRejected => .ok .planned
  | .executing, .policyApproved => .ok .executing
  | .scheduled, .executionStarted => .ok .executing
  | .planned, .taskScheduled => .ok .scheduled
  | .planned, .verifyRejected => .ok .planned
  | .planned, .policyRejected => .ok .policyReview
  | .closed, .verifyRejected => .ok .planned
  | .closed, .verifyPassed => .ok .closed
  | origin, signal => .error (transitionError origin signal)

end

/-- `StateTransition` and `TransitionRecord`, which have the same fields. -/
structure TransitionRecord where
  sessionId : String
  origin : WorkflowState
  signal : WorkflowSignal
  target : WorkflowState
  timestampMs : UInt64
  reason : Option String
  deriving DecidableEq, Repr

/-- What a hop finds: the clock, and whether the sink takes the record. -/
structure AuditMoment where
  nowMs : UInt64
  accepts : Bool
  deriving DecidableEq, Repr

/-- A machine with what its sink has taken, on a host with one moment for each hop. -/
structure WorkflowMachine where
  sessionId : String
  state : WorkflowState
  records : List TransitionRecord
  host : Nat → AuditMoment
  hops : Nat

namespace WorkflowMachine

def new (sessionId : String) (host : Nat → AuditMoment) : WorkflowMachine :=
  ⟨sessionId, .intake, [], host, 0⟩

def moment (machine : WorkflowMachine) : AuditMoment := machine.host machine.hops

def hopRecord (machine : WorkflowMachine) (target : WorkflowState) (signal : WorkflowSignal)
    (reason : Option String) : TransitionRecord :=
  ⟨machine.sessionId, machine.state, signal, target, machine.moment.nowMs, reason⟩

def applySingle (target : WorkflowState) (signal : WorkflowSignal) (reason : Option String) :
    Effect WorkflowMachine TransitionRecord := fun machine =>
  -- The state is set before the sink is asked.
  let moved := { machine with state := target, hops := machine.hops + 1 }
  if machine.moment.accepts then
    (.ok (machine.hopRecord target signal reason),
      { moved with records := machine.records ++ [machine.hopRecord target signal reason] })
  else
    (.error (transitionError machine.state signal), moved)

/-- The hop to verification and on from there. -/
def applyVerify (signal : WorkflowSignal) (reason : Option String) :
    Effect WorkflowMachine TransitionRecord := do
  let verifyHop ← applySingle .verifying signal none
  let target ← ofExcept (nextState .verifying signal)
  let finalStep ← applySingle target signal reason
  return { finalStep with origin := verifyHop.origin }

/-- Whether a signal takes two hops. -/
def Verifies (state : WorkflowState) (signal : WorkflowSignal) : Prop :=
  state = .executing ∧ (signal = .verifyPassed ∨ signal = .verifyRejected)

instance (state : WorkflowState) (signal : WorkflowSignal) : Decidable (Verifies state signal) :=
  inferInstanceAs (Decidable (_ ∧ _))

def apply (signal : WorkflowSignal) (reason : Option String) :
    Effect WorkflowMachine TransitionRecord := fun machine =>
  if Verifies machine.state signal then
    applyVerify signal reason machine
  else
    (do
      let target ← ofExcept (nextState machine.state signal)
      applySingle target signal reason : Effect WorkflowMachine TransitionRecord) machine

/-! ## What an application does -/

variable {machine : WorkflowMachine} {target : WorkflowState} {signal : WorkflowSignal}
variable {reason : Option String}

/-- The machine after a hop. -/
def hopped (machine : WorkflowMachine) (target : WorkflowState) (signal : WorkflowSignal)
    (reason : Option String) : WorkflowMachine where
  sessionId := machine.sessionId
  state := target
  records :=
    if machine.moment.accepts then machine.records ++ [machine.hopRecord target signal reason]
    else machine.records
  host := machine.host
  hops := machine.hops + 1

theorem applySingle_apply (target : WorkflowState) (signal : WorkflowSignal)
    (reason : Option String) (machine : WorkflowMachine) :
    applySingle target signal reason machine =
      (if machine.moment.accepts then .ok (machine.hopRecord target signal reason)
        else .error (transitionError machine.state signal),
        machine.hopped target signal reason) := by
  rw [applySingle, hopped]
  split
  · rfl
  · rfl

/-- What is left behind by a signal, and how it ends. -/
inductive Applied (signal : WorkflowSignal) (reason : Option String) (machine : WorkflowMachine) :
    Except String TransitionRecord → WorkflowMachine → Prop where
  | refused (error : nextState machine.state signal =
      .error (transitionError machine.state signal)) :
      Applied signal reason machine (.error (transitionError machine.state signal)) machine
  | hop (target : WorkflowState) (isNext : nextState machine.state signal = .ok target)
      (single : ¬Verifies machine.state signal) :
      Applied signal reason machine
        (if machine.moment.accepts then .ok (machine.hopRecord target signal reason)
          else .error (transitionError machine.state signal))
        (machine.hopped target signal reason)
  | unverified (verifies : Verifies machine.state signal)
      (refused : machine.moment.accepts = false) :
      Applied signal reason machine (.error (transitionError machine.state signal))
        (machine.hopped .verifying signal none)
  | verified (verifies : Verifies machine.state signal) (accepted : machine.moment.accepts = true)
      (target : WorkflowState) (isNext : nextState .verifying signal = .ok target) :
      Applied signal reason machine
        (if (machine.hopped .verifying signal none).moment.accepts then
          .ok { (machine.hopped .verifying signal none).hopRecord target signal reason with
            origin := .executing }
        else .error (transitionError .verifying signal))
        ((machine.hopped .verifying signal none).hopped target signal reason)

theorem nextState_cases (origin : WorkflowState) (signal : WorkflowSignal) :
    nextState origin signal = .error (transitionError origin signal) ∨
      ∃ target, nextState origin signal = .ok target := by
  cases answered : nextState origin signal with
  | ok target => exact Or.inr ⟨target, rfl⟩
  | error message =>
    left
    rw [← answered]
    revert answered
    cases origin <;> cases signal <;> first | exact fun _ => rfl | exact nofun

theorem nextState_verifying (verdict : signal = .verifyPassed ∨ signal = .verifyRejected) :
    ∃ target, nextState .verifying signal = .ok target ∧ target ≠ .verifying ∧ target ≠ .executing := by
  cases verdict with
  | inl passed =>
    subst passed
    exact ⟨.closed, rfl, nofun, nofun⟩
  | inr rejected =>
    subst rejected
    exact ⟨.planned, rfl, nofun, nofun⟩

theorem applied (signal : WorkflowSignal) (reason : Option String) (machine : WorkflowMachine) :
    Applied signal reason machine (apply signal reason machine).1
      (apply signal reason machine).2 := by
  rw [apply]
  split
  · next verifies =>
    rw [applyVerify]
    cases accepted : machine.moment.accepts with
    | false =>
      have failed : applySingle .verifying signal none machine =
          (.error (transitionError machine.state signal),
            machine.hopped .verifying signal none) := by
        rw [applySingle_apply, accepted]
        rfl
      rw [bind_of_error failed]
      exact .unverified verifies accepted
    | true =>
      have hop : applySingle .verifying signal none machine =
          (.ok (machine.hopRecord .verifying signal none),
            machine.hopped .verifying signal none) := by
        rw [applySingle_apply, accepted]
        rfl
      obtain ⟨target, isNext, -, -⟩ := nextState_verifying verifies.2
      have outcome := @Applied.verified signal reason machine verifies accepted target isNext
      rw [bind_of_ok hop, isNext]
      have origin : (machine.hopRecord .verifying signal none).origin = .executing :=
        verifies.1
      simp only [origin, bind_apply, ofExcept_apply, applySingle_apply]
      split at outcome
      · next second =>
        rw [if_pos second]
        exact outcome
      · next second =>
        rw [if_neg second]
        exact outcome
  · next single =>
    cases nextState_cases machine.state signal with
    | inl refused =>
      rw [refused]
      exact .refused refused
    | inr found =>
      obtain ⟨target, isNext⟩ := found
      rw [isNext, bind_of_ok (ofExcept_apply _ _), applySingle_apply]
      exact .hop target isNext single

end WorkflowMachine

/-- Signals applied one after another. -/
def workflow (sessionId : String) (host : Nat → AuditMoment) :
    Component WorkflowMachine (WorkflowSignal × Option String)
      (Except String TransitionRecord) where
  initial := .new sessionId host
  step := fun machine call => WorkflowMachine.apply call.1 call.2 machine

end AutoLoop.Session
