import AutoLoop.Foundation.Json
import Mathlib.Algebra.Ring.Nat

/-!
# The tool execution stack

An executor is invoked until it succeeds, fails in a way that is not worth a retry, or has
used up its retries.  The attempts are counted in a byte that saturates, so that the count
and the bound on it part once all values of a byte are used.
-/

namespace AutoLoop.Runtime

inductive ToolDegradeStrategy where
  | off
  | bestEffortFallback
  deriving DecidableEq, Repr

/-- `{:?}`. -/
def ToolDegradeStrategy.debug : ToolDegradeStrategy → String
  | off => "Off"
  | bestEffortFallback => "BestEffortFallback"

structure ToolReliabilityPolicy where
  timeoutMs : UInt64
  maxRetries : UInt8
  retryBackoffMs : UInt64
  circuitFailureThreshold : UInt8
  degradeStrategy : ToolDegradeStrategy
  deriving DecidableEq, Repr

structure ToolReliabilityReport where
  policy : ToolReliabilityPolicy
  attempts : UInt8
  retriesUsed : UInt8
  timedOutAttempts : UInt8
  circuitTripSuggested : Bool
  degraded : Bool
  finalStatus : String
  lastError : Option String
  deriving DecidableEq, Repr

structure ToolExecutionObservation where
  layer : String
  status : String
  detail : String
  deriving DecidableEq, Repr

structure ToolExecutionPipelineResult where
  content : String
  observations : List ToolExecutionObservation
  reliability : ToolReliabilityReport
  deriving DecidableEq, Repr

inductive ExecutorEnd where
  | answers (result : Except String String)
  /-- Not before the timeout; without one, not at all. -/
  | hangs

def ExecutorEnd.isTimeout : ExecutorEnd → Bool
  | answers _ => false
  | hangs => true

/-- `u8::saturating_add(1)`. -/
def countUp (count : UInt8) : UInt8 := if count = 255 then 255 else count + 1

/-- `u8::saturating_sub(1)`. -/
def countDown (count : UInt8) : UInt8 := if count = 0 then 0 else count - 1

def isRetryableError (text : String) : Bool :=
  let lowered := Text.toAsciiLowercase text
  ["timeout", "temporar", "unavailable", "connection", "reset", "refused", "429", "rate limit",
    "throttle"].any (Text.contains lowered)

namespace ToolReliabilityPolicy

section
variable (policy : ToolReliabilityPolicy)

/-- `retry_backoff_ms.saturating_mul(attempts).max(1)`. -/
def backoffMs (attempts : UInt8) : Nat :=
  max (min (policy.retryBackoffMs.toNat * attempts.toNat) (2 ^ 64 - 1)) 1

def detail : String :=
  "policy timeout_ms=" ++ policy.timeoutMs.toNat.repr ++ " max_retries=" ++
    policy.maxRetries.toNat.repr ++ " backoff_ms=" ++ policy.retryBackoffMs.toNat.repr ++
    " circuit_threshold=" ++ policy.circuitFailureThreshold.toNat.repr ++ " degrade=" ++
    policy.degradeStrategy.debug

/-- What an invocation comes to under the timeout; nothing when it is awaited for ever. -/
def settled : ExecutorEnd → Option (Except String String)
  | .answers result => some result
  | .hangs =>
    if policy.timeoutMs = 0 then none
    else some (.error ("tool execution timeout after " ++ policy.timeoutMs.toNat.repr ++ "ms"))

end

end ToolReliabilityPolicy

/-! ## The loop -/

/-- The variables of the loop, and the number of invocations made. -/
structure ToolAttempts where
  observations : List ToolExecutionObservation
  attempts : UInt8 := 0
  retriesUsed : UInt8 := 0
  timedOutAttempts : UInt8 := 0
  failedAttempts : UInt8 := 0
  lastError : Option String := none
  content : Option String := none
  invocations : Nat := 0
  deriving DecidableEq, Repr

namespace ToolAttempts

/-- Whether an error is retried by the loop. -/
def retries (policy : ToolReliabilityPolicy) (attempts : UInt8) (error : String) : Bool :=
  isRetryableError error && decide (countDown attempts < policy.maxRetries)

def start (state : ToolAttempts) : ToolAttempts :=
  { state with
    attempts := countUp state.attempts
    invocations := state.invocations + 1
    observations := state.observations ++
      [⟨"reliability", "running", "attempt " ++ (countUp state.attempts).toNat.repr ++ " started"⟩] }

def succeed (state : ToolAttempts) (output : String) : ToolAttempts :=
  { state with
    content := some output
    observations := state.observations ++ [⟨"executor", "ok",
      "tool execution succeeded on attempt " ++ state.attempts.toNat.repr⟩] }

def fail (state : ToolAttempts) (isTimeout : Bool) (error : String) : ToolAttempts :=
  { state with
    timedOutAttempts := if isTimeout then countUp state.timedOutAttempts
      else state.timedOutAttempts
    failedAttempts := countUp state.failedAttempts
    lastError := some error
    observations := state.observations ++ [⟨"executor", "failed",
      "attempt " ++ state.attempts.toNat.repr ++ " failed: " ++ error⟩] }

def scheduleRetry (policy : ToolReliabilityPolicy) (state : ToolAttempts) : ToolAttempts :=
  { state with
    retriesUsed := countUp state.retriesUsed
    observations := state.observations ++ [⟨"reliability", "retry",
      "retry scheduled after " ++ (policy.backoffMs state.attempts).repr ++ "ms"⟩] }

/-- One turn of the loop, and whether the loop goes on; none when the invocation does not end. -/
def turn (policy : ToolReliabilityPolicy) (invoked : ExecutorEnd) (state : ToolAttempts) :
    Option (ToolAttempts × Bool) :=
  match policy.settled invoked with
  | none => none
  | some (.ok output) => some (state.start.succeed output, false)
  | some (.error error) =>
    let failed := state.start.fail invoked.isTimeout error
    if retries policy failed.attempts error then some (failed.scheduleRetry policy, true)
    else some (failed, false)

/-- The loop, as long as there is fuel; the executor ends its invocations by their number. -/
def turns (policy : ToolReliabilityPolicy) (executor : Nat → ExecutorEnd) :
    Nat → ToolAttempts → Option ToolAttempts
  | 0, _ => none
  | fuel + 1, state =>
    if state.attempts ≤ policy.maxRetries then
      match turn policy (executor state.invocations) state with
      | none => none
      | some (state, true) => turns policy executor fuel state
      | some (state, false) => some state
    else some state

end ToolAttempts

def ToolReliabilityReport.detail (report : ToolReliabilityReport) : String :=
  Json.object [("attempts", report.attempts.toNat.repr),
    ("circuit_trip_suggested", toString report.circuitTripSuggested),
    ("degraded", toString report.degraded), ("final_status", Json.quote report.finalStatus),
    ("retries_used", report.retriesUsed.toNat.repr),
    ("timed_out_attempts", report.timedOutAttempts.toNat.repr)]

section
variable (toolName : String) (policy : ToolReliabilityPolicy)

/-- The result after the loop, before it is stored. -/
def toolPipelineResult (ended : ToolAttempts) : Except String ToolExecutionPipelineResult :=
  let circuitTripSuggested := decide (max policy.circuitFailureThreshold 1 ≤ ended.failedAttempts)
  let observations := ended.observations ++
    if circuitTripSuggested then
      [⟨"reliability", "circuit", "failure threshold reached; circuit trip suggested"⟩]
    else []
  let result (content : String) (degraded : Bool) (finalStatus : String)
      (observations : List ToolExecutionObservation) : ToolExecutionPipelineResult :=
    let reliability := {
      policy
      attempts := ended.attempts
      retriesUsed := ended.retriesUsed
      timedOutAttempts := ended.timedOutAttempts
      circuitTripSuggested
      degraded
      finalStatus
      lastError := ended.lastError }
    { content
      reliability
      observations := observations ++
        [⟨"reliability", "ok", reliability.detail⟩,
          ⟨"observation", "ok", "execution observations collected"⟩,
          ⟨"commit", "ok", "side-effect commit prepared"⟩] }
  match ended.content, policy.degradeStrategy with
  | some value, _ => .ok (result value false "ok" observations)
  | none, .bestEffortFallback =>
    let reason := ended.lastError.getD "unknown tool failure"
    .ok (result ("degraded-tool-fallback: tool=" ++ toolName ++ " reason=\"" ++ reason ++ "\"")
      true "degraded" (observations ++
        [⟨"reliability", "degraded", "best-effort fallback activated: " ++ reason⟩]))
  | none, .off => .error (ended.lastError.getD "tool execution failed")

/-- The observations before the loop. -/
def openingObservations :
    List ToolExecutionObservation :=
  [⟨"registry", "ok", "tool selected: " ++ toolName⟩,
    ⟨"orchestrator", "ok", "execution pipeline started"⟩,
    ⟨"reliability", "ok", policy.detail⟩]

/-- The result with the number of invocations, if the loop ends within the fuel.  `stored` is
what the store answers when the result is written. -/
def runLayeredToolExecution
    (executor : Nat → ExecutorEnd) (stored : Except String Unit) (fuel : Nat) :
    Option (Except String ToolExecutionPipelineResult × Nat) :=
  (ToolAttempts.turns policy executor fuel
    { observations := openingObservations toolName policy }).map fun ended =>
      ((do
        let result ← toolPipelineResult toolName policy ended
        stored
        return result), ended.invocations)

end

/-! ## The law -/

/-- An invocation fails in a way that is worth a retry. -/
def ToolReliabilityPolicy.Retryable (policy : ToolReliabilityPolicy) (invoked : ExecutorEnd) :
    Prop :=
  ∃ error, policy.settled invoked = some (.error error) ∧ isRetryableError error = true

/-- The execution ends, within the invocations that the policy allows, with no invocation after
one that was not worth a retry, and what it reports counts them. -/
def BoundedRetries (toolName : String) (policy : ToolReliabilityPolicy)
    (executor : Nat → ExecutorEnd) (stored : Except String Unit) : Prop :=
  ∃ fuel result invocations,
    runLayeredToolExecution toolName policy executor stored fuel = some (result, invocations) ∧
      invocations ≤ policy.maxRetries.toNat + 1 ∧
      (∀ earlier, earlier + 1 < invocations → policy.Retryable (executor earlier)) ∧
      ∀ pipeline, result = .ok pipeline →
        pipeline.reliability.attempts.toNat = invocations ∧
          pipeline.reliability.retriesUsed.toNat = pipeline.reliability.attempts.toNat - 1

/-- No report comes of an execution that an invocation ended so: it failed and nothing stands in
for it, or the store refuses the result. -/
def Unreported (policy : ToolReliabilityPolicy) (invoked : ExecutorEnd)
    (stored : Except String Unit) : Prop :=
  ((∃ error, policy.settled invoked = some (.error error)) ∧ policy.degradeStrategy = .off) ∨
    ∃ error, stored = .error error

/-- An invocation ends the execution: those before it are retried, and it ends as one that is
not, or as the last that fewer than 255 retries allow.  The invocation after the 255th is one
too many for the count. -/
def EndsInTime (policy : ToolReliabilityPolicy) (executor : Nat → ExecutorEnd)
    (stored : Except String Unit) : Prop :=
  ∃ last ≤ policy.maxRetries.toNat, (∀ earlier < last, policy.Retryable (executor earlier)) ∧
    policy.settled (executor last) ≠ none ∧
    (¬policy.Retryable (executor last) ∨
      (last = policy.maxRetries.toNat ∧ policy.maxRetries.toNat < 255)) ∧
    (last < 255 ∨ Unreported policy (executor last) stored)

/-! ## Counting -/

theorem toNat_countUp (count : UInt8) : (countUp count).toNat = min (count.toNat + 1) 255 := by
  rw [countUp]
  have bounded := count.toNat_lt
  split
  · next isLast =>
    rw [isLast]
    rfl
  · next notLast =>
    have below : count.toNat ≠ 255 := fun same => notLast (UInt8.toNat_inj.mp same)
    rw [UInt8.toNat_add, UInt8.toNat_one]
    omega

theorem toNat_countDown (count : UInt8) : (countDown count).toNat = count.toNat - 1 := by
  rw [countDown]
  split
  · next isZero =>
    rw [isZero]
    rfl
  · next notZero =>
    have positive : count.toNat ≠ 0 := fun same => notZero (UInt8.toNat_inj.mp same)
    have bounded := count.toNat_lt
    rw [UInt8.toNat_sub, UInt8.toNat_one]
    omega

namespace ToolAttempts

/-- So many invocations have failed and been retried. -/
structure Retried (count : Nat) (state : ToolAttempts) : Prop where
  invocations : state.invocations = count
  attempts : state.attempts.toNat = min count 255
  retriesUsed : state.retriesUsed.toNat = min count 255
  content : state.content = none

variable {policy : ToolReliabilityPolicy} {executor : Nat → ExecutorEnd}
variable {state ended : ToolAttempts} {count fuel : Nat}

section
variable (retried : Retried count state) (allowed : count ≤ policy.maxRetries.toNat)
include retried allowed

theorem Retried.attempts_le : state.attempts ≤ policy.maxRetries := by
  rw [UInt8.le_iff_toNat_le, retried.attempts]
  omega

theorem Retried.turns_succ (retryable : policy.Retryable (executor count))
    (more : min (count + 1) 255 - 1 < policy.maxRetries.toNat) :
    ∃ next, Retried (count + 1) next ∧
      ∀ fuel, turns policy executor (fuel + 1) state = turns policy executor fuel next := by
  obtain ⟨error, settles, isRetryable⟩ := retryable
  have retries : retries policy (countUp state.attempts) error = true := by
    have below : countDown (countUp state.attempts) < policy.maxRetries := by
      rw [UInt8.lt_iff_toNat_lt, toNat_countDown, toNat_countUp, retried.attempts]
      omega
    rw [ToolAttempts.retries, isRetryable]
    exact decide_eq_true below
  let next := (state.start.fail (executor count).isTimeout error).scheduleRetry policy
  have isTurn : turn policy (executor count) state = some (next, true) := by
    rw [turn, settles]
    exact if_pos retries
  refine ⟨next, ⟨?_, ?_, ?_, ?_⟩, fun fuel => ?_⟩
  · exact congrArg (· + 1) retried.invocations
  · change (countUp state.attempts).toNat = _
    rw [toNat_countUp, retried.attempts]
    omega
  · change (countUp state.retriesUsed).toNat = _
    rw [toNat_countUp, retried.retriesUsed]
    omega
  · exact retried.content
  · rw [turns, if_pos (retried.attempts_le allowed), retried.invocations, isTurn]

end

theorem turns_retried (allowed : count ≤ policy.maxRetries.toNat)
    (retryable : ∀ earlier < count, policy.Retryable (executor earlier)) (start : Retried 0 state) :
    ∃ later, Retried count later ∧
      ∀ fuel, turns policy executor (fuel + count) state = turns policy executor fuel later := by
  induction count with
  | zero => exact ⟨state, start, fun _ => rfl⟩
  | succ count ih =>
    obtain ⟨later, retried, runs⟩ := ih (by omega) fun earlier before =>
      retryable earlier (by omega)
    have bounded := policy.maxRetries.toNat_lt
    obtain ⟨next, nextRetried, turn⟩ := retried.turns_succ (by omega)
      (retryable count (by omega)) (by omega)
    refine ⟨next, nextRetried, fun fuel => ?_⟩
    rw [← turn, ← runs]
    congr 1
    omega

section
variable (retried : Retried count state) (allowed : count ≤ policy.maxRetries.toNat)
include retried allowed

theorem Retried.turns_last {result : Except String String}
    (settles : policy.settled (executor count) = some result)
    (isLast : ¬policy.Retryable (executor count) ∨
      (count = policy.maxRetries.toNat ∧ policy.maxRetries.toNat < 255)) :
    ∃ ended, (∀ fuel, turns policy executor (fuel + 1) state = some ended) ∧
      ended.invocations = count + 1 ∧ ended.attempts.toNat = min (count + 1) 255 ∧
      ended.retriesUsed.toNat = min count 255 ∧ ended.content = result.toOption := by
  have attempts : (countUp state.attempts).toNat = min (count + 1) 255 := by
    rw [toNat_countUp, retried.attempts]
    omega
  have ends : ∀ ended, turn policy (executor count) state = some (ended, false) →
      ∀ fuel, turns policy executor (fuel + 1) state = some ended := by
    intro ended isTurn fuel
    rw [turns, if_pos (retried.attempts_le allowed), retried.invocations, isTurn]
  cases result with
  | ok output =>
    refine ⟨state.start.succeed output, ends _ ?_,
      congrArg (· + 1) retried.invocations, attempts, retried.retriesUsed, rfl⟩
    rw [turn, settles]
  | error error =>
    have retries : ¬retries policy (countUp state.attempts) error = true := by
      rw [ToolAttempts.retries, Bool.and_eq_true, decide_eq_true_iff]
      rintro ⟨isRetryable, below⟩
      rcases isLast with notRetryable | ⟨isMax, bounded⟩
      · exact notRetryable ⟨error, settles, isRetryable⟩
      · rw [UInt8.lt_iff_toNat_lt, toNat_countDown, attempts] at below
        omega
    refine ⟨state.start.fail (executor count).isTimeout error, ends _ ?_,
      congrArg (· + 1) retried.invocations, attempts, retried.retriesUsed, retried.content⟩
    rw [turn, settles]
    exact if_neg retries

/-- An invocation that is awaited for ever is the end of it. -/
theorem Retried.turns_stuck (stuck : policy.settled (executor count) = none)
    (fuel : Nat) : turns policy executor fuel state = none := by
  cases fuel with
  | zero => rfl
  | succ fuel =>
    rw [turns, if_pos (retried.attempts_le allowed), retried.invocations, turn, stuck]

end

theorem turns_add (more : Nat) (ends : turns policy executor fuel state = some ended) :
    turns policy executor (fuel + more) state = some ended := by
  induction fuel generalizing state with
  | zero => cases ends
  | succ fuel ih =>
    rw [Nat.succ_add]
    rw [turns] at ends ⊢
    by_cases within : state.attempts ≤ policy.maxRetries
    · rw [if_pos within] at ends ⊢
      cases isTurn : turn policy (executor state.invocations) state with
      | none =>
        rw [isTurn] at ends
        cases ends
      | some turned =>
        obtain ⟨next, goesOn⟩ := turned
        rw [isTurn] at ends
        cases goesOn with
        | true => exact ih ends
        | false => exact ends
    · rw [if_neg within] at ends ⊢
      exact ends

theorem invocations_turn {invoked : ExecutorEnd} {next : ToolAttempts} {goesOn : Bool}
    (isTurn : turn policy invoked state = some (next, goesOn)) :
    next.invocations = state.invocations + 1 := by
  rw [turn] at isTurn
  cases settles : policy.settled invoked with
  | none =>
    rw [settles] at isTurn
    cases isTurn
  | some result =>
    rw [settles] at isTurn
    cases result with
    | ok output =>
      cases isTurn
      rfl
    | error error =>
      dsimp only at isTurn
      split at isTurn <;> cases isTurn <;> rfl

/-- A loop that goes on makes another invocation. -/
theorem lt_invocations (ends : turns policy executor fuel state = some ended) :
    state.invocations ≤ ended.invocations ∧
      (state.attempts ≤ policy.maxRetries → state.invocations < ended.invocations) := by
  induction fuel generalizing state with
  | zero => cases ends
  | succ fuel ih =>
    rw [turns] at ends
    by_cases within : state.attempts ≤ policy.maxRetries
    · rw [if_pos within] at ends
      cases isTurn : turn policy (executor state.invocations) state with
      | none =>
        rw [isTurn] at ends
        cases ends
      | some turned =>
        obtain ⟨next, goesOn⟩ := turned
        have counted := invocations_turn isTurn
        rw [isTurn] at ends
        cases goesOn with
        | true =>
          have later := (ih ends).1
          omega
        | false =>
          cases ends
          omega
    · rw [if_neg within] at ends
      cases ends
      exact ⟨Nat.le_refl _, fun isWithin => absurd isWithin within⟩

end ToolAttempts

/-! ## The law of the retries -/

section Law

variable {toolName : String} {policy : ToolReliabilityPolicy} {executor : Nat → ExecutorEnd}
variable {stored : Except String Unit}

theorem toolPipelineResult_cases (ended : ToolAttempts) :
    (∃ pipeline, toolPipelineResult toolName policy ended = .ok pipeline ∧
      pipeline.reliability.attempts = ended.attempts ∧
      pipeline.reliability.retriesUsed = ended.retriesUsed ∧
      ¬(ended.content = none ∧ policy.degradeStrategy = .off)) ∨
    (∃ error, toolPipelineResult toolName policy ended = .error error) ∧
      ended.content = none ∧ policy.degradeStrategy = .off := by
  rw [toolPipelineResult]
  cases content : ended.content with
  | some value => exact Or.inl ⟨_, rfl, rfl, rfl, nofun⟩
  | none =>
    cases degrade : policy.degradeStrategy with
    | off => exact Or.inr ⟨⟨_, rfl⟩, rfl, rfl⟩
    | bestEffortFallback => exact Or.inl ⟨_, rfl, rfl, rfl, nofun⟩

def reported (toolName : String) (policy : ToolReliabilityPolicy) (stored : Except String Unit)
    (ended : ToolAttempts) : Except String ToolExecutionPipelineResult := do
  let result ← toolPipelineResult toolName policy ended
  stored
  return result

/-- What is returned counts what the loop has counted. -/
theorem reported_ok {ended : ToolAttempts} {pipeline : ToolExecutionPipelineResult}
    (isReported : reported toolName policy stored ended = .ok pipeline) :
    pipeline.reliability.attempts = ended.attempts ∧
      pipeline.reliability.retriesUsed = ended.retriesUsed ∧
      ¬(ended.content = none ∧ policy.degradeStrategy = .off) ∧ stored = .ok () := by
  rcases @toolPipelineResult_cases toolName policy ended with
    ⟨result, isResult, attempts, retriesUsed, hasContent⟩ | ⟨⟨error, isError⟩, -⟩
  · rw [reported, isResult] at isReported
    cases isStored : stored with
    | error error =>
      rw [isStored] at isReported
      cases isReported
    | ok =>
      rw [isStored] at isReported
      cases isReported
      exact ⟨attempts, retriesUsed, hasContent, rfl⟩
  · rw [reported, isError] at isReported
    cases isReported

theorem run_eq_turns (fuel : Nat) :
    runLayeredToolExecution toolName policy executor stored fuel =
      (ToolAttempts.turns policy executor fuel
        { observations := openingObservations toolName policy }).map fun ended =>
          (reported toolName policy stored ended, ended.invocations) := rfl

theorem endsInTime_of_bounded (boundedRetries : BoundedRetries toolName policy executor stored) :
    EndsInTime policy executor stored := by
  have begin : ToolAttempts.Retried 0
      { observations := openingObservations toolName policy } := ⟨rfl, rfl, rfl, rfl⟩
  have bounded := policy.maxRetries.toNat_lt
  obtain ⟨fuel, result, invocations, ran, few, -, counts⟩ := boundedRetries
  rw [run_eq_turns, Option.map_eq_some_iff] at ran
  obtain ⟨ended, ends, isResult⟩ := ran
  obtain ⟨rfl, rfl⟩ := Prod.mk.inj isResult
  by_cases allRetryable : ∀ earlier ≤ policy.maxRetries.toNat, policy.Retryable (executor earlier)
  · -- Every allowed invocation is worth a retry.
    by_cases below : policy.maxRetries.toNat < 255
    · obtain ⟨error, settles, -⟩ := allRetryable _ le_rfl
      refine ⟨_, le_rfl, fun earlier before => allRetryable earlier before.le, ?_,
        Or.inr ⟨rfl, below⟩, Or.inl below⟩
      rw [settles]
      exact Option.some_ne_none _
    · have isMax : policy.maxRetries.toNat = 255 := by omega
      have allowed : 255 ≤ policy.maxRetries.toNat := isMax.ge
      obtain ⟨later, retried, turned⟩ := ToolAttempts.turns_retried allowed
        (fun earlier before => allRetryable earlier (by omega)) begin
      have endsLater := ToolAttempts.turns_add 255 ends
      rw [turned] at endsLater
      cases fuel with
      | zero => cases endsLater
      | succ fuel =>
        obtain ⟨next, nextRetried, turn⟩ := retried.turns_succ (by omega)
          (allRetryable 255 (by omega)) (by omega)
        rw [turn] at endsLater
        have more := (ToolAttempts.lt_invocations endsLater).2 (by
          rw [UInt8.le_iff_toNat_le, nextRetried.attempts]
          omega)
        rw [nextRetried.invocations] at more
        omega
  · -- The first that is not worth a retry is the last.
    have someLast : ∃ last, last ≤ policy.maxRetries.toNat ∧
        ¬policy.Retryable (executor last) := by
      push Not at allRetryable
      exact allRetryable
    classical
    obtain ⟨allowed, notRetryable⟩ := Nat.find_spec someLast
    have before : ∀ earlier < Nat.find someLast, policy.Retryable (executor earlier) := by
      intro earlier isBefore
      by_contra stops
      exact Nat.find_min someLast isBefore ⟨by omega, stops⟩
    generalize Nat.find someLast = last at allowed notRetryable before
    obtain ⟨later, retried, turned⟩ := ToolAttempts.turns_retried allowed before begin
    have endsLater := ToolAttempts.turns_add last ends
    rw [turned] at endsLater
    cases settles : policy.settled (executor last) with
    | none =>
      rw [retried.turns_stuck allowed settles] at endsLater
      cases endsLater
    | some result =>
      refine ⟨last, allowed, before, by rw [settles]; exact Option.some_ne_none _,
        Or.inl notRetryable, ?_⟩
      by_cases inTime : last < 255
      · exact Or.inl inTime
      · obtain ⟨final, finalEnds, invocations, attempts, -, content⟩ :=
          retried.turns_last allowed settles (Or.inl notRetryable)
        have same : ended = final := by
          have longer := ToolAttempts.turns_add 1 endsLater
          rw [finalEnds] at longer
          exact (Option.some.inj longer).symm
        refine Or.inr ?_
        rcases @toolPipelineResult_cases toolName policy ended with
          ⟨pipeline, isPipeline, counted, -, -⟩ | ⟨-, noContent, isOff⟩
        · cases isStored : stored with
          | error error => exact Or.inr ⟨error, rfl⟩
          | ok =>
            have isReported : reported toolName policy stored ended = .ok pipeline := by
              rw [reported, isPipeline, isStored]
              rfl
            have reportedCount := (counts pipeline isReported).1
            rw [counted, same, attempts, invocations] at reportedCount
            omega
        · rw [same, content] at noContent
          cases result with
          | ok output => cases noContent
          | error error => exact Or.inl ⟨⟨error, settles⟩, isOff⟩

theorem bounded_of_endsInTime (inTime : EndsInTime policy executor stored) :
    BoundedRetries toolName policy executor stored := by
  have begin : ToolAttempts.Retried 0
      { observations := openingObservations toolName policy } := ⟨rfl, rfl, rfl, rfl⟩
  obtain ⟨last, allowed, before, settles, isLast, inTime⟩ := inTime
  obtain ⟨result, settles⟩ := Option.ne_none_iff_exists'.mp settles
  obtain ⟨later, retried, turned⟩ := ToolAttempts.turns_retried allowed before begin
  obtain ⟨ended, ends, invocations, attempts, retriesUsed, content⟩ :=
    retried.turns_last allowed settles isLast
  refine ⟨0 + 1 + last, reported toolName policy stored ended, ended.invocations, ?_, ?_, ?_, ?_⟩
  · rw [run_eq_turns, turned, ends]
    rfl
  · omega
  · exact fun earlier isEarlier => before earlier (by omega)
  · intro pipeline isReported
    obtain ⟨counted, retriesCounted, hasContent, isStored⟩ := reported_ok isReported
    have below : last < 255 := by
      rcases inTime with below | ⟨⟨error, isError⟩, isOff⟩ | ⟨error, refuses⟩
      · exact below
      · rw [settles] at isError
        cases isError
        exact absurd ⟨content, isOff⟩ hasContent
      · rw [refuses] at isStored
        cases isStored
    rw [counted, retriesCounted, attempts, retriesUsed, invocations]
    omega

/-- The execution ends in time exactly when an invocation ends it. -/
theorem bounded_retries_iff :
    BoundedRetries toolName policy executor stored ↔ EndsInTime policy executor stored :=
  ⟨endsInTime_of_bounded, bounded_of_endsInTime⟩

end Law

section Example

/-- A policy with all the retries that a byte counts. -/
def manyRetries : ToolReliabilityPolicy := ⟨90000, 255, 120, 3, .off⟩

/-- An executor that never gets better is invoked without end. -/
theorem many_retries_never_end :
    ¬∀ (toolName : String) (policy : ToolReliabilityPolicy) (executor : Nat → ExecutorEnd)
        (stored : Except String Unit), BoundedRetries toolName policy executor stored := by
  intro bounded
  have ends := endsInTime_of_bounded
    (bounded "tool" manyRetries (fun _ => .answers (.error "temporary unavailable")) (.ok ()))
  obtain ⟨last, -, -, -, notRetryable | ⟨-, below⟩, -⟩ := ends
  · exact notRetryable ⟨_, rfl, by decide⟩
  · exact absurd below (by decide)

end Example

end AutoLoop.Runtime
