import AutoLoop.QueryEngine.QueryLoop
import Mathlib

/-!
# The law of a run

A run is compared with a trace of every attempt that its backend was asked for.  The
transitions form a chain to the one terminal state, each counter is the length of what it
counts, and the stream has a start and then a completion for each executed call.
-/

namespace AutoLoop.QueryEngine

open QueryLoopEngine LoopState Effect List Dispatched

variable {World α : Type}

/-! ## Tracing a backend -/

/-- One attempt of a step, and how it ended. -/
inductive BackendAttempt where
  | provider (answer : Except String LlmResponse)
  | tool (call : ToolCall) (answer : Except String String)

namespace BackendAttempt

def isProvider : BackendAttempt → Bool
  | .provider _ => true
  | .tool _ _ => false

end BackendAttempt

/-- A step that leaves its answer in the trace, a failure included. -/
def tracing (step : Effect World α) (attempt : Except String α → BackendAttempt) :
    Effect (World × List BackendAttempt) α := fun traced =>
  ((step traced.1).1, ((step traced.1).2, traced.2 ++ [attempt (step traced.1).1]))

/-- The backend with a trace of everything it was asked for. -/
def QueryLoopBackend.traced (backend : QueryLoopBackend World) :
    QueryLoopBackend (World × List BackendAttempt) where
  providerStep sessionId messages token :=
    tracing (backend.providerStep sessionId messages token) .provider
  toolStep sessionId call token := tracing (backend.toolStep sessionId call token) (.tool call)

/-- A step that ended in a value, after some attempts that failed. -/
structure RetriedStep (α : Type) where
  errors : List String
  value : α

def RetriedStep.attempts (step : RetriedStep α) (attempt : Except String α → BackendAttempt) :
    List BackendAttempt :=
  step.errors.map (fun error => attempt (.error error)) ++ [attempt (.ok step.value)]

/-- An executed call. -/
abbrev ToolRun : Type := ToolCall × RetriedStep String

def ToolRun.attempts (run : ToolRun) : List BackendAttempt :=
  run.2.attempts (.tool run.1)

/-- One iteration: the provider's step, and the calls that it led to. -/
structure Turn where
  provider : RetriedStep LlmResponse
  tools : List ToolRun

namespace Turn

def attempts (turn : Turn) : List BackendAttempt :=
  turn.provider.attempts .provider ++ turn.tools.flatMap ToolRun.attempts

/-- All calls of the response were executed, and no step was retried beyond its limit. -/
structure Within (config : QueryLoopConfig) (turn : Turn) : Prop where
  calls : turn.tools.map Prod.fst = turn.provider.value.toolCalls
  provider : turn.provider.errors.length ≤ config.providerRetryLimit
  tools : ∀ run ∈ turn.tools, run.2.errors.length ≤ config.toolRetryLimit

def retries (turn : Turn) : Nat := (turn.tools.map (·.2.errors.length)).sum

end Turn

/-! ## What is asked of a run -/

namespace QueryTurnState

def isTerminal (state : QueryTurnState) : Bool :=
  state = .completed || state = .maxIterationsReached

end QueryTurnState

/-- The transitions lead from one state to the other, each from where the last one ended. -/
def Moves : QueryTurnState → List TurnTransition → QueryTurnState → Prop
  | state, [], final => state = final
  | state, transition :: rest, final =>
    transition.origin = state ∧ Moves transition.target rest final

namespace QueryLoopStreamEvent

section
variable (event : QueryLoopStreamEvent)

def isStart : Bool := event.eventType = "tool_started"

def isCompletion : Bool := event.eventType = "tool_completed"

def call : String × String := (event.callId, event.toolName)

end

end QueryLoopStreamEvent

/-- Events `1` to `n` in order.  The starts and the completions are those of the runs, in
their order, and no completion comes before the start that belongs to it. -/
structure StreamLaw (runs : List ToolRun) (events : List QueryLoopStreamEvent) : Prop where
  sequence : events.map (·.sequence) = List.range' 1 events.length
  starts : (events.filter (·.isStart)).map (·.call) = runs.map fun run => (run.1.id, run.1.name)
  completions : (events.filter (·.isCompletion)).map (·.call) =
    runs.map fun run => (run.1.id, run.1.name)
  kinds : ∀ event ∈ events, event.isStart ∨ event.isCompletion
  balanced : ∀ before after, events = before ++ after →
    before.countP (·.isCompletion) ≤ before.countP (·.isStart)

structure RunLaw (config : QueryLoopConfig) (turns : List Turn) (attempts : List BackendAttempt)
    (output : QueryLoopOutput) : Prop where
  traced : attempts = turns.flatMap Turn.attempts
  within : ∀ turn ∈ turns, turn.Within config
  chain : Moves .initialized output.transitions output.state
  ends : ∃ before last, output.transitions = before ++ [last] ∧ last.target.isTerminal ∧
    ∀ transition ∈ before, transition.target.isTerminal = false
  invocations : attempts.countP (·.isProvider) =
    output.transitions.countP (·.target = .providerCall) + output.providerRetryCount
  providerRetries : output.providerRetryCount =
    (turns.map (·.provider.errors.length)).sum
  toolRetries : output.toolRetryCount = (turns.map Turn.retries).sum
  toolCalls : output.toolCallCount = output.toolEvents.length
  toolEvents : output.toolEvents =
    (turns.flatMap Turn.tools).map fun run => ⟨run.1.name, run.2.value⟩
  stream : StreamLaw (turns.flatMap Turn.tools) output.streamEvents

/-! ## Steps with retries -/

theorem retrying_traced {step : Effect World α} (attempt : Except String α → BackendAttempt)
    {attempts retriesUsed retries : Nat} {world final : World} {value : α}
    (ran : retrying step attempts retriesUsed world = (.ok (value, retries), final))
    (log : List BackendAttempt) :
    ∃ errors : List String, errors.length ≤ attempts ∧ retries = retriesUsed + errors.length ∧
      retrying (tracing step attempt) attempts retriesUsed (world, log) =
        (.ok (value, retries), (final, log ++ RetriedStep.attempts ⟨errors, value⟩ attempt)) := by
  induction attempts generalizing retriesUsed world log with
  | zero =>
    rw [retrying, bind_eq_ok] at ran
    obtain ⟨first, middle, answered, ends⟩ := ran
    cases ends
    have traced : tracing step attempt (world, log) =
        (.ok value, (final, log ++ [attempt (.ok value)])) := by
      rw [tracing, answered]
    refine ⟨[], le_rfl, rfl, ?_⟩
    rw [retrying, bind_of_ok traced]
    rfl
  | succ attempts ih =>
    rw [retrying, bind_apply, attempt_apply] at ran
    cases answered : step world with
    | mk answer middle =>
      rw [answered] at ran
      have traced : tracing step attempt (world, log) =
          (answer, (middle, log ++ [attempt answer])) := by
        rw [tracing, answered]
      cases answer with
      | ok first =>
        cases ran
        refine ⟨[], Nat.zero_le _, rfl, ?_⟩
        rw [retrying, bind_apply, attempt_apply, traced]
        rfl
      | error message =>
        obtain ⟨errors, few, isRetries, tracesRest⟩ := ih ran (log ++ [attempt (.error message)])
        refine ⟨message :: errors, Nat.succ_le_succ few, ?_, ?_⟩
        · rw [isRetries, length_cons]
          omega
        · rw [retrying, bind_apply, attempt_apply, traced]
          refine tracesRest.trans ?_
          simp [RetriedStep.attempts]

section Dispatch

variable (engine : QueryLoopEngine) (backend : QueryLoopBackend World)

/-- A run as `settleAll` answers it. -/
def ToolRun.settled (run : ToolRun) : ToolCall × Except String (String × Nat) :=
  (run.1, .ok (run.2.value, run.2.errors.length))

theorem settleAll_traced {sessionId token : String} {calls : List ToolCall}
    {settled : List (ToolCall × Except String (String × Nat))} {world final : World}
    {dispatched collected : Dispatched}
    (ran : engine.settleAll backend sessionId token calls world = (.ok settled, final))
    (isOk : collect dispatched settled = .ok collected) (log : List BackendAttempt) :
    ∃ runs : List ToolRun, settled = runs.map ToolRun.settled ∧ runs.map Prod.fst = calls ∧
      (∀ run ∈ runs, run.2.errors.length ≤ engine.config.toolRetryLimit) ∧
      engine.settleAll backend.traced sessionId token calls (world, log) =
        (.ok settled, (final, log ++ runs.flatMap ToolRun.attempts)) := by
  induction calls generalizing settled world dispatched log with
  | nil =>
    cases ran
    refine ⟨[], rfl, rfl, nofun, ?_⟩
    rw [flatMap_nil, append_nil]
    rfl
  | cons call rest ih =>
    rw [settleAll, bind_eq_ok] at ran
    obtain ⟨result, middle, first, ran⟩ := ran
    rw [bind_eq_ok] at ran
    obtain ⟨others, last, settles, ends⟩ := ran
    cases ends
    cases result with
    | error message => cases isOk
    | ok answer =>
      obtain ⟨output, retries⟩ := answer
      rw [attempt_apply, Prod.mk.injEq, Except.ok.injEq] at first
      have ranTool : retrying (backend.toolStep sessionId call token)
          engine.config.toolRetryLimit 0 world = (.ok (output, retries), middle) :=
        Prod.ext first.1 first.2
      obtain ⟨errors, few, isRetries, traces⟩ := retrying_traced (.tool call) ranTool log
      have attempted : Effect.attempt (engine.toolWithRetry backend.traced sessionId call token)
          (world, log) = (.ok (.ok (output, retries)),
            (middle, log ++ ToolRun.attempts (call, ⟨errors, output⟩))) := by
        rw [attempt_apply]
        change (Except.ok (retrying (tracing (backend.toolStep sessionId call token)
          (.tool call)) engine.config.toolRetryLimit 0 (world, log)).1,
          (retrying (tracing (backend.toolStep sessionId call token)
          (.tool call)) engine.config.toolRetryLimit 0 (world, log)).2) = _
        rw [traces]
        rfl
      obtain ⟨runs, rfl, areCalls, within, tracesRest⟩ := ih settles isOk
        (log ++ ToolRun.attempts (call, ⟨errors, output⟩))
      rw [Nat.zero_add] at isRetries
      subst isRetries
      refine ⟨(call, ⟨errors, output⟩) :: runs, rfl, by rw [map_cons, areCalls],
        forall_mem_cons.mpr ⟨few, within⟩, ?_⟩
      rw [settleAll, bind_of_ok attempted, bind_of_ok tracesRest, flatMap_cons, append_assoc]
      rfl

end Dispatch

/-- The completions of the runs, behind the given sequence number. -/
def completedEvents (sequence : Nat) : List ToolRun → List QueryLoopStreamEvent
  | [] => []
  | run :: rest =>
    ⟨"tool_completed", run.1.id, sequence + 1, run.1.name,
      Json.object [("is_error", "false"), ("output", Json.quote run.2.value)]⟩ ::
      completedEvents (sequence + 1) rest

theorem collect_settled (dispatched : Dispatched) (runs : List ToolRun) :
    collect dispatched (runs.map ToolRun.settled) = .ok {
      results := dispatched.results ++ runs.map fun run => (run.1, run.2.value)
      retries := dispatched.retries + (runs.map (·.2.errors.length)).sum
      sequence := dispatched.sequence + runs.length
      streamEvents := dispatched.streamEvents ++ completedEvents dispatched.sequence runs } := by
  induction runs generalizing dispatched with
  | nil => simp [collect, completedEvents]
  | cons run rest ih =>
    rw [map_cons, ToolRun.settled, collect, ih]
    simp [completedEvents, Nat.add_assoc, Nat.add_comm]

/-- What a dispatch of these runs ends in. -/
def QueryLoopEngine.Dispatched.ofRuns (startSequence : Nat) (runs : List ToolRun) : Dispatched where
  results := runs.map fun run => (run.1, run.2.value)
  retries := (runs.map (·.2.errors.length)).sum
  sequence := startSequence + runs.length + runs.length
  streamEvents := startEvents startSequence (runs.map Prod.fst) ++
    completedEvents (startSequence + runs.length) runs

theorem dispatch_traced (engine : QueryLoopEngine) (backend : QueryLoopBackend World)
    {sessionId token : String} {calls : List ToolCall} {startSequence : Nat} {world final : World}
    {dispatched : Dispatched}
    (ran : engine.dispatchToolsConcurrently backend sessionId calls token startSequence world =
      (.ok dispatched, final)) (log : List BackendAttempt) :
    ∃ runs : List ToolRun, runs.map Prod.fst = calls ∧
      (∀ run ∈ runs, run.2.errors.length ≤ engine.config.toolRetryLimit) ∧
      dispatched = ofRuns startSequence runs ∧
      engine.dispatchToolsConcurrently backend.traced sessionId calls token startSequence
        (world, log) = (.ok dispatched, (final, log ++ runs.flatMap ToolRun.attempts)) := by
  rw [dispatchToolsConcurrently, bind_eq_ok] at ran
  obtain ⟨settled, settledWorld, settles, collects⟩ := ran
  rw [ofExcept_apply, Prod.mk.injEq] at collects
  obtain ⟨collected, rfl⟩ := collects
  obtain ⟨runs, rfl, areCalls, within, traces⟩ := settleAll_traced engine backend settles
    collected log
  refine ⟨runs, areCalls, within, ?_, ?_⟩
  · rw [collect_settled, ← areCalls, length_map] at collected
    simp only [nil_append, Nat.zero_add, Except.ok.injEq] at collected
    exact collected.symm
  · rw [dispatchToolsConcurrently, bind_of_ok traces, ofExcept_apply, collected]

/-! ## The stream -/

section Stream

variable (sequence : Nat) (calls : List ToolCall) (runs : List ToolRun)

@[simp] theorem length_startEvents : (startEvents sequence calls).length = calls.length := by
  induction calls generalizing sequence with
  | nil => rfl
  | cons call rest ih => simp [startEvents, ih]

@[simp] theorem length_completedEvents : (completedEvents sequence runs).length = runs.length := by
  induction runs generalizing sequence with
  | nil => rfl
  | cons run rest ih => simp [completedEvents, ih]

theorem sequence_startEvents :
    (startEvents sequence calls).map (·.sequence) = List.range' (sequence + 1) calls.length := by
  induction calls generalizing sequence with
  | nil => rfl
  | cons call rest ih => simp [startEvents, ih, range'_succ]

theorem sequence_completedEvents :
    (completedEvents sequence runs).map (·.sequence) =
      List.range' (sequence + 1) runs.length := by
  induction runs generalizing sequence with
  | nil => rfl
  | cons run rest ih => simp [completedEvents, ih, range'_succ]

theorem call_startEvents :
    (startEvents sequence calls).map (·.call) = calls.map fun call => (call.id, call.name) := by
  induction calls generalizing sequence with
  | nil => rfl
  | cons call rest ih =>
    rw [startEvents, map_cons, ih, map_cons]
    rfl

theorem call_completedEvents :
    (completedEvents sequence runs).map (·.call) = runs.map fun run => (run.1.id, run.1.name) := by
  induction runs generalizing sequence with
  | nil => rfl
  | cons run rest ih =>
    rw [completedEvents, map_cons, ih, map_cons]
    rfl

variable {sequence calls runs}

theorem kind_startEvents :
    ∀ event ∈ startEvents sequence calls, event.isStart ∧ event.isCompletion = false := by
  induction calls generalizing sequence with
  | nil => exact nofun
  | cons call rest ih =>
    rw [startEvents, forall_mem_cons]
    exact ⟨⟨rfl, rfl⟩, ih⟩

theorem kind_completedEvents :
    ∀ event ∈ completedEvents sequence runs, event.isCompletion ∧ event.isStart = false := by
  induction runs generalizing sequence with
  | nil => exact nofun
  | cons run rest ih =>
    rw [completedEvents, forall_mem_cons]
    exact ⟨⟨rfl, rfl⟩, ih⟩

theorem streamLaw_nil : StreamLaw [] [] where
  sequence := rfl
  starts := rfl
  completions := rfl
  kinds := nofun
  balanced before after shape := by
    rw [(append_eq_nil_iff.mp shape.symm).1]
    exact le_rfl

variable {earlier added : List ToolRun} {events : List QueryLoopStreamEvent}

theorem StreamLaw.even (law : StreamLaw earlier events) :
    events.countP (·.isCompletion) = events.countP (·.isStart) := by
  have starts := congrArg List.length law.starts
  have completions := congrArg List.length law.completions
  simp only [length_map] at starts completions
  rw [countP_eq_length_filter, countP_eq_length_filter, completions, starts]

theorem StreamLaw.dispatch (law : StreamLaw earlier events) :
    StreamLaw (earlier ++ added) (events ++ (startEvents events.length (added.map Prod.fst) ++
      completedEvents (events.length + added.length) added)) := by
  have onlyStarts := @kind_startEvents events.length (added.map Prod.fst)
  have onlyCompletions := @kind_completedEvents (events.length + added.length) added
  constructor
  · rw [map_append, map_append, law.sequence, sequence_startEvents,
      sequence_completedEvents, length_append, length_append, length_startEvents,
      length_completedEvents, length_map, ← Nat.add_assoc, ← range'_append_1,
      ← range'_append_1, append_assoc, Nat.add_comm 1, Nat.add_right_comm]
    congr 3
    omega
  · have none : (completedEvents (events.length + added.length) added).filter (·.isStart) = [] := by
      rw [filter_eq_nil_iff]
      intro event membership
      simp [(onlyCompletions event membership).2]
    have all : (startEvents events.length (added.map Prod.fst)).filter (·.isStart) =
        startEvents events.length (added.map Prod.fst) := by
      rw [filter_eq_self]
      exact fun event membership => (onlyStarts event membership).1
    rw [filter_append, filter_append, none, all, append_nil, map_append,
      law.starts, call_startEvents, map_map, map_append]
    rfl
  · have none : (startEvents events.length (added.map Prod.fst)).filter (·.isCompletion) = [] := by
      rw [filter_eq_nil_iff]
      intro event membership
      simp [(onlyStarts event membership).2]
    have all : (completedEvents (events.length + added.length) added).filter (·.isCompletion) =
        completedEvents (events.length + added.length) added := by
      rw [filter_eq_self]
      exact fun event membership => (onlyCompletions event membership).1
    rw [filter_append, filter_append, none, all, nil_append, map_append,
      law.completions, call_completedEvents, map_append]
  · intro event membership
    rcases mem_append.mp membership with old | new
    · exact law.kinds event old
    · rcases mem_append.mp new with started | completed
      · exact Or.inl (onlyStarts event started).1
      · exact Or.inr (onlyCompletions event completed).1
  · intro before after shape
    have even := law.even
    rcases append_eq_append_iff.mp shape with ⟨more, rfl, isMore⟩ | ⟨more, isEvents, -⟩
    · rw [countP_append, countP_append, even]
      apply Nat.add_le_add_left
      rcases append_eq_append_iff.mp isMore with ⟨rest, rfl, isRest⟩ | ⟨rest, isStarts, -⟩
      · -- all calls are started, and not more than these can be completed
        have allStarted : (startEvents events.length (added.map Prod.fst)).countP (·.isStart) =
            added.length := by
          rw [countP_eq_length.mpr fun event membership => (onlyStarts event membership).1,
            length_startEvents, length_map]
        have noneCompleted : (startEvents events.length (added.map Prod.fst)).countP
            (·.isCompletion) = 0 := by
          rw [countP_eq_zero]
          intro event membership
          simp [(onlyStarts event membership).2]
        have few : rest.countP (·.isCompletion) ≤ added.length := by
          have lengths := congrArg List.length isRest
          rw [length_completedEvents, length_append] at lengths
          have some := countP_le_length (p := fun event => event.isCompletion) (l := rest)
          omega
        rw [countP_append, countP_append, allStarted, noneCompleted]
        omega
      · have noneCompleted : more.countP (·.isCompletion) = 0 := by
          rw [countP_eq_zero]
          intro event membership
          have inStarts : event ∈ startEvents events.length (added.map Prod.fst) := by
            rw [isStarts]
            exact mem_append_left rest membership
          simp [(onlyStarts event inStarts).2]
        rw [noneCompleted]
        exact Nat.zero_le _
    · exact law.balanced before more isEvents

end Stream

/-! ## The loop -/

theorem moves_snoc {state final : QueryTurnState} {transitions : List TurnTransition}
    {transition : TurnTransition} (moves : Moves state transitions transition.origin)
    (isFinal : transition.target = final) : Moves state (transitions ++ [transition]) final := by
  induction transitions generalizing state with
  | nil => exact ⟨moves.symm, isFinal⟩
  | cons first rest ih => exact ⟨moves.1, ih moves.2⟩

theorem countP_toolAttempts (run : ToolRun) : run.attempts.countP (·.isProvider) = 0 := by
  rw [countP_eq_zero]
  intro attempt membership
  rcases mem_append.mp membership with failed | succeeded
  · obtain ⟨error, -, rfl⟩ := mem_map.mp failed
    exact Bool.false_ne_true
  · rw [mem_singleton.mp succeeded]
    exact Bool.false_ne_true

theorem countP_attempts (turns : List Turn) :
    (turns.flatMap Turn.attempts).countP (·.isProvider) =
      turns.length + (turns.map (·.provider.errors.length)).sum := by
  induction turns with
  | nil => rfl
  | cons turn rest ih =>
    have ofTools : (turn.tools.flatMap ToolRun.attempts).countP (·.isProvider) = 0 := by
      rw [countP_eq_zero]
      intro attempt membership
      obtain ⟨run, -, isAttempt⟩ := mem_flatMap.mp membership
      exact countP_eq_zero.mp (countP_toolAttempts run) attempt isAttempt
    have ofProvider : (turn.provider.attempts .provider).countP (·.isProvider) =
        turn.provider.errors.length + 1 := by
      simp [RetriedStep.attempts, countP_map, BackendAttempt.isProvider, Function.comp_def]
    rw [flatMap_cons, countP_append, ih, Turn.attempts, countP_append, ofTools,
      ofProvider, length_cons, map_cons, sum_cons]
    omega

namespace QueryLoopEngine

variable {config : QueryLoopConfig} {loop : LoopState} {turns : List Turn}

/-- The state behind these turns, between two iterations. -/
structure LoopState.Consistent (config : QueryLoopConfig) (loop : LoopState) (turns : List Turn) :
    Prop where
  within : ∀ turn ∈ turns, turn.Within config
  chain : Moves .initialized loop.transitions loop.state
  running : ∀ transition ∈ loop.transitions, transition.target.isTerminal = false
  invocations : loop.transitions.countP (·.target = .providerCall) = turns.length
  providerRetries : loop.providerRetryCount = (turns.map (·.provider.errors.length)).sum
  toolRetries : loop.toolRetryCount = (turns.map Turn.retries).sum
  toolCalls : loop.toolCallCount = loop.toolEvents.length
  toolEvents : loop.toolEvents =
    (turns.flatMap Turn.tools).map fun run => ⟨run.1.name, run.2.value⟩
  stream : StreamLaw (turns.flatMap Turn.tools) loop.streamEvents
  eventSequence : loop.eventSequence = loop.streamEvents.length

theorem LoopState.consistent_started (compiled : CompiledContext) :
    Consistent config (started compiled) [] where
  within := nofun
  chain := by
    rw [started]
    split
    · exact ⟨rfl, rfl, rfl⟩
    · exact ⟨rfl, rfl⟩
  running := by
    rw [started]
    split
    · simp [QueryTurnState.isTerminal]
    · simp [QueryTurnState.isTerminal]
  invocations := by
    rw [started]
    split
    · rfl
    · rfl
  providerRetries := rfl
  toolRetries := rfl
  toolCalls := rfl
  toolEvents := rfl
  stream := streamLaw_nil
  eventSequence := rfl

namespace LoopState.Consistent

section
variable (consistent : loop.Consistent config turns)
include consistent

theorem ends {target : QueryTurnState}
    (terminal : target.isTerminal) (reason finalText : String) (iteration iterationCount : Nat) :
    RunLaw config turns (turns.flatMap Turn.attempts)
      ((loop.moveTo target reason iteration).finish finalText iterationCount) where
  traced := rfl
  within := consistent.within
  chain := moves_snoc consistent.chain rfl
  ends := ⟨loop.transitions, _, rfl, terminal, consistent.running⟩
  invocations := by
    have notProvider : target ≠ .providerCall := by
      rintro rfl
      cases terminal
    simp [finish, moveTo, countP_attempts, consistent.invocations,
      consistent.providerRetries, notProvider]
  providerRetries := consistent.providerRetries
  toolRetries := consistent.toolRetries
  toolCalls := consistent.toolCalls
  toolEvents := consistent.toolEvents
  stream := consistent.stream

section
variable {response : LlmResponse} {errors : List String}

theorem answered (few : errors.length ≤ config.providerRetryLimit)
    (noCalls : response.toolCalls = []) (iteration : Nat) :
    Consistent config
      { loop.moveTo .providerCall "invoke provider" iteration with
        providerRetryCount := loop.providerRetryCount + errors.length }
      (turns ++ [⟨⟨errors, response⟩, []⟩]) where
  within := by
    rw [forall_mem_append, forall_mem_singleton]
    exact ⟨consistent.within, noCalls.symm, few, nofun⟩
  chain := moves_snoc consistent.chain rfl
  running := by
    simp only [moveTo, forall_mem_append, forall_mem_singleton]
    exact ⟨consistent.running, rfl⟩
  invocations := by simp [moveTo, consistent.invocations]
  providerRetries := by simp [consistent.providerRetries]
  toolRetries := by simp [moveTo, consistent.toolRetries, Turn.retries]
  toolCalls := consistent.toolCalls
  toolEvents := by simp [moveTo, consistent.toolEvents]
  stream := by
    rw [flatMap_append, flatMap_singleton, append_nil]
    exact consistent.stream
  eventSequence := consistent.eventSequence

theorem dispatched {runs : List ToolRun}
    (within : Turn.Within config ⟨⟨errors, response⟩, runs⟩) (iteration : Nat) :
    Consistent config
      ((loop.moveTo .providerCall "invoke provider" iteration).afterDispatch response errors.length
        iteration (.ofRuns loop.eventSequence runs))
      (turns ++ [⟨⟨errors, response⟩, runs⟩]) where
  within := by
    rw [forall_mem_append, forall_mem_singleton]
    exact ⟨consistent.within, within⟩
  chain := moves_snoc (moves_snoc consistent.chain rfl) rfl
  running := by
    simp only [afterDispatch, moveTo, forall_mem_append, forall_mem_singleton]
    exact ⟨⟨consistent.running, rfl⟩, rfl⟩
  invocations := by simp [afterDispatch, moveTo, consistent.invocations]
  providerRetries := by
    simp [afterDispatch, moveTo, consistent.providerRetries]
  toolRetries := by
    simp [afterDispatch, moveTo, ofRuns, consistent.toolRetries, Turn.retries]
  toolCalls := by
    have calls : runs.length = response.toolCalls.length := by
      rw [← within.calls, length_map]
    simp [afterDispatch, moveTo, ofRuns, consistent.toolCalls, calls]
  toolEvents := by
    simp [afterDispatch, moveTo, ofRuns, consistent.toolEvents]
  stream := by
    rw [flatMap_append, flatMap_singleton, consistent.eventSequence]
    exact consistent.stream.dispatch
  eventSequence := by
    simp [afterDispatch, moveTo, ofRuns, consistent.eventSequence, Nat.add_assoc]

end

end

end LoopState.Consistent

section Runs

variable (engine : QueryLoopEngine) (backend : QueryLoopBackend World)

theorem iterate_traced {sessionId token : String} {left iteration : Nat} {loop : LoopState}
    {turns : List Turn} {world final : World} {output : QueryLoopOutput}
    (consistent : loop.Consistent engine.config turns)
    (ran : engine.iterate backend sessionId token left iteration loop world = (.ok output, final)) :
    ∃ all : List Turn, engine.iterate backend.traced sessionId token left iteration loop
          (world, turns.flatMap Turn.attempts) =
        (.ok output, (final, all.flatMap Turn.attempts)) ∧
      RunLaw engine.config all (all.flatMap Turn.attempts) output := by
  induction left generalizing iteration loop turns world with
  | zero =>
    cases ran
    exact ⟨turns, rfl, consistent.ends rfl _ _ _ _⟩
  | succ left ih =>
    rw [iterate, bind_eq_ok] at ran
    obtain ⟨⟨response, retries⟩, middle, responds, ran⟩ := ran
    obtain ⟨errors, few, isRetries, traces⟩ := retrying_traced .provider responds
      (turns.flatMap Turn.attempts)
    rw [Nat.zero_add] at isRetries
    subst isRetries
    have tracesProvider : engine.providerWithRetry backend.traced sessionId
        (loop.moveTo .providerCall "invoke provider" iteration).messages token
        (world, turns.flatMap Turn.attempts) = (.ok (response, errors.length), (middle,
          turns.flatMap Turn.attempts ++ RetriedStep.attempts ⟨errors, response⟩ .provider)) :=
      traces
    rw [iterate, bind_of_ok tracesProvider]
    simp only at ran ⊢
    split at ran
    · next noCalls =>
      cases ran
      rw [if_pos noCalls]
      refine ⟨turns ++ [⟨⟨errors, response⟩, []⟩], ?_,
        (consistent.answered few noCalls iteration).ends rfl _ _ _ _⟩
      rw [flatMap_append, flatMap_singleton, Turn.attempts, flatMap_nil, append_nil]
      rfl
    · next calls =>
      rw [if_neg calls]
      rw [bind_eq_ok] at ran
      obtain ⟨dispatched, last, dispatches, ran⟩ := ran
      obtain ⟨runs, areCalls, within, rfl, traces⟩ := dispatch_traced engine backend dispatches
        (turns.flatMap Turn.attempts ++ RetriedStep.attempts ⟨errors, response⟩ .provider)
      have isWithin : Turn.Within engine.config ⟨⟨errors, response⟩, runs⟩ :=
        ⟨areCalls, few, within⟩
      obtain ⟨all, tracesRest, law⟩ := ih (consistent.dispatched isWithin iteration) ran
      refine ⟨all, ?_, law⟩
      rw [bind_of_ok traces, ← tracesRest, flatMap_append, flatMap_singleton,
        Turn.attempts, append_assoc]
      rfl

end Runs

end QueryLoopEngine

/-- A run that succeeds, of whatever backend and after whatever failures, is traced by
turns that the law ties to its output. -/
theorem query_loop_run_law (engine : QueryLoopEngine) (backend : QueryLoopBackend World)
    (input : QueryLoopInput) {world final : World} {output : QueryLoopOutput}
    (ran : engine.run backend input world = (.ok output, final)) :
    ∃ (turns : List Turn) (attempts : List BackendAttempt),
      engine.run backend.traced input (world, []) = (.ok output, (final, attempts)) ∧
      RunLaw engine.config turns attempts output := by
  rw [run] at ran
  split at ran
  · cases ran
  · next positive =>
    rw [bind_eq_ok] at ran
    obtain ⟨compiled, middle, compiles, ran⟩ := ran
    rw [ofExcept_apply, Prod.mk.injEq] at compiles
    obtain ⟨compiles, rfl⟩ := compiles
    obtain ⟨turns, traces, law⟩ := iterate_traced engine backend
      (consistent_started compiled) ran
    refine ⟨turns, turns.flatMap Turn.attempts, ?_, law⟩
    have tracesCompile : (Effect.ofExcept (engine.compile input.messages) :
        Effect (World × List BackendAttempt) CompiledContext) (world, []) =
        (.ok compiled, (world, [])) := by
      rw [ofExcept_apply, compiles]
    rw [run, if_neg positive, bind_of_ok tracesCompile]
    exact traces

/-- A backend whose answers are scripted, failures included. -/
def faltering : QueryLoopBackend (List (Except String LlmResponse)) where
  providerStep _ _ _ := fun answers =>
    match answers with
    | [] => (.error "no answer", [])
    | answer :: rest => (answer, rest)
  toolStep _ call _ := pure call.arguments

/-- The default limits, and messages that are left as they are. -/
def defaultEngine : QueryLoopEngine where
  config := ⟨8, 1, 1⟩
  compile messages := .ok ⟨messages, false, ""⟩

theorem query_loop_run_retried :
    ∃ output final, defaultEngine.run faltering ⟨"s", []⟩
        [.error "timeout", .ok ⟨none, [⟨"call-1", "read", "a.txt"⟩]⟩, .ok ⟨some "done", []⟩] =
          (.ok output, final) ∧
      ∃ (turns : List Turn) (attempts : List BackendAttempt),
        defaultEngine.run faltering.traced ⟨"s", []⟩
            ([.error "timeout", .ok ⟨none, [⟨"call-1", "read", "a.txt"⟩]⟩,
              .ok ⟨some "done", []⟩], []) = (.ok output, (final, attempts)) ∧
          RunLaw defaultEngine.config turns attempts output :=
  ⟨_, _, rfl, query_loop_run_law defaultEngine faltering ⟨"s", []⟩ rfl⟩

end AutoLoop.QueryEngine
