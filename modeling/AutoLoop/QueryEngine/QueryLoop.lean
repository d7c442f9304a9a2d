import AutoLoop.Foundation.Effect
import AutoLoop.Foundation.Json

/-!
# The query loop

`QueryLoopEngine` over an arbitrary backend: in each iteration the provider answers the
messages so far, and the tools that it calls are run and answered for.  The compilation
of the context is a function of the input messages.
-/

namespace AutoLoop.QueryEngine

structure ToolCall where
  id : String
  name : String
  arguments : String
  deriving DecidableEq, Repr

structure LlmResponse where
  content : Option String
  toolCalls : List ToolCall
  deriving DecidableEq, Repr

structure ChatMessage where
  role : String
  content : String
  toolCallId : Option String
  toolCalls : Option (List ToolCall)
  deriving DecidableEq, Repr

inductive QueryTurnState where
  | initialized
  | providerCall
  | toolDispatch
  | completed
  | maxIterationsReached
  deriving DecidableEq, Repr

structure TurnTransition where
  origin : QueryTurnState
  target : QueryTurnState
  reason : String
  iteration : Nat
  deriving DecidableEq, Repr

structure ToolExecutionEvent where
  toolName : String
  output : String
  deriving DecidableEq, Repr

structure QueryLoopStreamEvent where
  eventType : String
  callId : String
  sequence : Nat
  toolName : String
  payload : String
  deriving DecidableEq, Repr

structure QueryLoopConfig where
  maxIterations : Nat
  providerRetryLimit : Nat
  toolRetryLimit : Nat
  deriving DecidableEq, Repr

/-- The parts of a compiled context that the loop uses. -/
structure CompiledContext where
  messages : List ChatMessage
  /-- A boundary was made by compaction. -/
  bounded : Bool
  hardgatePassToken : String
  deriving DecidableEq, Repr

structure QueryLoopInput where
  sessionId : String
  messages : List ChatMessage
  deriving DecidableEq, Repr

structure QueryLoopOutput where
  finalText : String
  messages : List ChatMessage
  transitions : List TurnTransition
  iterationCount : Nat
  toolCallCount : Nat
  providerRetryCount : Nat
  toolRetryCount : Nat
  state : QueryTurnState
  toolEvents : List ToolExecutionEvent
  streamEvents : List QueryLoopStreamEvent
  deriving DecidableEq, Repr

/-- What the loop is driven by, on a state of its own. -/
structure QueryLoopBackend (World : Type) where
  providerStep : String → List ChatMessage → String → Effect World LlmResponse
  toolStep : String → ToolCall → String → Effect World String

structure QueryLoopEngine where
  config : QueryLoopConfig
  /-- `ContextCompiler::compile`. -/
  compile : List ChatMessage → Except String CompiledContext

namespace QueryLoopEngine

variable {World α : Type} (engine : QueryLoopEngine) (backend : QueryLoopBackend World)

/-! ## Steps with retries -/

/-- The loop of both retries: the value with the number of retries before it, or the
last error. -/
def retrying (step : Effect World α) : Nat → Nat → Effect World (α × Nat)
  | 0, retriesUsed => do
      let value ← step
      return (value, retriesUsed)
  | attempts + 1, retriesUsed => do
      match ← Effect.attempt step with
      | .ok value => return (value, retriesUsed)
      | .error _ => retrying step attempts (retriesUsed + 1)

def providerWithRetry (sessionId : String) (messages : List ChatMessage) (token : String) :
    Effect World (LlmResponse × Nat) :=
  retrying (backend.providerStep sessionId messages token) engine.config.providerRetryLimit 0

def toolWithRetry (sessionId : String) (call : ToolCall) (token : String) :
    Effect World (String × Nat) :=
  retrying (backend.toolStep sessionId call token) engine.config.toolRetryLimit 0

/-! ## Dispatch -/

structure Dispatched where
  results : List (ToolCall × String)
  retries : Nat
  sequence : Nat
  streamEvents : List QueryLoopStreamEvent

/-- `join_all`: every call ends in an answer, and the answers stand in call order.  The
backend is arbitrary, so taking its answers in that order leaves none out. -/
def settleAll (sessionId token : String) :
    List ToolCall → Effect World (List (ToolCall × Except String (String × Nat)))
  | [] => return []
  | call :: rest => do
      let result ← Effect.attempt (engine.toolWithRetry backend sessionId call token)
      let others ← settleAll sessionId token rest
      return (call, result) :: others

def startEvents (startSequence : Nat) : List ToolCall → List QueryLoopStreamEvent
  | [] => []
  | call :: rest =>
    ⟨"tool_started", call.id, startSequence + 1, call.name,
      Json.object [("arguments", Json.quote call.arguments)]⟩ ::
      startEvents (startSequence + 1) rest

/-- The loop over the settled calls, which ends with the first error. -/
def collect (dispatched : Dispatched) :
    List (ToolCall × Except String (String × Nat)) → Except String Dispatched
  | [] => .ok dispatched
  | (call, .ok (output, retries)) :: rest =>
    collect {
      results := dispatched.results ++ [(call, output)]
      retries := dispatched.retries + retries
      sequence := dispatched.sequence + 1
      streamEvents := dispatched.streamEvents ++
        [⟨"tool_completed", call.id, dispatched.sequence + 1, call.name,
          Json.object [("is_error", "false"), ("output", Json.quote output)]⟩] } rest
  | (_, .error error) :: _ => .error error

def dispatchToolsConcurrently (sessionId : String) (calls : List ToolCall) (token : String)
    (startSequence : Nat) : Effect World Dispatched := do
  let settled ← engine.settleAll backend sessionId token calls
  Effect.ofExcept (collect {
    results := []
    retries := 0
    sequence := startSequence + calls.length
    streamEvents := startEvents startSequence calls } settled)

/-! ## The loop -/

structure LoopState where
  messages : List ChatMessage
  state : QueryTurnState
  transitions : List TurnTransition
  providerRetryCount : Nat
  toolRetryCount : Nat
  toolCallCount : Nat
  toolEvents : List ToolExecutionEvent
  streamEvents : List QueryLoopStreamEvent
  eventSequence : Nat

namespace LoopState

def moveTo (loop : LoopState) (target : QueryTurnState) (reason : String) (iteration : Nat) :
    LoopState :=
  { loop with
    state := target
    transitions := loop.transitions ++ [⟨loop.state, target, reason, iteration⟩] }

def finish (loop : LoopState) (finalText : String) (iterationCount : Nat) : QueryLoopOutput where
  finalText
  messages := loop.messages
  transitions := loop.transitions
  iterationCount
  toolCallCount := loop.toolCallCount
  providerRetryCount := loop.providerRetryCount
  toolRetryCount := loop.toolRetryCount
  state := loop.state
  toolEvents := loop.toolEvents
  streamEvents := loop.streamEvents

def announce (response : LlmResponse) : List ChatMessage :=
  match response.content with
  | some content => [⟨"assistant", content, none,
      if response.toolCalls = [] then none else some response.toolCalls⟩]
  | none => []

def answer (result : ToolCall × String) : ChatMessage :=
  ⟨"tool", result.2, some result.1.id, none⟩

def afterDispatch (loop : LoopState) (response : LlmResponse) (providerRetries iteration : Nat)
    (dispatched : Dispatched) : LoopState :=
  let announced := { loop with
    messages := loop.messages ++ announce response
    providerRetryCount := loop.providerRetryCount + providerRetries }
  let dispatching := announced.moveTo .toolDispatch "dispatch tool calls" iteration
  { dispatching with
    messages := dispatching.messages ++ dispatched.results.map answer
    toolRetryCount := loop.toolRetryCount + dispatched.retries
    toolCallCount := loop.toolCallCount + response.toolCalls.length
    toolEvents := loop.toolEvents ++ dispatched.results.map fun result => ⟨result.1.name, result.2⟩
    streamEvents := loop.streamEvents ++ dispatched.streamEvents
    eventSequence := dispatched.sequence }

end LoopState

/-- The iterations that are left, from the given one. -/
def iterate (sessionId token : String) : Nat → Nat → LoopState → Effect World QueryLoopOutput
  | 0, _, loop => do
      let stopped := loop.moveTo .maxIterationsReached "max iteration reached"
        engine.config.maxIterations
      return stopped.finish "Agent stopped after reaching the max iteration limit."
        engine.config.maxIterations
  | left + 1, iteration, loop => do
      let loop := loop.moveTo .providerCall "invoke provider" iteration
      let (response, providerRetries) ←
        engine.providerWithRetry backend sessionId loop.messages token
      if response.toolCalls = [] then
        let completed := { loop with
          providerRetryCount := loop.providerRetryCount + providerRetries }
        return (completed.moveTo .completed "provider produced final text" iteration).finish
          (response.content.getD "No response content.") iteration
      else
        let dispatched ← engine.dispatchToolsConcurrently backend sessionId response.toolCalls
          token loop.eventSequence
        iterate sessionId token left (iteration + 1)
          (loop.afterDispatch response providerRetries iteration dispatched)

def started (compiled : CompiledContext) : LoopState where
  messages := compiled.messages
  state := .initialized
  transitions :=
    ⟨.initialized, .initialized, "turn initialized", 0⟩ ::
      if compiled.bounded then
        [⟨.initialized, .initialized, "context compaction boundary applied", 0⟩]
      else []
  providerRetryCount := 0
  toolRetryCount := 0
  toolCallCount := 0
  toolEvents := []
  streamEvents := []
  eventSequence := 0

def run (input : QueryLoopInput) : Effect World QueryLoopOutput := do
  if engine.config.maxIterations = 0 then
    Effect.fail "query loop max_iterations must be > 0"
  else
    let compiled ← Effect.ofExcept (engine.compile input.messages)
    engine.iterate backend input.sessionId compiled.hardgatePassToken
      engine.config.maxIterations 1 (started compiled)

end QueryLoopEngine

end AutoLoop.QueryEngine
