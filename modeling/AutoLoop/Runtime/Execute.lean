import AutoLoop.Runtime.BudgetBooks
import AutoLoop.Runtime.HookRuntime

/-!
# Executing a task

A task is admitted, its estimated cost is reserved, and it goes to the provider or to
a tool.  Hooks are applied before, during and after it.  What a provider, a tool, the
guard or the rules of a hook answer is given by the host of the call, and so is what
happens to the budgets elsewhere while the call waits.
-/

namespace AutoLoop.Runtime

open StateAdapter Text

/-! ## What a call is given -/

inductive GuardDecision where
  | allow
  | requiresApproval
  | blocked
  deriving DecidableEq, Repr

/-- `{:?}`. -/
def GuardDecision.text : GuardDecision → String
  | .allow => "Allow"
  | .requiresApproval => "RequiresApproval"
  | .blocked => "Blocked"

structure RuntimeGuardReport where
  decision : GuardDecision
  attemptsAllowed : UInt8
  timeoutSecs : UInt64
  reason : String
  breakerKey : String
  sandboxPolicy : Option String
  deriving DecidableEq, Repr

structure LlmResponse where
  content : Option String
  toolCalls : List String
  deriving DecidableEq, Repr

structure RuntimeExecuteResult where
  content : String
  guardReport : RuntimeGuardReport
  providerResponse : Option LlmResponse := none
  estimatedPromptTokens : Option UInt32 := none
  deriving DecidableEq, Repr

structure ClassifiedExecutionOutput where
  content : String
  sandboxPolicy : Option String
  deriving DecidableEq, Repr

inductive RuntimeClass where
  | provider
  | trustedHighRisk
  | toolSandboxed
  | toolNative
  deriving DecidableEq, Repr

inductive DegradeProfileKind where
  | providerFallback
  | mcpConservative
  deriving DecidableEq, Repr

inductive ToolPayload where
  | text (text : String)
  | textArguments (text : String)
  | otherArguments (json : String)
  | other (json : String)
  deriving DecidableEq, Repr

/-- How messages to a provider are read, measured and shortened. -/
structure PromptForm (Messages : Type) where
  json : Messages → String
  /-- `parse_hook_prompt_messages`. -/
  parse : String → Messages → Messages
  estimateTokens : Messages → UInt32
  /-- `compact_provider_messages_for_budget`. -/
  compact : Messages → UInt32 → Messages
  /-- The content of the last message of the user. -/
  lastUserText : Messages → Option String

/-- What a call waits for, apart from its budget operations. -/
inductive SideCall where
  | admission
  | hookEvidence (phase : HookPhase) (outcome : HookOutcome)
  | event (kind reason : String)
  | chat
  | guardToolExecution
  | trustedHighRiskPreflight
  | classifiedToolPath (arguments : String)
  | applyDegradeProfile (kind : DegradeProfileKind) (reason : String)
  | buildRecoveryPlan (kind : DegradeProfileKind)
  | recordReplaySnapshot (surface output : String)
  deriving DecidableEq, Repr

/-- What surrounds one call. -/
structure ExecuteHost (Messages : Type) where
  /-- What has happened to the budgets by the end of a side call. -/
  during : SideCall → BudgetBooks → BudgetBooks
  /-- Identity, hard gate and degrade profile: a result ends the call. -/
  admission : Except String (Option RuntimeExecuteResult)
  /-- The rules in place when a phase is applied. -/
  rulesAt : HookPhase → HookRuntime
  chat : Messages → Except String LlmResponse
  /-- The calls of the session in the parallel window when this one enters it. -/
  activeTools : UInt64
  guardToolExecution : Except String RuntimeGuardReport
  /-- `should_enforce_gate`. -/
  enforcesGate : Bool
  trustedHighRiskPreflight : Except String Unit
  classifiedToolPath : RuntimeClass → String → RuntimeGuardReport →
    Except String ClassifiedExecutionOutput × RuntimeGuardReport
  durationMs : UInt64

/-- One call of `execute`. -/
structure Execution (Messages : Type) where
  kernel : RuntimeKernel
  store : StateStore
  forms : JsonForms
  moments : Nat → Moment
  maxParallelAgents : UInt64
  form : PromptForm Messages
  actorId : String
  envelope : TaskEnvelope
  /-- `extract_provider_messages` of the payload. -/
  messages : Messages
  payload : ToolPayload
  /-- The server in the manifest, if there is one. -/
  manifestServer : Option String
  /-- The trust plan asks for attestation or for a verified environment. -/
  trustedHint : Bool
  highRiskHint : Bool
  allowShell : Bool
  host : ExecuteHost Messages

/-- The budgets, and the budget operations that the call has made, newest first. -/
structure ExecuteWorld where
  books : BudgetBooks
  made : List (BudgetOp × BudgetAnswer)

def ExecuteWorld.start (books : BudgetBooks) : ExecuteWorld := ⟨books, []⟩

def isTimeoutSignal (text : String) : Bool :=
  let lowered := toAsciiLowercase text
  contains lowered "timeout" || contains lowered "timed_out" ||
    contains lowered "deadline exceeded" ||
    contains lowered "sandbox timeout exceeded"

def extractToolArguments : ToolPayload → Except String String
  | .text text => .ok text
  | .textArguments text => .ok text
  | .otherArguments json => .ok json
  | .other json => .ok json

def RuntimeKernel.maxParallelToolWindow (kernel : RuntimeKernel) (maxParallelAgents : UInt64) :
    UInt64 :=
  let parallelLimit := max maxParallelAgents 1
  if kernel.budgetEnforced then
    max (min parallelLimit (max (kernel.quotaWindowBudgetMicros / 500) 1)) 1
  else parallelLimit

namespace Execution

variable {Messages : Type} (call : Execution Messages)

def capabilityId : String := call.envelope.capabilityId

def classifyRuntimeClass : RuntimeClass :=
  if call.envelope.isProvider then .provider
  else if call.trustedHint || call.highRiskHint then .trustedHighRisk
  else if call.manifestServer.isSome && call.allowShell then .toolSandboxed
  else .toolNative

def inferHookChannel (arguments : String) : HookChannel :=
  let capability := toAsciiLowercase call.capabilityId
  let lowered := toAsciiLowercase arguments
  if startsWith capability "provider:" then .prompt
  else if startsWith capability "agent:" || startsWith capability "agent::" ||
      contains capability "delegate" then .agent
  else if startsWith capability "http:" || startsWith capability "http::" ||
      contains capability "webhook" || contains lowered "https://" ||
      contains lowered "http://" ||
      call.manifestServer.any fun server =>
        contains (toAsciiLowercase server) "http" then .http
  else .command

/-! ## Steps of a call -/

/-- Wait for something else. -/
def side (sideCall : SideCall) : Effect ExecuteWorld Unit :=
  Effect.modify fun world => { world with books := call.host.during sideCall world.books }

/-- A budget operation. -/
def budget (op : BudgetOp) : Effect ExecuteWorld BudgetAnswer := fun world =>
  let stepped := (budgetRuns call.kernel call.store call.forms call.moments).step world.books op
  (match stepped.1 with
    | .refused message => .error message
    | answer => .ok answer,
    { books := stepped.2, made := (op, stepped.1) :: world.made })

def settleBudget (reservation : Option BudgetReservation)
    (providerTokens toolInvocations : UInt32) : Effect ExecuteWorld Unit :=
  match reservation with
  | none => pure ()
  | some reservation => do
      let _ ← call.budget (.settle call.envelope reservation providerTokens toolInvocations
        call.host.durationMs)

def rollbackBudget (reservation : Option BudgetReservation) (reason : String) :
    Effect ExecuteWorld Unit :=
  match reservation with
  | none => pure ()
  | some reservation => do
      let _ ← call.budget (.rollback call.envelope reservation reason)

section
variable (phase : HookPhase) (channel : HookChannel) (arguments : String)
  (output error : Option String)

/-- What a phase comes to. -/
def hookOutcome : HookOutcome :=
  (call.host.rulesAt phase).applyPhaseOnly phase channel call.capabilityId arguments output error

def applyHook : Effect ExecuteWorld HookOutcome := do
  let outcome := call.hookOutcome phase channel arguments output error
  call.side (.hookEvidence phase outcome)
  return outcome

end

/-- The timeout phase of a text that signals a timeout; its outcome is not looked at. -/
def noteTimeout (channel : HookChannel) (arguments text : String) : Effect ExecuteWorld Unit :=
  if isTimeoutSignal text then do
    let _ ← call.applyHook .timeout channel arguments none (some text)
  else pure ()

def report (decision : GuardDecision) (attemptsAllowed : UInt8) (reason breakerKey : String) :
    RuntimeGuardReport where
  decision
  attemptsAllowed
  timeoutSecs := call.envelope.constraints.timeoutMs / 1000
  reason
  breakerKey
  sandboxPolicy := none

def actorKey : String := call.actorId ++ ":" ++ call.capabilityId

/-! ## The provider path -/

/-- A hook of the provider path has denied the call. -/
def blockedByHook (title fallback reason arguments : String) (outcome : HookOutcome)
    (response : Option LlmResponse) (tokens : Option UInt32) :
    Effect ExecuteWorld RuntimeExecuteResult := do
  let killed ← call.applyHook .kill .prompt arguments none (some (outcome.error.getD fallback))
  return {
    content := "Execution blocked by " ++ title ++ " hook: " ++
      (killed.error.orElse fun _ => outcome.error).getD fallback
    guardReport := call.report .blocked 0 reason call.actorKey
    providerResponse := response
    estimatedPromptTokens := tokens }

/-- The messages, shortened when they pass the budget and this makes them shorter. -/
def fitMessages (messages : Messages) : Messages :=
  let maxTokens := call.envelope.constraints.maxTokens
  let compacted := call.form.compact messages maxTokens
  if maxTokens < call.form.estimateTokens messages ∧
      call.form.estimateTokens compacted < call.form.estimateTokens messages then compacted
  else messages

/-- Whether messages were shortened. -/
def compacts (messages : Messages) : Bool :=
  let maxTokens := call.envelope.constraints.maxTokens
  maxTokens < call.form.estimateTokens messages ∧
    call.form.estimateTokens (call.form.compact messages maxTokens) <
      call.form.estimateTokens messages

def noteCompaction (messages : Messages) : Effect ExecuteWorld Unit :=
  if call.compacts messages then
    call.side (.event "runtime_budget.compacted"
      "provider token budget preflight compacted messages")
  else pure ()

section
variable (reservation : Option BudgetReservation)

def providerFailed (messages : Messages)
    (arguments error : String) : Effect ExecuteWorld RuntimeExecuteResult := do
  let thrown ← call.applyHook .throws .prompt arguments none (some error)
  let errorText := thrown.error.getD error
  call.noteTimeout .prompt arguments errorText
  call.side (.applyDegradeProfile .providerFallback ("provider unavailable: " ++ errorText))
  call.side (.buildRecoveryPlan .providerFallback)
  call.rollbackBudget reservation "provider_execution_error"
  let _ ← call.applyHook .kill .prompt arguments none (some errorText)
  let content := "degraded-provider-fallback: temporarily unavailable upstream provider; " ++
    "partial response kept for availability. request=\"" ++
    (call.form.lastUserText messages).getD "request" ++ "\" error=\"" ++ errorText ++ "\""
  return {
    content
    guardReport := call.report .allow 1 "provider degraded to fallback mode"
      ("degrade:provider:" ++ call.envelope.sessionId)
    providerResponse := some ⟨some content, []⟩
    estimatedPromptTokens := some (call.form.estimateTokens messages) }

/-- The end of the provider path. -/
def providerReturned (tokens : UInt32)
    (response : LlmResponse) (arguments content : String) :
    Effect ExecuteWorld RuntimeExecuteResult := do
  let returned ← call.applyHook .return .prompt arguments (some content) none
  if !returned.allowed then
    call.blockedByHook "OnResult" "hook denied on_result" "prompt on_result hook blocked execution"
      arguments returned (some response) (some tokens)
  else
    let content := returned.output.getD content
    call.settleBudget reservation tokens 0
    call.side (.event "task_runs" "")
    call.side (.recordReplaySnapshot "provider" content)
    return {
      content
      guardReport := call.report .allow 1 "provider execution allowed" call.actorKey
      providerResponse := some response
      estimatedPromptTokens := some tokens }

def providerAnswered (tokens : UInt32)
    (response : LlmResponse) (arguments : String) :
    Effect ExecuteWorld RuntimeExecuteResult := do
  let content := response.content.getD ""
  let streamed ← call.applyHook .stream .prompt arguments (some content) none
  if !streamed.allowed then
    call.blockedByHook "Stream" "hook denied stream" "prompt stream hook blocked execution"
      arguments streamed (some response) (some tokens)
  else
    let content := streamed.output.getD content
    if isTimeoutSignal content then
      let late ← call.applyHook .timeout .prompt arguments none (some content)
      if !late.allowed then
        call.blockedByHook "Timeout" "hook denied timeout" "prompt timeout hook blocked execution"
          arguments late (some response) (some tokens)
      else call.providerReturned reservation tokens response arguments content
    else call.providerReturned reservation tokens response arguments content

/-- The messages are sent, unless they pass the token budget. -/
def sendMessages (messages : Messages)
    (arguments : String) : Effect ExecuteWorld RuntimeExecuteResult := do
  let tokens := call.form.estimateTokens messages
  let maxTokens := call.envelope.constraints.maxTokens
  if maxTokens < tokens then
    call.rollbackBudget reservation "provider_token_budget_exceeded"
    call.side (.event "runtime_blocks" "provider token budget exceeded")
    Effect.fail ("provider token budget exceeded: estimated=" ++ tokens.toNat.repr ++ " max=" ++
      maxTokens.toNat.repr)
  else
    call.side .chat
    match call.host.chat messages with
    | .error error => call.providerFailed reservation messages arguments error
    | .ok response => call.providerAnswered reservation tokens response arguments

def executeProvider :
    Effect ExecuteWorld RuntimeExecuteResult := do
  let before ← call.applyHook .before .prompt (call.form.json call.messages) none none
  if !before.allowed then
    call.blockedByHook "PreToolUse" "hook denied pre_tool_use" "prompt hook blocked execution"
      before.arguments before none none
  else
    let step ← call.applyHook .step .prompt before.arguments none none
    if !step.allowed then
      call.blockedByHook "PostToolUse" "hook denied post_tool_use" "prompt hook blocked execution"
        step.arguments step none none
    else
      let messages := call.form.parse step.arguments call.messages
      call.noteCompaction messages
      call.sendMessages reservation (call.fitMessages messages) step.arguments

end

/-! ## The tool path -/

/-- The place that the call would take in the parallel window. -/
def activeWithThis : UInt64 := saturatingAdd call.host.activeTools 1

def tryEnterParallelToolWindow : Except String (UInt64 × UInt64) :=
  let limit := call.kernel.maxParallelToolWindow call.maxParallelAgents
  let active := call.activeWithThis
  if limit < active then
    .error ("parallel tool-call budget guard exceeded: active=" ++ active.toNat.repr ++
      " limit=" ++ limit.toNat.repr ++ " session=" ++ call.envelope.sessionId)
  else .ok (active, limit)

/-- What the denial of a hook and the approval of the envelope make of a guard report. -/
def demandGuard (before : HookOutcome) (guard : RuntimeGuardReport) : RuntimeGuardReport :=
  let guard :=
    if !before.allowed then
      { guard with
        decision := .blocked
        attemptsAllowed := 0
        reason := "execution denied by PreToolUse hook: " ++
          before.error.getD "hook denied pre_tool_use" }
    else guard
  if call.envelope.constraints.requiresHumanApproval ∧ guard.decision = .allow then
    { guard with
      decision := .requiresApproval
      reason := "TaskEnvelope requires human approval" }
  else guard

/-- A gate that is not enforced lets everything pass that no hook has denied. -/
def shadowGuard (guard : RuntimeGuardReport) : RuntimeGuardReport :=
  if !call.host.enforcesGate ∧ guard.decision ≠ .allow then
    if contains guard.reason "PreToolUse hook" || contains guard.reason "step" ||
        contains guard.reason "OnResult hook" then
      { guard with reason := "hard-hook-gate (shadow bypass disabled): " ++ guard.reason }
    else
      { guard with
        decision := .allow
        reason := "shadow-observe-only (original decision " ++ guard.decision.text ++ ")" }
  else guard

def noteRejection (guard : RuntimeGuardReport) : Effect ExecuteWorld Unit :=
  if contains guard.reason "permission mode" then
    call.side (.event "policy_reject" guard.reason)
  else pure ()

structure ToolEnd where
  result : Except String String
  guard : RuntimeGuardReport
  arguments : String

section
variable (channel : HookChannel) (arguments : String) (guard : RuntimeGuardReport)

/-- The tool behind its own hooks. -/
def runClassified :
    Effect ExecuteWorld ToolEnd := do
  let step ← call.applyHook .step channel arguments none none
  if !step.allowed then
    return ⟨.error (step.error.getD "hook denied post_tool_use"), guard, arguments⟩
  else
    call.side (.classifiedToolPath step.arguments)
    let ran := call.host.classifiedToolPath call.classifyRuntimeClass step.arguments guard
    match ran.1 with
    | .error error => return ⟨.error error, ran.2, step.arguments⟩
    | .ok classified =>
      let guard := { ran.2 with
        sandboxPolicy := ran.2.sandboxPolicy.orElse fun _ => classified.sandboxPolicy }
      let streamed ← call.applyHook .stream channel step.arguments (some classified.content) none
      if !streamed.allowed then
        let _ ← call.applyHook .kill channel step.arguments none
          (some (streamed.error.getD "hook denied stream"))
        return ⟨.error (streamed.error.getD "hook denied stream"), guard, step.arguments⟩
      else return ⟨.ok (streamed.output.getD classified.content), guard, step.arguments⟩

def runTool :
    Effect ExecuteWorld ToolEnd := do
  match guard.decision with
  | .blocked =>
    let killed ← call.applyHook .kill channel arguments none (some guard.reason)
    return ⟨.ok ("Execution blocked by runtime guard: " ++ killed.error.getD guard.reason),
      guard, arguments⟩
  | .requiresApproval =>
    return ⟨.ok ("Execution requires approval before running " ++ call.capabilityId ++ ": " ++
      guard.reason), guard, arguments⟩
  | .allow =>
    if call.classifyRuntimeClass = .trustedHighRisk then
      call.side .trustedHighRiskPreflight
      match call.host.trustedHighRiskPreflight with
      | .error error =>
        let reason := "trusted high-risk preflight rejected execution: " ++ error
        return ⟨.ok ("Execution blocked by runtime guard: " ++ reason),
          { guard with decision := .blocked, attemptsAllowed := 0, reason }, arguments⟩
      | .ok () => call.runClassified channel arguments guard
    else call.runClassified channel arguments guard

end

def toolFailed (reservation : Option BudgetReservation) (channel : HookChannel)
    (arguments error : String) : Effect ExecuteWorld RuntimeExecuteResult := do
  let thrown ← call.applyHook .throws channel arguments none (some error)
  let errorText := thrown.error.getD error
  call.noteTimeout channel arguments errorText
  if startsWith call.capabilityId "mcp::" then
    call.side (.applyDegradeProfile .mcpConservative ("mcp execution failed: " ++ errorText))
    call.side (.buildRecoveryPlan .mcpConservative)
    call.rollbackBudget reservation "mcp_execution_error"
    let _ ← call.applyHook .kill channel arguments none (some errorText)
    return {
      content := "mcp degraded mode activated due to failure; execution paused: " ++ errorText
      guardReport := call.report .requiresApproval 0 "mcp conservative degrade profile active"
        ("degrade:mcp:" ++ call.envelope.sessionId) }
  else
    call.rollbackBudget reservation "execution_error"
    let _ ← call.applyHook .kill channel arguments none (some errorText)
    Effect.fail errorText

/-- What the timeout hook makes of an answer. -/
def checkTimeout (channel : HookChannel) (arguments content : String)
    (guard : RuntimeGuardReport) : Effect ExecuteWorld (RuntimeGuardReport × String) := do
  if isTimeoutSignal content then
    let late ← call.applyHook .timeout channel arguments none (some content)
    if !late.allowed then
      let _ ← call.applyHook .kill channel arguments none
        (some (late.error.getD "hook denied timeout"))
      let reason := late.error.getD "hook denied timeout"
      return ({ guard with decision := .blocked, reason },
        "Execution blocked by Timeout hook: " ++ reason)
    else return (guard, content)
  else return (guard, content)

def checkReturn (channel : HookChannel) (arguments : String)
    (answered : RuntimeGuardReport × String) :
    Effect ExecuteWorld (RuntimeGuardReport × String) := do
  let returned ← call.applyHook .return channel arguments (some answered.2) none
  if !returned.allowed then
    let _ ← call.applyHook .kill channel arguments none
      (some (returned.error.getD "hook denied on_result"))
    let reason := returned.error.getD "hook denied on_result"
    return ({ answered.1 with decision := .blocked, reason },
      "Execution blocked by OnResult hook: " ++ reason)
  else return (answered.1, returned.output.getD answered.2)

section
variable (reservation : Option BudgetReservation)

/-- The reservation after a tool has answered. -/
def concludeBudget (decision : GuardDecision) :
    Effect ExecuteWorld Unit :=
  match decision with
  | .allow => call.settleBudget reservation 0 1
  | .blocked => call.rollbackBudget reservation "runtime_guard_blocked"
  | .requiresApproval => call.rollbackBudget reservation "requires_human_approval"

/-- The end of the tool path. -/
def toolReturned (channel : HookChannel)
    (arguments content : String) (guard : RuntimeGuardReport) :
    Effect ExecuteWorld RuntimeExecuteResult := do
  let answered ← call.checkTimeout channel arguments content guard
  let answered ← call.checkReturn channel arguments answered
  call.concludeBudget reservation answered.1.decision
  call.side (.event (if answered.1.decision = .blocked then "runtime_blocks" else "task_runs")
    answered.1.reason)
  call.side (.recordReplaySnapshot "tool" answered.2)
  return { content := answered.2, guardReport := answered.1 }

/-- The tool path behind the parallel window. -/
def guardAndRun (arguments : String) :
    Effect ExecuteWorld RuntimeExecuteResult := do
  let channel := call.inferHookChannel arguments
  let before ← call.applyHook .before channel arguments none none
  call.side .guardToolExecution
  let guard ← Effect.ofExcept call.host.guardToolExecution
  let guard := call.shadowGuard (call.demandGuard before guard)
  call.noteRejection guard
  let ended ← call.runTool channel before.arguments guard
  match ended.result with
  | .error error => call.toolFailed reservation channel ended.arguments error
  | .ok content => call.toolReturned reservation channel ended.arguments content ended.guard

def executeTool :
    Effect ExecuteWorld RuntimeExecuteResult := do
  match call.tryEnterParallelToolWindow with
  | .error reason =>
    call.side (.event "runtime_blocks" reason)
    return {
      content := "Execution blocked by runtime guard: " ++ reason
      guardReport := call.report .blocked 0 reason
        ("parallel-budget:" ++ call.envelope.sessionId) }
  | .ok _ =>
    let arguments ← Effect.ofExcept (extractToolArguments call.payload)
    call.guardAndRun reservation arguments

end

/-! ## The whole call -/

/-- Admit the task and reserve its estimate; a result ends the call. -/
def charge : Effect ExecuteWorld (RuntimeExecuteResult ⊕ Option BudgetReservation) := do
  call.side .admission
  match ← Effect.ofExcept call.host.admission with
  | some result => return .inl result
  | none =>
    let tokens := if call.envelope.isProvider then call.form.estimateTokens call.messages else 0
    match ← call.budget (.precharge call.envelope tokens) with
    | .precharged reservation => return .inr reservation
    | _ => return .inr none

def perform (reservation : Option BudgetReservation) : Effect ExecuteWorld RuntimeExecuteResult :=
  if call.envelope.isProvider then call.executeProvider reservation
  else call.executeTool reservation

def execute : Effect ExecuteWorld RuntimeExecuteResult := do
  match ← call.charge with
  | .inl result => return result
  | .inr reservation => call.perform reservation

end Execution

end AutoLoop.Runtime
