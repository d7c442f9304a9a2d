import AutoLoop.StateAdapter.StoredTexts
import AutoLoop.StateAdapter.TypedTables

/-!
# The flow state engine

`FlowStateEngine` keeps one map of the nodes of a session's flow, and beside it four views
of each node under keys made of the session and the node's sanitised id.  Every update
rewrites the map and the views of all its nodes.
-/

namespace AutoLoop.Runtime

open StateAdapter

/-! ## Records -/

inductive FlowNodeState where
  | pending
  | ready
  | running
  | succeeded
  | failed
  | blocked
  | skipped
  | degraded
  | replayed
  deriving DecidableEq, Repr

/-- The `Debug` text of a state. -/
def FlowNodeState.debug : FlowNodeState → String
  | .pending => "Pending"
  | .ready => "Ready"
  | .running => "Running"
  | .succeeded => "Succeeded"
  | .failed => "Failed"
  | .blocked => "Blocked"
  | .skipped => "Skipped"
  | .degraded => "Degraded"
  | .replayed => "Replayed"

def isTerminalState : FlowNodeState → Bool
  | .succeeded | .failed | .blocked | .skipped | .degraded | .replayed => true
  | _ => false

structure FlowStateFlags where
  sideEffectState : String := ""
  budgetState : String := ""
  triggerState : String := ""
  deriving DecidableEq, Repr

structure FlowNodeRecord where
  nodeId : String
  taskId : String
  capabilityId : String
  state : FlowNodeState
  dependsOn : List String
  startedAtMs : Option UInt64
  endedAtMs : Option UInt64
  flags : FlowStateFlags
  metadata : Table String String

structure FlowMapSnapshot where
  flowId : String
  sessionId : String
  planId : String
  runId : String
  nodes : List FlowNodeRecord
  updatedAtMs : UInt64

structure FlowStatePatch where
  flowId : String
  nodeId : String
  fromState : Option FlowNodeState
  toState : FlowNodeState
  reason : String
  traceId : String
  updatedAtMs : UInt64
  metadata : Table String String

structure FlowRuntimeUpdate where
  sessionId : String
  traceId : String
  taskId : String
  capabilityId : String
  state : Option FlowNodeState
  reason : String
  sideEffectState : Option String
  budgetState : Option String
  triggerState : Option String
  metadata : Table String String

structure NodeStateView where
  sessionId : String
  flowId : String
  planId : String
  runId : String
  nodeId : String
  taskId : String
  capabilityId : String
  state : String
  startedAtMs : Option UInt64
  endedAtMs : Option UInt64
  updatedAtMs : UInt64
  deriving DecidableEq, Repr

/-- The view of one of a node's flags. -/
structure FlagView where
  value : String
  updatedAtMs : UInt64
  deriving DecidableEq, Repr

/-- The JSON forms of what the engine stores. -/
structure FlowForms where
  map : JsonForm FlowMapSnapshot
  patch : JsonForm FlowStatePatch
  state : JsonForm NodeStateView
  flag : JsonForm FlagView

/-! ## Keys -/

def sanitizeKeyPart (value : String) : String :=
  String.ofList (value.toList.map fun char =>
    if char.isAlphanum || char = '-' || char = '_' || char = ':' then char else '-')

def flowIdForSession (sessionId : String) : String := "flow:" ++ sessionId

def parseSessionFromFlowId (flowId : String) : Option String :=
  if Text.startsWith flowId "flow:" then some (String.ofList (flowId.toList.drop 5)) else none

def flowMapKey (sessionId : String) : String := "flow:map:" ++ (sessionId ++ ":active")

def flowIndexKey (flowId : String) : String := "flow:index:" ++ flowId

def flowPatchKey (sessionId flowId nodeId : String) (updatedAtMs : UInt64) : String :=
  "flow:patch:" ++ (sessionId ++ ":" ++ sanitizeKeyPart flowId ++ ":" ++
    sanitizeKeyPart nodeId ++ ":" ++ updatedAtMs.toNat.repr)

def nodeViewKey (view sessionId nodeId : String) : String :=
  "flow:node:" ++ (sessionId ++ ":" ++ sanitizeKeyPart nodeId ++ ":" ++ view)

section
variable (sessionId nodeId : String)

def nodeStateKey : String := nodeViewKey "state" sessionId nodeId

def sideEffectKey : String :=
  nodeViewKey "side_effect_state" sessionId nodeId

def budgetStateKey : String :=
  nodeViewKey "budget_state" sessionId nodeId

def triggerStateKey : String :=
  nodeViewKey "trigger_state" sessionId nodeId

end

def flowScope : String := "flow-state-engine"

/-! ## The map and its nodes -/

def defaultFlowMap (sessionId : String) (nowMs : UInt64) : FlowMapSnapshot where
  flowId := flowIdForSession sessionId
  sessionId
  planId := "plan:runtime"
  runId := "run:" ++ sessionId ++ ":active"
  nodes := []
  updatedAtMs := nowMs

def parseDependsOn (raw : Option String) : List String :=
  match raw with
  | some value => ((Text.split ',' value).map Text.trim).filter (· ≠ "")
  | none => []

def FlowStateFlags.patched (flags : FlowStateFlags) (metadata : Table String String) :
    FlowStateFlags where
  sideEffectState := (metadata.get "side_effect_state").getD flags.sideEffectState
  budgetState := (metadata.get "budget_state").getD flags.budgetState
  triggerState := (metadata.get "trigger_state").getD flags.triggerState

section
variable (patch : FlowStatePatch)

/-- The node that a patch adds when its own is not in the map. -/
def allocatedNode : FlowNodeRecord where
  nodeId := patch.nodeId
  taskId := (patch.metadata.get "task_id").getD patch.nodeId
  capabilityId := (patch.metadata.get "capability_id").getD "capability:unknown"
  state := patch.toState
  dependsOn := parseDependsOn (patch.metadata.get "depends_on")
  startedAtMs := if patch.toState = .running then some patch.updatedAtMs else none
  endedAtMs := if isTerminalState patch.toState then some patch.updatedAtMs else none
  flags := FlowStateFlags.patched {} patch.metadata
  metadata := Table.empty

def warnedMetadata (node : FlowNodeRecord) : Table String String :=
  match patch.fromState with
  | some expected =>
    if expected ≠ node.state then
      node.metadata.insert "transition_warning"
        ("state mismatch before patch: expected=" ++ expected.debug ++ ", actual=" ++
          node.state.debug)
    else node.metadata
  | none => node.metadata

def patchedNode (node : FlowNodeRecord) : FlowNodeRecord :=
  { node with
    state := patch.toState
    startedAtMs :=
      if patch.toState = .running ∧ node.startedAtMs.isNone then some patch.updatedAtMs
      else node.startedAtMs
    endedAtMs :=
      if isTerminalState patch.toState then some patch.updatedAtMs else node.endedAtMs
    flags := node.flags.patched patch.metadata
    metadata := (warnedMetadata patch node).insertAll patch.metadata.rows }

/-- The nodes with the one of the patch, which is added when it is missing. -/
def patchedNodes (nodes : List FlowNodeRecord) :
    List FlowNodeRecord :=
  let nodes :=
    if nodes.any (·.nodeId = patch.nodeId) then nodes else nodes ++ [allocatedNode patch]
  nodes.modify (nodes.findIdx (·.nodeId = patch.nodeId)) (patchedNode patch)

end

def patchedMap (sessionId : String) (patch : FlowStatePatch) (snapshot : FlowMapSnapshot) :
    FlowMapSnapshot where
  flowId := patch.flowId
  sessionId := snapshot.sessionId
  planId := if snapshot.planId = "" then "plan:runtime" else snapshot.planId
  runId := if snapshot.runId = "" then "run:" ++ sessionId ++ ":active" else snapshot.runId
  nodes := patchedNodes patch snapshot.nodes
  updatedAtMs := patch.updatedAtMs

def FlowRuntimeUpdate.patchMetadata (update : FlowRuntimeUpdate) : Table String String :=
  let metadata :=
    (((update.metadata.insert "session_id" update.sessionId).insert "trace_id"
      update.traceId).insert "task_id" update.taskId).insert "capability_id" update.capabilityId
  let metadata :=
    match update.sideEffectState with
    | some sideEffect => metadata.insert "side_effect_state" sideEffect
    | none => metadata
  let metadata :=
    match update.budgetState with
    | some budget => metadata.insert "budget_state" budget
    | none => metadata
  match update.triggerState with
  | some trigger => metadata.insert "trigger_state" trigger
  | none => metadata

def FlowRuntimeUpdate.patch (update : FlowRuntimeUpdate) (snapshot : FlowMapSnapshot)
    (nowMs : UInt64) : FlowStatePatch :=
  -- A node that is not in the map is taken as a pending one.
  let fromState :=
    match snapshot.nodes.find? (·.nodeId = update.taskId) with
    | some node => node.state
    | none => .pending
  { flowId := flowIdForSession update.sessionId
    nodeId := update.taskId
    fromState := some fromState
    toState := update.state.getD fromState
    reason := update.reason
    traceId := (update.patchMetadata.get "trace_id").getD "trace:unknown"
    updatedAtMs := nowMs
    metadata := update.patchMetadata }

def nodeStateView (snapshot : FlowMapSnapshot) (node : FlowNodeRecord) : NodeStateView where
  sessionId := snapshot.sessionId
  flowId := snapshot.flowId
  planId := snapshot.planId
  runId := snapshot.runId
  nodeId := node.nodeId
  taskId := node.taskId
  capabilityId := node.capabilityId
  state := Text.toAsciiLowercase node.state.debug
  startedAtMs := node.startedAtMs
  endedAtMs := node.endedAtMs
  updatedAtMs := snapshot.updatedAtMs

/-! ## Calls -/

namespace FlowStateEngine

variable (db : StateStore) (forms : FlowForms)

def fetchFlowMapInternal (sessionId : String) : StoreCall (Option FlowMapSnapshot) := do
  match ← db.getKnowledge (flowMapKey sessionId) with
  | none => return none
  | some record =>
    match forms.map.decode record.value with
    | some snapshot => return some snapshot
    | none =>
      Future.fail ("failed to deserialize flow map snapshot for session " ++ sessionId)

def currentFlowMap (sessionId : String) : StoreCall FlowMapSnapshot := do
  match ← fetchFlowMapInternal db forms sessionId with
  | some snapshot => return snapshot
  | none =>
    let nowMs ← StateStore.nowMs
    return defaultFlowMap sessionId nowMs

def persistNodeViews (snapshot : FlowMapSnapshot) (node : FlowNodeRecord) :
    StoreCall Unit := do
  let flag (value : String) : Except String String :=
    .ok (forms.flag.encode ⟨value, snapshot.updatedAtMs⟩)
  let _ ← db.upsertJsonKnowledge (nodeStateKey snapshot.sessionId node.nodeId)
    (.ok (forms.state.encode (nodeStateView snapshot node))) flowScope
  let _ ← db.upsertJsonKnowledge (sideEffectKey snapshot.sessionId node.nodeId)
    (flag node.flags.sideEffectState) flowScope
  let _ ← db.upsertJsonKnowledge (budgetStateKey snapshot.sessionId node.nodeId)
    (flag node.flags.budgetState) flowScope
  let _ ← db.upsertJsonKnowledge (triggerStateKey snapshot.sessionId node.nodeId)
    (flag node.flags.triggerState) flowScope
  return ()

def persistAllViews (snapshot : FlowMapSnapshot) : List FlowNodeRecord → StoreCall Unit
  | [] => return ()
  | node :: rest => do
      persistNodeViews db forms snapshot node
      persistAllViews snapshot rest

def upsertFlowMapInternal (snapshot : FlowMapSnapshot) : StoreCall Unit := do
  let _ ← db.upsertJsonKnowledge (flowMapKey snapshot.sessionId)
    (.ok (forms.map.encode snapshot)) flowScope
  let _ ← db.upsertKnowledge (flowIndexKey snapshot.flowId) snapshot.sessionId flowScope
  persistAllViews db forms snapshot snapshot.nodes

def sessionOfPatch (patch : FlowStatePatch) : StoreCall String := do
  match patch.metadata.get "session_id" with
  | some session => return session
  | none =>
    match ← db.getKnowledge (flowIndexKey patch.flowId) with
    | some record => return record.value
    | none => return (parseSessionFromFlowId patch.flowId).getD "session:unknown"

def applyPatchInternal (patch : FlowStatePatch) : StoreCall Unit := do
  let sessionId ← sessionOfPatch db patch
  let snapshot ← currentFlowMap db forms sessionId
  upsertFlowMapInternal db forms (patchedMap sessionId patch snapshot)
  let _ ← db.upsertJsonKnowledge
    (flowPatchKey sessionId patch.flowId patch.nodeId patch.updatedAtMs)
    (.ok (forms.patch.encode patch)) flowScope
  return ()

def applyRuntimeUpdate (update : FlowRuntimeUpdate) : StoreCall Unit := do
  let snapshot ← currentFlowMap db forms update.sessionId
  let nowMs ← StateStore.nowMs
  applyPatchInternal db forms (update.patch snapshot nowMs)

section
variable (sessionId traceId taskId capabilityId budgetState reason : String)

/-- The update that changes the budget state of a node. -/
def budgetUpdate :
    FlowRuntimeUpdate where
  sessionId
  traceId
  taskId
  capabilityId
  state := none
  reason
  sideEffectState := none
  budgetState := some budgetState
  triggerState := none
  metadata := Table.empty

def setBudgetState :
    StoreCall Unit :=
  applyRuntimeUpdate db forms
    (budgetUpdate sessionId traceId taskId capabilityId budgetState reason)

end

end FlowStateEngine

end AutoLoop.Runtime
