import AutoLoop.Foundation.JsonValue
import AutoLoop.Foundation.Text

/-!
# The gate from execution to release

One pass over the nodes of a task tree decides which of them are committed.  A node
leaves the pass by one of six exits; the deferred ones join the iterated ones at the end.
-/

namespace AutoLoop.OrgKernel

/-- The parts of a node that the planner and the gate read. -/
structure ProjectTaskNode where
  nodeId : String
  deps : List String
  retryCount : UInt32
  reviewRound : UInt32
  deriving DecidableEq, Repr

structure TaskTree where
  treeId : String
  nodes : List ProjectTaskNode
  deriving DecidableEq, Repr

namespace TaskTree

def ids (tree : TaskTree) : List String := tree.nodes.map (·.nodeId)

end TaskTree

structure ReviewEdge where
  targetTaskNodeId : String
  required : Bool
  deriving DecidableEq, Repr

structure ReviewGraph where
  graphId : String
  edges : List ReviewEdge
  deriving DecidableEq, Repr

/-- The parts of a report that the gate reads. -/
structure ExecutionReport where
  taskId : String
  output : String
  outcomeScore : Int32
  guardDecision : String
  deriving DecidableEq, Repr

structure E2rLimit where
  maxReviewRound : UInt32
  maxRetry : UInt32
  maxCostMicros : UInt64
  maxTimeMs : UInt64
  deriving DecidableEq, Repr

inductive TaskNodeStatus where
  | pending
  | processing
  | completed
  | reviewing
  | accepted
  | rejected
  | committed
  | escalated
  deriving DecidableEq, Repr

structure E2rTaskDecision where
  taskNodeId : String
  fromStatus : TaskNodeStatus
  toStatus : TaskNodeStatus
  decision : String
  evidenceRef : String
  deriving DecidableEq, Repr

structure E2rGateOutcome where
  decisions : List E2rTaskDecision
  acceptedTaskIds : List String
  committedTaskIds : List String
  iterateTaskIds : List String
  acceptedCount : Nat
  committedCount : Nat
  rejectedCount : Nat
  deriving DecidableEq, Repr

/-! ## Proofs in the output of a report -/

def textAt (value : JsonValue) (key : String) : Option String :=
  (value.get key).bind JsonValue.asString

/-- The text at a key is there and not blank. -/
def filled (text : Option String) : Bool := Text.trim (text.getD "") ≠ ""

def writeProofFilled (proof : JsonValue) : Bool :=
  filled (textAt proof "sha256" <|> textAt proof "hash") && filled (textAt proof "evidence_ref")

/-- The output, parsed by `serde_json::from_str`, names evidence and a proof of the write. -/
def globalGateProofPresent (fromStr : String → Option JsonValue) (report : ExecutionReport) :
    Bool :=
  match fromStr report.output with
  | none => false
  | some value =>
    filled (textAt value "evidence_ref" <|> textAt value "relation_evidence_ref") &&
      (((value.get "write_proof" <|> value.get "relation_write_proof").any writeProofFilled) ||
        filled (textAt value "relation_write_proof_ref"))

/-! ## The gate -/

/-- What a call of the gate reads. -/
structure E2rCall where
  sessionId : String
  tree : TaskTree
  reviewGraph : ReviewGraph
  executionReports : List ExecutionReport
  limits : E2rLimit
  observedCostMicros : UInt64
  observedTimeMs : UInt64
  nowMs : UInt64

/-- What the pass over the nodes has collected. -/
structure E2rPass where
  decisions : List E2rTaskDecision
  acceptedTaskIds : List String
  committedTaskIds : List String
  iterateTaskIds : List String
  rejectedCount : Nat
  deferredNodes : List String

namespace E2rController

variable (fromStr : String → Option JsonValue) (call : E2rCall)

def hardLimitExceeded : Bool :=
  (0 < call.limits.maxCostMicros && call.limits.maxCostMicros < call.observedCostMicros) ||
    (0 < call.limits.maxTimeMs && call.limits.maxTimeMs < call.observedTimeMs)

def nodeLimitReached (node : ProjectTaskNode) : Bool :=
  call.limits.maxReviewRound ≤ node.reviewRound || call.limits.maxRetry ≤ node.retryCount

def reportOf (taskId : String) : Option ExecutionReport :=
  call.executionReports.reverse.find? (·.taskId = taskId)

def dependsOnKnownNodes (node : ProjectTaskNode) : List String :=
  node.deps.filter (· ∈ call.tree.ids)

def hasReviewer (node : ProjectTaskNode) : Bool :=
  call.reviewGraph.edges.any fun edge => edge.targetTaskNodeId = node.nodeId && edge.required

def executionPass (report : ExecutionReport) : Bool :=
  0 ≤ report.outcomeScore && !Text.eqIgnoreAsciiCase report.guardDecision "block"

def reviewPass (node : ProjectTaskNode) (report : ExecutionReport) : Bool :=
  3 ≤ report.outcomeScore && hasReviewer call node

def evidence (kind nodeId : String) : String :=
  "evidence:e2r:" ++ call.sessionId ++ ":" ++ kind ++ ":" ++ nodeId ++ ":" ++
    call.nowMs.toNat.repr

def decisionOn (nodeId : String) (fromStatus toStatus : TaskNodeStatus) (decision kind : String) :
    E2rTaskDecision where
  taskNodeId := nodeId
  fromStatus
  toStatus
  decision
  evidenceRef := evidence call kind nodeId

section
variable (pass : E2rPass)

def iterate (nodeId : String) (decisions : List E2rTaskDecision) : E2rPass :=
  { pass with
    iterateTaskIds := pass.iterateTaskIds ++ [nodeId]
    rejectedCount := pass.rejectedCount + 1
    decisions := pass.decisions ++ decisions }

section
variable (node : ProjectTaskNode)

def missingReport : E2rPass :=
  iterate pass node.nodeId
    [decisionOn call node.nodeId .pending .processing "rejected->iterate(missing_execution_report)"
      "reject-missing-report"]

def hardLimitEscalate : E2rPass :=
  iterate pass node.nodeId
    [decisionOn call node.nodeId .rejected .escalated
      ("rejected->escalate(e2r_hard_limit_exceeded:cost=" ++
        call.observedCostMicros.toNat.repr ++ "/" ++ call.limits.maxCostMicros.toNat.repr ++
        ",time=" ++ call.observedTimeMs.toNat.repr ++ "/" ++ call.limits.maxTimeMs.toNat.repr ++
        ")")
      "hard-limit-escalate"]

def nodeLimitEscalate : E2rPass :=
  iterate pass node.nodeId
    [decisionOn call node.nodeId .rejected .escalated
      ("rejected->escalate(e2r_hard_limit_node:review_round=" ++ node.reviewRound.toNat.repr ++
        "/" ++ call.limits.maxReviewRound.toNat.repr ++ ",retry=" ++ node.retryCount.toNat.repr ++
        "/" ++ call.limits.maxRetry.toNat.repr ++ ")")
      "node-limit-escalate"]

def defer : E2rPass :=
  { pass with deferredNodes := pass.deferredNodes ++ [node.nodeId] }

def commit : E2rPass :=
  { pass with
    acceptedTaskIds := pass.acceptedTaskIds ++ [node.nodeId]
    committedTaskIds := pass.committedTaskIds ++ [node.nodeId]
    decisions := pass.decisions ++
      [decisionOn call node.nodeId .completed .reviewing "completed->reviewing" "completed-reviewing",
        decisionOn call node.nodeId .reviewing .accepted
          "reviewing->accepted(review_pass_with_evidence)" "reviewing-accepted",
        decisionOn call node.nodeId .accepted .committed "accepted->committed(global_gate_pass)"
          "accepted-committed"] }

end

end

def rejectReason (node : ProjectTaskNode) (report : ExecutionReport) : String :=
  if !executionPass report then "execution_fail"
  else if !hasReviewer call node then "missing_reviewer"
  else if !globalGateProofPresent fromStr report then "missing_global_gate_proof"
  else "review_reject"

def reject (pass : E2rPass) (node : ProjectTaskNode) (report : ExecutionReport) : E2rPass :=
  let reason := rejectReason fromStr call node report
  iterate pass node.nodeId
    [decisionOn call node.nodeId .completed .reviewing "completed->reviewing" "completed-reviewing",
      decisionOn call node.nodeId .reviewing .rejected ("reviewing->rejected(" ++ reason ++ ")")
        "reviewing-rejected",
      decisionOn call node.nodeId .rejected .processing ("rejected->iterate(" ++ reason ++ ")")
        "rejected-iterate"]

def gateNode (pass : E2rPass) (node : ProjectTaskNode) : E2rPass :=
  match reportOf call node.nodeId with
  | none => missingReport call pass node
  | some report =>
    if hardLimitExceeded call then hardLimitEscalate call pass node
    else if nodeLimitReached call node then nodeLimitEscalate call pass node
    else if (dependsOnKnownNodes call node).any (· ∉ pass.committedTaskIds) then
      defer pass node
    else if executionPass report && reviewPass call node report &&
        globalGateProofPresent fromStr report then
      commit call pass node
    else reject fromStr call pass node report

def start : E2rPass where
  decisions := []
  acceptedTaskIds := []
  committedTaskIds := []
  iterateTaskIds := []
  rejectedCount := 0
  deferredNodes := []

def joinDeferred (pass : E2rPass) (nodeId : String) : E2rPass :=
  iterate pass nodeId
    [decisionOn call nodeId .completed .reviewing "deferred->wait_for_dependencies_accepted"
      "deferred-dependency"]

def outcomeOf (pass : E2rPass) : E2rGateOutcome where
  acceptedCount := pass.acceptedTaskIds.length
  committedCount := pass.committedTaskIds.length
  rejectedCount := pass.rejectedCount
  decisions := pass.decisions
  acceptedTaskIds := pass.acceptedTaskIds
  committedTaskIds := pass.committedTaskIds
  iterateTaskIds := pass.iterateTaskIds

/-- The pass over the nodes, before the deferred ones join. -/
def passOver : E2rPass := call.tree.nodes.foldl (gateNode fromStr call) start

def enforce : E2rGateOutcome :=
  let pass := passOver fromStr call
  outcomeOf (pass.deferredNodes.foldl (joinDeferred call) pass)

end E2rController

end AutoLoop.OrgKernel
