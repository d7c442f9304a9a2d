import AutoLoop.Foundation.JsonValue
import AutoLoop.StateAdapter.StoredTexts

/-!
# The relation facade

Contracts, edges and events of a session's relations.  A store with a mirror writes them in
one transaction of Postgres.  Without one, each call leaves its payload under a key made of
the session, the trace and the millisecond, and a listing rebuilds the table from the rows
under the session's prefix.
-/

namespace AutoLoop.Services

open StateAdapter

/-! ## Contracts, edges and events -/

inductive RelationNodeType where
  | session
  | task
  | turn
  | tool
  | capability
  | policy
  | evidence
  | skill
  | plugin
  | patch
  | custom
  deriving DecidableEq, Repr

def RelationNodeType.name : RelationNodeType → String
  | .session => "session"
  | .task => "task"
  | .turn => "turn"
  | .tool => "tool"
  | .capability => "capability"
  | .policy => "policy"
  | .evidence => "evidence"
  | .skill => "skill"
  | .plugin => "plugin"
  | .patch => "patch"
  | .custom => "custom"

inductive RelationEdgeType where
  | dependsOn
  | producedBy
  | approvedBy
  | blockedBy
  | supersedes
  | references
  | belongsTo
  | custom
  deriving DecidableEq, Repr

def RelationEdgeType.name : RelationEdgeType → String
  | .dependsOn => "depends_on"
  | .producedBy => "produced_by"
  | .approvedBy => "approved_by"
  | .blockedBy => "blocked_by"
  | .supersedes => "supersedes"
  | .references => "references"
  | .belongsTo => "belongs_to"
  | .custom => "custom"

inductive RelationEventType where
  | nodeUpserted
  | edgeUpserted
  | edgeRejected
  | edgeDeleted
  | consistencyViolation
  | repairProposed
  deriving DecidableEq, Repr

def RelationEventType.name : RelationEventType → String
  | .nodeUpserted => "node_upserted"
  | .edgeUpserted => "edge_upserted"
  | .edgeRejected => "edge_rejected"
  | .edgeDeleted => "edge_deleted"
  | .consistencyViolation => "consistency_violation"
  | .repairProposed => "repair_proposed"

structure RelationScope where
  tenantId : Option String := none
  sessionId : Option String := none
  traceId : Option String := none
  taskId : Option String := none
  capabilityId : Option String := none
  policyId : Option String := none

structure RelationReason where
  code : String
  message : String
  denyReason : Option String
  evidenceRef : Option String
  replayFp : Option String
  metadata : Table String String

structure RelationNode where
  nodeId : String
  nodeType : RelationNodeType
  scope : RelationScope
  displayName : Option String
  metadata : Table String String

structure RelationEdge where
  edgeId : String
  fromNodeId : String
  toNodeId : String
  edgeType : RelationEdgeType
  scope : RelationScope
  reason : Option RelationReason
  active : Bool
  metadata : Table String String

structure RelationEvent where
  eventId : String
  eventType : RelationEventType
  nodeId : Option String
  edgeId : Option String
  scope : RelationScope
  reason : Option RelationReason
  evidenceRef : Option String
  replayFp : Option String
  emittedAtMs : UInt64
  metadata : Table String String

structure RelationContract where
  apiVersion : String
  nodes : List RelationNode
  edges : List RelationEdge
  events : List RelationEvent

/-! ## JSON values -/

def metadataJson (metadata : Table String String) : JsonValue :=
  .object (metadata.rows.map fun row => (row.1, .string row.2))

def optionalText (text : Option String) : JsonValue := JsonValue.optional JsonValue.string text

def RelationScope.json (scope : RelationScope) : JsonValue :=
  .object [("capability_id", optionalText scope.capabilityId),
    ("policy_id", optionalText scope.policyId), ("session_id", optionalText scope.sessionId),
    ("task_id", optionalText scope.taskId), ("tenant_id", optionalText scope.tenantId),
    ("trace_id", optionalText scope.traceId)]

def RelationReason.json (reason : RelationReason) : JsonValue :=
  .object [("code", .string reason.code), ("deny_reason", optionalText reason.denyReason),
    ("evidence_ref", optionalText reason.evidenceRef), ("message", .string reason.message),
    ("metadata", metadataJson reason.metadata), ("replay_fp", optionalText reason.replayFp)]

def RelationNode.json (node : RelationNode) : JsonValue :=
  .object [("display_name", optionalText node.displayName),
    ("metadata", metadataJson node.metadata), ("node_id", .string node.nodeId),
    ("node_type", .string node.nodeType.name), ("scope", node.scope.json)]

def RelationEdge.json (edge : RelationEdge) : JsonValue :=
  .object [("active", .bool edge.active), ("edge_id", .string edge.edgeId),
    ("edge_type", .string edge.edgeType.name), ("from_node_id", .string edge.fromNodeId),
    ("metadata", metadataJson edge.metadata),
    ("reason", JsonValue.optional RelationReason.json edge.reason),
    ("scope", edge.scope.json), ("to_node_id", .string edge.toNodeId)]

def RelationEvent.json (event : RelationEvent) : JsonValue :=
  .object [("edge_id", optionalText event.edgeId),
    ("emitted_at_ms", .unsigned event.emittedAtMs), ("event_id", .string event.eventId),
    ("event_type", .string event.eventType.name),
    ("evidence_ref", optionalText event.evidenceRef), ("metadata", metadataJson event.metadata),
    ("node_id", optionalText event.nodeId),
    ("reason", JsonValue.optional RelationReason.json event.reason),
    ("replay_fp", optionalText event.replayFp), ("scope", event.scope.json)]

def RelationContract.json (contract : RelationContract) : JsonValue :=
  .object [("api_version", .string contract.apiVersion),
    ("edges", .array (contract.edges.map RelationEdge.json)),
    ("events", .array (contract.events.map RelationEvent.json)),
    ("nodes", .array (contract.nodes.map RelationNode.json))]

/-! ## Writes -/

/-- What a call writes. -/
inductive RelationPayload where
  | contract (contract : RelationContract)
  | edge (edge : RelationEdge)
  | event (event : RelationEvent)

/-- A call at a millisecond. -/
structure RelationWrite where
  sessionId : String
  traceId : String
  payload : RelationPayload
  source : String
  nowMs : UInt64

namespace RelationWrite

section
variable (write : RelationWrite)

/-- What the keys of a write end in. -/
def place : String :=
  write.sessionId ++ ":" ++ write.traceId ++ ":" ++ write.nowMs.toNat.repr

def stateKey : String := "relation:state:" ++ write.place

def relationEventKey : String := "relation:event:" ++ write.place

def evidenceKey : String := "relation:evidence:" ++ write.place

def writeProofKey : String := "relation:write_proof:" ++ write.place

/-- `state_payload`. -/
def statePayload : JsonValue :=
  let member : (String × JsonValue) × String :=
    match write.payload with
    | .contract contract => (("contract", contract.json), "relation_contract")
    | .edge edge => (("edge", edge.json), "relation_edge")
    | .event event => (("event", event.json), "relation_event")
  .object [member.1, ("kind", .string member.2), ("session_id", .string write.sessionId),
    ("trace_id", .string write.traceId), ("updated_at_ms", .unsigned write.nowMs)]

end

end RelationWrite

/-- The texts of what a write leaves.  Listings read the first of them. -/
structure RelationTexts where
  state : RelationWrite → String
  relationEvent : RelationWrite → String
  evidence : RelationWrite → String
  writeProof : RelationWrite → String
  /-- `serde_json::from_str`. -/
  parse : String → Option JsonValue
  parse_state : ∀ write, parse (state write) = some write.statePayload

/-! ## Records -/

structure RelationEdgeCurrentRecord where
  sessionId : String
  traceId : String
  edgeId : String
  fromNode : String
  toNode : String
  edgeType : String
  payload : JsonValue
  evidenceRef : String
  updatedAtMs : UInt64

structure RelationEventRecord where
  sessionId : String
  traceId : String
  eventId : String
  eventType : String
  payload : JsonValue
  evidenceRef : String
  createdAtMs : UInt64

def textAt (value : JsonValue) (key : String) : Option String :=
  (value.get key).bind JsonValue.asString

/-- `as_u64` of the number at a key. -/
def unsignedAt (value : JsonValue) (key : String) : Option UInt64 :=
  (value.get key).bind fun
    | .number (.posInt number) => some number
    | _ => none

def edgeRecord (sessionId : String) (value : JsonValue) : Option RelationEdgeCurrentRecord :=
  if textAt value "kind" = some "relation_edge" then
    (value.get "edge").map fun payload => {
      sessionId := (textAt value "session_id").getD sessionId
      traceId := (textAt value "trace_id").getD ""
      edgeId := (textAt payload "edge_id").getD ""
      fromNode := (textAt payload "from_node").getD ""
      toNode := (textAt payload "to_node").getD ""
      edgeType := (textAt payload "edge_type").getD ""
      payload
      evidenceRef := (textAt value "evidence_ref").getD ""
      updatedAtMs := (unsignedAt value "updated_at_ms").getD 0 }
  else none

def eventRecord (sessionId : String) (value : JsonValue) : Option RelationEventRecord :=
  if textAt value "kind" = some "relation_event" then
    (value.get "event").map fun payload => {
      sessionId := (textAt value "session_id").getD sessionId
      traceId := (textAt value "trace_id").getD ""
      eventId := (textAt payload "event_id").getD ""
      eventType := (textAt payload "event_type").getD ""
      payload
      evidenceRef := (textAt value "evidence_ref").getD ""
      createdAtMs := (unsignedAt value "updated_at_ms").getD 0 }
  else none

/-! ## The facade -/

structure RelationMirror where
  atomicWrite : RelationWrite → StoreCall String
  listEdges : String → Nat → StoreCall (List RelationEdgeCurrentRecord)
  listEvents : String → Nat → StoreCall (List RelationEventRecord)

structure RelationFacade where
  stateStore : StateStore
  mirror : RelationMirror
  texts : RelationTexts

def statePrefix (sessionId : String) : String := "relation:state:" ++ (sessionId ++ ":")

def isMissingPostgresMirrorError (error : String) : Bool :=
  Text.contains (Text.toAsciiLowercase error) "requires postgres mirror"

namespace RelationFacade

variable (facade : RelationFacade)

def atomicWriteRelationBundle (write : RelationWrite) : StoreCall String :=
  match facade.stateStore.mirror with
  | none => Future.fail "atomic relation write requires postgres mirror"
  | some _ => facade.mirror.atomicWrite write

def atomicWriteRelationBundleWithFallback (write : RelationWrite) : StoreCall String := do
  match ← Future.attempt (facade.atomicWriteRelationBundle write) with
  | .ok evidenceRef => return evidenceRef
  | .error error =>
    if isMissingPostgresMirrorError error then
      let _ ← facade.stateStore.upsertJsonKnowledge write.stateKey
        (.ok (facade.texts.state write)) write.source
      let _ ← facade.stateStore.upsertJsonKnowledge write.relationEventKey
        (.ok (facade.texts.relationEvent write)) write.source
      let _ ← facade.stateStore.upsertJsonKnowledge write.evidenceKey
        (.ok (facade.texts.evidence write)) write.source
      let _ ← facade.stateStore.upsertJsonKnowledge write.writeProofKey
        (.ok (facade.texts.writeProof write)) write.source
      return write.evidenceKey
    else Future.fail error

section
variable (sessionId traceId : String)

/-- A call writes its payload at the millisecond it reads, and answers with the reference of
its evidence. -/
def write (payload : RelationPayload) (source : String) :
    StoreCall String := do
  let nowMs ← StateStore.nowMs
  facade.atomicWriteRelationBundleWithFallback { sessionId, traceId, payload, source, nowMs }

def upsertContract (contract : RelationContract)
    (source : String) : StoreCall String :=
  facade.write sessionId traceId (.contract contract) source

def upsertEdge (edge : RelationEdge) (source : String) :
    StoreCall String :=
  facade.write sessionId traceId (.edge edge) source

def appendEvent (event : RelationEvent) (source : String) :
    StoreCall String :=
  facade.write sessionId traceId (.event event) source

end

/-- `fallback_kv_list` of JSON values, which reads the repository. -/
def fallbackKvList (start : String) : StoreCall (List JsonValue) := do
  let records ← StateStore.repoList start
  return records.filterMap fun record => facade.texts.parse record.value

/-- The first records after a stable sort by falling time. -/
def newest {Record : Type} (time : Record → UInt64) (limit : Nat) (records : List Record) :
    List Record :=
  (sortByKey (fun record => OrderDual.toDual (time record).toNat) records).take (max limit 1)

def listEdges (sessionId : String) (limit : Nat) :
    StoreCall (List RelationEdgeCurrentRecord) :=
  match facade.stateStore.mirror with
  | none => do
      let values ← facade.fallbackKvList (statePrefix sessionId)
      return newest RelationEdgeCurrentRecord.updatedAtMs limit
        (values.filterMap (edgeRecord sessionId))
  | some _ => facade.mirror.listEdges sessionId limit

def listEvents (sessionId : String) (limit : Nat) : StoreCall (List RelationEventRecord) :=
  match facade.stateStore.mirror with
  | none => do
      let values ← facade.fallbackKvList (statePrefix sessionId)
      return newest RelationEventRecord.createdAtMs limit
        (values.filterMap (eventRecord sessionId))
  | some _ => facade.mirror.listEvents sessionId limit

end RelationFacade

end AutoLoop.Services
