import AutoLoop.Plugins.PlainForms
import AutoLoop.Services.RelationListings

/-!
# Relation listings of plain stores

Texts of relation writes with the law of the real ones, and runs whose listings lose, repeat
and mix up records.
-/

namespace AutoLoop.Services

open StateAdapter

namespace RelationForms

@[reducible] def byFields {Record α : Type} [FieldForm α] (fields : Record → α)
    (build : α → Record) (built : ∀ record, build (fields record) = record) :
    FieldForm Record where
  write record := FieldForm.write (fields record)
  read texts := (FieldForm.read texts).map fun found => (build found.1, found.2)
  read_write record rest := by
    rw [FieldForm.read_write, Option.map_some, built]
  nonempty record := FieldForm.nonempty (fields record)

instance nodeType : FieldForm RelationNodeType :=
  .ofText RelationNodeType.name
    (fun
      | "session" => some .session
      | "task" => some .task
      | "turn" => some .turn
      | "tool" => some .tool
      | "capability" => some .capability
      | "policy" => some .policy
      | "evidence" => some .evidence
      | "skill" => some .skill
      | "plugin" => some .plugin
      | "patch" => some .patch
      | "custom" => some .custom
      | _ => none)
    fun value => by cases value <;> rfl

instance edgeType : FieldForm RelationEdgeType :=
  .ofText RelationEdgeType.name
    (fun
      | "depends_on" => some .dependsOn
      | "produced_by" => some .producedBy
      | "approved_by" => some .approvedBy
      | "blocked_by" => some .blockedBy
      | "supersedes" => some .supersedes
      | "references" => some .references
      | "belongs_to" => some .belongsTo
      | "custom" => some .custom
      | _ => none)
    fun value => by cases value <;> rfl

instance eventType : FieldForm RelationEventType :=
  .ofText RelationEventType.name
    (fun
      | "node_upserted" => some .nodeUpserted
      | "edge_upserted" => some .edgeUpserted
      | "edge_rejected" => some .edgeRejected
      | "edge_deleted" => some .edgeDeleted
      | "consistency_violation" => some .consistencyViolation
      | "repair_proposed" => some .repairProposed
      | _ => none)
    fun value => by cases value <;> rfl

instance scope : FieldForm RelationScope :=
  byFields
    (fun scope => (scope.tenantId, scope.sessionId, scope.traceId, scope.taskId,
      scope.capabilityId, scope.policyId))
    (fun (tenantId, sessionId, traceId, taskId, capabilityId, policyId) =>
      ⟨tenantId, sessionId, traceId, taskId, capabilityId, policyId⟩)
    fun _ => rfl

instance reason : FieldForm RelationReason :=
  byFields
    (fun reason => (reason.code, reason.message, reason.denyReason, reason.evidenceRef,
      reason.replayFp, reason.metadata))
    (fun (code, message, denyReason, evidenceRef, replayFp, metadata) =>
      ⟨code, message, denyReason, evidenceRef, replayFp, metadata⟩)
    fun _ => rfl

instance node : FieldForm RelationNode :=
  byFields
    (fun node => (node.nodeId, node.nodeType, node.scope, node.displayName, node.metadata))
    (fun (nodeId, nodeType, scope, displayName, metadata) =>
      ⟨nodeId, nodeType, scope, displayName, metadata⟩)
    fun _ => rfl

instance edge : FieldForm RelationEdge :=
  byFields
    (fun edge => ((edge.edgeId, edge.fromNodeId, edge.toNodeId, edge.edgeType),
      (edge.scope, edge.reason, edge.active, edge.metadata)))
    (fun ((edgeId, fromNodeId, toNodeId, edgeType), (scope, reason, active, metadata)) =>
      ⟨edgeId, fromNodeId, toNodeId, edgeType, scope, reason, active, metadata⟩)
    fun _ => rfl

instance event : FieldForm RelationEvent :=
  byFields
    (fun event => ((event.eventId, event.eventType, event.nodeId, event.edgeId),
      (event.scope, event.reason, event.evidenceRef),
      (event.replayFp, event.emittedAtMs, event.metadata)))
    (fun ((eventId, eventType, nodeId, edgeId), (scope, reason, evidenceRef),
        (replayFp, emittedAtMs, metadata)) =>
      ⟨eventId, eventType, nodeId, edgeId, scope, reason, evidenceRef, replayFp, emittedAtMs,
        metadata⟩)
    fun _ => rfl

instance contract : FieldForm RelationContract :=
  byFields
    (fun contract => (contract.apiVersion, contract.nodes, contract.edges, contract.events))
    (fun (apiVersion, nodes, edges, events) => ⟨apiVersion, nodes, edges, events⟩)
    fun _ => rfl

/-- What a write carries, by the first of its parts that is there. -/
instance payload : FieldForm RelationPayload :=
  byFields
    (fun
      | .contract contract => (some contract, none, ⟨"", .nodeUpserted, none, none, {}, none, none,
          none, 0, Table.empty⟩)
      | .edge edge => (none, some edge, ⟨"", .nodeUpserted, none, none, {}, none, none, none, 0,
          Table.empty⟩)
      | .event event => (none, none, event))
    (fun
      | (some contract, _, _) => .contract contract
      | (none, some edge, _) => .edge edge
      | (none, none, event) => .event event)
    fun payload => by cases payload <;> rfl

def write : JsonForm RelationWrite :=
  .ofFields
    (fun write => (write.sessionId, write.traceId, write.payload, write.source, write.nowMs))
    (fun (sessionId, traceId, payload, source, nowMs) =>
      ⟨sessionId, traceId, payload, source, nowMs⟩)
    fun _ => rfl

def texts : RelationTexts where
  state := write.encode
  relationEvent := write.encode
  evidence := write.encode
  writeProof := write.encode
  parse text := (write.decode text).map RelationWrite.statePayload
  parse_state write' := by rw [write.decode_encode, Option.map_some]

end RelationForms

namespace RelationFacade

def plainFacade : RelationFacade where
  stateStore := ⟨none, fun _ => 0⟩
  mirror := ⟨fun _ => Future.fail "", fun _ _ => Future.fail "", fun _ _ => Future.fail ""⟩
  texts := RelationForms.texts

/-- Backends whose clock advances with every access. -/
def ticking : Shared := Shared.started fun tick => ⟨UInt64.ofNat tick, none, none, none, .completed⟩

/-- The edge between two tasks. -/
def dependency : RelationEdge :=
  ⟨"e", "first", "second", .dependsOn, {}, none, true, Table.empty⟩

/-- The upsert of an edge in the session `s`. -/
def dependencyUpserted : RelationCall := .upsertEdge "s" "t" dependency "test"

/-- One upsert is listed. -/
theorem single_upsert_listed :
    (plainFacade.calls ticking).Always (plainFacade.ListsTables "s") ⟨ticking, []⟩
      [dependencyUpserted] :=
  (listings_law plainFacade rfl ticking (fun _ _ => rfl) "s" [dependencyUpserted]).mpr
    ⟨fun _ => ⟨Or.inl rfl, rfl, rfl⟩, trivial⟩

/-- An edge that is upserted again at a later millisecond is listed twice. -/
theorem second_upsert_listed_twice :
    ¬(plainFacade.calls ticking).Always (plainFacade.ListsTables "s") ⟨ticking, []⟩
      [dependencyUpserted, dependencyUpserted] := by
  intro always
  have recorded := @recorded_run plainFacade rfl ticking ⟨ticking, []⟩
    (recorded_start fun _ _ => rfl) [dependencyUpserted, dependencyUpserted]
  have alike := (listsTables_iff rfl recorded "s").mp always.run
  have log : ((plainFacade.calls ticking).run ⟨ticking, []⟩
      [dependencyUpserted, dependencyUpserted]).2.log =
        [⟨"s", "t", .edge dependency, "test", 5⟩, ⟨"s", "t", .edge dependency, "test", 0⟩] := rfl
  rw [log] at alike
  have twice : (seenEdges "s" [⟨"s", "t", .edge dependency, "test", 5⟩,
      ⟨"s", "t", .edge dependency, "test", 0⟩]).length = 2 := by decide
  have once : (relationEdges "s" [⟨"s", "t", .edge dependency, "test", 5⟩,
      ⟨"s", "t", .edge dependency, "test", 0⟩]).length = 1 := by decide
  have same := alike.1.length_eq
  rw [twice, once] at same
  cases same

end RelationFacade

end AutoLoop.Services
