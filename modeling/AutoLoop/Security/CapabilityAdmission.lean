import AutoLoop.Contracts.Capability
import AutoLoop.Runtime.EvidenceLedger
import AutoLoop.Security.ExecutionIdentity
import AutoLoop.Security.PolicyHost.DecisionLog

/-!
# Capability admission

`CapabilityAdmissionEngine::admit_selected`: the gates that a forged capability passes
one after another, each over what is stored, and the records that every decision leaves
under its evidence reference.
-/

namespace AutoLoop.Security

open Contracts
open AutoLoop.Runtime (EvidenceLedgerWriter StageContent StageEvidenceRecord)
open StateAdapter
open JsonValue (bool string texts unsigned optional)
open StateStore

/-! ## Stored texts -/

structure AdmissionFeedback where
  trustDecayDelta : Float32
  approvalThreshold : String
  source : String

/-- The functions of `serde_json` and of the hasher that admission is built on. -/
structure AdmissionSerde where
  toText : JsonValue → String
  fromText : String → Option JsonValue
  feedbackFromText : String → Option AdmissionFeedback
  hashText : JsonValue → String
  canonicalJson : JsonValue → String
  hashValue : StageContent JsonValue → String
  recordToText : StageEvidenceRecord JsonValue → String
  recordFromText : String → Option (StageEvidenceRecord JsonValue)

/-- `get(..).as_bool()`. -/
def boolAt (key : String) (value : JsonValue) : Option Bool :=
  (value.get key).bind JsonValue.asBool

/-- The first of the fields that is there decides. -/
def jsonBool (value : JsonValue) : Bool :=
  ((boolAt "approved" value <|> boolAt "allow" value) <|> boolAt "allowed" value).getD false

def f32Max (first second : Float32) : Float32 :=
  if first.isNaN then second else if first < second then second else first

def effectiveScore (score : Float32) (feedback : AdmissionFeedback) : Float32 :=
  score - f32Max feedback.trustDecayDelta 0.0

/-- The score falls below the threshold that the feedback names. -/
def AdmissionFeedback.Violated (feedback : AdmissionFeedback) (score : Float32)
    (threshold : String) (bound : Float32) : Prop :=
  Text.toAsciiLowercase feedback.approvalThreshold = threshold ∧
    effectiveScore score feedback < bound

instance (feedback : AdmissionFeedback) (score : Float32) (threshold : String)
    (bound : Float32) : Decidable (feedback.Violated score threshold bound) :=
  inferInstanceAs (Decidable (_ ∧ _))

/-! ## The engine -/

def selectFactoryArtifacts (artifacts : List FactoryArtifact) (server : String) :
    List FactoryArtifact :=
  artifacts.filter fun artifact =>
    artifact.provider = "mcp:" ++ server || artifact.provider = server ||
      artifact.metadata.lookup "server" = some server

/-- The arguments that all records of a call name. -/
structure AdmissionScope where
  sessionId : String
  taskId : String
  identity : ExecutionIdentity
  intent : CapabilityIntent

structure CapabilityAdmissionEngine where
  policyMode : PolicyMode
  store : StateStore
  forms : JsonForms
  serde : AdmissionSerde

namespace CapabilityAdmissionEngine

variable (engine : CapabilityAdmissionEngine) (scope : AdmissionScope)

/-- The payloads that admission appends carry no policy, so that they stay as they are. -/
def ledger : EvidenceLedgerWriter JsonValue where
  store := engine.store
  sanitize := fun payload =>
    ((PolicyHost.sanitizeDecisionPayload engine.serde.hashText payload).map (·.payload)).getD
      payload
  canonicalJson := engine.serde.canonicalJson
  hashValue := engine.serde.hashValue
  encode := engine.serde.recordToText
  decode := engine.serde.recordFromText

def upsertJson (key : String) (value : JsonValue) (source : String) :
    StoreCall KnowledgeRecord :=
  engine.store.upsertJsonKnowledge key (.ok (engine.serde.toText value)) source

def readValue (key : String) : StoreCall (Option JsonValue) := do
  return (← engine.store.getKnowledge key).bind fun record => engine.serde.fromText record.value

/-- `json_bool_key`. -/
def jsonBoolKey (key : String) : StoreCall Bool := do
  return ((← engine.readValue key).map jsonBool).getD false

/-! ### Keys -/

def feedbackKey : String := "capability-admission:" ++ scope.sessionId ++ ":feedback"

def scopedKey (start : String) (scope : AdmissionScope) (rest : String) : String :=
  start ++ ":" ++ scope.sessionId ++ ":" ++ scope.taskId ++ ":" ++ rest

def approvalKey (toolName : String) : String := scopedKey "approval:capability" scope toolName

def strategyDenyKey (toolName : String) : String :=
  scopedKey "policy-pdp:strategy-deny" scope toolName

def strategyAllowKey (toolName : String) : String :=
  scopedKey "policy-pdp:strategy-allow" scope toolName

/-! ### Records -/

/-- The fields of an admission record, and of the payload beside its reference. -/
def admissionFields (decision : CapabilityAdmissionDecision)
    (manifest : Option ForgedMcpToolManifest) (artifacts : List FactoryArtifact) :
    List (String × JsonValue) :=
  [("decision", decision.toValue),
    ("factory_artifacts", .array (artifacts.map FactoryArtifact.toValue)),
    ("factory_manifest", optional ForgedMcpToolManifest.toReference manifest)]

def identityFields : List (String × JsonValue) :=
  [("policy_id", string scope.identity.policyId),
    ("principal_id", string scope.identity.principalId),
    ("session_id", string scope.sessionId), ("task_id", string scope.taskId),
    ("tenant_id", string scope.identity.tenantId)]

def admissionPayload (key : String) (decision : CapabilityAdmissionDecision)
    (manifest : Option ForgedMcpToolManifest) (artifacts : List FactoryArtifact) : JsonValue :=
  .object (("admission_record_ref", string key) ::
    admissionFields decision manifest artifacts ++ identityFields scope)

def persistAdmissionRecord (decision : CapabilityAdmissionDecision)
    (manifest : Option ForgedMcpToolManifest) (artifacts : List FactoryArtifact) :
    StoreCall String := do
  let key := scopedKey "capability-admission" scope (← nowMs).toNat.repr
  let _ ← engine.upsertJson key
    (.object (admissionFields decision manifest artifacts ++
      ("intent", scope.intent.toValue) :: identityFields scope)) "capability-admission"
  engine.ledger.appendStage scope.sessionId scope.taskId .admission
    (admissionPayload scope key decision manifest artifacts) none

def reject (candidate : CapabilityCandidate) (reason : String) (quotaRemaining : Option UInt64)
    (manifest : ForgedMcpToolManifest) (artifacts : List FactoryArtifact) :
    StoreCall CapabilityAdmissionDecision := do
  let decision : CapabilityAdmissionDecision :=
    ⟨false, reason, some candidate, quotaRemaining, none⟩
  let evidenceRef ← engine.persistAdmissionRecord scope decision (some manifest) artifacts
  let decision := { decision with evidenceRef := some evidenceRef }
  let key := scopedKey "policy-reject" scope (← nowMs).toNat.repr
  let _ ← engine.upsertJson key
    (.object ([("admission_evidence_ref", string evidenceRef), ("decision", decision.toValue),
      ("intent", scope.intent.toValue)] ++ identityFields scope)) "capability-admission"
  return decision

/-! ### The policy decision -/

def strategyAllowsHighRisk (toolName : String) : StoreCall Bool := do
  if ← engine.jsonBoolKey (strategyDenyKey scope toolName) then
    return false
  else if ← engine.jsonBoolKey (strategyAllowKey scope toolName) then
    return true
  else
    engine.jsonBoolKey (approvalKey scope toolName)

def policyInput (toolName : String) (risk : CapabilityRisk) : PolicyInput where
  tenantId := scope.identity.tenantId
  subject := scope.identity.principalId
  action := "capability_execute"
  resource := some toolName
  labels := ["policy:" ++ scope.identity.policyId,
    Text.toAsciiLowercase ("risk:" ++ risk.debug), "objective:" ++ scope.intent.objective]
  contextHash := some (scope.sessionId ++ ":" ++ scope.taskId ++ ":" ++ scope.identity.leaseToken)

def pdpReason (strategyAllowed : Bool) : DecisionReason :=
  if strategyAllowed then
    ⟨"policy.allow", "pdp strategy allows execution", some "pdp-high-risk-strategy"⟩
  else
    ⟨"policy.deny", "high risk capability requires explicit policy strategy allow",
      some "pdp-high-risk-strategy"⟩

def evaluatePdpDecision (toolName : String) (risk : CapabilityRisk) :
    StoreCall PolicyDecision := do
  let strategyAllowed ←
    if risk = .high then engine.strategyAllowsHighRisk scope toolName else pure true
  let key := scopedKey "policy-pdp:evaluate" scope (← nowMs).toNat.repr
  let _ ← Future.attempt (engine.upsertJson key
    (.object [("input", (policyInput scope toolName risk).toValue),
      ("mode", string engine.policyMode.name), ("risk", string risk.debug),
      ("strategy_allowed", bool strategyAllowed)]) "policy-pdp")
  return {
    allowed := strategyAllowed
    mode := engine.policyMode
    version := ⟨scope.identity.policyId, 1⟩
    reasons := [pdpReason strategyAllowed]
    maskRules := []
    dropRules := [] }

def firstReason (decision : PolicyDecision) : String :=
  (decision.reasons.head?.map (·.message)).getD "policy denied"

section
variable (toolName : String) (oldAllowed : Bool) (oldReason : String) (pdpDecision : PolicyDecision)

/-- The fields of the two records of a difference, in the order of their keys. -/
def shadowDiffFields : List (String × JsonValue) :=
  [("mode", string "shadow"), ("new_decision", pdpDecision.toValue),
    ("old_decision", .object [("allowed", bool oldAllowed), ("reason", string oldReason)])] ++
    identityFields scope ++ [("tool_name", string toolName)]

def recordShadowDiff : StoreCall Unit := do
  let fields := shadowDiffFields scope toolName oldAllowed oldReason pdpDecision
  let evidenceRef ← engine.ledger.appendStage scope.sessionId scope.taskId .admission
    (.object (("kind", string "policy_pdp_shadow_diff") :: fields)) none
  let key := scopedKey "policy-pdp:shadow-diff" scope (← nowMs).toNat.repr
  let _ ← engine.upsertJson key (.object (("evidence_ref", string evidenceRef) :: fields))
    "policy-pdp"

end

/-! ### Admission -/

def candidateOf (manifest : ForgedMcpToolManifest) (toolName : String)
    (server : Option String) : CapabilityCandidate where
  capabilityId := manifest.capabilityId
  server
  tool := toolName
  score := manifest.healthScore
  active := manifest.status = .active
  verified := manifest.approvalStatus = .verified
  trusted := manifest.trustStatus = .trusted
  approvalRequired := manifest.requiresGate

def quotaOf (account : BudgetAccount) : UInt64 :=
  saturatingSub account.totalBudgetMicros (saturatingAdd account.reservedMicros account.spentMicros)

section
variable (manifest : ForgedMcpToolManifest) (artifacts : List FactoryArtifact)
  (candidate : CapabilityCandidate) (toolName : String)

/-- After the gates: the decision of the policy, and the records. -/
def admitByPolicy (quotaRemaining : Option UInt64) :
    StoreCall CapabilityAdmissionDecision := do
  let decision : CapabilityAdmissionDecision :=
    ⟨true, "admitted", some candidate, quotaRemaining, none⟩
  let pdpDecision ← engine.evaluatePdpDecision scope toolName manifest.risk
  if engine.policyMode = .enforced ∧ manifest.risk = .high ∧ pdpDecision.allowed = false then
    engine.reject scope candidate ("pdp enforced deny: " ++ firstReason pdpDecision)
      quotaRemaining manifest artifacts
  else do
    if engine.policyMode = .shadow ∧ decision.allowed ≠ pdpDecision.allowed then
      engine.recordShadowDiff scope toolName decision.allowed decision.reason pdpDecision
    let evidenceRef ← engine.persistAdmissionRecord scope decision (some manifest) artifacts
    return { decision with evidenceRef := some evidenceRef }

/-- The gate over the approval. -/
def passApproval (quotaRemaining : Option UInt64) :
    StoreCall CapabilityAdmissionDecision :=
  if candidate.approvalRequired then do
    let approval ← engine.readValue (approvalKey scope candidate.tool)
    if (approval.bind (boolAt "approved")).getD false then
      engine.admitByPolicy scope manifest artifacts candidate toolName quotaRemaining
    else
      engine.reject scope candidate "approval required for medium/high risk capability"
        quotaRemaining manifest artifacts
  else
    engine.admitByPolicy scope manifest artifacts candidate toolName quotaRemaining

def passGates (feedback : Option AdmissionFeedback) : StoreCall CapabilityAdmissionDecision := do
  let account ← engine.store.getBudgetAccount engine.forms scope.identity.tenantId
    scope.identity.principalId
  let quotaRemaining := account.map quotaOf
  if quotaRemaining = some 0 then
    engine.reject scope candidate "quota exhausted" quotaRemaining manifest artifacts
  else if ∃ given ∈ feedback, given.Violated candidate.score "strict" 0.90 then
    engine.reject scope candidate "policy feedback strict threshold rejected capability"
      quotaRemaining manifest artifacts
  else if ∃ given ∈ feedback, given.Violated candidate.score "moderate" 0.70 then
    engine.reject scope candidate "policy feedback moderate threshold rejected capability"
      quotaRemaining manifest artifacts
  else
    engine.passApproval scope manifest artifacts candidate toolName quotaRemaining

end

/-- `manifests` are those of the tool registry, in the order of their names. -/
def admitSelected (manifests : List ForgedMcpToolManifest)
    (factoryArtifacts : List FactoryArtifact) (toolName : String) (server : Option String) :
    StoreCall CapabilityAdmissionDecision := do
  match manifests.find? fun manifest => manifest.registeredToolName = toolName with
  | none =>
    let decision : CapabilityAdmissionDecision :=
      ⟨true, "non-forged capability path", none, none, none⟩
    let evidenceRef ← engine.persistAdmissionRecord scope decision none factoryArtifacts
    return { decision with evidenceRef := some evidenceRef }
  | some manifest =>
    let artifacts := selectFactoryArtifacts factoryArtifacts (server.getD manifest.server)
    let feedback := (← engine.store.getKnowledge (feedbackKey scope)).bind fun record =>
      engine.serde.feedbackFromText record.value
    let candidate := candidateOf manifest toolName server
    if !candidate.active then
      engine.reject scope candidate "capability is not active" none manifest artifacts
    else if !candidate.verified then
      engine.reject scope candidate "capability is not verified" none manifest artifacts
    else if !candidate.trusted then
      engine.reject scope candidate "capability is not trusted" none manifest artifacts
    else
      engine.passGates scope manifest artifacts candidate toolName feedback

end CapabilityAdmissionEngine

end AutoLoop.Security
