import AutoLoop.Foundation.JsonValue

/-!
# Capabilities

The records of `contracts::capability`, what admission reads of the forged manifests and
of the factory artifacts, and their JSON values.
-/

namespace AutoLoop.Contracts

open JsonValue (bool string null unsigned optional texts)

/-! ## Manifests -/

inductive CapabilityStatus where
  | pendingVerification
  | active
  | deprecated
  | rolledBack
  deriving DecidableEq, Repr

inductive ApprovalStatus where
  | pending
  | verified
  | rejected
  deriving DecidableEq, Repr

inductive TrustStatus where
  | pending
  | trusted
  | rejected
  deriving DecidableEq, Repr

inductive CapabilityRisk where
  | low
  | medium
  | high
  deriving DecidableEq, Repr

/-- `{:?}`. -/
def CapabilityRisk.debug : CapabilityRisk → String
  | .low => "Low"
  | .medium => "Medium"
  | .high => "High"

structure CapabilityArtifact where
  artifactId : String
  digestSha256 : String
  sourceUri : String
  buildEpoch : UInt64

/-- The algorithm is `DeterministicV1`, the only one. -/
structure Signature where
  signer : String
  signedPayloadHash : String
  signature : String
  signedAtMs : UInt64

structure Provenance where
  sourceRepo : String
  sourceRef : String
  builder : String
  generatedBy : String

/-- What admission reads of a manifest. -/
structure ForgedMcpToolManifest where
  capabilityId : String
  registeredToolName : String
  server : String
  status : CapabilityStatus
  approvalStatus : ApprovalStatus
  trustStatus : TrustStatus
  healthScore : Float32
  risk : CapabilityRisk
  artifact : CapabilityArtifact
  signature : Signature
  provenance : Provenance

def ForgedMcpToolManifest.requiresGate (manifest : ForgedMcpToolManifest) : Bool :=
  match manifest.risk with
  | .high => true
  | .medium => true
  | .low => false

inductive FactoryComponentKind where
  | llm
  | embedder
  | vector
  | graph
  | reranker
  deriving DecidableEq, Repr

def FactoryComponentKind.name : FactoryComponentKind → String
  | .llm => "llm"
  | .embedder => "embedder"
  | .vector => "vector"
  | .graph => "graph"
  | .reranker => "reranker"

/-- The metadata stand in the order of their keys. -/
structure FactoryArtifact where
  artifactId : String
  kind : FactoryComponentKind
  provider : String
  version : String
  source : String
  active : Bool
  verified : Bool
  trusted : Bool
  metadata : List (String × String)

/-! ## Decisions -/

structure CapabilityIntent where
  sessionId : String
  objective : String
  requiredTags : List String
  preferredServers : List String

structure CapabilityCandidate where
  capabilityId : String
  server : Option String
  tool : String
  score : Float32
  active : Bool
  verified : Bool
  trusted : Bool
  approvalRequired : Bool

structure CapabilityAdmissionDecision where
  allowed : Bool
  reason : String
  candidate : Option CapabilityCandidate
  quotaRemainingMicros : Option UInt64
  evidenceRef : Option String

/-! ## JSON values -/

def scoreValue (value : Float32) : JsonValue :=
  if value.toFloat.isFinite then .number (.float value.toFloat.toBits) else null

def CapabilityIntent.toValue (intent : CapabilityIntent) : JsonValue :=
  .object [("objective", string intent.objective),
    ("preferred_servers", texts intent.preferredServers),
    ("required_tags", texts intent.requiredTags),
    ("session_id", string intent.sessionId)]

def CapabilityCandidate.toValue (candidate : CapabilityCandidate) : JsonValue :=
  .object [("active", bool candidate.active),
    ("approval_required", bool candidate.approvalRequired),
    ("capability_id", string candidate.capabilityId), ("score", scoreValue candidate.score),
    ("server", optional string candidate.server), ("tool", string candidate.tool),
    ("trusted", bool candidate.trusted), ("verified", bool candidate.verified)]

def CapabilityAdmissionDecision.toValue (decision : CapabilityAdmissionDecision) : JsonValue :=
  .object [("allowed", bool decision.allowed),
    ("candidate", optional CapabilityCandidate.toValue decision.candidate),
    ("evidence_ref", optional string decision.evidenceRef),
    ("quota_remaining_micros", optional unsigned decision.quotaRemainingMicros),
    ("reason", string decision.reason)]

def FactoryArtifact.toValue (artifact : FactoryArtifact) : JsonValue :=
  .object [("active", bool artifact.active), ("artifact_id", string artifact.artifactId),
    ("kind", string artifact.kind.name),
    ("metadata", .object (artifact.metadata.map fun entry => (entry.1, string entry.2))),
    ("provider", string artifact.provider), ("source", string artifact.source),
    ("trusted", bool artifact.trusted), ("verified", bool artifact.verified),
    ("version", string artifact.version)]

/-- What an admission record tells of a manifest. -/
def ForgedMcpToolManifest.toReference (manifest : ForgedMcpToolManifest) : JsonValue :=
  .object [("artifact", .object [("artifact_id", string manifest.artifact.artifactId),
      ("build_epoch", unsigned manifest.artifact.buildEpoch),
      ("digest_sha256", string manifest.artifact.digestSha256),
      ("source_uri", string manifest.artifact.sourceUri)]),
    ("capability_id", string manifest.capabilityId),
    ("provenance", .object [("builder", string manifest.provenance.builder),
      ("generated_by", string manifest.provenance.generatedBy),
      ("source_ref", string manifest.provenance.sourceRef),
      ("source_repo", string manifest.provenance.sourceRepo)]),
    ("registered_tool_name", string manifest.registeredToolName),
    ("server", string manifest.server),
    ("signature", .object [("algorithm", string "deterministic_v1"),
      ("signature", string manifest.signature.signature),
      ("signed_at_ms", unsigned manifest.signature.signedAtMs),
      ("signed_payload_hash", string manifest.signature.signedPayloadHash),
      ("signer", string manifest.signature.signer)])]

end AutoLoop.Contracts
