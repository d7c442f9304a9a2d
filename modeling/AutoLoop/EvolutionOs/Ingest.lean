import AutoLoop.Foundation.Check
import AutoLoop.Foundation.Floats
import AutoLoop.Runtime.EvidenceLedger

/-!
# The records of an evolution cycle

Scores are values of a type with the operations of `f32`.
-/

namespace AutoLoop.EvolutionOs

variable {F : Type}

structure RealitySnapshot where
  snapshotId : String
  sessionId : String
  traceId : String
  tenantId : String
  policyVersion : String
  runtimeMode : String
  availableTools : List String
  memoryRefs : List String
  graphRefs : List String
  budgetMicros : UInt64
  latencyBudgetMs : UInt64
  repoRefs : List String
  policyRefs : List String
  toolRefs : List String
  budgetProfile : Table String UInt64
  repoDigest : String
  memoryDigest : String
  graphDigest : String
  policyDigest : String
  toolDigest : String
  budgetDigest : String
  realityFingerprint : String
  createdAtMs : UInt64

structure CandidateGraph (F : Type) where
  candidateId : String
  realitySnapshotId : String
  graphVersion : String
  nodeIds : List String
  edges : List (String × String)
  budgetAllocation : Table String UInt64
  expectedCostMicros : UInt64
  expectedLatencyMs : UInt64
  expectedRiskScore : F
  generatedAtMs : UInt64

structure WorldlineScore (F : Type) where
  candidateId : String
  taskSuccess : F
  robustness : F
  reuseGain : F
  verifierConfidence : F
  costPenalty : F
  latencyPenalty : F
  riskPenalty : F
  instabilityPenalty : F
  governanceViolationPenalty : F
  totalScore : F
  reasons : List String
  scoredAtMs : UInt64

inductive PromotionDecision where
  | discard
  | logOnly
  | localize
  | promoteRuntimeUpdate
  | promoteTemplate
  | promoteGovernanceContract
  | crystallizeMemoryRule
  | rollback
  | escalateHumanReview
  deriving DecidableEq, Repr

/-- The `Debug` form. -/
def PromotionDecision.text : PromotionDecision → String
  | .discard => "Discard"
  | .logOnly => "LogOnly"
  | .localize => "Localize"
  | .promoteRuntimeUpdate => "PromoteRuntimeUpdate"
  | .promoteTemplate => "PromoteTemplate"
  | .promoteGovernanceContract => "PromoteGovernanceContract"
  | .crystallizeMemoryRule => "CrystallizeMemoryRule"
  | .rollback => "Rollback"
  | .escalateHumanReview => "EscalateHumanReview"

structure TrustedPriorSnapshot where
  priorId : String
  basedOnRealitySnapshot : String
  promotedCandidateId : Option String
  decision : PromotionDecision
  templateRefs : List String
  reusableSubgraphRefs : List String
  governanceContractRefs : List String
  routingPriors : List String
  verifierPriors : List String
  budgetPriors : Table String UInt64
  trustedBoundaryVersion : String
  createdBy : String
  createdAtMs : UInt64

def evolutionOsContractVersion : String := "evolution-os/v1"

end AutoLoop.EvolutionOs

/-!
## Ingesting reality

The reference lists of an input are normalised, digested and put under one fingerprint.
-/

namespace AutoLoop.EvolutionOs

open AutoLoop.Runtime (digestOfParts)
open Json

structure WorldlineWeights (F : Type) where
  successWeight : F
  robustnessWeight : F
  reuseWeight : F
  verifierWeight : F
  costWeight : F
  latencyWeight : F
  riskWeight : F
  instabilityWeight : F
  governanceWeight : F

structure TelemetryReplaySnapshot (F : Type) where
  verifierScore : F
  providerRetryCount : UInt32
  toolRetryCount : UInt32
  replayMismatchRate : F
  deterministicBoundaryRespected : Bool
  latencyP95Ms : UInt64
  worldlineWeights : Option (WorldlineWeights F)
  weightsVersion : Option String

structure ExternalProposalSignals where
  foundryPromotionHints : List JsonValue
  patchReviews : List JsonValue
  pluginLifecycleUpdates : List JsonValue

structure IngestInput (F : Type) where
  sessionId : String
  traceId : String
  tenantId : String
  policyVersion : String
  runtimeMode : String
  availableTools : List String
  memoryRefs : List String
  graphRefs : List String
  repoRefs : List String
  policyRefs : List String
  toolRefs : List String
  budgetMicros : UInt64
  latencyBudgetMs : UInt64
  budgetProfile : Table String UInt64
  nowMs : UInt64
  telemetryReplay : Option (TelemetryReplaySnapshot F)
  proposalSignals : Option ExternalProposalSignals

/-! ## References -/

/-- `Vec::dedup`: of equal neighbours the first one stays. -/
def dedup : List String → List String
  | first :: second :: rest =>
    if first = second then dedup (first :: rest) else first :: dedup (second :: rest)
  | short => short

def normalizeRefs (values : List String) : List String :=
  dedup (sortByKey id ((values.map Text.trim).filter (· ≠ "")))

def digestOfRefs (domain : String) (refs : List String) : String :=
  let payload :=
    if refs.isEmpty then domain ++ "|<empty>" else domain ++ "|" ++ Text.joinWith '|' refs
  digestOfParts [domain, payload]

def digestOfBudget (budgetMicros latencyBudgetMs : UInt64)
    (budgetProfile : Table String UInt64) : String :=
  let pieces := ["budget_micros=" ++ budgetMicros.toNat.repr,
      "latency_budget_ms=" ++ latencyBudgetMs.toNat.repr] ++
    budgetProfile.rows.map fun row => row.1 ++ "=" ++ row.2.toNat.repr
  digestOfParts ["budget", Text.joinWith '|' pieces]

def realityFingerprintSchemaVersion : String := "reality-fp/v3"

def realityFingerprintSeedVersion : String := "reality-seed/v1"

def numbersJson (table : Table String UInt64) : String :=
  object (table.rows.map fun row => (row.1, row.2.toNat.repr))

/-- `canonical_reality_fingerprint` of the fields of a snapshot. -/
def canonicalRealityFingerprint (reality : RealitySnapshot) : String :=
  let canonicalPayload := canonical
    [("schema_version", quote realityFingerprintSchemaVersion),
      ("seed_version", quote realityFingerprintSeedVersion),
      ("session_id", quote reality.sessionId),
      ("trace_id", quote reality.traceId),
      ("tenant_id", quote reality.tenantId),
      ("policy_version", quote reality.policyVersion),
      ("runtime_mode", quote reality.runtimeMode),
      ("available_tools", strings reality.availableTools),
      ("memory_refs", strings reality.memoryRefs),
      ("graph_refs", strings reality.graphRefs),
      ("repo_refs", strings reality.repoRefs),
      ("policy_refs", strings reality.policyRefs),
      ("tool_refs", strings reality.toolRefs),
      ("budget_micros", reality.budgetMicros.toNat.repr),
      ("latency_budget_ms", reality.latencyBudgetMs.toNat.repr),
      ("budget_profile", numbersJson reality.budgetProfile),
      ("repo_digest", quote reality.repoDigest),
      ("memory_digest", quote reality.memoryDigest),
      ("graph_digest", quote reality.graphDigest),
      ("policy_digest", quote reality.policyDigest),
      ("tool_digest", quote reality.toolDigest),
      ("budget_digest", quote reality.budgetDigest)]
  digestOfParts [realityFingerprintSchemaVersion, realityFingerprintSeedVersion, canonicalPayload]

/-! ## Ingesting -/

namespace CanonicalRealityIngestor

variable {F : Type}

/-- The snapshot without what depends on its fingerprint and the time. -/
def draft (input : IngestInput F) : RealitySnapshot :=
  let availableTools := normalizeRefs input.availableTools
  let memoryRefs := normalizeRefs input.memoryRefs
  let graphRefs := normalizeRefs input.graphRefs
  let repoRefs :=
    let refs := normalizeRefs input.repoRefs
    if refs.isEmpty then ["repo:session:" ++ input.sessionId] else refs
  let policyRefs := normalizeRefs (normalizeRefs input.policyRefs ++
    ["policy_version:" ++ input.policyVersion, "tenant:" ++ input.tenantId])
  let toolRefs :=
    let refs := normalizeRefs input.toolRefs
    if refs.isEmpty then availableTools else refs
  let budgetProfile :=
    if input.budgetProfile.rows.isEmpty then
      (Table.empty.insert "token_budget" input.budgetMicros).insert "latency_budget_ms"
        input.latencyBudgetMs
    else input.budgetProfile
  { snapshotId := ""
    sessionId := input.sessionId
    traceId := input.traceId
    tenantId := input.tenantId
    policyVersion := input.policyVersion
    runtimeMode := input.runtimeMode
    availableTools, memoryRefs, graphRefs
    budgetMicros := input.budgetMicros
    latencyBudgetMs := input.latencyBudgetMs
    repoRefs, policyRefs, toolRefs, budgetProfile
    repoDigest := digestOfRefs "repo" repoRefs
    memoryDigest := digestOfRefs "memory" memoryRefs
    graphDigest := digestOfRefs "graph" graphRefs
    policyDigest := digestOfRefs "policy" policyRefs
    toolDigest := digestOfRefs "tool" toolRefs
    budgetDigest := digestOfBudget input.budgetMicros input.latencyBudgetMs budgetProfile
    realityFingerprint := ""
    createdAtMs := 0 }

/-- `chars().take(count)`. -/
def takeChars (count : Nat) (text : String) : String :=
  String.ofList (text.toList.take count)

def snapshot (input : IngestInput F) : RealitySnapshot :=
  let realityFingerprint := canonicalRealityFingerprint (draft input)
  { draft input with
    snapshotId := "reality:" ++ input.sessionId ++ ":" ++ input.nowMs.toNat.repr ++ ":" ++
      takeChars 12 realityFingerprint
    realityFingerprint
    createdAtMs := input.nowMs }

def ingest (input : IngestInput F) : Except String RealitySnapshot := do
  Check.require (Text.trim input.sessionId ≠ "") "session_id is required"
  Check.require (Text.trim input.traceId ≠ "") "trace_id is required"
  Check.require (Text.trim input.tenantId ≠ "") "tenant_id is required"
  Check.require (input.budgetMicros ≠ 0) "budget_micros must be > 0"
  return snapshot input

end CanonicalRealityIngestor

end AutoLoop.EvolutionOs
