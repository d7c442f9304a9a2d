import AutoLoop.EvolutionOs.Ingest
import AutoLoop.Foundation.Word
import Mathlib.Data.List.DropRight

/-!
# Crystal priors

The templates, subgraphs, contracts, strategies and policies that a snapshot selects, with
the reasons for each.
-/

namespace AutoLoop.EvolutionOs

open AutoLoop.Runtime (buildFingerprint)
open Json Text

structure CrystalPriorSelection where
  templateRefs : List String
  reusableSubgraphRefs : List String
  governanceContractRefs : List String
  strategyPriors : List String
  promotionPolicyRefs : List String

structure PriorHitReason where
  domain : String
  selectedRef : String
  selectedVersion : String
  ruleId : String
  reason : String
  matchedSignals : List String

structure CrystalPriorDecision where
  catalogVersion : String
  replayFingerprint : String
  replaySchemaVersion : String
  replaySeedVersion : String
  replayVersion : String
  selection : CrystalPriorSelection
  hitReasons : List PriorHitReason

def priorCatalogVersion : String := "prior-catalog:v1"

def priorReplaySchemaVersion : String := "prior-replay/v1"

def priorReplaySeedVersion : String := "prior-seed/v1"

def priorReplayVersion : String := "prior-replay-contract/v1"

def isStrictRuntimeMode (mode : String) : Bool :=
  let lowered := toAsciiLowercase mode
  contains lowered "strict" || contains lowered "enforcing" ||
    contains lowered "hard"

/-- The digits of a policy version as a positive `u32`, or 1. -/
def extractPolicyMajor (policyVersion : String) : Nat :=
  let digits := String.ofList (policyVersion.toList.filter Char.isDigit)
  ((parseUnsigned (2 ^ 32) digits).filter (0 < ·)).getD 1

def PriorHitReason.json (hit : PriorHitReason) : String :=
  canonical
    [("domain", quote hit.domain), ("selected_ref", quote hit.selectedRef),
      ("selected_version", quote hit.selectedVersion),
      ("rule_id", quote hit.ruleId), ("reason", quote hit.reason),
      ("matched_signals", strings hit.matchedSignals)]

namespace CrystalPriorLayer

section
variable (reality : RealitySnapshot)

def lowBudget : Bool :=
  reality.budgetMicros ≤ 75000 || reality.latencyBudgetMs ≤ 1500

def hasVerifierTool : Bool :=
  (reality.toolRefs ++ reality.availableTools).any fun tool =>
    contains (toAsciiLowercase tool) "verifier"

def templateVersion : String :=
  if extractPolicyMajor reality.policyVersion ≥ 3 then "v3" else "v2"

def templateRuntimeRef : String :=
  if isStrictRuntimeMode reality.runtimeMode then
    "template:governed-runtime:strict:" ++ templateVersion reality
  else "template:governed-runtime:balanced:" ++ templateVersion reality

def governanceContractRef : String :=
  "contract:" ++ reality.tenantId ++ ":" ++ reality.policyVersion ++ ":v" ++
    (extractPolicyMajor reality.policyVersion).repr

def promotionPolicyRef : String :=
  if isStrictRuntimeMode reality.runtimeMode then "promotion:board:strict:v2"
  else if lowBudget reality then "promotion:board:cost-aware:v1"
  else "promotion:board:balanced:v1"

def select : CrystalPriorSelection :=
  let strictRuntime := isStrictRuntimeMode reality.runtimeMode
  { templateRefs :=
      ["template:" ++ reality.tenantId ++ ":default:" ++ templateVersion reality,
        templateRuntimeRef reality]
    reusableSubgraphRefs :=
      ["subgraph:retrieval-verify-route:v1"] ++
        (if strictRuntime || hasVerifierTool reality then
          ["subgraph:attestation-verify-reject:v1"] else []) ++
        (if strictRuntime || !lowBudget reality then
          ["subgraph:repair-escalate-loop:v1"] else [])
    governanceContractRefs := [governanceContractRef reality]
    strategyPriors :=
      if lowBudget reality then ["strategy:cost-aware", "strategy:latency-first"]
      else if strictRuntime then ["strategy:risk-first", "strategy:cost-aware"]
      else ["strategy:balanced", "strategy:cost-aware"]
    promotionPolicyRefs := [promotionPolicyRef reality] }

def hitReasons : List PriorHitReason :=
  let strictRuntime := isStrictRuntimeMode reality.runtimeMode
  [{ domain := "template"
     selectedRef := templateRuntimeRef reality
     selectedVersion := templateVersion reality
     ruleId := "template.policy-runtime.v1"
     reason := "Template version follows policy major and runtime strictness"
     matchedSignals := ["policy_version=" ++ reality.policyVersion,
       "runtime_mode=" ++ reality.runtimeMode] },
   { domain := "subgraph"
     selectedRef := joinWith ',' (select reality).reusableSubgraphRefs
     selectedVersion := "v1"
     ruleId := "subgraph.verify-repair.v1"
     reason :=
       "Subgraph fan-in depends on verifier availability, strict mode and budget profile"
     matchedSignals := ["strict_runtime=" ++ Json.bool strictRuntime,
       "low_budget=" ++ Json.bool (lowBudget reality),
       "has_verifier_tool=" ++ Json.bool (hasVerifierTool reality)] },
   { domain := "governance_contract"
     selectedRef := governanceContractRef reality
     selectedVersion := "v" ++ (extractPolicyMajor reality.policyVersion).repr
     ruleId := "governance.tenant-policy.v1"
     reason := "Governance contract binds tenant and policy version"
     matchedSignals := ["tenant_id=" ++ reality.tenantId,
       "policy_version=" ++ reality.policyVersion] },
   { domain := "promotion_policy"
     selectedRef := promotionPolicyRef reality
     selectedVersion := if strictRuntime then "v2" else "v1"
     ruleId := "promotion.runtime-budget.v1"
     reason := "Promotion policy prioritizes strict safety first, then cost envelope"
     matchedSignals := ["runtime_mode=" ++ reality.runtimeMode,
       "budget_micros=" ++ reality.budgetMicros.toNat.repr,
       "latency_budget_ms=" ++ reality.latencyBudgetMs.toNat.repr] }]

def replayPayload : String :=
  let selection := select reality
  canonical
    [("catalog_version", quote priorCatalogVersion), ("reality", canonical
        [("tenant_id", quote reality.tenantId), ("policy_version", quote reality.policyVersion),
          ("runtime_mode", quote reality.runtimeMode),
          ("budget_micros", reality.budgetMicros.toNat.repr),
          ("latency_budget_ms", reality.latencyBudgetMs.toNat.repr),
          ("tool_digest", quote reality.toolDigest),
          ("policy_digest", quote reality.policyDigest),
          ("budget_digest", quote reality.budgetDigest),
          ("reality_fingerprint", quote reality.realityFingerprint)]),
      ("selection", canonical [("template_refs", strings selection.templateRefs),
          ("reusable_subgraph_refs", strings selection.reusableSubgraphRefs),
          ("governance_contract_refs", strings selection.governanceContractRefs),
          ("strategy_priors", strings selection.strategyPriors),
          ("promotion_policy_refs", strings selection.promotionPolicyRefs)]),
      ("hit_reasons", array ((hitReasons reality).map PriorHitReason.json))]

def selectWithTrace : CrystalPriorDecision where
  catalogVersion := priorCatalogVersion
  replayFingerprint := buildFingerprint "priorfp" priorReplaySchemaVersion
    priorReplaySeedVersion priorReplayVersion (replayPayload reality)
  replaySchemaVersion := priorReplaySchemaVersion
  replaySeedVersion := priorReplaySeedVersion
  replayVersion := priorReplayVersion
  selection := select reality
  hitReasons := hitReasons reality

end

end CrystalPriorLayer

end AutoLoop.EvolutionOs

/-!
## Compiling candidate graphs

Each combination of a strategy, a template and a subgraph is drafted and ranked, and a few
of the drafts are built.
-/

namespace AutoLoop.EvolutionOs

open FloatOps Text

variable {F : Type} [FloatOps F]

structure StrategyProfile where
  id : String
  retrievalRatioBps : Nat
  verificationRatioBps : Nat
  executionRatioBps : Nat
  riskBiasBps : Int
  latencyBiasBps : Nat

structure CandidateDraft (F : Type) where
  strategy : StrategyProfile
  template : String
  subgraph : String
  budgetAllocation : Table String UInt64
  expectedCostMicros : UInt64
  expectedLatencyMs : UInt64
  expectedRiskScore : F
  rankScore : F
  key : String

def maxCandidates : Nat := 8

def explorationMultiplier : Nat := 4

def normalizedOrDefault (values : List String) (fallback : String) : List String :=
  let normalized := normalizeRefs values
  if normalized.isEmpty then [fallback] else normalized

/-! ## Strategies -/

def strategyProfile (raw : String) : StrategyProfile :=
  let lowered := toAsciiLowercase raw
  if contains lowered "risk-first" then ⟨raw, 3000, 3500, 3500, -900, 10500⟩
  else if contains lowered "latency" then ⟨raw, 2600, 2400, 5000, 300, 8200⟩
  else if contains lowered "cost" then ⟨raw, 2200, 2800, 5000, 200, 9200⟩
  else ⟨raw, 2500, 3000, 4500, 0, 10000⟩

def strategyProfiles (priors : CrystalPriorSelection) : List StrategyProfile :=
  let profiles := (normalizeRefs priors.strategyPriors).map strategyProfile
  if profiles.isEmpty then [⟨"strategy:baseline", 2500, 3000, 4500, 0, 10000⟩] else profiles

def riskThreshold (reality : RealitySnapshot) : F :=
  let mode := toAsciiLowercase reality.runtimeMode
  let strict := contains mode "strict" || contains mode "enforcing"
  let lowBudget := reality.budgetMicros ≤ 80000 || reality.latencyBudgetMs ≤ 1500
  if strict then (if lowBudget then 0.40 else 0.45)
  else if lowBudget then 0.60
  else 0.72

/-! ## Drafts -/

def budgetShare (total ratioBps ratioSum : Nat) (floor : Option UInt64) : UInt64 :=
  let share := UInt64.ofNat (total * ratioBps / ratioSum)
  match floor with
  | some value => max share value
  | none => share

def splitBudget (totalBudget : UInt64) (strategy : StrategyProfile)
    (reality : RealitySnapshot) : Table String UInt64 :=
  let total := max totalBudget 1
  let ratioSum := max (strategy.retrievalRatioBps + strategy.verificationRatioBps +
    strategy.executionRatioBps) 1
  let retrieval := budgetShare total.toNat strategy.retrievalRatioBps ratioSum
    (reality.budgetProfile.get "retrieval_floor")
  let verification := budgetShare total.toNat strategy.verificationRatioBps ratioSum
    (reality.budgetProfile.get "verification_floor")
  let execution := budgetShare total.toNat strategy.executionRatioBps ratioSum
    (reality.budgetProfile.get "execution_floor")
  let currentSum := retrieval + verification + execution
  let execution :=
    if currentSum > total then saturatingSub execution (currentSum - total)
    else if currentSum < total then saturatingAdd execution (total - currentSum)
    else execution
  ((Table.empty.insert "retrieval" retrieval).insert "verification" verification).insert
    "execution" execution

def expectedCost (budget : Table String UInt64) (idx : Nat) : UInt64 :=
  (budget.get "retrieval").getD 0 / 3 + (budget.get "verification").getD 0 / 2 +
    (budget.get "execution").getD 0 / 4 + UInt64.ofNat idx * 37

def expectedLatency (latencyBudgetMs : UInt64) (strategy : StrategyProfile) (idx : Nat) :
    UInt64 :=
  let base := UInt64.ofNat (latencyBudgetMs.toNat * strategy.latencyBiasBps / 10000)
  max (saturatingAdd base (UInt64.ofNat idx * 15)) 1

def expectedRisk (strategy : StrategyProfile) (template subgraph : String) (idx : Nat) : F :=
  let templateLower := toAsciiLowercase template
  let subgraphLower := toAsciiLowercase subgraph
  let baseBps : Int := 2400 + strategy.riskBiasBps + idx * 120 -
    (if contains templateLower "strict" then 250 else 0) -
    (if contains templateLower "balanced" then 120 else 0) -
    (if contains subgraphLower "verify" then 200 else 0) -
    (if contains subgraphLower "repair" || contains subgraphLower "escalate" then 140
      else 0)
  clamp (ofInt baseBps / 10000.0) 0.05 0.95

def rankScore (riskScore : F) (costMicros latencyMs : UInt64) (reality : RealitySnapshot) : F :=
  let riskComponent := clamp (1.0 - riskScore) 0.0 1.0 * 0.55
  let costComponent := clamp (1.0 - ofNat costMicros.toNat /
    ofNat (max reality.budgetMicros 1).toNat) 0.0 1.0 * 0.25
  let latencyComponent := clamp (1.0 - ofNat latencyMs.toNat /
    ofNat (max reality.latencyBudgetMs 1).toNat) 0.0 1.0 * 0.20
  riskComponent + costComponent + latencyComponent

def candidateDraft (reality : RealitySnapshot) (strategy : StrategyProfile)
    (template subgraph : String) (comboIdx : Nat) : CandidateDraft F :=
  let budgetAllocation := splitBudget reality.budgetMicros strategy reality
  let expectedCostMicros := expectedCost budgetAllocation comboIdx
  let expectedLatencyMs := expectedLatency reality.latencyBudgetMs strategy comboIdx
  let expectedRiskScore := expectedRisk strategy template subgraph comboIdx
  { strategy, template, subgraph, budgetAllocation, expectedCostMicros, expectedLatencyMs
    expectedRiskScore
    rankScore := rankScore expectedRiskScore expectedCostMicros expectedLatencyMs reality
    key := strategy.id ++ "|" ++ template ++ "|" ++ subgraph }

/-- The combinations in the order of the three loops. -/
def combinations (strategies : List StrategyProfile) (templates subgraphs : List String) :
    List (StrategyProfile × String × String) :=
  strategies.flatMap fun strategy => templates.flatMap fun template =>
    subgraphs.map fun subgraph => (strategy, template, subgraph)

def candidateDrafts (reality : RealitySnapshot) (priors : CrystalPriorSelection) :
    List (CandidateDraft F) :=
  let templates := normalizedOrDefault priors.templateRefs "template:default"
  let subgraphs := normalizedOrDefault priors.reusableSubgraphRefs "subgraph:default"
  let explorationCap := max maxCandidates 1 * max explorationMultiplier 1
  ((combinations (strategyProfiles priors) templates subgraphs).take explorationCap).mapIdx
    fun comboIdx (strategy, template, subgraph) =>
      candidateDraft reality strategy template subgraph comboIdx

def compareDrafts (first second : CandidateDraft F) : Ordering :=
  (totalCmp second.rankScore first.rankScore).then
    ((totalCmp first.expectedRiskScore second.expectedRiskScore).then
      ((compare first.expectedCostMicros second.expectedCostMicros).then
        ((compare first.expectedLatencyMs second.expectedLatencyMs).then
          (compare first.key second.key))))

/-! ## Selecting -/

def absDiff (first second : UInt64) : UInt64 :=
  if first < second then second - first else first - second

def isNearDuplicate (selected : List (CandidateDraft F)) (incoming : CandidateDraft F) : Bool :=
  selected.any fun current =>
    current.template == incoming.template && current.subgraph == incoming.subgraph &&
      abs (current.expectedRiskScore - incoming.expectedRiskScore) < (0.02 : F) &&
      absDiff current.expectedLatencyMs incoming.expectedLatencyMs < 30

/-- One step of the selection loop; the slots of a strategy and of a template are those
of the drafts selected so far. -/
def selectDraft (selected : List (CandidateDraft F)) (draft : CandidateDraft F) :
    List (CandidateDraft F) :=
  if selected.length ≥ max maxCandidates 1 then selected
  else if selected.countP (·.strategy.id == draft.strategy.id) ≥ 2 then selected
  else if selected.countP (·.template == draft.template) ≥ 2 then selected
  else if isNearDuplicate selected draft then selected
  else selected ++ [draft]

def compareSafety (first second : CandidateDraft F) : Ordering :=
  (totalCmp first.expectedRiskScore second.expectedRiskScore).then
    ((compare first.expectedCostMicros second.expectedCostMicros).then
      (compare first.key second.key))

/-- The safer one of two drafts, the held one among equals. -/
def saferDraft (held : Option (CandidateDraft F)) (draft : CandidateDraft F) :
    Option (CandidateDraft F) :=
  match held with
  | none => some draft
  | some safe => if compareSafety draft safe == .lt then some draft else some safe

/-- `min_by` over the drafts. -/
def safest (drafts : List (CandidateDraft F)) : Option (CandidateDraft F) :=
  drafts.foldl saferDraft none

def selectDrafts (threshold : F) (drafts : List (CandidateDraft F)) :
    List (CandidateDraft F) :=
  let selected := (drafts.filter (·.expectedRiskScore ≤ threshold)).foldl selectDraft []
  if selected.isEmpty then (safest drafts).toList else selected

/-! ## Building -/

def slugify (value : String) : String :=
  let lowered := (toAsciiLowercase value).toList
  let replaced := lowered.map fun char => if char.isAlphanum then char else '-'
  String.ofList ((replaced.dropWhile (· = '-')).rdropWhile (· = '-'))

def buildCandidateGraph (idx : Nat) (draft : CandidateDraft F) (reality : RealitySnapshot) :
    CandidateGraph F :=
  let templateSlug := slugify draft.template
  let strategySlug := slugify draft.strategy.id
  let subgraphSlug := slugify draft.subgraph
  let subgraphLower := toAsciiLowercase draft.subgraph
  let repairs := contains subgraphLower "repair" || contains subgraphLower "escalate"
  let retrieve := "retrieve:" ++ templateSlug
  let plan := "plan:" ++ strategySlug
  { candidateId := "candidate:" ++ reality.sessionId ++ ":" ++ (idx + 1).repr ++ ":" ++
      strategySlug
    realitySnapshotId := reality.snapshotId
    graphVersion := "graph:v2:" ++ strategySlug ++ ":" ++ templateSlug ++ ":" ++ subgraphSlug
    nodeIds := ["ingest", retrieve, plan, "execute", "verify"] ++
      (if repairs then ["repair"] else [])
    edges := [("ingest", retrieve), (retrieve, plan), (plan, "execute"),
      ("execute", "verify")] ++ (if repairs then [("verify", "repair")] else [])
    budgetAllocation := draft.budgetAllocation
    expectedCostMicros := draft.expectedCostMicros
    expectedLatencyMs := draft.expectedLatencyMs
    expectedRiskScore := draft.expectedRiskScore
    generatedAtMs := reality.createdAtMs }

def DynamicRuntimeGraphCompiler.compile (reality : RealitySnapshot)
    (priors : CrystalPriorSelection) : List (CandidateGraph F) :=
  let drafts := sortBy compareDrafts (candidateDrafts reality priors)
  (selectDrafts (riskThreshold reality) drafts).mapIdx fun idx draft =>
    buildCandidateGraph idx draft reality

end AutoLoop.EvolutionOs
