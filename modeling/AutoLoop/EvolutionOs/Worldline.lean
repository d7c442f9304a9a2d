import AutoLoop.EvolutionOs.GraphCompiler

/-!
# Worldlines

Each candidate is scored against the telemetry of a replay, and the one with the highest
total is recommended.
-/

namespace AutoLoop.EvolutionOs

open FloatOps
open AutoLoop.Runtime (digestOfParts)
open Json

variable {F : Type} [FloatOps F]

def worldlineReplaySchemaVersion : String := "worldline-replay/v1"

def worldlineReplaySeedVersion : String := "worldline-seed/v1"

def defaultWorldlineWeightsVersion : String := "worldline-weights:default-v1"

structure WorldlineRecommendation (F : Type) where
  recommendedCandidateId : String
  confidence : F
  rankedCandidates : List (String × F)
  reasons : List String

/-! ## Weights and telemetry -/

def clampWeight (value : F) : F := if isFinite value then clamp value 0.0 3.0 else 1.0

namespace WorldlineWeights

def default : WorldlineWeights F := ⟨1.0, 1.0, 1.0, 1.0, 1.0, 1.0, 1.0, 1.0, 1.0⟩

def sanitize (weights : WorldlineWeights F) : WorldlineWeights F where
  successWeight := clampWeight weights.successWeight
  robustnessWeight := clampWeight weights.robustnessWeight
  reuseWeight := clampWeight weights.reuseWeight
  verifierWeight := clampWeight weights.verifierWeight
  costWeight := clampWeight weights.costWeight
  latencyWeight := clampWeight weights.latencyWeight
  riskWeight := clampWeight weights.riskWeight
  instabilityWeight := clampWeight weights.instabilityWeight
  governanceWeight := clampWeight weights.governanceWeight

end WorldlineWeights

def TelemetryReplaySnapshot.default : TelemetryReplaySnapshot F :=
  ⟨0.0, 0, 0, 0.0, false, 0, none, none⟩

/-! ## Scores -/

/-- What a score is computed from. -/
structure Penalties (F : Type) where
  retryTotal : UInt32
  retry : F
  replay : F
  boundary : F

def penaltiesOf (telemetry : TelemetryReplaySnapshot F) : Penalties F :=
  let retryTotal := telemetry.providerRetryCount + telemetry.toolRetryCount
  { retryTotal
    retry := min (ofNat retryTotal.toNat / 12.0) 0.35
    replay := clamp telemetry.replayMismatchRate 0.0 1.0 * 0.4
    boundary := if telemetry.deterministicBoundaryRespected then 0.0 else 0.1 }

section
variable (candidate : CandidateGraph F) (snapshot : Option (TelemetryReplaySnapshot F))

def verifierConfidenceOf : F :=
  let baselineVerifier := clamp (0.95 - candidate.expectedRiskScore * 0.3) 0.0 1.0
  match snapshot with
  | some telemetry =>
    let telemetryVerifier := clamp telemetry.verifierScore 0.0 1.0
    clamp (baselineVerifier * 0.6 + telemetryVerifier * 0.4) 0.0 1.0
  | none => baselineVerifier

/-- The measures of a candidate, without the total and the reasons. -/
def measuresOf :
    WorldlineScore F :=
  let telemetry := snapshot.getD .default
  let penalties := penaltiesOf telemetry
  let verifierConfidence := verifierConfidenceOf candidate snapshot
  let telemetryLatencyPenalty : F :=
    if telemetry.latencyP95Ms = 0 then 0.0
    else min (ofNat telemetry.latencyP95Ms.toNat / 20000.0) 0.3
  { candidateId := candidate.candidateId
    taskSuccess :=
      clamp (1.0 - candidate.expectedRiskScore * 0.4 - penalties.replay * 0.2) 0.0 1.0
    robustness := clamp (1.0 - candidate.expectedRiskScore * 0.5 - penalties.replay * 0.6 -
      penalties.retry * 0.4 - penalties.boundary * 0.5) 0.0 1.0
    reuseGain := clamp (0.6 + (1.0 - penalties.replay) * 0.15) 0.0 1.0
    verifierConfidence
    costPenalty := min (ofNat candidate.expectedCostMicros.toNat / 1000000.0) 1.0
    latencyPenalty := min (ofNat candidate.expectedLatencyMs.toNat / 10000.0 +
      telemetryLatencyPenalty) 1.0
    riskPenalty := clamp candidate.expectedRiskScore 0.0 1.0
    instabilityPenalty :=
      clamp (0.08 + penalties.retry + penalties.replay * 0.25 + penalties.boundary) 0.0 1.0
    governanceViolationPenalty := if verifierConfidence < 0.55 then 0.2 else 0.0
    totalScore := 0.0
    reasons := []
    scoredAtMs := candidate.generatedAtMs }

end

section
variable (score : WorldlineScore F) (weights : WorldlineWeights F)

def positiveScore : F :=
  score.taskSuccess * weights.successWeight + score.robustness * weights.robustnessWeight +
    score.reuseGain * weights.reuseWeight + score.verifierConfidence * weights.verifierWeight

def negativeScore : F :=
  score.costPenalty * weights.costWeight + score.latencyPenalty * weights.latencyWeight +
    score.riskPenalty * weights.riskWeight +
    score.instabilityPenalty * weights.instabilityWeight +
    score.governanceViolationPenalty * weights.governanceWeight

end

def qf (value : F) : String := quote (fixed 6 value)

def worldlineReplayFingerprint (candidate : CandidateGraph F)
    (telemetry : TelemetryReplaySnapshot F) (weights : WorldlineWeights F)
    (weightsVersion : String) (penalties : Penalties F) (score : WorldlineScore F) : String :=
  let canonicalPayload := canonical
    [("schema_version", quote worldlineReplaySchemaVersion),
      ("seed_version", quote worldlineReplaySeedVersion),
      ("weights_version", quote weightsVersion),
      ("candidate", canonical [("candidate_id", quote candidate.candidateId),
          ("graph_version", quote candidate.graphVersion),
          ("expected_cost_micros", candidate.expectedCostMicros.toNat.repr),
          ("expected_latency_ms", candidate.expectedLatencyMs.toNat.repr),
          ("expected_risk_score", qf candidate.expectedRiskScore),
          ("generated_at_ms", candidate.generatedAtMs.toNat.repr)]),
      ("telemetry", canonical [("verifier_score", qf telemetry.verifierScore),
          ("provider_retry_count", telemetry.providerRetryCount.toNat.repr),
          ("tool_retry_count", telemetry.toolRetryCount.toNat.repr),
          ("replay_mismatch_rate", qf telemetry.replayMismatchRate),
          ("deterministic_boundary_respected", Json.bool telemetry.deterministicBoundaryRespected),
          ("latency_p95_ms", telemetry.latencyP95Ms.toNat.repr)]),
      ("weights", canonical [("success_weight", qf weights.successWeight),
          ("robustness_weight", qf weights.robustnessWeight),
          ("reuse_weight", qf weights.reuseWeight),
          ("verifier_weight", qf weights.verifierWeight),
          ("cost_weight", qf weights.costWeight),
          ("latency_weight", qf weights.latencyWeight),
          ("risk_weight", qf weights.riskWeight),
          ("instability_weight", qf weights.instabilityWeight),
          ("governance_weight", qf weights.governanceWeight)]),
      ("derived", canonical [("retry_total", penalties.retryTotal.toNat.repr),
          ("retry_penalty", qf penalties.retry),
          ("replay_penalty", qf penalties.replay),
          ("boundary_penalty", qf penalties.boundary),
          ("task_success", qf score.taskSuccess),
          ("robustness", qf score.robustness),
          ("reuse_gain", qf score.reuseGain),
          ("verifier_confidence", qf score.verifierConfidence),
          ("cost_penalty", qf score.costPenalty),
          ("latency_penalty", qf score.latencyPenalty),
          ("risk_penalty", qf score.riskPenalty),
          ("instability_penalty", qf score.instabilityPenalty),
          ("governance_violation_penalty", qf score.governanceViolationPenalty),
          ("total_score", qf score.totalScore)])]
  "worldlinefp:" ++ digestOfParts [worldlineReplaySchemaVersion, worldlineReplaySeedVersion,
    canonicalPayload]

namespace WorldlineEvaluator

def weightsReason (weights : WorldlineWeights F) (weightsVersion : String) : String :=
  "weights_version=" ++ weightsVersion ++ ";success=" ++ fixed 2 weights.successWeight ++
    ",robustness=" ++ fixed 2 weights.robustnessWeight ++ ",reuse=" ++
    fixed 2 weights.reuseWeight ++ ",verifier=" ++ fixed 2 weights.verifierWeight ++
    ",cost=" ++ fixed 2 weights.costWeight ++ ",latency=" ++ fixed 2 weights.latencyWeight ++
    ",risk=" ++ fixed 2 weights.riskWeight ++ ",instability=" ++
    fixed 2 weights.instabilityWeight ++ ",governance=" ++ fixed 2 weights.governanceWeight

def weightsOf (telemetry : TelemetryReplaySnapshot F) : WorldlineWeights F :=
  (telemetry.worldlineWeights.getD .default).sanitize

section
variable (candidate : CandidateGraph F) (snapshot : Option (TelemetryReplaySnapshot F))

def totalled :
    WorldlineScore F :=
  let weights := weightsOf (snapshot.getD .default)
  let measures := measuresOf candidate snapshot
  { measures with totalScore := positiveScore measures weights - negativeScore measures weights }

def reasonsOf :
    List String :=
  let telemetry := snapshot.getD .default
  let weights := weightsOf telemetry
  let penalties := penaltiesOf telemetry
  let weightsVersion := telemetry.weightsVersion.getD defaultWorldlineWeightsVersion
  let score := totalled candidate snapshot
  let replayFingerprint :=
    worldlineReplayFingerprint candidate telemetry weights weightsVersion penalties score
  [weightsReason weights weightsVersion,
    "positive=" ++ fixed 4 (positiveScore score weights) ++ ";negative=" ++
      fixed 4 (negativeScore score weights) ++ ";retry_total=" ++
      penalties.retryTotal.toNat.repr ++ ";replay_mismatch_rate=" ++
      fixed 3 (clamp telemetry.replayMismatchRate 0.0 1.0) ++ ";verifier=" ++
      fixed 3 score.verifierConfidence,
    "worldline_replay_fingerprint=" ++ replayFingerprint ++ ";schema_version=" ++
      worldlineReplaySchemaVersion ++ ";seed_version=" ++ worldlineReplaySeedVersion ++
      ";weights_version=" ++ weightsVersion]

def scoreWithSnapshot : WorldlineScore F :=
  { totalled candidate snapshot with reasons := reasonsOf candidate snapshot }

end

/-! ## Recommending -/

/-- The higher total first, and the smaller id of equals. -/
def compareRanked (first second : String × F) : Ordering :=
  (partialCmp second.2 first.2).then (compare first.1 second.1)

def ranked (scores : List (WorldlineScore F)) : List (String × F) :=
  sortBy compareRanked (scores.map fun score => (score.candidateId, score.totalScore))

def recommend (scores : List (WorldlineScore F))
    (snapshot : Option (TelemetryReplaySnapshot F)) : Option (WorldlineRecommendation F) :=
  match ranked scores with
  | [] => none
  | best :: others =>
    let second := (others.head?.map (·.2)).getD (best.2 - 0.15)
    let margin := max (best.2 - second) 0.0
    let telemetryBoost : F :=
      match snapshot with
      | some telemetry => clamp telemetry.verifierScore 0.0 1.0 * 0.25
      | none => 0.15
    let confidence := clamp (0.5 + min margin 0.35 + telemetryBoost) 0.0 1.0
    let bestReason :=
      ((scores.find? (·.candidateId = best.1)).bind (·.reasons.head?)).getD
        "reason=unavailable"
    some {
      recommendedCandidateId := best.1
      confidence
      rankedCandidates := best :: others
      reasons :=
        ["selected highest total_score candidate " ++ String.singleton '\x60' ++ best.1 ++
            String.singleton '\x60',
          "score_margin=" ++ fixed 3 margin, "confidence=" ++ fixed 3 confidence,
          "top_candidate_reason=" ++ bestReason,
          "tie_breaker=candidate_id_lexicographic_for_equal_scores",
          "recommendation-only: no automatic production graph switch"] }

end WorldlineEvaluator

end AutoLoop.EvolutionOs
