import AutoLoop.EvolutionOs.Worldline

/-!
# The proposal hub

Candidates and external signals become proposals, of which the most promising ones are
kept, each priority bus first.
-/

namespace AutoLoop.EvolutionOs

open FloatOps

variable {F : Type} [FloatOps F]

inductive ProposalKind where
  | promptPatch
  | graphPatch
  | verifierPlacementPatch
  | routingBudgetPatch
  | reusableSubgraphPatch
  deriving DecidableEq, Repr

/-- The `Debug` form. -/
def ProposalKind.text : ProposalKind → String
  | .promptPatch => "PromptPatch"
  | .graphPatch => "GraphPatch"
  | .verifierPlacementPatch => "VerifierPlacementPatch"
  | .routingBudgetPatch => "RoutingBudgetPatch"
  | .reusableSubgraphPatch => "ReusableSubgraphPatch"

structure EvolutionProposal (F : Type) where
  proposalId : String
  candidateId : String
  kind : ProposalKind
  sourceBus : String
  proposalOnly : Bool
  summary : String
  expectedLift : F

/-! ## Signals -/

def flagOf (signal : JsonValue) (key : String) : Option Bool :=
  (signal.get key).bind JsonValue.asBool

def textOf (signal : JsonValue) (key : String) : Option String :=
  (signal.get key).bind JsonValue.asString

def isDirectWriteSignal (signal : JsonValue) : Bool :=
  ["direct_write", "apply_immediately", "production_write", "write_production",
    "mutate_production"].any (fun flag => (flagOf signal flag).getD false) ||
  ["target", "target_path", "write_target", "destination"].any fun key =>
    match textOf signal key with
    | none => false
    | some text =>
      let lowered := Text.toAsciiLowercase text
      Text.contains lowered "prod" || Text.contains lowered "production" ||
        Text.contains lowered "canonical" || Text.contains lowered "runtime/live"

/-! ## Proposals -/

namespace ControlledProposalHub

section
variable (reality : RealitySnapshot) (candidate : CandidateGraph F) (score : WorldlineScore F)

def taskAgentProposal : EvolutionProposal F where
  proposalId := "proposal:" ++ reality.sessionId ++ ":task:" ++ candidate.candidateId
  candidateId := candidate.candidateId
  kind := if (0.5 : F) < score.costPenalty then .routingBudgetPatch else .graphPatch
  sourceBus := "task.agent"
  proposalOnly := true
  summary := "proposal-only task bus selected " ++ candidate.candidateId ++ " with score " ++
    fixed 3 score.totalScore
  expectedLift := (score.taskSuccess + score.robustness + max score.totalScore 0.0) / 3.0

def metaAgentProposal : EvolutionProposal F where
  proposalId := "proposal:" ++ reality.sessionId ++ ":meta:" ++ candidate.candidateId
  candidateId := candidate.candidateId
  kind :=
    if score.verifierConfidence < 0.6 then .verifierPlacementPatch else .reusableSubgraphPatch
  sourceBus := "meta.agent"
  proposalOnly := true
  summary := "proposal-only meta bus evaluated " ++ candidate.candidateId ++ " (verifier=" ++
    fixed 2 score.verifierConfidence ++ ", reuse=" ++ fixed 2 score.reuseGain ++ ")"
  expectedLift := (max (1.0 - score.governanceViolationPenalty) 0.0 + max score.reuseGain 0.0) / 2.0

end

def foundryProposal (reality : RealitySnapshot) (idx : Nat) (hint : JsonValue) :
    EvolutionProposal F :=
  let hintId := (textOf hint "hint_id").getD "foundry-hint"
  let reason := (textOf hint "reason").getD "foundry promotion hint"
  let directWrite := isDirectWriteSignal hint
  { proposalId := "proposal:" ++ reality.sessionId ++ ":foundry:" ++ hintId ++ ":" ++ idx.repr
    candidateId := "foundry:" ++ hintId
    kind := .promptPatch
    sourceBus := if directWrite then "foundry.promotion.guard" else "foundry.promotion"
    proposalOnly := true
    summary :=
      if directWrite then
        "proposal-only guard converted blocked foundry direct-write request: " ++ reason
      else "proposal-only foundry hint queued: " ++ reason
    expectedLift := if (flagOf hint "requires_human_approval").getD true then 0.32 else 0.46 }

def patchRisk (review : JsonValue) : F :=
  let risk := ((review.get "decision").bind (·.get "risk_score")).bind fun value =>
    match value with
    | .number number => some (ofJson number)
    | _ => none
  clamp (risk.getD 0.5) 0.0 1.0

section
variable (reality : RealitySnapshot)

def patchProposal (idx : Nat) (review : JsonValue) :
    EvolutionProposal F :=
  let reviewId := (textOf review "review_id").getD "patch-review"
  let status := (textOf review "status").getD "queued"
  let riskScore : F := patchRisk review
  let directWrite := isDirectWriteSignal review
  let details := "status=" ++ status ++ ", risk=" ++ fixed 2 riskScore
  { proposalId := "proposal:" ++ reality.sessionId ++ ":patch:" ++ reviewId ++ ":" ++ idx.repr
    candidateId := "patch-review:" ++ reviewId
    kind :=
      if Text.eqIgnoreAsciiCase status "queued" then .graphPatch else .reusableSubgraphPatch
    sourceBus := if directWrite then "patch.review.guard" else "patch.review"
    proposalOnly := true
    summary :=
      if directWrite then
        "proposal-only guard converted blocked patch direct-write request: " ++ details
      else "proposal-only patch review surfaced: " ++ details
    expectedLift := (1.0 - riskScore) * 0.42 + 0.18 }

def pluginProposal (idx : Nat) (plugin : JsonValue) :
    EvolutionProposal F :=
  let pluginId := (textOf plugin "plugin_id").getD "plugin:unknown"
  let state := (textOf plugin "state").getD "installed"
  let verified := (flagOf plugin "verified").getD false
  let directWrite := isDirectWriteSignal plugin
  let details := "plugin=" ++ pluginId ++ ", state=" ++ state ++ ", verified=" ++
    Json.bool verified
  { proposalId := "proposal:" ++ reality.sessionId ++ ":plugin:" ++ pluginId ++ ":" ++ idx.repr
    candidateId := pluginId
    kind := if verified then .routingBudgetPatch else .verifierPlacementPatch
    sourceBus := if directWrite then "plugin.lifecycle.guard" else "plugin.lifecycle"
    proposalOnly := true
    summary :=
      if directWrite then
        "proposal-only guard converted blocked plugin direct-write request: " ++ details
      else "proposal-only plugin lifecycle suggestion: " ++ details
    expectedLift := if verified then 0.38 else 0.16 }

def externalProposals (signals : ExternalProposalSignals) :
    List (EvolutionProposal F) :=
  signals.foundryPromotionHints.mapIdx (foundryProposal reality) ++
    signals.patchReviews.mapIdx (patchProposal reality) ++
    signals.pluginLifecycleUpdates.mapIdx (pluginProposal reality)

def candidateProposals
    (scored : CandidateGraph F × WorldlineScore F) : List (EvolutionProposal F) :=
  if scored.2.totalScore < 0.0 then []
  else [taskAgentProposal reality scored.1 scored.2, metaAgentProposal reality scored.1 scored.2]

end

def priorityBuses : List String :=
  ["task.agent", "meta.agent", "foundry.promotion", "patch.review", "plugin.lifecycle"]

/-- Take a proposal in unless its id is used or the limit is reached. -/
def retainProposal (limit : Nat) (selected : List (EvolutionProposal F))
    (item : EvolutionProposal F) : List (EvolutionProposal F) :=
  if selected.length ≥ limit then selected
  else if selected.any (·.proposalId == item.proposalId) then selected
  else selected ++ [item]

def retainPriorityBuses (proposals : List (EvolutionProposal F)) (limit : Nat) :
    List (EvolutionProposal F) :=
  if proposals.length ≤ limit then proposals
  else
    let selected := priorityBuses.filterMap fun bus => proposals.find? (·.sourceBus = bus)
    proposals.foldl (retainProposal limit) selected

def select (reality : RealitySnapshot) (candidates : List (CandidateGraph F))
    (scores : List (WorldlineScore F)) (signals : ExternalProposalSignals) :
    List (EvolutionProposal F) :=
  let proposals := (candidates.zip scores).flatMap (candidateProposals reality) ++
    externalProposals reality signals
  let proposals := proposals.map fun item => { item with proposalOnly := true }
  retainPriorityBuses
    (sortBy (fun first second => partialCmp second.expectedLift first.expectedLift) proposals) 8

end ControlledProposalHub

end AutoLoop.EvolutionOs

/-!
## The promotion board

Four stages: the scout and the patch stage look at the proposals, the judge at the scores,
and a matrix decides.
-/

namespace AutoLoop.EvolutionOs

open FloatOps

variable {F : Type} [FloatOps F]

structure ScoutStage (F : Type) where
  recurringSources : List (String × Nat)
  bestScore : F
  lowConfidenceCandidates : Nat
  notes : List String

structure PatchStage where
  shortlistedIds : List String
  proposalOnlyEnforced : Bool
  patchSummaries : List String

structure JudgeStage (F : Type) where
  policyCompliant : Bool
  verifierSupported : Bool
  replaySupported : Bool
  regressionSafe : Bool
  maxVerifierConfidence : F
  maxInstabilityPenalty : F
  avgRiskPenalty : F
  maxGovernanceViolationPenalty : F
  verdictNotes : List String

structure ArchivistStage where
  targetPath : String
  applyImmediately : Bool
  recordKey : String
  notes : List String

structure PromotionBoardOutcome (F : Type) where
  decision : PromotionDecision
  reason : String
  scout : ScoutStage F
  patch : PatchStage
  judge : JudgeStage F
  archivist : ArchivistStage

/-! ## What dominates -/

/-- How often each key occurs, in the order of the keys. -/
def countKeys (keys : List String) : Table String Nat :=
  keys.foldl (fun counts key => counts.insert key ((counts.get key).getD 0 + 1)) Table.empty

/-- `max_by` on the counts: the last of the most frequent keys. -/
def mostFrequent (keys : List String) : Option String :=
  ((countKeys keys).rows.foldl (fun held row =>
    match held with
    | none => some row
    | some most => if row.2 < most.2 then some most else some row) none).map (·.1)

def dominantSourceBus (proposals : List (EvolutionProposal F)) : String :=
  (mostFrequent (proposals.map (·.sourceBus))).getD "mod.worldline"

def dominantKind (proposals : List (EvolutionProposal F)) : ProposalKind :=
  let key := mostFrequent (proposals.map (·.kind.text))
  ((proposals.find? fun proposal => key = some proposal.kind.text).map (·.kind)).getD .graphPatch

namespace PromotionGovernanceBoard

/-! ## Stages -/

def bestScore (scores : List (WorldlineScore F)) : F :=
  let best := maxFrom negInfinity (scores.map (·.totalScore))
  if isFinite best then best else 0.0

def runScoutStage (proposals : List (EvolutionProposal F)) (scores : List (WorldlineScore F)) :
    ScoutStage F where
  recurringSources := (countKeys (proposals.map (·.sourceBus))).rows
  bestScore := bestScore scores
  lowConfidenceCandidates := scores.countP fun score => score.verifierConfidence < 0.6
  notes := ["scout clustered proposal sources and confidence hotspots",
    "stage is advisory only and does not mutate production state"]

def runPatchStage (proposals : List (EvolutionProposal F)) : PatchStage where
  shortlistedIds := ((sortBy (fun first second =>
    partialCmp second.expectedLift first.expectedLift) proposals).take 5).map (·.proposalId)
  proposalOnlyEnforced := proposals.all (·.proposalOnly)
  patchSummaries :=
    (proposals.take 5).map fun proposal => proposal.summary ++ " [" ++ proposal.sourceBus ++ "]"

section
variable (scores : List (WorldlineScore F))

def maxVerifier : F :=
  maxFrom 0.0 (scores.map (·.verifierConfidence))

def maxInstability : F :=
  maxFrom 0.0 (scores.map (·.instabilityPenalty))

def averageRisk : F :=
  sum (scores.map (·.riskPenalty)) / ofNat scores.length

def maxGovernanceViolation : F :=
  maxFrom 0.0 (scores.map (·.governanceViolationPenalty))

def runJudgeStage (patch : PatchStage) : JudgeStage F :=
  if scores.isEmpty then
    { policyCompliant := patch.proposalOnlyEnforced
      verifierSupported := false
      replaySupported := false
      regressionSafe := false
      maxVerifierConfidence := 0.0
      maxInstabilityPenalty := 1.0
      avgRiskPenalty := 1.0
      maxGovernanceViolationPenalty := 1.0
      verdictNotes := ["judge found no score evidence to evaluate"] }
  else
    { policyCompliant := patch.proposalOnlyEnforced
      verifierSupported := (0.55 : F) ≤ maxVerifier scores
      replaySupported := maxInstability scores ≤ 0.75
      regressionSafe := averageRisk scores ≤ 0.75
      maxVerifierConfidence := maxVerifier scores
      maxInstabilityPenalty := maxInstability scores
      avgRiskPenalty := averageRisk scores
      maxGovernanceViolationPenalty := maxGovernanceViolation scores
      verdictNotes :=
        ["max_verifier_confidence=" ++ fixed 3 (maxVerifier scores),
          "max_instability_penalty=" ++ fixed 3 (maxInstability scores),
          "avg_risk_penalty=" ++ fixed 3 (averageRisk scores),
          "max_governance_violation_penalty=" ++ fixed 3 (maxGovernanceViolation scores)] }

end

/-! ## The matrix -/

/-- The decision of the matrix once nothing holds a promotion back. -/
def promotionOf (proposals : List (EvolutionProposal F)) : PromotionDecision × String :=
  let dominantSource := dominantSourceBus proposals
  let kind := dominantKind proposals
  if Text.contains dominantSource "plugin.lifecycle" || kind == .verifierPlacementPatch then
    (.promoteGovernanceContract,
      "matrix: plugin/governance-heavy proposal -> PROMOTE_GOVERNANCE_CONTRACT")
  else if Text.contains dominantSource "foundry" || kind == .promptPatch ||
      kind == .reusableSubgraphPatch then
    (.promoteTemplate, "matrix: foundry/template-ready proposal -> PROMOTE_TEMPLATE")
  else if Text.contains dominantSource "patch.review" then
    (.crystallizeMemoryRule, "matrix: patch review signal dominates -> CRYSTALLIZE_MEMORY_RULE")
  else
    (.promoteRuntimeUpdate,
      "matrix: runtime graph/budget signal dominates -> PROMOTE_RUNTIME_UPDATE")

def evaluateDecisionMatrix (reality : RealitySnapshot) (proposals : List (EvolutionProposal F))
    (scout : ScoutStage F) (patch : PatchStage) (judge : JudgeStage F) :
    PromotionDecision × String :=
  if proposals.isEmpty then (.logOnly, "matrix: no proposals -> LOG_ONLY")
  else if !patch.proposalOnlyEnforced || !judge.policyCompliant then
    (.discard, "matrix: proposal-only guard violated -> DISCARD")
  else if (0.35 : F) ≤ judge.maxGovernanceViolationPenalty ∨
      (0.95 : F) ≤ judge.maxInstabilityPenalty then
    (.rollback, "matrix: governance/instability critical (gov=" ++
      fixed 2 judge.maxGovernanceViolationPenalty ++ ", instability=" ++
      fixed 2 judge.maxInstabilityPenalty ++ ") -> ROLLBACK")
  else if !judge.verifierSupported || !judge.replaySupported then
    (.escalateHumanReview, "matrix: verifier/replay support insufficient -> ESCALATE")
  else if scout.bestScore < 0.05 then
    (.logOnly, "matrix: best_score " ++ fixed 3 scout.bestScore ++ " too low -> LOG_ONLY")
  else if scout.bestScore < 0.2 ∨ judge.regressionSafe = false then
    (.localize, "matrix: bounded promotion only (best_score=" ++ fixed 3 scout.bestScore ++
      ", regression_safe=" ++ Json.bool judge.regressionSafe ++ ") -> LOCALIZE")
  else if !Text.eqIgnoreAsciiCase reality.runtimeMode "shadow" then
    (.escalateHumanReview, "matrix: non-shadow runtime requires operator review -> ESCALATE")
  else promotionOf proposals

def targetPath : PromotionDecision → String
  | .promoteRuntimeUpdate => "9A.runtime_update_queue"
  | .promoteTemplate => "9B.template_frontier"
  | .promoteGovernanceContract => "9C.governance_update_queue"
  | .crystallizeMemoryRule => "9B.memory_rule_crystal"
  | .localize => "9D.local_only_patch"
  | .logOnly => "8.board_log_only"
  | .discard => "8.board_discard"
  | .rollback => "9D.rollback_queue"
  | .escalateHumanReview => "8.human_review_queue"

def runArchivistStage (reality : RealitySnapshot) (decision : PromotionDecision)
    (proposals : List (EvolutionProposal F)) : ArchivistStage where
  targetPath := targetPath decision
  applyImmediately := false
  recordKey := "evo:board:" ++ reality.sessionId ++ ":" ++ reality.traceId ++ ":" ++
    proposals.length.repr
  notes := ["archivist records structured board outputs only",
    "no direct production mutation is allowed in this stage"]

def decide (reality : RealitySnapshot) (proposals : List (EvolutionProposal F))
    (scores : List (WorldlineScore F)) : PromotionBoardOutcome F :=
  let scout := runScoutStage proposals scores
  let patch := runPatchStage proposals
  let judge := runJudgeStage scores patch
  let (decision, reason) := evaluateDecisionMatrix reality proposals scout patch judge
  { decision, reason, scout, patch, judge
    archivist := runArchivistStage reality decision proposals }

end PromotionGovernanceBoard

end AutoLoop.EvolutionOs
