import AutoLoop.EvolutionOs.Promotion

/-!
# The shadow cycle

One cycle of the kernel, from an input to a trusted prior with its plans, and the
fingerprints under which its evidence is recorded.
-/

namespace AutoLoop.EvolutionOs

open AutoLoop.Runtime (buildFingerprint)
open Json

variable {F : Type} [FloatOps F]

structure EvolutionShadowCycle (F : Type) where
  reality : RealitySnapshot
  priorDecision : CrystalPriorDecision
  candidates : List (CandidateGraph F)
  scores : List (WorldlineScore F)
  recommendation : Option (WorldlineRecommendation F)
  proposalSignals : ExternalProposalSignals
  proposals : List (EvolutionProposal F)
  boardDecision : PromotionDecision
  boardOutcome : PromotionBoardOutcome F
  pathPlan : PathExecutionPlan
  trustedPrior : TrustedPriorSnapshot
  rollout : RolloutPlan

def ExternalProposalSignals.default : ExternalProposalSignals := ⟨[], [], []⟩

namespace EvolutionOsKernel

def cycleOf (input : IngestInput F) (reality : RealitySnapshot) : EvolutionShadowCycle F :=
  let proposalSignals := input.proposalSignals.getD .default
  let priorDecision := CrystalPriorLayer.selectWithTrace reality
  let priors := priorDecision.selection
  let candidates := DynamicRuntimeGraphCompiler.compile reality priors
  let scores := candidates.map fun candidate =>
    WorldlineEvaluator.scoreWithSnapshot candidate input.telemetryReplay
  let recommendation := WorldlineEvaluator.recommend scores input.telemetryReplay
  let proposals := ControlledProposalHub.select reality candidates scores proposalSignals
  let boardOutcome := PromotionGovernanceBoard.decide reality proposals scores
  let trustedPrior :=
    { CanonicalRealityResynthesizer.synthesize reality boardOutcome priors.templateRefs with
      promotedCandidateId := recommendation.map (·.recommendedCandidateId) }
  { reality, priorDecision, candidates, scores, recommendation, proposalSignals, proposals
    boardDecision := boardOutcome.decision
    boardOutcome
    pathPlan := PromotionPathExecutor.plan trustedPrior boardOutcome proposals
    trustedPrior
    rollout := TrustedRolloutEngine.plan trustedPrior boardOutcome.decision }

def runShadowCycle (input : IngestInput F) : Except String (EvolutionShadowCycle F) := do
  let reality ← CanonicalRealityIngestor.ingest input
  return cycleOf input reality

end EvolutionOsKernel

/-! ## Evidence -/

def evidenceReplaySchemaVersion : String := "evolution-evidence-replay/v1"

def evidenceReplaySeedVersion : String := "evolution-evidence-seed/v1"

def evidenceReplayVersion : String := "evolution-evidence-replay-contract/v1"

def replayChainSchemaVersion : String := "evolution-replay-chain/v1"

def replayChainSeedVersion : String := "evolution-replay-chain-seed/v1"

def replayChainVersion : String := "evolution-replay-chain-contract/v1"

/-- The fingerprints of the four components of a cycle. -/
structure ComponentFingerprints where
  reality : String
  prior : String
  path : String
  rollout : String
  deriving DecidableEq, Repr

structure ReplayContract where
  components : ComponentFingerprints
  evidence : String
  chain : String
  deriving DecidableEq, Repr

/-- What `to_evidence_json` is called with. -/
structure EvidenceArguments where
  entrypoint : String
  promptExcerpt : String
  outcome : String
  outcomeDetail : String

def buildChainFingerprint (schemaVersion seedVersion replayVersion : String)
    (components : List (String × String)) : String :=
  let payload := canonical
    [("components", array (components.map fun component => canonical
      [("domain", quote component.1), ("fingerprint", quote component.2)]))]
  buildFingerprint "evoreplaychain" schemaVersion seedVersion replayVersion payload

namespace EvolutionShadowCycle

variable (cycle : EvolutionShadowCycle F)

def componentFingerprints : ComponentFingerprints where
  reality := cycle.reality.realityFingerprint
  prior := cycle.priorDecision.replayFingerprint
  path := cycle.pathPlan.replayFingerprint
  rollout := cycle.rollout.replayFingerprint

section
variable (arguments : EvidenceArguments)

def evidenceReplayPayload : String :=
  let components := cycle.componentFingerprints
  canonical
    [("entrypoint", quote arguments.entrypoint), ("outcome", quote arguments.outcome),
      ("outcome_detail", quote arguments.outcomeDetail),
      ("prompt_excerpt", quote (CanonicalRealityIngestor.takeChars 220 arguments.promptExcerpt)),
      ("board_decision", quote cycle.boardDecision.text),
      ("components", canonical [("reality_fingerprint", quote components.reality),
          ("prior_fingerprint", quote components.prior),
          ("path_fingerprint", quote components.path),
          ("rollout_fingerprint", quote components.rollout)])]

def evidenceReplayFingerprint : String :=
  buildFingerprint "evidencefp" evidenceReplaySchemaVersion evidenceReplaySeedVersion
    evidenceReplayVersion (cycle.evidenceReplayPayload arguments)

def replayChainFingerprint : String :=
  let components := cycle.componentFingerprints
  buildChainFingerprint replayChainSchemaVersion replayChainSeedVersion replayChainVersion
    [("reality", components.reality), ("prior", components.prior), ("path", components.path),
      ("rollout", components.rollout),
      ("evidence", cycle.evidenceReplayFingerprint arguments)]

/-- The fingerprints in the `replay_contract` of `to_evidence_json`. -/
def replayContract : ReplayContract where
  components := cycle.componentFingerprints
  evidence := cycle.evidenceReplayFingerprint arguments
  chain := cycle.replayChainFingerprint arguments

end

end EvolutionShadowCycle

end AutoLoop.EvolutionOs
