import AutoLoop.EvolutionOs.Board

/-!
# Promotion

From the outcome of the board come a trusted prior, a plan for its rollout and a plan for
the path on which it is promoted.
-/

namespace AutoLoop.EvolutionOs

open AutoLoop.Runtime (buildFingerprint)
open Json

variable {F : Type} [FloatOps F]

/-! ## Resynthesis -/

def CanonicalRealityResynthesizer.synthesize (reality : RealitySnapshot)
    (board : PromotionBoardOutcome F) (templateRefs : List String) : TrustedPriorSnapshot where
  priorId := "trusted-prior:" ++ reality.sessionId ++ ":" ++ reality.createdAtMs.toNat.repr
  basedOnRealitySnapshot := reality.snapshotId
  promotedCandidateId := none
  decision := board.decision
  templateRefs
  reusableSubgraphRefs := ["subgraph:baseline:v1"]
  governanceContractRefs := ["contract:" ++ reality.policyVersion]
  routingPriors := ["routing:governed-default"]
  verifierPriors := ["verifier:strict-default"]
  budgetPriors := Table.empty.insert "default" reality.budgetMicros
  trustedBoundaryVersion := "trusted-boundary-v1::" ++ evolutionOsContractVersion
  createdBy := "evolution-os"
  createdAtMs := reality.createdAtMs

/-! ## Rollout -/

inductive RolloutStage where
  | shadow
  | canary10
  | canary30
  | full
  | rollback
  deriving DecidableEq, Repr

/-- The `Debug` form. -/
def RolloutStage.text : RolloutStage → String
  | .shadow => "Shadow"
  | .canary10 => "Canary10"
  | .canary30 => "Canary30"
  | .full => "Full"
  | .rollback => "Rollback"

structure RolloutPlan where
  priorId : String
  decision : PromotionDecision
  stage : RolloutStage
  activationVersion : String
  rollbackOnFailure : Bool
  reason : String
  replayFingerprint : String
  replaySchemaVersion : String
  replaySeedVersion : String
  replayVersion : String

namespace TrustedRolloutEngine

def replaySchemaVersion : String := "rollout-replay/v1"

def replaySeedVersion : String := "rollout-seed/v1"

def replayVersion : String := "rollout-replay-contract/v1"

def planReason : String := "rollout plan emitted by trusted rollout engine"

def stageOf : PromotionDecision → RolloutStage
  | .discard | .rollback => .rollback
  | .logOnly | .localize | .escalateHumanReview => .shadow
  | .promoteRuntimeUpdate | .promoteTemplate | .promoteGovernanceContract
  | .crystallizeMemoryRule => .canary10

def rollsBack (stage : RolloutStage) : Bool :=
  stage == .canary10 || stage == .canary30 || stage == .full

section
variable (prior : TrustedPriorSnapshot) (decision : PromotionDecision)

def replayPayload : String :=
  canonical
    [("decision", quote decision.text), ("stage", quote (stageOf decision).text),
      ("rollback_on_failure", Json.bool (rollsBack (stageOf decision))),
      ("reason", quote planReason),
      ("prior_context", canonical [("decision", quote prior.decision.text),
          ("trusted_boundary_version", quote prior.trustedBoundaryVersion),
          ("template_refs", strings prior.templateRefs),
          ("governance_contract_refs", strings prior.governanceContractRefs),
          ("routing_priors", strings prior.routingPriors),
          ("verifier_priors", strings prior.verifierPriors),
          ("budget_priors", numbersJson prior.budgetPriors),
          ("created_by", quote prior.createdBy)])]

def plan : RolloutPlan where
  priorId := prior.priorId
  decision
  stage := stageOf decision
  activationVersion := evolutionOsContractVersion ++ "::" ++ prior.createdAtMs.toNat.repr ++
    "::" ++ prior.priorId
  rollbackOnFailure := rollsBack (stageOf decision)
  reason := planReason
  replayFingerprint := buildFingerprint "rolloutfp" replaySchemaVersion replaySeedVersion
    replayVersion (replayPayload prior decision)
  replaySchemaVersion
  replaySeedVersion
  replayVersion

end

end TrustedRolloutEngine

/-! ## Paths -/

inductive PromotionPath where
  | path9ARuntimeUpdate
  | path9BCrystalization
  | path9CGovernanceUpdate
  | path9DLocalOnly
  deriving DecidableEq, Repr

structure PathAction where
  executor : String
  operation : String
  target : String
  proposalOnly : Bool
  notes : List String

structure PathExecutionPlan where
  selectedPath : PromotionPath
  decision : PromotionDecision
  actions : List PathAction
  replayFingerprint : String
  replaySchemaVersion : String
  replaySeedVersion : String
  replayVersion : String

namespace PromotionPathExecutor

def replaySchemaVersion : String := "path-replay/v1"

def replaySeedVersion : String := "path-seed/v1"

def replayVersion : String := "path-replay-contract/v1"

def expectedPathForDecision : PromotionDecision → PromotionPath
  | .promoteRuntimeUpdate => .path9ARuntimeUpdate
  | .promoteTemplate | .crystallizeMemoryRule => .path9BCrystalization
  | .promoteGovernanceContract => .path9CGovernanceUpdate
  | .discard | .logOnly | .localize | .rollback | .escalateHumanReview => .path9DLocalOnly

def pathCode : PromotionPath → String
  | .path9ARuntimeUpdate => "9A"
  | .path9BCrystalization => "9B"
  | .path9CGovernanceUpdate => "9C"
  | .path9DLocalOnly => "9D"

/-- A note that names the prior, and with it the time. -/
def priorNote (prior : TrustedPriorSnapshot) : String := "prior_ref=" ++ prior.priorId

def runtimeActions (prior : TrustedPriorSnapshot) (proposals : List (EvolutionProposal F)) :
    List PathAction :=
  let pluginTarget :=
    ((proposals.find? (·.sourceBus = "plugin.lifecycle")).map (·.candidateId)).getD
      "plugin:graph-projection"
  [⟨"plugins.lifecycle", "rollout_canary10", pluginTarget, true,
    [priorNote prior, "runtime path uses lifecycle rollout surface"]⟩]

def crystalizationActions (board : PromotionBoardOutcome F) : List PathAction :=
  [⟨"gitmemory.patch_review_queue", "enqueue_patch_review", "memory:patch:review", true,
      ["crystallization path enqueues patch plan for approval",
        "board_target=" ++ board.archivist.targetPath]⟩,
    ⟨"gitmemory.patch_review_queue", "await_approve_or_reject", "memory:patch:review:*", true,
      ["closure step enforces explicit review decision before apply"]⟩,
    ⟨"gitmemory.patch_review_queue", "apply_if_approved", "memory:patch:apply", true,
      ["apply step is gated by approved review status only"]⟩]

def governanceActions (prior : TrustedPriorSnapshot) : List PathAction :=
  [⟨"governance.config_surface", "propose_policy_patch", "policy:evolution:governance", true,
      ["contract_refs=" ++ prior.governanceContractRefs.length.repr,
        "governance update stays proposal-only before approval"]⟩,
    ⟨"governance.config_surface", "version_governance_config",
      "policy:evolution:governance:version:*", true,
      ["versioned governance record allows deterministic replay and rollback"]⟩,
    ⟨"governance.config_surface", "activate_after_canary",
      "policy:evolution:governance:active", true,
      ["activation remains gated by rollout stage and governance approval"]⟩]

def localActions (decision : PromotionDecision) : List PathAction :=
  [⟨"local.experiment", "record_localized_experiment", "settings.local:evolution", true,
      ["local-only path avoids org-wide promotion", "decision=" ++ decision.text]⟩,
    ⟨"local.experiment", "isolate_local_scope", "settings.local:evolution:isolation", true,
      ["local-only changes are isolated from org-wide runtime state"]⟩,
    ⟨"local.experiment", "prepare_local_rollback", "settings.local:evolution:rollback", true,
      ["rollback contract is prepared for fast local revert"]⟩]

def actions (prior : TrustedPriorSnapshot) (board : PromotionBoardOutcome F)
    (proposals : List (EvolutionProposal F)) : List PathAction :=
  match expectedPathForDecision board.decision with
  | .path9ARuntimeUpdate => runtimeActions prior proposals
  | .path9BCrystalization => crystalizationActions board
  | .path9CGovernanceUpdate => governanceActions prior
  | .path9DLocalOnly => localActions board.decision

/-- The form of an action under the fingerprint, without the notes that name a prior. -/
def actionJson (action : PathAction) : String :=
  canonical
    [("executor", quote action.executor), ("operation", quote action.operation),
      ("target", quote action.target), ("proposal_only", Json.bool action.proposalOnly),
      ("notes", strings (action.notes.filter fun note => !Text.startsWith note "prior_ref="))]

section
variable (prior : TrustedPriorSnapshot) (board : PromotionBoardOutcome F)
  (proposals : List (EvolutionProposal F))

def replayPayload : String :=
  canonical
    [("selected_path", quote (pathCode (expectedPathForDecision board.decision))),
      ("decision", quote board.decision.text),
      ("proposal_count", proposals.length.repr),
      ("actions", array ((actions prior board proposals).map actionJson)),
      ("prior_context", canonical [("decision", quote prior.decision.text),
          ("trusted_boundary_version", quote prior.trustedBoundaryVersion),
          ("template_refs", strings prior.templateRefs),
          ("governance_contract_refs", strings prior.governanceContractRefs),
          ("routing_priors", strings prior.routingPriors),
          ("verifier_priors", strings prior.verifierPriors)])]

def plan : PathExecutionPlan where
  selectedPath := expectedPathForDecision board.decision
  decision := board.decision
  actions := actions prior board proposals
  replayFingerprint := buildFingerprint "pathfp" replaySchemaVersion replaySeedVersion
    replayVersion (replayPayload prior board proposals)
  replaySchemaVersion
  replaySeedVersion
  replayVersion

end

end PromotionPathExecutor

end AutoLoop.EvolutionOs
