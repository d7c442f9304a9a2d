import AutoLoop.EvolutionOs.ShadowCycle

/-!
# Replayed cycles

The fingerprints of a cycle do not depend on its time, nor on how its references are
spelled, repeated and ordered.  The time of an input reaches the snapshot, the candidates
and the scores; each later stage reads the other fields of them only.
-/

namespace AutoLoop.EvolutionOs

open DynamicRuntimeGraphCompiler WorldlineEvaluator ControlledProposalHub PromotionGovernanceBoard
open PromotionPathExecutor EvolutionOsKernel EvolutionShadowCycle CanonicalRealityIngestor List Text

variable {F : Type}

/-! ## References -/

/-- The same references up to order, repetition and surrounding whitespace. -/
def SameRefs (first second : List String) : Prop :=
  ∀ ref, ref ∈ first.map trim ↔ ref ∈ second.map trim

theorem mem_dedup {ref : String} (refs : List String) : ref ∈ dedup refs ↔ ref ∈ refs := by
  fun_induction dedup refs with
  | case1 first rest ih => simp [ih]
  | case2 first second rest different ih => simp [ih]
  | case3 short => rfl

theorem increasing_dedup (refs : List String)
    (ordered : refs.Pairwise fun ref later => ref ≤ later) :
    (dedup refs).Pairwise fun ref later => ref < later := by
  fun_induction dedup refs with
  | case1 first rest ih => exact ih (pairwise_cons.mp ordered).2
  | case2 first second rest different ih =>
    obtain ⟨above, restOrdered⟩ := pairwise_cons.mp ordered
    refine pairwise_cons.mpr ⟨?_, ih restOrdered⟩
    intro later inRest
    have belowSecond : first < second := lt_of_le_of_ne (above second (by simp)) different
    have inTail := (mem_dedup _).mp inRest
    cases mem_cons.mp inTail with
    | inl isSecond => exact isSecond ▸ belowSecond
    | inr inLater =>
      exact lt_of_lt_of_le belowSecond ((pairwise_cons.mp restOrdered).1 later inLater)
  | case3 short isShort =>
    cases short with
    | nil => exact List.Pairwise.nil
    | cons first rest =>
      cases rest with
      | nil => exact pairwise_singleton _ _
      | cons second rest => exact (isShort first second rest rfl).elim

theorem mem_normalizeRefs {ref : String} {refs : List String} :
    ref ∈ normalizeRefs refs ↔ ref ∈ refs.map trim ∧ ref ≠ "" := by
  rw [normalizeRefs, mem_dedup, mem_sortByKey, mem_filter, decide_eq_true_iff]

/-- Normalised references depend on the set of references only. -/
theorem normalizeRefs_congr {first second : List String} (same : SameRefs first second) :
    normalizeRefs first = normalizeRefs second := by
  have increasing : ∀ refs : List String,
      (normalizeRefs refs).Pairwise fun ref later => ref < later :=
    fun refs => increasing_dedup _ (pairwise_insertionSort _ _)
  have perm : (normalizeRefs first).Perm (normalizeRefs second) := by
    rw [perm_ext_iff_of_nodup ((increasing first).imp ne_of_lt) ((increasing second).imp ne_of_lt)]
    intro ref
    rw [mem_normalizeRefs, mem_normalizeRefs, same ref]
  exact perm.eq_of_pairwise (fun ref later _ _ below above => absurd above (lt_asymm below))
    (increasing first) (increasing second)

/-! ## Inputs -/

namespace IngestInput

/-- The input without its time and its reference lists. -/
def plain (input : IngestInput F) : IngestInput F :=
  { input with
    nowMs := 0
    availableTools := []
    memoryRefs := []
    graphRefs := []
    repoRefs := []
    policyRefs := []
    toolRefs := [] }

/-- Two inputs differ only in their time and in how their references are listed. -/
structure SameVersioned (first second : IngestInput F) : Prop where
  availableTools : SameRefs first.availableTools second.availableTools
  memoryRefs : SameRefs first.memoryRefs second.memoryRefs
  graphRefs : SameRefs first.graphRefs second.graphRefs
  repoRefs : SameRefs first.repoRefs second.repoRefs
  policyRefs : SameRefs first.policyRefs second.policyRefs
  toolRefs : SameRefs first.toolRefs second.toolRefs
  plain : first.plain = second.plain

theorem SameVersioned.view {first second : IngestInput F} {α : Type}
    (same : first.SameVersioned second) (view : IngestInput F → α) :
    view first.plain = view second.plain :=
  congrArg view same.plain

end IngestInput

/-! ## Time -/

section Time

variable (snapshotId : String) (atMs : UInt64)

def RealitySnapshot.stamped (reality : RealitySnapshot) : RealitySnapshot :=
  { reality with snapshotId, createdAtMs := atMs }

def CandidateGraph.stamped (candidate : CandidateGraph F) : CandidateGraph F :=
  { candidate with realitySnapshotId := snapshotId, generatedAtMs := atMs }

/-- The score without what depends on the time of its candidate. -/
def WorldlineScore.measured (score : WorldlineScore F) : WorldlineScore F :=
  { score with reasons := [], scoredAtMs := 0 }

variable [FloatOps F]

theorem compile_stamped (reality : RealitySnapshot) (priors : CrystalPriorSelection) :
    (compile (reality.stamped snapshotId atMs) priors : List (CandidateGraph F)) =
      (compile reality priors).map
        (·.stamped snapshotId atMs) := by
  rw [compile, compile, mapIdx_eq_iff]
  intro place
  rw [getElem?_map, getElem?_mapIdx, Option.map_map]
  rfl

section
variable (candidate : CandidateGraph F) (snapshot : Option (TelemetryReplaySnapshot F))

theorem totalled_stamped :
    totalled (candidate.stamped snapshotId atMs) snapshot =
      { totalled candidate snapshot with scoredAtMs := atMs } := rfl

theorem measured_score_stamped :
    (scoreWithSnapshot (candidate.stamped snapshotId atMs) snapshot).measured =
      (scoreWithSnapshot candidate snapshot).measured := by
  have unreasoned : ∀ candidate : CandidateGraph F,
      (scoreWithSnapshot candidate snapshot).measured =
        (totalled candidate snapshot).measured := by
    intro candidate
    rw [scoreWithSnapshot]
    generalize totalled candidate snapshot = score
    generalize reasonsOf candidate snapshot = reasons
    rfl
  rw [unreasoned, unreasoned, totalled_stamped]
  generalize totalled candidate snapshot = score
  rfl

end

/-! ## Later stages -/

theorem select_stamped (reality : RealitySnapshot) (candidates : List (CandidateGraph F))
    (scores : List (WorldlineScore F)) (signals : ExternalProposalSignals) :
    select (reality.stamped snapshotId atMs)
        (candidates.map (·.stamped snapshotId atMs)) scores signals =
      select reality candidates scores signals := by
  rw [select, select, zip_map_left, flatMap_map]
  rfl

omit snapshotId atMs in
theorem select_measured (reality : RealitySnapshot) (candidates : List (CandidateGraph F))
    (scores : List (WorldlineScore F)) (signals : ExternalProposalSignals) :
    select reality candidates (scores.map (·.measured)) signals =
      select reality candidates scores signals := by
  rw [select, select, zip_map_right, flatMap_map]
  rfl

theorem runScoutStage_measured (proposals : List (EvolutionProposal F))
    (scores : List (WorldlineScore F)) :
    runScoutStage proposals (scores.map (·.measured)) =
      runScoutStage proposals scores := by
  simp only [runScoutStage, bestScore, map_map, countP_map]
  rfl

theorem runJudgeStage_measured (scores : List (WorldlineScore F)) (patch : PatchStage) :
    runJudgeStage (scores.map (·.measured)) patch =
      runJudgeStage scores patch := by
  simp only [runJudgeStage, maxVerifier, maxInstability, averageRisk,
    maxGovernanceViolation, map_map, isEmpty_map,
    length_map]
  rfl

section
variable (reality : RealitySnapshot) (proposals : List (EvolutionProposal F))
  (scores : List (WorldlineScore F))

theorem decide_measured :
    PromotionGovernanceBoard.decide reality proposals (scores.map (·.measured)) =
      PromotionGovernanceBoard.decide reality proposals scores := by
  simp only [PromotionGovernanceBoard.decide, runScoutStage_measured, runJudgeStage_measured]

theorem decide_stamped :
    PromotionGovernanceBoard.decide (reality.stamped snapshotId atMs) proposals scores =
      PromotionGovernanceBoard.decide reality proposals scores := rfl

end

theorem actionJson_actions {prior other : TrustedPriorSnapshot}
    (sameContracts : prior.governanceContractRefs = other.governanceContractRefs)
    (board : PromotionBoardOutcome F) (proposals : List (EvolutionProposal F)) :
    (actions prior board proposals).map actionJson =
      (actions other board proposals).map
        actionJson := by
  have noted : ∀ prior : TrustedPriorSnapshot,
      startsWith (priorNote prior) "prior_ref=" = true := by
    intro prior
    exact startsWith_iff_exists.mpr ⟨prior.priorId, rfl⟩
  rw [actions, actions]
  cases expectedPathForDecision board.decision with
  | path9ARuntimeUpdate =>
    simp [runtimeActions, actionJson, noted]
  | path9BCrystalization => rfl
  | path9CGovernanceUpdate =>
    simp only [governanceActions, sameContracts]
  | path9DLocalOnly => rfl

end Time

/-! ## Cycles -/

/-- The prior without its ids and its time. -/
def TrustedPriorSnapshot.plain (prior : TrustedPriorSnapshot) : TrustedPriorSnapshot :=
  { prior with
    priorId := ""
    basedOnRealitySnapshot := ""
    promotedCandidateId := none
    createdAtMs := 0 }

variable [FloatOps F]

theorem path_fingerprint_plain (prior : TrustedPriorSnapshot)
    (board : PromotionBoardOutcome F) (proposals : List (EvolutionProposal F)) :
    (plan prior board proposals).replayFingerprint =
      (plan prior.plain board proposals).replayFingerprint := by
  have sameContracts : prior.governanceContractRefs = prior.plain.governanceContractRefs := rfl
  have sameForms := actionJson_actions sameContracts board proposals
  rw [plan, plan, replayPayload, replayPayload, sameForms]
  rfl

theorem rollout_fingerprint_plain (prior : TrustedPriorSnapshot) (decision : PromotionDecision) :
    (TrustedRolloutEngine.plan prior decision).replayFingerprint =
      (TrustedRolloutEngine.plan prior.plain decision).replayFingerprint := rfl

theorem replayContract_cycleOf_stamped {first second : IngestInput F}
    (sameReplay : first.telemetryReplay = second.telemetryReplay)
    (sameSignals : first.proposalSignals = second.proposalSignals) (reality : RealitySnapshot)
    (snapshotId : String) (atMs : UInt64) (arguments : EvidenceArguments) :
    (cycleOf first (reality.stamped snapshotId atMs)).replayContract
        arguments =
      (cycleOf second reality).replayContract arguments := by
  let stamped := cycleOf first (reality.stamped snapshotId atMs)
  let cycle := cycleOf second reality
  have sameCandidates :
      stamped.candidates = cycle.candidates.map (·.stamped snapshotId atMs) :=
    compile_stamped snapshotId atMs reality (CrystalPriorLayer.select reality)
  have sameScores : stamped.scores.map (·.measured) = cycle.scores.map (·.measured) := by
    have ofStamped : stamped.scores = stamped.candidates.map fun candidate =>
        scoreWithSnapshot candidate second.telemetryReplay := by
      rw [← sameReplay]
      rfl
    have ofCycle : cycle.scores = cycle.candidates.map fun candidate =>
        scoreWithSnapshot candidate second.telemetryReplay := rfl
    rw [ofStamped, ofCycle, sameCandidates, map_map, map_map, map_map]
    apply map_congr_left
    intro candidate _
    exact measured_score_stamped snapshotId atMs candidate second.telemetryReplay
  have sameProposals : stamped.proposals = cycle.proposals := by
    have ofStamped : stamped.proposals = select
        (reality.stamped snapshotId atMs) stamped.candidates stamped.scores
        (second.proposalSignals.getD .default) := by
      rw [← sameSignals]
      rfl
    rw [ofStamped, sameCandidates, select_stamped, ← select_measured, sameScores, select_measured]
    rfl
  have sameOutcome : stamped.boardOutcome = cycle.boardOutcome := by
    have ofStamped : stamped.boardOutcome = PromotionGovernanceBoard.decide
        (reality.stamped snapshotId atMs) stamped.proposals stamped.scores := rfl
    rw [ofStamped, decide_stamped, sameProposals, ← decide_measured, sameScores,
      decide_measured]
    rfl
  have samePrior : stamped.trustedPrior.plain = cycle.trustedPrior.plain := by
    have ofStamped : stamped.trustedPrior.plain =
        (CanonicalRealityResynthesizer.synthesize reality stamped.boardOutcome
          (CrystalPriorLayer.select reality).templateRefs).plain := rfl
    rw [ofStamped, sameOutcome]
    rfl
  have samePath : stamped.pathPlan.replayFingerprint = cycle.pathPlan.replayFingerprint := by
    have ofStamped : stamped.pathPlan = plan stamped.trustedPrior
        stamped.boardOutcome stamped.proposals := rfl
    have ofCycle : cycle.pathPlan = plan cycle.trustedPrior
        cycle.boardOutcome cycle.proposals := rfl
    rw [ofStamped, ofCycle, path_fingerprint_plain, samePrior, sameOutcome, sameProposals,
      ← path_fingerprint_plain]
  have sameRollout : stamped.rollout.replayFingerprint = cycle.rollout.replayFingerprint := by
    have ofStamped : stamped.rollout =
        TrustedRolloutEngine.plan stamped.trustedPrior stamped.boardOutcome.decision := rfl
    have ofCycle : cycle.rollout =
        TrustedRolloutEngine.plan cycle.trustedPrior cycle.boardOutcome.decision := rfl
    rw [ofStamped, ofCycle, rollout_fingerprint_plain, samePrior, sameOutcome,
      ← rollout_fingerprint_plain]
  have sameComponents : stamped.componentFingerprints = cycle.componentFingerprints := by
    rw [componentFingerprints, componentFingerprints, samePath, sameRollout]
    rfl
  have sameDecision : stamped.boardDecision = cycle.boardDecision :=
    congrArg PromotionBoardOutcome.decision sameOutcome
  have sameEvidence : stamped.evidenceReplayFingerprint arguments =
      cycle.evidenceReplayFingerprint arguments := by
    rw [evidenceReplayFingerprint, evidenceReplayFingerprint,
      evidenceReplayPayload, evidenceReplayPayload,
      sameComponents, sameDecision]
  have sameChain : stamped.replayChainFingerprint arguments =
      cycle.replayChainFingerprint arguments := by
    rw [replayChainFingerprint, replayChainFingerprint, sameComponents, sameEvidence]
  have together : stamped.replayContract arguments = cycle.replayContract arguments := by
    rw [replayContract, replayContract, sameComponents, sameEvidence, sameChain]
  exact together

section Inputs

variable {first second : IngestInput F} (same : first.SameVersioned second)
include same

omit [FloatOps F] in
theorem draft_congr :
    draft first = draft second := by
  have sessionId : first.sessionId = second.sessionId := same.view IngestInput.sessionId
  have traceId : first.traceId = second.traceId := same.view IngestInput.traceId
  have tenantId : first.tenantId = second.tenantId := same.view IngestInput.tenantId
  have policyVersion : first.policyVersion = second.policyVersion := same.view IngestInput.policyVersion
  have runtimeMode : first.runtimeMode = second.runtimeMode := same.view IngestInput.runtimeMode
  have budgetMicros : first.budgetMicros = second.budgetMicros := same.view IngestInput.budgetMicros
  have latencyBudgetMs : first.latencyBudgetMs = second.latencyBudgetMs := same.view IngestInput.latencyBudgetMs
  have budgetProfile : first.budgetProfile = second.budgetProfile := same.view IngestInput.budgetProfile
  simp only [draft, normalizeRefs_congr same.availableTools,
    normalizeRefs_congr same.memoryRefs, normalizeRefs_congr same.graphRefs,
    normalizeRefs_congr same.repoRefs, normalizeRefs_congr same.policyRefs,
    normalizeRefs_congr same.toolRefs, sessionId, traceId, tenantId, policyVersion, runtimeMode,
    budgetMicros, latencyBudgetMs, budgetProfile]

omit [FloatOps F] in
/-- The snapshots of the two inputs are one snapshot under two ids and times, or neither
input is taken. -/
theorem ingest_congr :
    (∃ message, ingest first = .error message ∧ ingest second = .error message) ∨
      ∃ reality snapshotId atMs, ingest second = .ok reality ∧
        ingest first = .ok (reality.stamped snapshotId atMs) := by
  have sessionId : first.sessionId = second.sessionId :=
    same.view IngestInput.sessionId
  have traceId : first.traceId = second.traceId := same.view IngestInput.traceId
  have tenantId : first.tenantId = second.tenantId := same.view IngestInput.tenantId
  have budgetMicros : first.budgetMicros = second.budgetMicros :=
    same.view IngestInput.budgetMicros
  simp only [ingest, CanonicalRealityIngestor.snapshot,
    draft_congr same, sessionId, traceId, tenantId, budgetMicros]
  cases Check.require (trim second.sessionId ≠ "") "session_id is required" with
  | error message => exact Or.inl ⟨message, rfl, rfl⟩
  | ok named =>
    cases Check.require (trim second.traceId ≠ "") "trace_id is required" with
    | error message => exact Or.inl ⟨message, rfl, rfl⟩
    | ok traced =>
      cases Check.require (trim second.tenantId ≠ "") "tenant_id is required" with
      | error message => exact Or.inl ⟨message, rfl, rfl⟩
      | ok owned =>
        cases Check.require (second.budgetMicros ≠ 0) "budget_micros must be > 0" with
        | error message => exact Or.inl ⟨message, rfl, rfl⟩
        | ok funded => exact Or.inr ⟨_, _, first.nowMs, rfl, rfl⟩

/-- Replaying an input at another time, with its references spelled, repeated and ordered
in another way, gives the same fingerprints. -/
theorem replay_fingerprints_versioned (arguments : EvidenceArguments) :
    (runShadowCycle first).map (·.replayContract arguments) =
      (runShadowCycle second).map (·.replayContract arguments) := by
  rw [runShadowCycle, runShadowCycle]
  cases ingest_congr same with
  | inl refused =>
    obtain ⟨message, firstRefused, secondRefused⟩ := refused
    rw [firstRefused, secondRefused]
    rfl
  | inr taken =>
    obtain ⟨reality, snapshotId, atMs, secondTaken, firstTaken⟩ := taken
    have sameContract := replayContract_cycleOf_stamped
      (same.view IngestInput.telemetryReplay :
        first.telemetryReplay = second.telemetryReplay)
      (same.view IngestInput.proposalSignals) reality snapshotId atMs arguments
    rw [firstTaken, secondTaken]
    exact congrArg Except.ok sameContract

end Inputs

/-! ## One input twice -/

def firstInput : IngestInput ℚ where
  sessionId := "s"
  traceId := "t"
  tenantId := "a"
  policyVersion := "v1"
  runtimeMode := "shadow"
  availableTools := ["tool:a", "tool:b"]
  memoryRefs := []
  graphRefs := []
  repoRefs := ["repo"]
  policyRefs := []
  toolRefs := []
  budgetMicros := 100000
  latencyBudgetMs := 2000
  budgetProfile := Table.empty
  nowMs := 1
  telemetryReplay := none
  proposalSignals := none

/-- The same input later, with its references listed in another way. -/
def secondInput : IngestInput ℚ :=
  { firstInput with
    nowMs := 2
    availableTools := ["tool:b", " tool:a", "tool:b "]
    repoRefs := [" repo"] }

theorem listed_again_same_fingerprints :
    (runShadowCycle firstInput).isOk = true ∧
      (runShadowCycle firstInput).map (·.replayContract ⟨"e", "p", "o", "d"⟩) =
      (runShadowCycle secondInput).map
        (·.replayContract ⟨"e", "p", "o", "d"⟩) := by
  have tools : SameRefs firstInput.availableTools secondInput.availableTools := by
    have first : firstInput.availableTools.map trim = ["tool:a", "tool:b"] := by
      decide +kernel
    have second : secondInput.availableTools.map trim = ["tool:b", "tool:a", "tool:b"] := by
      decide +kernel
    intro ref
    rw [first, second]
    simp only [mem_cons, not_mem_nil, or_false]
    tauto
  have repos : SameRefs firstInput.repoRefs secondInput.repoRefs := by
    have same : firstInput.repoRefs.map trim = secondInput.repoRefs.map trim := by
      decide +kernel
    intro ref
    rw [same]
  constructor
  · rfl
  · exact replay_fingerprints_versioned
      ⟨tools, fun _ => Iff.rfl, fun _ => Iff.rfl, repos, fun _ => Iff.rfl, fun _ => Iff.rfl, rfl⟩
      ⟨"e", "p", "o", "d"⟩

end AutoLoop.EvolutionOs
