import AutoLoop.EvolutionOs.ShadowCycle

/-!
# Promotion gates

A cycle always names the recommended candidate as the promoted one.  What it names has
earned it exactly when the matrix comes to a promotion and the leading candidate itself,
not another one, has the support of the verifier.
-/

namespace AutoLoop.EvolutionOs

open FloatOps DynamicRuntimeGraphCompiler WorldlineEvaluator PromotionGovernanceBoard OrderedFloats
open EvolutionOsKernel List Text

/-! ## What a promotion takes -/

/-- The decisions that start a rollout. -/
def PromotionDecision.isPromotion : PromotionDecision → Bool
  | .promoteRuntimeUpdate | .promoteTemplate | .promoteGovernanceContract
  | .crystallizeMemoryRule => true
  | .discard | .logOnly | .localize | .rollback | .escalateHumanReview => false

/-- Floats in which the thresholds of the gates are in order. -/
class GateFloats (F : Type) extends OrderedFloats F where
  zero_lt_governance : (0.0 : F) < 0.35
  zero_le_replay : (0.0 : F) ≤ 0.75
  replay_lt_instability : (0.75 : F) < 0.95
  log_lt_local : (0.05 : F) < 0.2

instance rationalGates : GateFloats ℚ where
  zero_lt_governance := by decide +kernel
  zero_le_replay := by decide +kernel
  replay_lt_instability := by decide +kernel
  log_lt_local := by decide +kernel

variable {F : Type}

section Gates

variable [FloatOps F]

/-- The score passes the gates of the matrix by itself. -/
structure WorldlineScore.Passes (score : WorldlineScore F) : Prop where
  verified : (0.55 : F) ≤ score.verifierConfidence
  governed : score.governanceViolationPenalty < 0.35
  stable : score.instabilityPenalty < 0.95 ∧ score.instabilityPenalty ≤ 0.75

def EvolutionShadowCycle.Earned (cycle : EvolutionShadowCycle F) : Prop :=
  ∀ candidateId, cycle.trustedPrior.promotedCandidateId = some candidateId →
    cycle.boardDecision.isPromotion = true ∧
      ∃ score ∈ cycle.scores, score.candidateId = candidateId ∧ score.Passes

namespace IngestInput

variable (input : IngestInput F)

/-- What ingestion asks for. -/
abbrev Taken : Prop :=
  trim input.sessionId ≠ "" ∧ trim input.traceId ≠ "" ∧
    trim input.tenantId ≠ "" ∧ input.budgetMicros ≠ 0

def candidateScores : List (WorldlineScore F) :=
  let reality := CanonicalRealityIngestor.snapshot input
  (compile reality (CrystalPriorLayer.select reality)).map
    fun candidate => scoreWithSnapshot candidate input.telemetryReplay

/-- There is an external signal. -/
def Signalled : Prop :=
  ∃ signals ∈ input.proposalSignals, signals.foundryPromotionHints ≠ [] ∨
    signals.patchReviews ≠ [] ∨ signals.pluginLifecycleUpdates ≠ []

end IngestInput

/-- The score with the highest total, and the smallest id of those. -/
def Leads (scores : List (WorldlineScore F)) (score : WorldlineScore F) : Prop :=
  score ∈ scores ∧ ∀ other ∈ scores, other.totalScore < score.totalScore ∨
    (other.totalScore = score.totalScore ∧ score.candidateId ≤ other.candidateId)

/-- The input gives rise to a proposal, no score of its candidates is critical, they are
good enough together, and the leading one has the support of the verifier. -/
structure IngestInput.Promotable (input : IngestInput F) : Prop where
  shadow : eqIgnoreAsciiCase input.runtimeMode "shadow" = true
  offered : (∃ score ∈ input.candidateScores, ¬score.totalScore < 0.0) ∨ input.Signalled
  governed : ∀ score ∈ input.candidateScores, score.governanceViolationPenalty < 0.35
  stable : ∀ score ∈ input.candidateScores, score.instabilityPenalty ≤ 0.75
  safe : averageRisk input.candidateScores ≤ 0.75
  good : ¬bestScore input.candidateScores < 0.2
  verified : ∀ score, Leads input.candidateScores score → (0.55 : F) ≤ score.verifierConfidence

/-! ## Proposals -/

namespace ControlledProposalHub

variable {limit : Nat}

theorem mem_foldl_retain {item : EvolutionProposal F} {items selected : List (EvolutionProposal F)}
    (membership : item ∈ items.foldl (retainProposal limit) selected) :
    item ∈ selected ∨ item ∈ items := by
  induction items generalizing selected with
  | nil => exact Or.inl membership
  | cons first rest ih =>
    cases ih membership with
    | inr inRest => exact Or.inr (mem_cons_of_mem first inRest)
    | inl inSelected =>
      rw [retainProposal] at inSelected
      split at inSelected
      · exact Or.inl inSelected
      · split at inSelected
        · exact Or.inl inSelected
        · cases mem_append.mp inSelected with
          | inl before => exact Or.inl before
          | inr isFirst =>
            rw [mem_singleton.mp isFirst]
            exact Or.inr mem_cons_self

theorem foldl_retain_ne_nil (positive : 0 < limit)
    {items selected : List (EvolutionProposal F)} (nonempty : items ≠ [] ∨ selected ≠ []) :
    items.foldl (retainProposal limit) selected ≠ [] := by
  induction items generalizing selected with
  | nil => simpa using nonempty
  | cons first rest ih =>
    rw [foldl_cons]
    apply ih
    right
    rw [retainProposal]
    split
    · next full =>
      intro isNil
      rw [isNil, length_nil] at full
      omega
    · split
      · next used =>
        intro isNil
        rw [isNil] at used
        cases used
      · simp

theorem mem_retainPriorityBuses {item : EvolutionProposal F}
    {items : List (EvolutionProposal F)} (membership : item ∈ retainPriorityBuses items limit) :
    item ∈ items := by
  rw [retainPriorityBuses] at membership
  split at membership
  · exact membership
  · cases mem_foldl_retain membership with
    | inr inItems => exact inItems
    | inl prioritised =>
      obtain ⟨bus, -, found⟩ := mem_filterMap.mp prioritised
      exact mem_of_find?_eq_some found

theorem retainPriorityBuses_ne_nil (positive : 0 < limit) {items : List (EvolutionProposal F)} :
    retainPriorityBuses items limit ≠ [] ↔ items ≠ [] := by
  constructor
  · intro nonempty isNil
    obtain ⟨item, membership⟩ := exists_mem_of_ne_nil _ nonempty
    have inItems := mem_retainPriorityBuses membership
    rw [isNil] at inItems
    cases inItems
  · intro nonempty
    rw [retainPriorityBuses]
    split
    · exact nonempty
    · exact foldl_retain_ne_nil positive (Or.inl nonempty)

section
variable (reality : RealitySnapshot) (candidates : List (CandidateGraph F))

theorem proposalOnly_select (scores : List (WorldlineScore F)) (signals : ExternalProposalSignals) :
    ∀ proposal ∈ select reality candidates scores signals, proposal.proposalOnly = true := by
  intro proposal membership
  have sorted := mem_retainPriorityBuses membership
  rw [sortBy, mem_mergeSort] at sorted
  obtain ⟨offered, -, rfl⟩ := mem_map.mp sorted
  rfl

theorem select_ne_nil_iff
    (score : CandidateGraph F → WorldlineScore F) (signals : ExternalProposalSignals) :
    select reality candidates (candidates.map score) signals ≠ [] ↔
      (∃ scored ∈ candidates.map score, ¬scored.totalScore < 0.0) ∨
        signals.foundryPromotionHints ≠ [] ∨ signals.patchReviews ≠ [] ∨
          signals.pluginLifecycleUpdates ≠ [] := by
  have sortedNil : ∀ (cmp : EvolutionProposal F → EvolutionProposal F → Ordering) items,
      sortBy cmp items = [] ↔ items = [] := by
    intro cmp items
    rw [sortBy, ← length_eq_zero_iff, length_mergeSort, length_eq_zero_iff]
  have external : (externalProposals reality signals : List (EvolutionProposal F)) ≠ [] ↔
      signals.foundryPromotionHints ≠ [] ∨ signals.patchReviews ≠ [] ∨
        signals.pluginLifecycleUpdates ≠ [] := by
    simp only [externalProposals, ne_eq, append_eq_nil_iff, mapIdx_eq_nil_iff, not_and_or, or_assoc]
  have own : ((candidates.zip (candidates.map score)).flatMap (candidateProposals reality) ≠ []) ↔
      ∃ scored ∈ candidates.map score, ¬scored.totalScore < 0.0 := by
    rw [← map_prod_left_eq_zip, flatMap_map, ne_eq, flatMap_eq_nil_iff]
    push_neg
    simp only [mem_map, exists_exists_and_eq_and]
    apply exists_congr
    intro candidate
    apply and_congr_right
    intro _
    rw [candidateProposals]
    split
    · next negative => simp [negative]
    · next notNegative => simp [notNegative]
  rw [select, retainPriorityBuses_ne_nil (by omega), ne_eq, sortedNil, map_eq_nil_iff,
    append_eq_nil_iff, not_and_or]
  exact or_congr own external

end

end ControlledProposalHub

/-! ## Candidates -/

theorem normalizedOrDefault_ne_nil (values : List String) (fallback : String) :
    normalizedOrDefault values fallback ≠ [] := by
  rw [normalizedOrDefault]
  split
  · simp
  · next nonempty => simpa using nonempty

theorem strategyProfiles_ne_nil (priors : CrystalPriorSelection) :
    strategyProfiles priors ≠ [] := by
  rw [strategyProfiles]
  split
  · simp
  · next nonempty => simpa using nonempty

theorem candidateDrafts_ne_nil (reality : RealitySnapshot) (priors : CrystalPriorSelection) :
    (candidateDrafts reality priors : List (CandidateDraft F)) ≠ [] := by
  obtain ⟨strategy, isStrategy⟩ := exists_mem_of_ne_nil _ (strategyProfiles_ne_nil priors)
  obtain ⟨template, isTemplate⟩ := exists_mem_of_ne_nil _
    (normalizedOrDefault_ne_nil priors.templateRefs "template:default")
  obtain ⟨subgraph, isSubgraph⟩ := exists_mem_of_ne_nil _
    (normalizedOrDefault_ne_nil priors.reusableSubgraphRefs "subgraph:default")
  have combined : (strategy, template, subgraph) ∈ combinations (strategyProfiles priors)
      (normalizedOrDefault priors.templateRefs "template:default")
      (normalizedOrDefault priors.reusableSubgraphRefs "subgraph:default") := by
    simp only [combinations, mem_flatMap, mem_map]
    exact ⟨strategy, isStrategy, template, isTemplate, subgraph, isSubgraph, rfl⟩
  rw [candidateDrafts, mapIdx_ne_nil_iff]
  intro isNil
  cases take_eq_nil_iff.mp isNil with
  | inl isZero => exact absurd isZero (by decide)
  | inr noneLeft => exact ne_nil_of_mem combined noneLeft

theorem isSome_saferDraft (held : Option (CandidateDraft F)) (draft : CandidateDraft F) :
    (saferDraft held draft).isSome = true := by
  cases held with
  | none => rfl
  | some safe =>
    rw [saferDraft]
    split
    · rfl
    · rfl

theorem isSome_safest {drafts : List (CandidateDraft F)} (nonempty : drafts ≠ []) :
    (safest drafts).isSome = true := by
  have kept : ∀ (drafts : List (CandidateDraft F)) (held : Option (CandidateDraft F)),
      held.isSome = true → (drafts.foldl saferDraft held).isSome = true := by
    intro drafts
    induction drafts with
    | nil => exact fun held isSome => isSome
    | cons draft rest ih => exact fun held _ => ih _ (isSome_saferDraft held draft)
  cases drafts with
  | nil => exact absurd rfl nonempty
  | cons draft rest => exact kept rest _ (isSome_saferDraft none draft)

section
variable (reality : RealitySnapshot) (priors : CrystalPriorSelection)

theorem compile_ne_nil :
    (compile reality priors : List (CandidateGraph F)) ≠ [] := by
  rw [compile, mapIdx_ne_nil_iff, selectDrafts]
  split
  · have sorted : sortBy compareDrafts (candidateDrafts reality priors : List (CandidateDraft F)) ≠
        [] := by
      rw [sortBy, ne_eq, ← length_eq_zero_iff, length_mergeSort, length_eq_zero_iff]
      exact candidateDrafts_ne_nil reality priors
    obtain ⟨draft, isSafest⟩ := Option.isSome_iff_exists.mp (isSome_safest sorted)
    rw [isSafest]
    simp
  · next nonempty => simpa using nonempty

theorem candidateId_injOn {first second : CandidateGraph F}
    (isFirst : first ∈ compile reality priors) (isSecond : second ∈ compile reality priors)
    (same : first.candidateId = second.candidateId) : first = second := by
  rw [compile] at isFirst isSecond
  obtain ⟨place, inRange, rfl⟩ := exists_of_mem_mapIdx isFirst
  obtain ⟨other, otherRange, rfl⟩ := exists_of_mem_mapIdx isSecond
  have samePlace : place = other := by
    have lists := congrArg String.toList same
    simp only [buildCandidateGraph, String.toList_append, append_assoc,
      append_cancel_left_eq] at lists
    have digits := before_first_separator lists (not_mem_repr (by decide) _)
      (not_mem_repr (by decide) _)
    have numbers := repr_inj.mp (String.toList_inj.mp digits)
    omega
  subst samePlace
  rfl

end

/-! ## The matrix -/

theorem isPromotion_promotionOf (proposals : List (EvolutionProposal F)) :
    (promotionOf proposals).1.isPromotion = true := by
  rw [promotionOf]
  split
  · rfl
  · split
    · rfl
    · split
      · rfl
      · rfl

theorem isPromotion_row {applies : Prop} [Decidable applies]
    {row later : PromotionDecision × String} (keepsBack : row.1.isPromotion = false) :
    (if applies then row else later).1.isPromotion = true ↔
      ¬applies ∧ later.1.isPromotion = true := by
  by_cases holds : applies
  · simp [holds, keepsBack]
  · simp [holds]

theorem isPromotion_matrix_iff (reality : RealitySnapshot) (proposals : List (EvolutionProposal F))
    (scout : ScoutStage F) (patch : PatchStage) (judge : JudgeStage F) :
    (evaluateDecisionMatrix reality proposals scout patch judge).1.isPromotion = true ↔
      proposals ≠ [] ∧ (patch.proposalOnlyEnforced = true ∧ judge.policyCompliant = true) ∧
      ¬((0.35 : F) ≤ judge.maxGovernanceViolationPenalty ∨
        (0.95 : F) ≤ judge.maxInstabilityPenalty) ∧
      (judge.verifierSupported = true ∧ judge.replaySupported = true) ∧
      ¬scout.bestScore < 0.05 ∧ ¬(scout.bestScore < 0.2 ∨ judge.regressionSafe = false) ∧
      eqIgnoreAsciiCase reality.runtimeMode "shadow" = true := by
  rw [evaluateDecisionMatrix, isPromotion_row rfl, isPromotion_row rfl,
    isPromotion_row rfl, isPromotion_row rfl, isPromotion_row rfl, isPromotion_row rfl,
    isPromotion_row rfl, isPromotion_promotionOf]
  simp only [List.isEmpty_iff, Bool.or_eq_true, Bool.not_eq_true', not_or, Bool.not_eq_false,
    and_true, ne_eq]

end Gates

/-! ## The leading candidate -/

section Ordered

variable [OrderedFloats F]

theorem compareRanked_ne_gt_iff {first second : String × F} :
    compareRanked first second ≠ .gt ↔
      second.2 < first.2 ∨ (second.2 = first.2 ∧ first.1 ≤ second.1) := by
  rw [compareRanked]
  cases compared : partialCmp second.2 first.2 with
  | lt =>
    have below := partialCmp_eq_lt_iff.mp compared
    simp [below]
  | eq =>
    have same := partialCmp_eq_eq_iff.mp compared
    simp [same, compare_le_iff_le]
  | gt =>
    have notBelow : ¬second.2 < first.2 := by
      intro below
      rw [partialCmp_eq_lt_iff.mpr below] at compared
      cases compared
    have different : second.2 ≠ first.2 := by
      intro same
      rw [partialCmp_eq_eq_iff.mpr same] at compared
      cases compared
    simp [notBelow, different]

theorem pairwise_ranked (scores : List (WorldlineScore F)) :
    (ranked scores).Pairwise fun first second =>
      second.2 < first.2 ∨ (second.2 = first.2 ∧ first.1 ≤ second.1) := by
  have below : ∀ first second : String × F, (compareRanked first second != .gt) = true ↔
        second.2 < first.2 ∨ (second.2 = first.2 ∧ first.1 ≤ second.1) := by
    intro first second
    rw [bne_iff_ne]
    exact compareRanked_ne_gt_iff
  rw [ranked, sortBy]
  refine (pairwise_mergeSort ?_ ?_ _).imp fun holds => (below _ _).mp holds
  · intro first second third earlier later
    rw [below] at earlier later ⊢
    cases earlier with
    | inl strictly =>
      cases later with
      | inl next => exact Or.inl (next.trans strictly)
      | inr next => exact Or.inl (next.1 ▸ strictly)
    | inr same =>
      cases later with
      | inl next => exact Or.inl (same.1 ▸ next)
      | inr next => exact Or.inr ⟨next.1.trans same.1, same.2.trans next.2⟩
  · intro first second
    rw [Bool.or_eq_true, below, below]
    cases lt_trichotomy first.2 second.2 with
    | inl lower => exact Or.inr (Or.inl lower)
    | inr rest =>
      cases rest with
      | inr higher => exact Or.inl (Or.inl higher)
      | inl same =>
        cases le_total first.1 second.1 with
        | inl before => exact Or.inl (Or.inr ⟨same.symm, before⟩)
        | inr after => exact Or.inr (Or.inr ⟨same, after⟩)

theorem exists_leader {scores : List (WorldlineScore F)} (nonempty : scores ≠ [])
    (snapshot : Option (TelemetryReplaySnapshot F)) :
    ∃ score, Leads scores score ∧
      (recommend scores snapshot).map (·.recommendedCandidateId) =
        some score.candidateId := by
  have ordered := pairwise_ranked scores
  have members : ∀ entry, entry ∈ ranked scores ↔
      ∃ score ∈ scores, (score.candidateId, score.totalScore) = entry := by
    intro entry
    rw [ranked, sortBy, mem_mergeSort, mem_map]
  unfold recommend
  cases shape : ranked scores with
  | nil =>
    obtain ⟨score, isScore⟩ := exists_mem_of_ne_nil _ nonempty
    have ranks := (members _).mpr ⟨score, isScore, rfl⟩
    rw [shape] at ranks
    cases ranks
  | cons best others =>
    rw [shape] at ordered members
    obtain ⟨score, isScore, isBest⟩ := (members best).mp mem_cons_self
    refine ⟨score, ⟨isScore, ?_⟩, ?_⟩
    · intro other isOther
      have ranks := (members _).mpr ⟨other, isOther, rfl⟩
      cases mem_cons.mp ranks with
      | inl same =>
        rw [← isBest, Prod.mk.injEq] at same
        exact Or.inr ⟨same.2, same.1.ge⟩
      | inr later =>
        have below := (pairwise_cons.mp ordered).1 _ later
        rw [← isBest] at below
        exact below
    · rw [← isBest]
      rfl

end Ordered

/-! ## Cycles -/

section Cycles

variable [GateFloats F] (input : IngestInput F)

def IngestInput.cycle : EvolutionShadowCycle F :=
  cycleOf input (CanonicalRealityIngestor.snapshot input)

theorem runShadowCycle_eq_ok {cycle : EvolutionShadowCycle F} :
    runShadowCycle input = .ok cycle ↔ input.Taken ∧ input.cycle = cycle := by
  simp only [runShadowCycle, CanonicalRealityIngestor.ingest,
    Check.bind_eq_ok, Check.require_eq_ok, Check.exists_unit, IngestInput.Taken, and_assoc]
  constructor
  · intro ran
    obtain ⟨value, session, trace, tenant, budget, isValue, isCycle⟩ := ran
    cases isValue
    cases isCycle
    exact ⟨session, trace, tenant, budget, rfl⟩
  · intro taken
    obtain ⟨session, trace, tenant, budget, isCycle⟩ := taken
    rw [← isCycle]
    exact ⟨CanonicalRealityIngestor.snapshot input, session, trace, tenant, budget, rfl, rfl⟩

theorem candidateScores_ne_nil : input.candidateScores ≠ [] := by
  rw [IngestInput.candidateScores, ne_eq, map_eq_nil_iff]
  exact compile_ne_nil _ _

theorem isPromotion_cycle_iff :
    input.cycle.boardDecision.isPromotion = true ↔
      eqIgnoreAsciiCase input.runtimeMode "shadow" = true ∧
      ((∃ score ∈ input.candidateScores, ¬score.totalScore < 0.0) ∨ input.Signalled) ∧
      (∀ score ∈ input.candidateScores, score.governanceViolationPenalty < 0.35) ∧
      (∀ score ∈ input.candidateScores, score.instabilityPenalty ≤ 0.75) ∧
      averageRisk input.candidateScores ≤ 0.75 ∧
      ¬bestScore input.candidateScores < 0.2 ∧
      (0.55 : F) ≤ maxVerifier input.candidateScores := by
  let scores := input.candidateScores
  let reality := CanonicalRealityIngestor.snapshot input
  let proposals := input.cycle.proposals
  have judged : runJudgeStage scores
      (runPatchStage proposals) =
    { policyCompliant := (runPatchStage proposals).proposalOnlyEnforced
      verifierSupported := (0.55 : F) ≤ maxVerifier scores
      replaySupported := maxInstability scores ≤ 0.75
      regressionSafe := averageRisk scores ≤ 0.75
      maxVerifierConfidence := maxVerifier scores
      maxInstabilityPenalty := maxInstability scores
      avgRiskPenalty := averageRisk scores
      maxGovernanceViolationPenalty := maxGovernanceViolation scores
      verdictNotes := _ } :=
    if_neg (by simpa using candidateScores_ne_nil input)
  have decided : input.cycle.boardDecision =
      (evaluateDecisionMatrix reality proposals (runScoutStage proposals scores)
        (runPatchStage proposals)
        (runJudgeStage scores (runPatchStage proposals))).1 := rfl
  have enforced : (runPatchStage proposals).proposalOnlyEnforced =
      true :=
    all_eq_true.mpr (ControlledProposalHub.proposalOnly_select reality _ _ _)
  have offered : proposals ≠ [] ↔
      (∃ score ∈ scores, ¬score.totalScore < 0.0) ∨ input.Signalled := by
    refine (ControlledProposalHub.select_ne_nil_iff reality input.cycle.candidates
      (fun candidate => scoreWithSnapshot candidate input.telemetryReplay)
      (input.proposalSignals.getD .default)).trans ?_
    rw [IngestInput.Signalled]
    cases input.proposalSignals with
    | none =>
      refine or_congr Iff.rfl ?_
      simp [ExternalProposalSignals.default]
    | some signals =>
      refine or_congr Iff.rfl ?_
      simp
  have governed : maxGovernanceViolation scores < 0.35 ↔
      ∀ score ∈ scores, score.governanceViolationPenalty < 0.35 := by
    rw [maxGovernanceViolation, maxFrom_lt_iff,
      and_iff_right GateFloats.zero_lt_governance, forall_mem_map]
  have stable : maxInstability scores ≤ 0.75 ↔
      ∀ score ∈ scores, score.instabilityPenalty ≤ 0.75 := by
    rw [maxInstability, maxFrom_le_iff, and_iff_right GateFloats.zero_le_replay, forall_mem_map]
  rw [decided, isPromotion_matrix_iff, judged, enforced, offered, ← governed, ← stable]
  simp only [decide_eq_true_eq, decide_eq_false_iff_not, not_or, not_le, true_and]
  constructor
  · intro holds
    obtain ⟨isOffered, governs, ⟨verified, stays⟩, -, ⟨isGood, notRisky⟩, shadow⟩ := holds
    exact ⟨shadow, isOffered, governs.1, stays, not_lt.mp notRisky, isGood, verified⟩
  · intro holds
    obtain ⟨shadow, isOffered, governs, stays, isSafe, isGood, verified⟩ := holds
    refine ⟨isOffered, ⟨governs, stays.trans_lt GateFloats.replay_lt_instability⟩,
      ⟨verified, stays⟩, ?_, ⟨isGood, not_lt.mpr isSafe⟩, shadow⟩
    exact fun isLow => isGood (isLow.trans GateFloats.log_lt_local)

/-- What a cycle names as promoted has earned it exactly when the input is promotable. -/
theorem promotion_earned_iff (input : IngestInput F) :
    (∀ cycle, runShadowCycle input = .ok cycle → cycle.Earned) ↔
      (input.Taken → input.Promotable) := by
  obtain ⟨leader, leads, recommended⟩ :=
    exists_leader (candidateScores_ne_nil input) input.telemetryReplay
  have promoted : input.cycle.trustedPrior.promotedCandidateId = some leader.candidateId :=
    recommended
  have onlyLeader : ∀ score ∈ input.candidateScores,
      score.candidateId = leader.candidateId → score = leader := by
    intro score isScore sameId
    obtain ⟨candidate, isCandidate, rfl⟩ := mem_map.mp isScore
    obtain ⟨other, isOther, isLeader⟩ := mem_map.mp leads.1
    rw [← isLeader] at sameId ⊢
    rw [candidateId_injOn _ _ isCandidate isOther sameId]
  constructor
  · intro earned taken
    obtain ⟨isPromotion, score, isScore, sameId, passes⟩ :=
      earned input.cycle ((runShadowCycle_eq_ok input).mpr ⟨taken, rfl⟩) _ promoted
    obtain ⟨shadow, offered, governed, stable, safe, good, -⟩ :=
      (isPromotion_cycle_iff input).mp isPromotion
    refine ⟨shadow, offered, governed, stable, safe, good, ?_⟩
    intro other leadsToo
    have isLeader : other = leader := by
      apply onlyLeader other leadsToo.1
      cases leads.2 other leadsToo.1 with
      | inl lower =>
        cases leadsToo.2 leader leads.1 with
        | inl higher => exact absurd lower (lt_asymm higher)
        | inr same => exact absurd same.1 lower.ne'
      | inr same =>
        cases leadsToo.2 leader leads.1 with
        | inl higher => exact absurd same.1 higher.ne'
        | inr alike => exact le_antisymm alike.2 same.2
    rw [isLeader, ← onlyLeader score isScore sameId]
    exact passes.verified
  · intro promotable cycle ran candidateId isPromoted
    obtain ⟨taken, rfl⟩ := (runShadowCycle_eq_ok input).mp ran
    rw [promoted, Option.some.injEq] at isPromoted
    have holds := promotable taken
    have verified := holds.verified leader leads
    constructor
    · apply (isPromotion_cycle_iff input).mpr
      refine ⟨holds.shadow, holds.offered, holds.governed, holds.stable, holds.safe, holds.good,
        verified.trans ?_⟩
      exact le_maxFrom (mem_map_of_mem leads.1)
    · exact ⟨leader, leads.1, isPromoted, verified, holds.governed leader leads.1,
        (holds.stable leader leads.1).trans_lt GateFloats.replay_lt_instability,
        holds.stable leader leads.1⟩

end Cycles

/-! ## A cycle outside the shadow mode -/

def ordinaryInput : IngestInput ℚ where
  sessionId := "s"
  traceId := "t"
  tenantId := "a"
  policyVersion := "v1"
  runtimeMode := "normal"
  availableTools := []
  memoryRefs := []
  graphRefs := []
  repoRefs := []
  policyRefs := []
  toolRefs := []
  budgetMicros := 100000
  latencyBudgetMs := 2000
  budgetProfile := Table.empty
  nowMs := 0
  telemetryReplay := none
  proposalSignals := none

/-- A candidate is promoted although the matrix leaves the case to a human. -/
theorem unreviewed_candidate_promoted :
    ¬∀ cycle, runShadowCycle ordinaryInput = .ok cycle → cycle.Earned := by
  intro earned
  obtain ⟨leader, -, recommended⟩ := exists_leader (candidateScores_ne_nil ordinaryInput) none
  have taken : ordinaryInput.Taken := by decide +kernel
  have isPromotion := (earned ordinaryInput.cycle
    ((runShadowCycle_eq_ok ordinaryInput).mpr ⟨taken, rfl⟩) leader.candidateId recommended).1
  have shadow := ((isPromotion_cycle_iff ordinaryInput).mp isPromotion).1
  revert shadow
  decide +kernel

end AutoLoop.EvolutionOs
