import AutoLoop.Foundation.Copies
import AutoLoop.Runtime.LedgerSessions
import AutoLoop.Skills.FeedbackRuns
import AutoLoop.StateAdapter.WriteOnce

/-!
# When the promotion gate counts the failures

The gate counts the last failures of all skills, and the last event of each trace twice.  It
gives the hint that the failures of the skill deserve exactly when this makes no difference.
-/

namespace AutoLoop.Skills

open StateAdapter
open AutoLoop.Runtime (EvidenceLedgerWriter)
open Runtime.EvidenceLedgerWriter (stageKey)
open StateStore (isEvidence)
open List

/-! ## Failures -/

def FeedbackCall.fails (call : FeedbackCall) (sessionId : String) (layer : SkillFoundryLayer) :
    Bool :=
  isFailure layer (call.event sessionId)

/-- The failures since the last execution that did not fail, the newest first. -/
def failuresOf (sessionId : String) (layer : SkillFoundryLayer) (calls : List FeedbackCall) :
    List FeedbackCall :=
  (calls.reverse.filter (isExecutionOperation ·.operation)).takeWhile (·.fails sessionId layer)

def skillFailures (sessionId skillName : String) (layer : SkillFoundryLayer)
    (calls : List FeedbackCall) : List FeedbackCall :=
  failuresOf sessionId layer (calls.filter (·.skillName = skillName))

/-- How often the gate sees an event again. -/
def seenAgain (recorded : List FeedbackCall) (call : FeedbackCall) : Nat :=
  if IsLast recorded call then 1 else 0

variable {ledger : EvidenceLedgerWriter String} {forms : FoundryForms} {sessionId : String}
variable {layer : SkillFoundryLayer} {recorded calls : List FeedbackCall} {run : FoundryRun}

theorem streakFrom_eq (layer : SkillFoundryLayer) (events : List FoundryFeedbackEvent) :
    streakFrom layer events =
      (events.filter (isExecutionOperation ·.operation)).takeWhile (isFailure layer) := by
  induction events with
  | nil => rfl
  | cons event events ih =>
    rw [streakFrom, filter_cons]
    cases isExecutionOperation event.operation with
    | false => simpa using ih
    | true =>
      simp only [Bool.not_true, Bool.false_eq_true, if_false, if_true, takeWhile_cons]
      cases isFailure layer event with
      | false => rfl
      | true => simp only [if_true, ih]

section
variable (keeps : Keeps forms sessionId calls run) (ticking : Ticking run.recorded)
include keeps ticking

/-- The gate reads the events in the order of time, the last one of each trace twice. -/
theorem sorted_listedEvents :
    sortByKey (fun event : FoundryFeedbackEvent => event.createdAtMs.toNat)
        (listedEvents forms sessionId run.shared.repo.knowledge) =
      (withCopies (seenAgain run.recorded) run.recorded).map (·.event sessionId) := by
  have perm := (sortByKey_perm (fun event : FoundryFeedbackEvent => event.createdAtMs.toNat)
    (listedEvents forms sessionId run.shared.repo.knowledge)).trans
      ((listedEvents_perm keeps ticking).trans
        ((withCopies_perm (IsLast run.recorded) run.recorded).symm.map (·.event sessionId)))
  have sorted := pairwise_insertionSort
    (fun event other : FoundryFeedbackEvent => event.createdAtMs.toNat ≤ other.createdAtMs.toNat)
    (listedEvents forms sessionId run.shared.repo.knowledge)
  have ordered : ((withCopies (seenAgain run.recorded) run.recorded).map
      (·.event sessionId)).Pairwise fun event other : FoundryFeedbackEvent =>
        event.createdAtMs.toNat ≤ other.createdAtMs.toNat := by
    apply pairwise_map.mpr
    refine pairwise_withCopies ?_ ?_
    · exact fun call => Nat.le_refl _
    · exact ticking.imp fun below => Nat.le_of_lt (UInt64.lt_iff_toNat_lt.mp below)
  refine perm.eq_of_pairwise ?_ sorted ordered
  intro event other isEvent isOther below above
  obtain ⟨call, inCopies, rfl⟩ := mem_map.mp (perm.mem_iff.mp isEvent)
  obtain ⟨later, laterInCopies, rfl⟩ := mem_map.mp isOther
  have same : call = later := ticking.eq_of_nowMs (mem_withCopies.mp inCopies)
    (mem_withCopies.mp laterInCopies) (UInt64.toNat_inj.mp (Nat.le_antisymm below above))
  rw [same]

theorem streak_eq (layer : SkillFoundryLayer) :
    trailingFailureStreak (sortByKey (fun event : FoundryFeedbackEvent => event.createdAtMs.toNat)
        (listedEvents forms sessionId run.shared.repo.knowledge)) layer =
      (withCopies (seenAgain run.recorded) (failuresOf sessionId layer run.recorded)).map
        (·.event sessionId) := by
  rw [sorted_listedEvents keeps ticking, trailingFailureStreak, streakFrom_eq, ← map_reverse,
    filter_map, takeWhile_map, reverse_withCopies]
  have executions : ((isExecutionOperation ·.operation) ∘
      fun call : FeedbackCall => call.event sessionId) = (isExecutionOperation ·.operation) := rfl
  have failures : (isFailure layer ∘ fun call : FeedbackCall => call.event sessionId) =
    (·.fails sessionId layer) := rfl
  rw [executions, failures, filter_withCopies, takeWhile_withCopies, failuresOf]

end

/-! ## References -/

def FeedbackCall.reference (call : FeedbackCall) (sessionId : String) : String :=
  foundryEvidenceKey sessionId (feedbackEvent sessionId call.traceId call.operation call.kind
    call.message call.detail call.nowMs).evidence

theorem references_eq (calls : List FeedbackCall) :
    (calls.map (·.event sessionId)).filterMap (·.evidenceRef) =
      calls.map (·.reference sessionId) := by
  rw [filterMap_map]
  exact congrFun filterMap_eq_map' calls

theorem reference_shape (call : FeedbackCall) (sessionId : String) :
    ∃ start, call.reference sessionId = start ++ ":" ++ call.nowMs.toNat.repr := by
  unfold FeedbackCall.reference foundryEvidenceKey FoundryFeedbackEvent.evidence feedbackEvent
  dsimp only
  generalize call.nowMs.toNat.repr = ms
  generalize kindSlug call.kind = slug
  refine ⟨"evidence:foundry:" ++ sessionId ++ ":" ++ ms ++ ":" ++
    ("foundry-feedback:" ++ call.operation ++ ":" ++ slug), ?_⟩
  simp only [String.append_assoc]

theorem reference_inj {call other : FeedbackCall}
    (same : call.reference sessionId = other.reference sessionId) : call.nowMs = other.nowMs := by
  obtain ⟨start, isReference⟩ := reference_shape call sessionId
  obtain ⟨otherStart, isOther⟩ := reference_shape other sessionId
  rw [isReference, isOther] at same
  have spelled := congrArg String.toList same
  simp only [String.toList_append] at spelled
  have numbers := Text.after_last_separator spelled (Text.not_mem_repr rfl _)
    (Text.not_mem_repr rfl _)
  exact UInt64.toNat_inj.mp (Text.repr_inj.mp (String.toList_inj.mp numbers))

theorem Ticking.eq_of_reference (ticking : Ticking recorded) {call other : FeedbackCall}
    (isRecorded : call ∈ recorded) (otherRecorded : other ∈ recorded)
    (same : call.reference sessionId = other.reference sessionId) : call = other :=
  ticking.eq_of_nowMs isRecorded otherRecorded (reference_inj same)

theorem Ticking.reverse (ticking : Ticking recorded) :
    recorded.reverse.Pairwise fun call earlier => earlier.nowMs < call.nowMs :=
  pairwise_reverse.mpr ticking

theorem failuresOf_sublist (sessionId : String) (layer : SkillFoundryLayer)
    (calls : List FeedbackCall) : (failuresOf sessionId layer calls).Sublist calls.reverse :=
  (takeWhile_sublist _).trans filter_sublist

theorem skillFailures_sublist (sessionId skillName : String) (layer : SkillFoundryLayer)
    (calls : List FeedbackCall) :
    (skillFailures sessionId skillName layer calls).Sublist calls.reverse :=
  (failuresOf_sublist _ _ _).trans filter_sublist.reverse

theorem references_perm_iff (ticking : Ticking recorded) (skillName : String) :
    ((withCopies (seenAgain recorded) (failuresOf sessionId layer recorded)).map
        (·.reference sessionId)).Perm
        ((skillFailures sessionId skillName layer recorded).map (·.reference sessionId)) ↔
      failuresOf sessionId layer recorded = skillFailures sessionId skillName layer recorded ∧
        ∀ call ∈ failuresOf sessionId layer recorded, ¬IsLast recorded call := by
  have allSublist := failuresOf_sublist sessionId layer recorded
  have skillSublist := skillFailures_sublist sessionId skillName layer recorded
  have inRecorded : ∀ call ∈ skillFailures sessionId skillName layer recorded, call ∈ recorded :=
    fun call membership => mem_reverse.mp (skillSublist.subset membership)
  have allInRecorded : ∀ call ∈ failuresOf sessionId layer recorded, call ∈ recorded :=
    fun call membership => mem_reverse.mp (allSublist.subset membership)
  constructor
  · intro perm
    have skillNodup : ((skillFailures sessionId skillName layer recorded).map
        (·.reference sessionId)).Nodup := by
      refine List.Nodup.map_on ?_ ((nodup_reverse.mpr ticking.nodup).sublist skillSublist)
      exact fun call isCall other isOther same =>
        ticking.eq_of_reference (inRecorded call isCall) (inRecorded other isOther) same
    have single := single_of_nodup (perm.nodup_iff.mpr skillNodup).of_map
    rw [withCopies_of_single single] at perm
    refine ⟨?_, fun call membership isLast => ?_⟩
    · have sameMembers : ∀ call, call ∈ failuresOf sessionId layer recorded ↔
          call ∈ skillFailures sessionId skillName layer recorded := by
        intro call
        constructor
        · intro membership
          obtain ⟨other, isOther, same⟩ := mem_map.mp
            (perm.subset (mem_map_of_mem membership))
          rw [← ticking.eq_of_reference (inRecorded other isOther) (allInRecorded call membership)
            same]
          exact isOther
        · intro membership
          obtain ⟨other, isOther, same⟩ := mem_map.mp
            (perm.symm.subset (mem_map_of_mem membership))
          rw [← ticking.eq_of_reference (allInRecorded other isOther) (inRecorded call membership)
            same]
          exact isOther
      have nodup := nodup_reverse.mpr ticking.nodup
      have samePerm := (perm_ext_iff_of_nodup (nodup.sublist allSublist)
        (nodup.sublist skillSublist)).mpr sameMembers
      refine samePerm.eq_of_pairwise ?_ (ticking.reverse.sublist allSublist)
        (ticking.reverse.sublist skillSublist)
      intro call other _ _ below above
      exact absurd (UInt64.lt_trans below above) (UInt64.lt_irrefl _)
    · have never := single call membership
      rw [seenAgain, if_pos isLast] at never
      cases never
  · rintro ⟨same, never⟩
    have single : ∀ call ∈ failuresOf sessionId layer recorded, seenAgain recorded call = 0 :=
      fun call membership => if_neg (never call membership)
    rw [withCopies_of_single single, same]

end AutoLoop.Skills

/-!
## What the promotion gate answers

The gate always answers, and its hint is the one that the failures of the skill deserve
exactly when the failures of all skills, with those seen twice, come to the same.
-/

namespace AutoLoop.Skills

open StateAdapter
open AutoLoop.Runtime (EvidenceLedgerWriter EvidenceStage)
open Runtime.EvidenceLedgerWriter (stageKey)
open StateStore (isEvidence)
open List Text AutoLoop.Runtime

variable {ledger : EvidenceLedgerWriter String} {forms : FoundryForms} {sessionId : String}
variable {layer toLayer : SkillFoundryLayer} {policy : FoundryPromotionPolicy}
variable {threshold : UInt32} {trigger : String}
variable {recorded calls : List FeedbackCall} {run : FoundryRun} {shared : Shared}

/-! ## The hint is written -/

theorem stageKey_shape (session trace : String) (ms seq : UInt64) (stage : EvidenceStage) :
    ∃ start, stageKey session trace ms seq stage =
      start ++ ":" ++ seq.toNat.repr ++ ":" ++ toAsciiLowercase stage.debug := by
  unfold stageKey
  have colon : toAsciiLowercase ":" = ":" := by decide
  rw [toAsciiLowercase_append, toAsciiLowercase_append, toAsciiLowercase_append,
    toAsciiLowercase_append, colon, toAsciiLowercase_repr]
  exact ⟨_, rfl⟩

theorem stageKey_inj {session other trace otherTrace : String} {ms otherMs seq otherSeq : UInt64}
    {stage otherStage : EvidenceStage}
    (same : stageKey session trace ms seq stage = stageKey other otherTrace otherMs otherSeq
      otherStage) : seq = otherSeq := by
  have clean : ∀ stage : EvidenceStage, ':' ∉ (toAsciiLowercase stage.debug).toList := by
    intro stage
    cases stage <;> decide
  obtain ⟨start, isKey⟩ := stageKey_shape session trace ms seq stage
  obtain ⟨otherStart, isOther⟩ := stageKey_shape other otherTrace otherMs otherSeq otherStage
  rw [isKey, isOther] at same
  have spelled := congrArg String.toList same
  simp only [String.toList_append] at spelled
  have names := after_last_separator spelled (clean _) (clean _)
  rw [names, append_cancel_right_eq, append_cancel_right_eq] at spelled
  have numbers := after_last_separator spelled (not_mem_repr rfl _)
    (not_mem_repr rfl _)
  exact UInt64.toNat_inj.mp (repr_inj.mp (String.toList_inj.mp numbers))

theorem Numbered.free {drawn : Nat} (numbered : Numbered drawn shared) (few : drawn < 2 ^ 64)
    (session trace : String) (ms : UInt64) (stage : EvidenceStage) :
    shared.repo.knowledge.get (stageKey session trace ms shared.evidenceSeq stage) = none := by
  by_contra taken
  have found : shared.repo.knowledge.texts.get
      (stageKey session trace ms shared.evidenceSeq stage) ≠ none := by
    rw [Knowledge.get_texts, ne_eq, Option.map_eq_none_iff]
    exact taken
  obtain ⟨earlier, below, _, _, _, _, isKey⟩ :=
    numbered.stages _ found (starts_stageKey _ _ _ _ _)
  have sameSeq := stageKey_inj isKey
  rw [numbered.seq] at sameSeq
  have numbers := congrArg UInt64.toNat sameSeq
  rw [UInt64.toNat_ofNat', UInt64.toNat_ofNat'] at numbers
  omega

theorem plain_pending (sessionId skillName nowMs : String) :
    isEvidence ("foundry:promotion:pending:" ++ sessionId ++ ":" ++ skillName ++ ":" ++ nowMs) =
      false :=
  (((((GoesOn.refl _).append _).append _).append _).append _).append _ |>.plain (by decide)

theorem plain_latest_hint (sessionId skillName : String) :
    isEvidence ("foundry:promotion:pending:" ++ sessionId ++ ":" ++ skillName ++ ":latest") =
      false :=
  ((((GoesOn.refl _).append _).append _).append _).append _ |>.plain (by decide)

theorem plain_policy (sessionId skillName : String) :
    isEvidence ("policy:foundry:promotion:" ++ sessionId ++ ":" ++ skillName ++ ":latest") =
      false :=
  ((((GoesOn.refl _).append _).append _).append _).append _ |>.plain (by decide)

theorem plain_metrics (sessionId nowMs : String) :
    isEvidence ("metrics:foundry:promotion:" ++ sessionId ++ ":" ++ nowMs) = false :=
  (((GoesOn.refl _).append _).append _).append _ |>.plain (by decide)

theorem upsert_rule {α : Type} {motive : Except String α × Shared → Prop}
    (unmirrored : ledger.store.mirror = none) {key : String} (plain : isEvidence key = false)
    {text source : String} {next : KnowledgeRecord → StoreCall α} {drawn : Nat}
    (numbered : Numbered drawn shared)
    (goes : ∀ record later, Numbered drawn later → motive ((next record).run later)) :
    motive ((ledger.store.upsertJsonKnowledge key (.ok text) source >>= next).run shared) := by
  obtain ⟨record, later, ran, leaves⟩ := leaves_upsert unmirrored plain text source shared
  rw [Future.run_bind, Effect.bind_of_ok ran]
  have evidences : Evidences [] 0 shared := by
    intro row membership
    cases membership
  apply goes
  refine numbered.leaves evidences (Nat.zero_le 1) ?_ leaves
  intro row membership
  rw [mem_singleton.mp membership]
  exact not_stage_of_plain plain

theorem run_persistHint (unmirrored : ledger.store.mirror = none) {drawn : Nat}
    (numbered : Numbered drawn shared) (few : drawn < 2 ^ 64) (traceId skillName : String)
    (hint : PromotionHint) (nowMs : UInt64) :
    ∃ later, (persistHint ledger forms sessionId traceId skillName layer policy threshold hint
      nowMs).run shared = (.ok (), later) := by
  unfold persistHint
  refine upsert_rule (motive := fun ran => ∃ later, ran = (.ok (), later)) unmirrored
    (plain_pending sessionId skillName _) numbered fun _ one numberedOne => ?_
  refine upsert_rule (motive := fun ran => ∃ later, ran = (.ok (), later)) unmirrored
    (plain_latest_hint sessionId skillName) numberedOne fun _ two numberedTwo => ?_
  refine upsert_rule (motive := fun ran => ∃ later, ran = (.ok (), later)) unmirrored
    (plain_policy sessionId skillName) numberedTwo fun _ three numberedThree => ?_
  refine upsert_rule (motive := fun ran => ∃ later, ran = (.ok (), later)) unmirrored
    (plain_metrics sessionId _) numberedThree fun _ four numberedFour => ?_
  refine upsert_rule (motive := fun ran => ∃ later, ran = (.ok (), later)) unmirrored
    ((goesOn_conversation sessionId _ ":promotion").plain (by decide)) numberedFour
    fun _ five numberedFive => ?_
  rw [Future.run_bind]
  obtain ⟨answer, later, key, text, ran, rfl, outcome⟩ := leaves_appendStage unmirrored sessionId
    traceId .learn _ five
  rcases outcome with ⟨-, rfl, -⟩ | ⟨taken, -⟩
  · exact ⟨later, Effect.bind_of_ok ran⟩
  · exact absurd (numberedFive.free few sessionId traceId _ .learn) taken

theorem run_evaluatePromotionGate (unmirrored : ledger.store.mirror = none)
    (keeps : Keeps forms sessionId calls run) (ticking : Ticking run.recorded)
    (few : calls.length < 2 ^ 64) (hasThreshold : policy.threshold layer = some threshold)
    (promotes : promotionOf layer = some (toLayer, trigger)) (traceId skillName : String)
    (nowMs : UInt64) :
    ((evaluatePromotionGate ledger forms sessionId traceId skillName layer policy nowMs).run
        run.shared).1 =
      .ok (if (withCopies (seenAgain run.recorded)
            (failuresOf sessionId layer run.recorded)).length < threshold.toNat then none
        else some (promotionHint skillName layer toLayer trigger policy
          ((withCopies (seenAgain run.recorded) (failuresOf sessionId layer run.recorded)).map
            (·.event sessionId)) nowMs)) := by
  obtain ⟨drawn, drawnFew, numbered⟩ := keeps.numbered
  let listed : Shared := { run.shared with tick := run.shared.tick + 1 }
  have numberedListed : Numbered drawn listed := ⟨numbered.seq, numbered.stages⟩
  have ran := StateStore.run_listKnowledgeByPrefix_unmirrored unmirrored
    (feedbackPrefix sessionId) run.shared
  have decides : (evaluatePromotionGate ledger forms sessionId traceId skillName layer policy
      nowMs).run run.shared =
      (decidePromotion ledger forms sessionId traceId skillName layer policy nowMs
        (listedEvents forms sessionId run.shared.repo.knowledge)).run listed := by
    unfold evaluatePromotionGate
    rw [Future.run_bind, Effect.bind_of_ok ran]
    rfl
  rw [decides, decidePromotion]
  simp only [hasThreshold, promotes, streak_eq keeps ticking, length_map]
  split
  · rfl
  · obtain ⟨later, ranHint⟩ := @run_persistHint ledger forms sessionId layer policy threshold
      listed unmirrored drawn numberedListed (Nat.lt_of_le_of_lt drawnFew few) traceId skillName
      (promotionHint skillName layer toLayer trigger policy
        ((withCopies (seenAgain run.recorded) (failuresOf sessionId layer run.recorded)).map
          (·.event sessionId)) nowMs) nowMs
    rw [Future.run_bind, Effect.bind_of_ok ranHint]
    rfl

/-! ## Counting -/

/-- The gate answers with a hint exactly when the skill has failed often enough, and the hint
is about these failures. -/
structure CountsFailures (sessionId skillName : String) (layer toLayer : SkillFoundryLayer)
    (policy : FoundryPromotionPolicy) (threshold : UInt32) (recorded : List FeedbackCall)
    (answer : Except String (Option PromotionHint)) : Prop where
  answers : ∃ found, answer = .ok found
  hints : (∃ hint, answer = .ok (some hint)) ↔
    threshold.toNat ≤ (skillFailures sessionId skillName layer recorded).length
  next : ∀ hint, answer = .ok (some hint) → hint.fromLayer = layer ∧ hint.toLayer = toLayer
  references : ∀ hint, answer = .ok (some hint) →
    hint.evidenceRefs.Perm
      ((skillFailures sessionId skillName layer recorded).map (·.reference sessionId))
  observed : ∀ hint, answer = .ok (some hint) →
    hint.observedFailures.toNat =
      min (skillFailures sessionId skillName layer recorded).length
        policy.maxCountedFailures.toNat

def FitsHint (policy : FoundryPromotionPolicy) (failures : Nat) : Prop :=
  (1 ≤ policy.maxCountedFailures.toNat ∧
      (failures < 2 ^ 32 ∨ policy.maxCountedFailures.toNat ≤ failures % 2 ^ 32)) ∨
    (policy.maxCountedFailures.toNat = 0 ∧ failures % 2 ^ 32 = 0)

/-- There are too few failures of the skill and of all skills, with those seen twice, or the
failures of the skill are those of all skills, and none is the last event of its trace. -/
def SeenExactly (sessionId skillName : String) (layer : SkillFoundryLayer)
    (policy : FoundryPromotionPolicy) (threshold : UInt32) (recorded : List FeedbackCall) :
    Prop :=
  let failures := failuresOf sessionId layer recorded
  let deserved := skillFailures sessionId skillName layer recorded
  (deserved.length < threshold.toNat ∧
      failures.length + failures.countP (IsLast recorded) < threshold.toNat) ∨
    (threshold.toNat ≤ deserved.length ∧ failures = deserved ∧
      (∀ call ∈ failures, ¬IsLast recorded call) ∧ FitsHint policy deserved.length)

theorem length_seen (recorded failures : List FeedbackCall) :
    (withCopies (seenAgain recorded) failures).length =
      failures.length + failures.countP (IsLast recorded) := by
  rw [length_withCopies]
  congr 1
  induction failures with
  | nil => rfl
  | cons call failures ih =>
    rw [map_cons, sum_cons, countP_cons, ih, seenAgain, Nat.add_comm]
    simp only [decide_eq_true_eq]

theorem toNat_min32 (first second : UInt32) :
    (min first second).toNat = min first.toNat second.toNat := by
  have isMin : min first second = if first ≤ second then first else second := rfl
  rw [isMin]
  split
  · next below => exact (Nat.min_eq_left (UInt32.le_iff_toNat_le.mp below)).symm
  · next above =>
    rw [UInt32.le_iff_toNat_le] at above
    omega

theorem toNat_max32 (first second : UInt32) :
    (max first second).toNat = max first.toNat second.toNat := by
  have isMax : max first second = if first ≤ second then second else first := rfl
  rw [isMax]
  split
  · next below => exact (Nat.max_eq_right (UInt32.le_iff_toNat_le.mp below)).symm
  · next above =>
    rw [UInt32.le_iff_toNat_le] at above
    omega

theorem observed_iff (positive : 1 ≤ recorded.length) :
    (min (UInt32.ofNat recorded.length) (max policy.maxCountedFailures 1)).toNat =
        min recorded.length policy.maxCountedFailures.toNat ↔
      FitsHint policy recorded.length := by
  have one : (1 : UInt32).toNat = 1 := rfl
  have bound := policy.maxCountedFailures.toNat_lt
  rw [toNat_min32, toNat_max32, UInt32.toNat_ofNat', one, FitsHint]
  omega

theorem countsFailures_iff (ticking : Ticking recorded) (positive : 1 ≤ threshold.toNat)
    (skillName : String) (nowMs : UInt64) :
    CountsFailures sessionId skillName layer toLayer policy threshold recorded
        (.ok (if (withCopies (seenAgain recorded)
              (failuresOf sessionId layer recorded)).length < threshold.toNat then none
          else some (promotionHint skillName layer toLayer trigger policy
            ((withCopies (seenAgain recorded) (failuresOf sessionId layer recorded)).map
              (·.event sessionId)) nowMs))) ↔
      SeenExactly sessionId skillName layer policy threshold recorded := by
  have seen := length_seen recorded (failuresOf sessionId layer recorded)
  have neverSeen : (∀ call ∈ failuresOf sessionId layer recorded, ¬IsLast recorded call) →
      (withCopies (seenAgain recorded) (failuresOf sessionId layer recorded)).length =
        (failuresOf sessionId layer recorded).length := by
    intro never
    have single : ∀ call ∈ failuresOf sessionId layer recorded, seenAgain recorded call = 0 :=
      fun call membership => if_neg (never call membership)
    rw [withCopies_of_single single]
  unfold SeenExactly
  simp only
  by_cases short : (withCopies (seenAgain recorded)
      (failuresOf sessionId layer recorded)).length < threshold.toNat
  · rw [if_pos short]
    constructor
    · intro counts
      refine Or.inl ⟨Nat.lt_of_not_le fun enough => ?_, seen ▸ short⟩
      obtain ⟨hint, isHint⟩ := counts.hints.mpr enough
      cases isHint
    · rintro (⟨few, -⟩ | ⟨enough, same, never, -⟩)
      · constructor
        · exact ⟨none, rfl⟩
        · constructor
          · rintro ⟨hint, isHint⟩
            cases isHint
          · exact fun enough => absurd few (Nat.not_lt.mpr enough)
        · intro hint isHint
          cases isHint
        · intro hint isHint
          cases isHint
        · intro hint isHint
          cases isHint
      · rw [neverSeen never, same] at short
        exact absurd short (Nat.not_lt.mpr enough)
  · rw [if_neg short]
    have evidenceRefs : (promotionHint skillName layer toLayer trigger policy
        ((withCopies (seenAgain recorded) (failuresOf sessionId layer recorded)).map
          (·.event sessionId)) nowMs).evidenceRefs =
        (withCopies (seenAgain recorded) (failuresOf sessionId layer recorded)).map
          (·.reference sessionId) := references_eq _
    have observed : (promotionHint skillName layer toLayer trigger policy
        ((withCopies (seenAgain recorded) (failuresOf sessionId layer recorded)).map
          (·.event sessionId)) nowMs).observedFailures =
        min (UInt32.ofNat (withCopies (seenAgain recorded)
          (failuresOf sessionId layer recorded)).length) (max policy.maxCountedFailures 1) := by
      rw [promotionHint, recordPromotionFeedbackEvent, length_map]
    constructor
    · intro counts
      have enough := counts.hints.mp ⟨_, rfl⟩
      have references := counts.references _ rfl
      rw [evidenceRefs] at references
      obtain ⟨same, never⟩ := (references_perm_iff ticking skillName).mp references
      have counted := counts.observed _ rfl
      rw [observed, neverSeen never, same] at counted
      exact Or.inr ⟨enough, same, never, (observed_iff (Nat.le_trans positive enough)).mp counted⟩
    · rintro (⟨-, fewSeen⟩ | ⟨enough, same, never, fits⟩)
      · exact absurd (seen ▸ fewSeen) short
      · constructor
        · exact ⟨_, rfl⟩
        · exact ⟨fun _ => enough, fun _ => ⟨_, rfl⟩⟩
        · rintro hint ⟨rfl⟩
          exact ⟨rfl, rfl⟩
        · rintro hint ⟨rfl⟩
          rw [evidenceRefs]
          exact (references_perm_iff ticking skillName).mpr ⟨same, never⟩
        · rintro hint ⟨rfl⟩
          rw [observed, neverSeen never, same]
          exact (observed_iff (Nat.le_trans positive enough)).mpr fits

/-- The layer that follows a layer. -/
def SkillFoundryLayer.next : SkillFoundryLayer → Option SkillFoundryLayer
  | .s1PromptOnly => some .s2PromptScripts
  | .s2PromptScripts => some .s3PromptMcp
  | .s3PromptMcp => none

/-! ## Runs that count exactly -/

section Example

deriving instance Encodable for SkillFoundryLayer, FoundryFeedbackKind, FoundryFeedbackEvent,
  FoundryFeedbackEvidenceRecord, FoundryPromotionPolicy, PromotionHint

def numberedFoundry : FoundryForms := ⟨.numbered, .numbered, .numbered, .numbered⟩

def missedBuild : FeedbackCall := ⟨"skill-a", "t", "build", .miss, "script missing", "null", 1⟩

/-- A host whose clock stands still. -/
def stillHost : Nat → Moment := fun _ => ⟨0, none, none, none, .completed⟩

theorem recorded_missedBuild :
    (feedbackRun numberedLedger numberedFoundry "s" stillHost [missedBuild]).recorded =
      [missedBuild] := by
  have unmirrored : numberedLedger.store.mirror = none := rfl
  obtain ⟨evidence, drawn, later, -, -, ⟨ran, -⟩ | ⟨message, -, -, other, taken⟩⟩ :=
    @perform_cases numberedLedger unmirrored numberedFoundry "s" missedBuild
      (Shared.started stillHost)
  · unfold feedbackRun
    rw [foldl_cons, foldl_nil, FoundryRun.next]
    simp only [ran]
    rfl
  · exact absurd rfl taken

end Example

end AutoLoop.Skills
