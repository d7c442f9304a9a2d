import AutoLoop.Runtime.BudgetBooks
import AutoLoop.Runtime.StageAppends
import AutoLoop.Security.CapabilityAdmission
import AutoLoop.StateAdapter.CallResults

/-!
# Soundness and evidence of admission

A forged capability that is admitted has passed every gate over what was stored, and
every decision names the stage record that was stored of it.  This holds whatever the
mirror of the store is and whatever becomes of the requests to it.
-/

namespace AutoLoop.Security

open Contracts
open AutoLoop.Runtime (EvidenceLedgerWriter StageEvidenceRecord)
open StateAdapter
open StateStore (isEvidence)
open Future AutoLoop.Runtime EvidenceLedgerWriter Json

/-! ## Stage records -/

theorem stored_of_appendStage {ledger : EvidenceLedgerWriter JsonValue}
    {sessionId traceId : String} {stage : EvidenceStage} {payload : JsonValue}
    {prevHash : Option String} {shared after : Shared} {key : String}
    (ran : (ledger.appendStage sessionId traceId stage payload prevHash).run shared =
      (.ok key, after)) :
    isEvidence key = true ∧ ∃ place record,
      (after.row key place).map (·.value) = some (ledger.encode record) ∧
        record.sessionId = sessionId ∧ record.traceId = traceId ∧ record.stage = stage ∧
          record.payload = ledger.sanitize payload := by
  rw [appendStage] at ran
  obtain ⟨written, final, ranRecord, isKey⟩ := parts_of_run_bind ran
  rw [appendRecord] at ranRecord
  obtain ⟨createdAtMs, _, _, ranRecord⟩ := parts_of_run_bind ranRecord
  obtain ⟨latest, _, _, ranRecord⟩ := parts_of_run_bind ranRecord
  obtain ⟨_, _, _, ranRecord⟩ := parts_of_run_bind ranRecord
  obtain ⟨seq, _, _, ranRecord⟩ := parts_of_run_bind ranRecord
  obtain ⟨row, stored, wrote, isWritten⟩ := parts_of_run_bind ranRecord
  simp only [run_pure, Effect.pure_apply, Prod.mk.injEq, Except.ok.injEq] at isKey isWritten
  obtain ⟨isKey, rfl⟩ := isKey
  obtain ⟨isWritten, rfl⟩ := isWritten
  subst isWritten
  subst isKey
  obtain ⟨place, isRow⟩ := row_of_upsertKnowledge wrote
  exact ⟨isEvidence_stageKey .., place, _, isRow, rfl, rfl, rfl, rfl⟩

namespace CapabilityAdmissionEngine

variable {engine : CapabilityAdmissionEngine} {scope : AdmissionScope}
variable {shared after : Shared}

theorem sanitize_admissionPayload (key : String) (decision : CapabilityAdmissionDecision)
    (manifest : Option ForgedMcpToolManifest) (artifacts : List FactoryArtifact) :
    engine.ledger.sanitize (admissionPayload scope key decision manifest artifacts) =
      admissionPayload scope key decision manifest artifacts := by
  have noPolicy : PolicyHost.detectPolicy
      (admissionPayload scope key decision manifest artifacts) = none := rfl
  simp only [ledger, PolicyHost.sanitizeDecisionPayload, noPolicy, Option.map_some,
    Option.getD_some]

section
variable (engine : CapabilityAdmissionEngine) (scope : AdmissionScope)
  (decision : CapabilityAdmissionDecision) (shared : Shared)

def RecordedAt (key : String) : Prop :=
  ∃ place record, (shared.row key place).map (·.value) = some (engine.serde.recordToText record) ∧
      record.sessionId = scope.sessionId ∧ record.traceId = scope.taskId ∧
      record.stage = .admission ∧
      (record.payload.get "decision").bind (boolAt "allowed") = some decision.allowed ∧
      ((record.payload.get "decision").bind (·.get "reason")).bind JsonValue.asString =
        some decision.reason

/-- A decision names the stage record that is stored of it. -/
def Evidenced : Prop :=
  ∃ key, decision.evidenceRef = some key ∧ engine.RecordedAt scope decision shared key

end

variable {decision : CapabilityAdmissionDecision}

theorem recorded_of_persist
    {manifest : Option ForgedMcpToolManifest} {artifacts : List FactoryArtifact} {key : String}
    (ran : (engine.persistAdmissionRecord scope decision manifest artifacts).run shared =
      (.ok key, after)) :
    isEvidence key = true ∧ engine.RecordedAt scope decision after key := by
  obtain ⟨nowMs, _, _, ran⟩ := parts_of_run_bind ran
  obtain ⟨_, _, _, ran⟩ := parts_of_run_bind ran
  obtain ⟨evidence, place, record, stored, isSession, isTrace, isStage, isPayload⟩ :=
    stored_of_appendStage ran
  rw [sanitize_admissionPayload] at isPayload
  refine ⟨evidence, place, record, stored, isSession, isTrace, isStage, ?_, ?_⟩
  · rw [isPayload]
    rfl
  · rw [isPayload]
    rfl

theorem RecordedAt.of_upsertJson {key other : String}
    (recorded : engine.RecordedAt scope decision shared key) (evidence : isEvidence key = true)
    (plain : isEvidence other = false) (value : JsonValue) (source : String) :
    engine.RecordedAt scope decision ((engine.upsertJson other value source).run shared).2 key := by
  obtain ⟨place, record, stored, rest⟩ := recorded
  refine ⟨place, record, ?_, rest⟩
  have different : key ≠ other := by
    intro same
    rw [← same, evidence] at plain
    cases plain
  have stands := StandsBy.upsertKnowledge evidence engine.store different
    (engine.serde.toText value) source
  rw [← row_of_standsBy stands shared place] at stored
  exact stored

theorem evidenced_of_persist {decision final : CapabilityAdmissionDecision}
    {manifest : Option ForgedMcpToolManifest} {artifacts : List FactoryArtifact}
    (ran : (engine.persistAdmissionRecord scope decision manifest artifacts >>= fun key =>
      pure { decision with evidenceRef := some key }).run shared = (.ok final, after)) :
    engine.Evidenced scope final after := by
  obtain ⟨key, middle, ranPersist, isFinal⟩ := parts_of_run_bind ran
  simp only [run_pure, Effect.pure_apply, Prod.mk.injEq, Except.ok.injEq] at isFinal
  obtain ⟨rfl, rfl⟩ := isFinal
  exact ⟨key, rfl, (recorded_of_persist ranPersist).2⟩

theorem not_isEvidence_scopedKey {start : String} {first : Char} {later : List Char}
    (isStart : start.toList = first :: later) (notE : first ≠ 'e') (rest : String) :
    isEvidence (scopedKey start scope rest) = false := by
  have isE : "evidence:".toList = 'e' :: "vidence:".toList := by decide
  rw [Bool.eq_false_iff, ne_eq, isEvidence, Text.startsWith_iff]
  simp only [scopedKey, String.toList_append, isStart, isE, List.cons_append, List.cons_prefix_cons]
  intro starts
  exact notE starts.1.symm

theorem reject_spec {candidate : CapabilityCandidate} {reason : String}
    {quotaRemaining : Option UInt64} {manifest : ForgedMcpToolManifest}
    {artifacts : List FactoryArtifact} {decision : CapabilityAdmissionDecision}
    (ran : (engine.reject scope candidate reason quotaRemaining manifest artifacts).run shared =
      (.ok decision, after)) :
    decision.allowed = false ∧ engine.Evidenced scope decision after := by
  obtain ⟨key, persisted, ranPersist, ran⟩ := parts_of_run_bind ran
  obtain ⟨evidence, recorded⟩ := recorded_of_persist ranPersist
  obtain ⟨nowMs, clocked, ranClock, ran⟩ := parts_of_run_bind ran
  obtain ⟨_, final, wrote, isDecision⟩ := parts_of_run_bind ran
  cases isDecision
  refine ⟨rfl, key, rfl, ?_⟩
  have stillRecorded : engine.RecordedAt scope
      ⟨false, reason, some candidate, quotaRemaining, none⟩ clocked key := by
    have isClocked : clocked = persisted.after 1 := (congrArg Prod.snd ranClock).symm
    rw [isClocked]
    simpa only [RecordedAt, Shared.row_after] using recorded
  have isRejected : "policy-reject".toList = 'p' :: "olicy-reject".toList := by decide
  have isFinal : after = _ := (congrArg Prod.snd wrote).symm
  rw [isFinal]
  exact stillRecorded.of_upsertJson evidence
    (not_isEvidence_scopedKey isRejected (by decide) _) _ _

/-! ## Gates -/

section
variable (engine : CapabilityAdmissionEngine)

/-- The stored value says yes. -/
def Positive (record : KnowledgeRecord) : Prop :=
  ∃ value, engine.serde.fromText record.value = some value ∧ jsonBool value = true

def Approved (scope : AdmissionScope)
    (manifest : ForgedMcpToolManifest) (toolName : String) (shared : Shared) : Prop :=
  manifest.requiresGate = true → ∃ record value,
    Answers shared (engine.store.getKnowledge (approvalKey scope toolName)) (some record) ∧
      engine.serde.fromText record.value = some value ∧ boolAt "approved" value = some true

def StrategyAllows (scope : AdmissionScope)
    (toolName : String) (shared : Shared) : Prop :=
  (∃ found, Answers shared (engine.store.getKnowledge (strategyDenyKey scope toolName)) found ∧
    ∀ record ∈ found, ¬engine.Positive record) ∧
  ∃ key ∈ [strategyAllowKey scope toolName, approvalKey scope toolName],
    ∃ record, Answers shared (engine.store.getKnowledge key) (some record) ∧
      engine.Positive record

def AllowedByPolicy (scope : AdmissionScope)
    (manifest : ForgedMcpToolManifest) (toolName : String) (shared : Shared) : Prop :=
  engine.policyMode = .enforced → manifest.risk = .high →
    engine.StrategyAllows scope toolName shared

end

/-- What holds of what is stored when a tool with a manifest is admitted. -/
structure Admissible (engine : CapabilityAdmissionEngine) (scope : AdmissionScope)
    (manifest : ForgedMcpToolManifest) (toolName : String) (shared : Shared) : Prop where
  active : manifest.status = .active
  verified : manifest.approvalStatus = .verified
  trusted : manifest.trustStatus = .trusted
  budget : ∃ account, Answers shared (engine.store.getBudgetAccount engine.forms
      scope.identity.tenantId scope.identity.principalId) account ∧
    ∀ known ∈ account, known.reservedMicros.toNat + known.spentMicros.toNat <
      known.totalBudgetMicros.toNat
  feedback : ∃ found, Answers shared (engine.store.getKnowledge (feedbackKey scope)) found ∧
    ∀ record ∈ found, ∀ given, engine.serde.feedbackFromText record.value = some given →
      ¬given.Violated manifest.healthScore "strict" 0.90 ∧
        ¬given.Violated manifest.healthScore "moderate" 0.70
  approval : engine.Approved scope manifest toolName shared
  policy : engine.AllowedByPolicy scope manifest toolName shared

theorem found_of_readValue {key : String} {accesses : Nat} {value : Option JsonValue}
    (ran : (engine.readValue key).run (shared.after accesses) = (.ok value, after)) :
    (∃ found, Answers shared (engine.store.getKnowledge key) found ∧
      (found.bind fun record => engine.serde.fromText record.value) = value) ∧
      ∃ later, after = shared.after later := by
  rw [readValue] at ran
  obtain ⟨found, middle, ranGet, isValue⟩ := parts_of_run_bind ran
  obtain ⟨answers, later, isMiddle⟩ :=
    (onlyReads_getKnowledge engine.store key).answers ranGet
  simp only [run_pure, Effect.pure_apply, Prod.mk.injEq, Except.ok.injEq] at isValue
  exact ⟨⟨found, answers, isValue.1⟩, later, isValue.2 ▸ isMiddle⟩

theorem found_of_jsonBoolKey {key : String} {accesses : Nat} {answer : Bool}
    (ran : (engine.jsonBoolKey key).run (shared.after accesses) = (.ok answer, after)) :
    (∃ found, Answers shared (engine.store.getKnowledge key) found ∧
      (answer = true ↔ ∃ record ∈ found, engine.Positive record)) ∧
      ∃ later, after = shared.after later := by
  rw [jsonBoolKey] at ran
  obtain ⟨value, middle, ranRead, isAnswer⟩ := parts_of_run_bind ran
  obtain ⟨⟨found, answers, isValue⟩, later, isMiddle⟩ := found_of_readValue ranRead
  simp only [run_pure, Effect.pure_apply, Prod.mk.injEq, Except.ok.injEq] at isAnswer
  refine ⟨⟨found, answers, ?_⟩, later, isAnswer.2 ▸ isMiddle⟩
  rw [← isAnswer.1, ← isValue]
  cases found with
  | none => simp
  | some record =>
    cases isText : engine.serde.fromText record.value with
    | none => simp [Positive, isText]
    | some value => simp [Positive, isText]

theorem found_of_strategy {toolName : String} {accesses : Nat}
    (ran : (engine.strategyAllowsHighRisk scope toolName).run (shared.after accesses) =
      (.ok true, after)) :
    engine.StrategyAllows scope toolName shared := by
  rw [strategyAllowsHighRisk] at ran
  obtain ⟨denied, middle, ranDeny, ran⟩ := parts_of_run_bind ran
  obtain ⟨⟨found, answers, isDenied⟩, later, rfl⟩ := found_of_jsonBoolKey ranDeny
  cases denied with
  | true => cases ran
  | false =>
    refine ⟨⟨found, answers, fun record inFound positive => ?_⟩, ?_⟩
    · cases isDenied.mpr ⟨record, inFound, positive⟩
    · obtain ⟨allowed, middle, ranAllow, ran⟩ := parts_of_run_bind ran
      obtain ⟨⟨allowFound, allowAnswers, isAllowed⟩, later, rfl⟩ :=
        found_of_jsonBoolKey ranAllow
      cases allowed with
      | true =>
        obtain ⟨record, inFound, positive⟩ := isAllowed.mp rfl
        rw [Option.mem_def.mp inFound] at allowAnswers
        exact ⟨_, List.mem_cons_self, record, allowAnswers, positive⟩
      | false =>
        obtain ⟨⟨approval, approvalAnswers, isApproved⟩, -⟩ := found_of_jsonBoolKey ran
        obtain ⟨record, inFound, positive⟩ := isApproved.mp rfl
        rw [Option.mem_def.mp inFound] at approvalAnswers
        exact ⟨_, List.mem_cons_of_mem _ List.mem_cons_self, record, approvalAnswers, positive⟩

theorem found_of_evaluate {toolName : String} {risk : CapabilityRisk} {accesses : Nat}
    {pdpDecision : PolicyDecision}
    (ran : (engine.evaluatePdpDecision scope toolName risk).run (shared.after accesses) =
      (.ok pdpDecision, after)) (isHigh : risk = .high) (isAllowed : pdpDecision.allowed = true) :
    engine.StrategyAllows scope toolName shared := by
  rw [evaluatePdpDecision, if_pos isHigh] at ran
  obtain ⟨strategyAllowed, middle, ranStrategy, ran⟩ := parts_of_run_bind ran
  obtain ⟨nowMs, _, _, ran⟩ := parts_of_run_bind ran
  obtain ⟨written, _, _, isDecision⟩ := parts_of_run_bind ran
  simp only [run_pure, Effect.pure_apply, Prod.mk.injEq, Except.ok.injEq] at isDecision
  rw [← isDecision.1] at isAllowed
  obtain rfl : strategyAllowed = true := isAllowed
  exact found_of_strategy ranStrategy

theorem admitByPolicy_spec {manifest : ForgedMcpToolManifest} {artifacts : List FactoryArtifact}
    {candidate : CapabilityCandidate} {toolName : String} {quotaRemaining : Option UInt64}
    {accesses : Nat} {decision : CapabilityAdmissionDecision}
    (ran : (engine.admitByPolicy scope manifest artifacts candidate toolName quotaRemaining).run
      (shared.after accesses) = (.ok decision, after)) :
    engine.Evidenced scope decision after ∧
      (decision.allowed = true → engine.AllowedByPolicy scope manifest toolName shared) := by
  rw [admitByPolicy] at ran
  obtain ⟨pdpDecision, evaluated, ranEvaluate, ran⟩ := parts_of_run_bind ran
  split at ran
  · obtain ⟨refused, evidenced⟩ := reject_spec ran
    refine ⟨evidenced, fun allowed => ?_⟩
    rw [refused] at allowed
    cases allowed
  · next notDenied =>
    refine ⟨?_, fun _ enforced isHigh => ?_⟩
    · split at ran
      · obtain ⟨_, _, _, ran⟩ := parts_of_run_bind ran
        exact evidenced_of_persist ran
      · exact evidenced_of_persist ran
    · apply found_of_evaluate ranEvaluate isHigh
      by_contra denied
      exact notDenied ⟨enforced, isHigh, by simpa using denied⟩

theorem unspent_of_quotaOf {account : BudgetAccount} (left : quotaOf account ≠ 0) :
    account.reservedMicros.toNat + account.spentMicros.toNat <
      account.totalBudgetMicros.toNat := by
  by_contra spent
  apply left
  apply UInt64.toNat.inj
  rw [quotaOf, toNat_saturatingSub, toNat_saturatingAdd]
  have bounded := account.totalBudgetMicros.toNat_lt
  simp only [u64Max, UInt64.toNat_zero]
  omega

theorem refused_of_reject {candidate : CapabilityCandidate} {reason : String}
    {quotaRemaining : Option UInt64} {manifest : ForgedMcpToolManifest}
    {artifacts : List FactoryArtifact} {decision : CapabilityAdmissionDecision}
    {conclusion : Prop}
    (ran : (engine.reject scope candidate reason quotaRemaining manifest artifacts).run shared =
      (.ok decision, after)) :
    engine.Evidenced scope decision after ∧ (decision.allowed = true → conclusion) := by
  obtain ⟨notAllowed, evidenced⟩ := reject_spec ran
  refine ⟨evidenced, fun allowed => ?_⟩
  rw [notAllowed] at allowed
  cases allowed

section
variable {manifest : ForgedMcpToolManifest} {artifacts : List FactoryArtifact} {toolName : String}
  {server : Option String}

theorem passApproval_spec {quotaRemaining : Option UInt64}
    {accesses : Nat} {decision : CapabilityAdmissionDecision}
    (ran : (engine.passApproval scope manifest artifacts (candidateOf manifest toolName server)
      toolName quotaRemaining).run (shared.after accesses) = (.ok decision, after)) :
    engine.Evidenced scope decision after ∧ (decision.allowed = true →
      engine.Approved scope manifest toolName shared ∧
        engine.AllowedByPolicy scope manifest toolName shared) := by
  rw [passApproval] at ran
  by_cases required : (candidateOf manifest toolName server).approvalRequired = true
  · rw [if_pos required] at ran
    obtain ⟨approval, middle, ranRead, ran⟩ := parts_of_run_bind ran
    obtain ⟨⟨found, answers, isApproval⟩, more, rfl⟩ := found_of_readValue ranRead
    by_cases approved : (approval.bind (boolAt "approved")).getD false = true
    · rw [if_pos approved] at ran
      obtain ⟨evidenced, byPolicy⟩ := admitByPolicy_spec ran
      refine ⟨evidenced, fun allowed => ⟨fun _ => ?_, byPolicy allowed⟩⟩
      cases found with
      | none =>
        rw [← isApproval] at approved
        cases approved
      | some record =>
        rw [← isApproval] at approved
        cases isText : engine.serde.fromText record.value with
        | none => simp [isText] at approved
        | some value =>
          simp only [Option.bind_some, isText] at approved
          refine ⟨record, value, answers, isText, ?_⟩
          cases isApproved : boolAt "approved" value with
          | none => simp [isApproved] at approved
          | some answer => simpa [isApproved] using approved
    · rw [if_neg approved] at ran
      exact refused_of_reject ran
  · rw [if_neg required] at ran
    obtain ⟨evidenced, byPolicy⟩ := admitByPolicy_spec ran
    exact ⟨evidenced, fun allowed => ⟨fun gated => absurd gated required, byPolicy allowed⟩⟩

theorem passGates_spec {feedback : Option AdmissionFeedback}
    {accesses : Nat} {decision : CapabilityAdmissionDecision}
    {found : Option KnowledgeRecord}
    (answers : Answers shared (engine.store.getKnowledge (feedbackKey scope)) found)
    (isFeedback : (found.bind fun record => engine.serde.feedbackFromText record.value) = feedback)
    (active : manifest.status = .active) (verified : manifest.approvalStatus = .verified)
    (trusted : manifest.trustStatus = .trusted)
    (ran : (engine.passGates scope manifest artifacts (candidateOf manifest toolName server)
      toolName feedback).run (shared.after accesses) = (.ok decision, after)) :
    engine.Evidenced scope decision after ∧
      (decision.allowed = true → engine.Admissible scope manifest toolName shared) := by
  rw [passGates] at ran
  obtain ⟨account, middle, ranBudget, ran⟩ := parts_of_run_bind ran
  obtain ⟨budgetAnswers, later, rfl⟩ := (onlyReads_get _ _ _).answers ranBudget
  by_cases exhausted : account.map quotaOf = some 0
  · rw [if_pos exhausted] at ran
    exact refused_of_reject ran
  · rw [if_neg exhausted] at ran
    by_cases strict : ∃ given ∈ feedback,
        given.Violated (candidateOf manifest toolName server).score "strict" 0.90
    · rw [if_pos strict] at ran
      exact refused_of_reject ran
    · rw [if_neg strict] at ran
      by_cases moderate : ∃ given ∈ feedback,
          given.Violated (candidateOf manifest toolName server).score "moderate" 0.70
      · rw [if_pos moderate] at ran
        exact refused_of_reject ran
      · rw [if_neg moderate] at ran
        obtain ⟨evidenced, approved⟩ := passApproval_spec ran
        refine ⟨evidenced, fun allowed => ?_⟩
        constructor
        · exact active
        · exact verified
        · exact trusted
        · refine ⟨account, budgetAnswers, fun known isKnown => unspent_of_quotaOf fun none => ?_⟩
          rw [Option.mem_def.mp isKnown, Option.map_some, none] at exhausted
          exact exhausted rfl
        · refine ⟨found, answers, fun record isRecord given isGiven => ?_⟩
          have inFeedback : given ∈ feedback := by
            rw [← isFeedback, Option.mem_def.mp isRecord]
            exact isGiven
          exact ⟨fun violated => strict ⟨given, inFeedback, violated⟩,
            fun violated => moderate ⟨given, inFeedback, violated⟩⟩
        · exact (approved allowed).1
        · exact (approved allowed).2

end

/-- A call that answers leaves the stage record of its decision under the evidence
reference, and admits a tool with a manifest only when all gates are passed. -/
theorem admission_sound_and_evidenced (engine : CapabilityAdmissionEngine)
    (scope : AdmissionScope) (manifests : List ForgedMcpToolManifest)
    (factoryArtifacts : List FactoryArtifact) (toolName : String) (server : Option String)
    {shared after : Shared} {decision : CapabilityAdmissionDecision}
    (ran : (engine.admitSelected scope manifests factoryArtifacts toolName server).run shared =
      (.ok decision, after)) :
    engine.Evidenced scope decision after ∧
      (decision.allowed = true → ∀ manifest,
        (manifests.find? fun manifest => manifest.registeredToolName = toolName) =
            some manifest →
          engine.Admissible scope manifest toolName shared) := by
  rw [admitSelected] at ran
  cases isManifest : manifests.find? fun manifest => manifest.registeredToolName = toolName with
  | none =>
    rw [isManifest] at ran
    exact ⟨evidenced_of_persist ran, nofun⟩
  | some manifest =>
    rw [isManifest] at ran
    obtain ⟨found, middle, ranFeedback, ran⟩ := parts_of_run_bind ran
    obtain ⟨answers, later, rfl⟩ :=
      @OnlyReads.answers _ shared _ (onlyReads_getKnowledge engine.store (feedbackKey scope)) 0
        _ _ ranFeedback
    have onlyOne : ∀ {conclusion : ForgedMcpToolManifest → Prop},
        engine.Evidenced scope decision after ∧ (decision.allowed = true → conclusion manifest) →
        engine.Evidenced scope decision after ∧ (decision.allowed = true → ∀ other,
          some manifest = some other → conclusion other) := by
      intro conclusion both
      obtain ⟨evidenced, holds⟩ := both
      refine ⟨evidenced, fun allowed other same => ?_⟩
      cases same
      exact holds allowed
    apply onlyOne
    by_cases active : manifest.status = .active
    · by_cases verified : manifest.approvalStatus = .verified
      · by_cases trusted : manifest.trustStatus = .trusted
        · rw [if_neg (by simp [candidateOf, active]), if_neg (by simp [candidateOf, verified]),
            if_neg (by simp [candidateOf, trusted])] at ran
          exact passGates_spec answers rfl active verified trusted ran
        · rw [if_neg (by simp [candidateOf, active]), if_neg (by simp [candidateOf, verified]),
            if_pos (by simp [candidateOf, trusted])] at ran
          exact refused_of_reject ran
      · rw [if_neg (by simp [candidateOf, active]), if_pos (by simp [candidateOf, verified])]
          at ran
        exact refused_of_reject ran
    · rw [if_pos (by simp [candidateOf, active])] at ran
      exact refused_of_reject ran

/-! ## A tool with an approval -/

def compactText : JsonValue → String
  | .null => "null"
  | .bool value => if value then "true" else "false"
  | .number (.posInt value) => value.toNat.repr
  | .number (.negInt value) => value.toInt.repr
  | .number (.float _) => "1.0"
  | .string text => quote text
  | .array items => "[" ++ Text.joinWith ',' (items.map compactText) ++ "]"
  | .object members => object (members.map fun member => (member.1, compactText member.2))
termination_by value => sizeOf value
decreasing_by
  · exact JsonValue.sizeOf_item ‹_›
  · exact JsonValue.sizeOf_member ‹_›

/-- The fields of a stage record, in their order. -/
def recordText (record : StageEvidenceRecord JsonValue) : String :=
  object [("session_id", quote record.sessionId),
    ("trace_id", quote record.traceId), ("stage", record.stage.json),
    ("prev_hash", quote record.prevHash), ("record_hash", quote record.recordHash),
    ("replay_fingerprint", quote record.replayFingerprint),
    ("replay_schema_version", quote record.replaySchemaVersion),
    ("replay_seed_version", quote record.replaySeedVersion),
    ("replay_version", quote record.replayVersion),
    ("payload", compactText record.payload), ("created_at_ms", record.createdAtMs.toNat.repr)]

def approvedText : String := object [("approved", "true")]

def approvalSerde : AdmissionSerde where
  toText := compactText
  fromText := fun text =>
    if text = approvedText then some (.object [("approved", .bool true)]) else none
  feedbackFromText := fun _ => none
  hashText := fun value => digestOfParts [compactText value]
  canonicalJson := compactText
  hashValue := fun content =>
    digestOfParts [content.prevHash, compactText content.payload, content.createdAtMs.toNat.repr]
  recordToText := recordText
  recordFromText := fun _ => none

/-- The policy is enforced. -/
def enforcing : CapabilityAdmissionEngine :=
  ⟨.enforced, unmirroredStore, RecordForms.all, approvalSerde⟩

def toolScope : AdmissionScope :=
  ⟨"s", "t", ⟨"acme", "ann", "p", "lease"⟩, ⟨"s", "search", [], []⟩⟩

/-- A high-risk tool in good standing. -/
def searchManifest : ForgedMcpToolManifest where
  capabilityId := "mcp.search"
  registeredToolName := "search"
  server := "local"
  status := .active
  approvalStatus := .verified
  trustStatus := .trusted
  healthScore := 1.0
  risk := .high
  artifact := ⟨"a", "d", "u", 1⟩
  signature := ⟨"forge", "h", "sig", 1⟩
  provenance := ⟨"r", "main", "b", "g"⟩

/-- The approval of the tool is stored, and nothing else. -/
def approvedTool : Shared :=
  { Shared.started still with
    repo := { InMemory.default with
      knowledge := Knowledge.empty.put
        ⟨0, approvalKey toolScope "search", approvedText, "operator"⟩ } }

def searchAdmission : Except String CapabilityAdmissionDecision × Shared :=
  (enforcing.admitSelected toolScope [searchManifest] [] "search" none).run approvedTool

def searchAdmitted : CapabilityAdmissionDecision :=
  ⟨true, "admitted", some (candidateOf searchManifest "search" none), none,
    some "evidence:stage:s:t:7:1:admission"⟩

theorem approved_tool_admitted :
    enforcing.Evidenced toolScope searchAdmitted searchAdmission.2 ∧
      enforcing.Admissible toolScope searchManifest "search" approvedTool := by
  have ran : searchAdmission = (.ok searchAdmitted, searchAdmission.2) :=
    Prod.ext rfl rfl
  obtain ⟨evidenced, admissible⟩ :=
    admission_sound_and_evidenced enforcing toolScope [searchManifest] [] "search" none ran
  exact ⟨evidenced, admissible rfl searchManifest rfl⟩

end CapabilityAdmissionEngine

end AutoLoop.Security
