import AutoLoop.Runtime.EvidenceLedger
import AutoLoop.StateAdapter.TypedTables

/-!
# Foundry feedback

The operations of the skill foundry leave feedback events in the store.  The promotion gate
reads them back, in the order of time, and recommends the next layer of a skill when the
events end in failures.
-/

namespace AutoLoop.Skills

open StateAdapter
open AutoLoop.Runtime (EvidenceLedgerWriter EvidenceStage)
open Json

inductive SkillFoundryLayer where
  | s1PromptOnly
  | s2PromptScripts
  | s3PromptMcp
  deriving DecidableEq, Repr

def SkillFoundryLayer.json : SkillFoundryLayer → String
  | .s1PromptOnly => "s1_prompt_only"
  | .s2PromptScripts => "s2_prompt_scripts"
  | .s3PromptMcp => "s3_prompt_mcp"

inductive FoundryFeedbackKind where
  | hit
  | miss
  | failedTrigger
  | missingScript
  | badJson
  deriving DecidableEq, Repr

def FoundryFeedbackKind.json : FoundryFeedbackKind → String
  | .hit => "hit"
  | .miss => "miss"
  | .failedTrigger => "failed_trigger"
  | .missingScript => "missing_script"
  | .badJson => "bad_json"

def kindSlug : FoundryFeedbackKind → String
  | .hit => "hit"
  | .miss => "miss"
  | .failedTrigger => "failed-trigger"
  | .missingScript => "missing-script"
  | .badJson => "bad-json"

/-- An event; its detail is the text of a JSON value. -/
structure FoundryFeedbackEvent where
  eventId : String
  sessionId : String
  traceId : String
  operation : String
  kind : FoundryFeedbackKind
  message : String
  detail : String
  evidenceRef : Option String
  createdAtMs : UInt64
  deriving DecidableEq, Repr

structure FoundryFeedbackEvidenceRecord where
  eventId : String
  sessionId : String
  traceId : String
  operation : String
  kind : String
  detail : String
  createdAtMs : UInt64
  deriving DecidableEq, Repr

structure FoundryPromotionPolicy where
  policyId : String
  s1ExecutionFailureThreshold : UInt32
  s2BoundaryFailureThreshold : UInt32
  maxCountedFailures : UInt32
  manualApprovalRequired : Bool
  createdAtMs : UInt64
  deriving DecidableEq, Repr

def defaultPromotionPolicy (nowMs : UInt64) : FoundryPromotionPolicy where
  policyId := "foundry-promotion-policy-v1"
  s1ExecutionFailureThreshold := 2
  s2BoundaryFailureThreshold := 2
  maxCountedFailures := 3
  manualApprovalRequired := true
  createdAtMs := nowMs

structure PromotionHint where
  hintId : String
  fromLayer : SkillFoundryLayer
  toLayer : SkillFoundryLayer
  trigger : String
  observedFailures : UInt32
  evidenceRefs : List String
  recommended : Bool
  createdAtMs : UInt64
  deriving DecidableEq, Repr

def recordPromotionFeedbackEvent (skillName : String) (fromLayer toLayer : SkillFoundryLayer)
    (trigger : String) (observedFailures : UInt32) (evidenceRefs : List String)
    (nowMs : UInt64) : PromotionHint where
  hintId := "promotion:" ++ skillName ++ ":" ++ nowMs.toNat.repr
  fromLayer
  toLayer
  trigger
  observedFailures
  evidenceRefs
  recommended := true
  createdAtMs := nowMs

structure FoundryForms where
  event : JsonForm FoundryFeedbackEvent
  evidence : JsonForm FoundryFeedbackEvidenceRecord
  policy : JsonForm FoundryPromotionPolicy
  hint : JsonForm PromotionHint

/-! ## Keys -/

/-- What the keys of the events of a session begin with. -/
def feedbackPrefix (sessionId : String) : String := "foundry:feedback:" ++ sessionId ++ ":"

/-- The key of an event. -/
def feedbackKey (sessionId traceId : String) (nowMs : UInt64) (kind : FoundryFeedbackKind) :
    String :=
  feedbackPrefix sessionId ++ traceId ++ ":" ++ nowMs.toNat.repr ++ ":" ++ kindSlug kind

def latestKey (sessionId traceId : String) : String :=
  feedbackPrefix sessionId ++ traceId ++ ":" ++ "latest"

def foundryEvidenceKey (sessionId : String) (record : FoundryFeedbackEvidenceRecord) : String :=
  "evidence:foundry:" ++ sessionId ++ ":" ++ record.createdAtMs.toNat.repr ++ ":" ++
    record.eventId

/-! ## Failures -/

def isExecutionOperation (operation : String) : Bool :=
  !(["intake", "extract", "route", "enable", "disable", "approve_promotion"].contains operation)

def isExecutionFailureKind : FoundryFeedbackKind → Bool
  | .miss | .missingScript | .badJson => true
  | _ => false

/-- The texts that name a capability boundary. -/
def boundaryNeedles : List String :=
  ["capability boundary", "capability_boundary", "capability-limit", "requires mcp",
    "external capability", "admission reject"]

def isCapabilityBoundaryFailure (event : FoundryFeedbackEvent) : Bool :=
  match event.kind with
  | .failedTrigger | .miss =>
    boundaryNeedles.any fun needle =>
      Text.contains (Text.toAsciiLowercase event.message) needle ||
        Text.contains (Text.toAsciiLowercase event.detail) needle
  | _ => false

def isFailure : SkillFoundryLayer → FoundryFeedbackEvent → Bool
  | .s1PromptOnly, event => isExecutionFailureKind event.kind
  | .s2PromptScripts, event => isCapabilityBoundaryFailure event
  | .s3PromptMcp, _ => false

/-- The loop of `trailing_failure_streak` over the reversed events. -/
def streakFrom (layer : SkillFoundryLayer) : List FoundryFeedbackEvent → List FoundryFeedbackEvent
  | [] => []
  | event :: earlier =>
    if !isExecutionOperation event.operation then streakFrom layer earlier
    else if isFailure layer event then event :: streakFrom layer earlier
    else []

def trailingFailureStreak (events : List FoundryFeedbackEvent) (layer : SkillFoundryLayer) :
    List FoundryFeedbackEvent :=
  streakFrom layer events.reverse

/-! ## The store -/

variable (ledger : EvidenceLedgerWriter String) (forms : FoundryForms)

/-- `append_foundry_feedback` of the ledger. -/
def appendFoundryFeedback (sessionId : String) (record : FoundryFeedbackEvidenceRecord) :
    StoreCall String := do
  let key := foundryEvidenceKey sessionId record
  let _ ← ledger.store.upsertJsonKnowledge key (.ok (forms.evidence.encode record))
    "evidence-ledger"
  return key

def feedbackEvent (sessionId traceId operation : String) (kind : FoundryFeedbackKind)
    (message detail : String) (nowMs : UInt64) : FoundryFeedbackEvent where
  eventId := "foundry-feedback:" ++ operation ++ ":" ++ kindSlug kind ++ ":" ++ nowMs.toNat.repr
  sessionId
  traceId
  operation
  kind
  message
  detail
  evidenceRef := none
  createdAtMs := nowMs

def FoundryFeedbackEvent.evidence (event : FoundryFeedbackEvent) :
    FoundryFeedbackEvidenceRecord where
  eventId := event.eventId
  sessionId := event.sessionId
  traceId := event.traceId
  operation := event.operation
  kind := kindSlug event.kind
  detail := event.message
  createdAtMs := event.createdAtMs

def storeFeedback (event : FoundryFeedbackEvent) : StoreCall FoundryFeedbackEvent := do
  let text := forms.event.encode event
  let _ ← ledger.store.upsertJsonKnowledge
    (feedbackKey event.sessionId event.traceId event.createdAtMs event.kind) (.ok text)
    "foundry-feedback"
  let _ ← ledger.store.upsertJsonKnowledge (latestKey event.sessionId event.traceId) (.ok text)
    "foundry-feedback"
  let _ ← ledger.store.upsertJsonKnowledge
    ("conversation:" ++ event.sessionId ++ ":execution-feedback:" ++
      event.createdAtMs.toNat.repr ++ ":foundry") (.ok text) "execution-feedback"
  return event

def persistFeedbackEvent (sessionId traceId operation : String) (kind : FoundryFeedbackKind)
    (message detail : String) (nowMs : UInt64) : StoreCall FoundryFeedbackEvent := do
  let event := feedbackEvent sessionId traceId operation kind message detail nowMs
  let foundryEvidenceRef ← appendFoundryFeedback ledger forms sessionId event.evidence
  let _ ← ledger.appendStage sessionId traceId .learn
    (object [("detail", detail), ("foundry_evidence_ref", quote foundryEvidenceRef),
      ("kind", quote kind.json), ("message", quote message),
      ("operation", quote operation)]) none
  storeFeedback ledger forms { event with evidenceRef := some foundryEvidenceRef }

def FoundryPromotionPolicy.threshold (policy : FoundryPromotionPolicy) :
    SkillFoundryLayer → Option UInt32
  | .s1PromptOnly => some policy.s1ExecutionFailureThreshold
  | .s2PromptScripts => some policy.s2BoundaryFailureThreshold
  | .s3PromptMcp => none

def promotionOf : SkillFoundryLayer → Option (SkillFoundryLayer × String)
  | .s1PromptOnly => some (.s2PromptScripts, "execution_failure_threshold_reached")
  | .s2PromptScripts => some (.s3PromptMcp, "capability_boundary_threshold_reached")
  | .s3PromptMcp => none

/-- What a hint that is given leaves in the store. -/
def persistHint (sessionId traceId skillName : String) (layer : SkillFoundryLayer)
    (policy : FoundryPromotionPolicy) (threshold : UInt32) (hint : PromotionHint)
    (nowMs : UInt64) : StoreCall Unit := do
  let hintText := forms.hint.encode hint
  let _ ← ledger.store.upsertJsonKnowledge
    ("foundry:promotion:pending:" ++ sessionId ++ ":" ++ skillName ++ ":" ++ nowMs.toNat.repr)
    (.ok hintText) "foundry-promotion"
  let _ ← ledger.store.upsertJsonKnowledge
    ("foundry:promotion:pending:" ++ sessionId ++ ":" ++ skillName ++ ":latest")
    (.ok hintText) "foundry-promotion"
  let _ ← ledger.store.upsertJsonKnowledge
    ("policy:foundry:promotion:" ++ sessionId ++ ":" ++ skillName ++ ":latest")
    (.ok (object [("created_at_ms", nowMs.toNat.repr),
      ("evaluated_layer", quote layer.json), ("hint_id", quote hint.hintId),
      ("observed_failures", hint.observedFailures.toNat.repr),
      ("policy", forms.policy.encode policy), ("threshold", threshold.toNat.repr)]))
    "policy-engine"
  let _ ← ledger.store.upsertJsonKnowledge
    ("metrics:foundry:promotion:" ++ sessionId ++ ":" ++ nowMs.toNat.repr)
    (.ok (object [("created_at_ms", nowMs.toNat.repr),
      ("evaluated_layer", quote hint.fromLayer.json),
      ("manual_approval_required", Json.bool policy.manualApprovalRequired),
      ("observed_failures", hint.observedFailures.toNat.repr),
      ("policy_id", quote policy.policyId), ("skill_name", quote skillName),
      ("target_layer", quote hint.toLayer.json), ("threshold", threshold.toNat.repr)]))
    "metrics-foundry"
  let _ ← ledger.store.upsertJsonKnowledge
    ("conversation:" ++ sessionId ++ ":execution-feedback:" ++ nowMs.toNat.repr ++ ":promotion")
    (.ok (object [("hint", hintText), ("policy", forms.policy.encode policy),
      ("session_id", quote sessionId), ("skill_name", quote skillName),
      ("status", quote "pending_approval"), ("trace_id", quote traceId)]))
    "execution-feedback"
  let _ ← ledger.appendStage sessionId traceId .learn
    (object [("gate", quote "foundry_promotion"), ("hint", hintText),
      ("policy", forms.policy.encode policy), ("skill_name", quote skillName),
      ("status", quote "pending_approval")]) none
  return ()

def promotionHint (skillName : String) (layer toLayer : SkillFoundryLayer) (trigger : String)
    (policy : FoundryPromotionPolicy) (streak : List FoundryFeedbackEvent) (nowMs : UInt64) :
    PromotionHint :=
  recordPromotionFeedbackEvent skillName layer toLayer trigger
    (min (UInt32.ofNat streak.length) (max policy.maxCountedFailures 1))
    (streak.filterMap (·.evidenceRef)) nowMs

section
variable (sessionId traceId skillName : String) (layer : SkillFoundryLayer)
  (policy : FoundryPromotionPolicy) (nowMs : UInt64)

/-- What the gate makes of the events. -/
def decidePromotion (events : List FoundryFeedbackEvent) :
    StoreCall (Option PromotionHint) :=
  let streak := trailingFailureStreak
    (sortByKey (fun event : FoundryFeedbackEvent => event.createdAtMs.toNat) events) layer
  match policy.threshold layer, promotionOf layer with
  | some threshold, some (toLayer, trigger) =>
    if streak.length < threshold.toNat then
      return none
    else do
      let hint := promotionHint skillName layer toLayer trigger policy streak nowMs
      persistHint ledger forms sessionId traceId skillName layer policy threshold hint nowMs
      return some hint
  | _, _ => return none

def evaluatePromotionGate : StoreCall (Option PromotionHint) := do
  let records ← ledger.store.listKnowledgeByPrefix (feedbackPrefix sessionId)
  decidePromotion ledger forms sessionId traceId skillName layer policy nowMs
    (records.filterMap fun record => forms.event.decode record.value)

end

end AutoLoop.Skills
