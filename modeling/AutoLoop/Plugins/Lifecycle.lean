import AutoLoop.Contracts.Capability
import AutoLoop.Foundation.Check
import AutoLoop.Plugins.Host
import AutoLoop.Runtime.EvidenceLedger
import AutoLoop.StateAdapter.TypedTables

/-!
# The lifecycle of plugins

`PluginLifecycleManager`: the records of the plugins in memory, and what each call writes
to the store.
-/

namespace AutoLoop.Plugins

open Contracts
open AutoLoop.Runtime (EvidenceLedgerWriter hex64)
open StateAdapter
open JsonValue (bool string unsigned optional)
open Text Effect JsonValue

structure PluginRuntimeRecord where
  pluginId : String
  currentManifest : PluginManifestContract
  state : PluginState
  verified : Bool
  history : List PluginManifestContract
  lastEvent : Option PluginLifecycleEvent
  lastVerdict : Option PluginVerificationVerdict
  rolloutMode : Option PluginRolloutMode
  rolloutTrafficPercent : Option UInt8

/-- The row of a plugin. -/
structure StoredPlugin where
  pluginId : String
  state : PluginState
  manifest : PluginManifestContract

structure PluginIndexEntry where
  pluginId : String
  state : PluginState
  version : String
  verified : Bool
  rolloutMode : Option PluginRolloutMode
  rolloutTrafficPercent : Option UInt8
  deriving DecidableEq, Repr

structure PluginForms where
  latest : JsonForm StoredPlugin
  event : JsonForm PluginLifecycleEvent
  index : JsonForm (List PluginIndexEntry)
  toText : JsonValue → String

structure PluginLifecycleManager where
  ledger : EvidenceLedgerWriter JsonValue
  forms : PluginForms
  sign : PluginSigner
  runner : SubprocessRunner

/-- What the calls of a manager read and change. -/
structure PluginWorld where
  shared : Shared
  records : Table String PluginRuntimeRecord
  host : PluginHost

abbrev PluginEffect (α : Type) : Type := Effect PluginWorld α

/-! ## Keys -/

def latestKey (pluginId : String) : String := "plugin:lifecycle:" ++ pluginId ++ ":latest"

def indexKey : String := "plugin:lifecycle:index"

def lifecycleKey (pluginId rows : String) (atMs : UInt64) : String :=
  "plugin:lifecycle:" ++ pluginId ++ ":" ++ rows ++ ":" ++ atMs.toNat.repr

def eventKey (pluginId : String) (atMs : UInt64) : String := lifecycleKey pluginId "events" atMs

/-! ## Values -/

def PluginRuntimeRecord.indexEntry (record : PluginRuntimeRecord) (pluginId : String) :
    PluginIndexEntry where
  pluginId
  state := record.state
  version := record.currentManifest.version
  verified := record.verified
  rolloutMode := record.rolloutMode
  rolloutTrafficPercent := record.rolloutTrafficPercent

def pluginKindFromSource (source : String) : PluginKind :=
  let lowered := toAsciiLowercase source
  if contains lowered "supermemory" then .supermemoryFederation
  else if contains lowered "graph" then .graphProjection
  else if contains lowered "vector" then .vectorProjection
  else if contains lowered "search" then .searchProjection
  else .sourceAdapter

def bumpVersion (previous : String) : String :=
  let digits := trim (trimStartMatches (!·.isDigit) (trim previous))
  let parsed := (parseUnsigned (2 ^ 32) digits).getD 0
  "v" ++ (min (parsed + 1) (2 ^ 32 - 1)).repr

def manifestStateForMode : PluginRolloutMode → PluginState
  | .shadow => .installed
  | .canary => .enabled
  | .full => .enabled
  | .rollback => .rolledBack

def riskScore : PluginRisk → Float32
  | .low => 0.98
  | .medium => 0.82
  | .high => 0.65
  | .critical => 0.55

/-- The share of the traffic that a rollout takes. -/
def normalizedPercent (mode : PluginRolloutMode) (trafficPercent : Option UInt8) : UInt8 :=
  match mode with
  | .shadow => 0
  | .canary =>
    let percent := trafficPercent.getD 10
    if percent < 1 then 1 else if 99 < percent then 99 else percent
  | .full => 100
  | .rollback => 0

/-- A reason, or what stands for a blank one. -/
def reasonOr (reason fallback : String) : String :=
  if trim reason = "" then fallback else reason

def PluginManifestContract.tenant (manifest : PluginManifestContract) : String :=
  (manifest.metadata.get "tenant_id").getD "tenant:default"

def PluginManifestContract.note (manifest : PluginManifestContract) (key value : String) :
    PluginManifestContract :=
  { manifest with metadata := manifest.metadata.insert key value }

def PluginInstallRequest.manifest (request : PluginInstallRequest) (sign : PluginSigner)
    (now : UInt64) : PluginManifestContract :=
  let canonicalSource := (splitSourceAndSignature request.source).1
  { id := request.pluginId
    pluginId := request.pluginId
    version := "v2"
    kind := pluginKindFromSource canonicalSource
    capability := ⟨"plugin:" ++ request.pluginId, "plugin runtime capability", ["plugin.invoke"]⟩
    risk := .medium
    compat := ⟨pluginApiVersionV2, [pluginApiVersionV2], pluginApiVersionV2, none⟩
    name := request.pluginId
    source := canonicalSource
    signatureRef :=
      some (sign request.pluginId canonicalSource request.tenantId request.requestedBy)
    permissions := ["read"]
    hooks := ["pre_install", "post_install", "post_enable", "post_disable", "post_update",
      "post_rollback"]
    commands := ["plugin:" ++ request.pluginId ++ ":invoke"]
    eventContractVersion := pluginEventContractV2
    lifecycleContractVersion := pluginLifecycleContractV2
    isolation := .default
    facade := .default
    metadata := ((Table.empty.insert "tenant_id" request.tenantId).insert "requested_by"
      request.requestedBy).insert "installed_at_ms" now.toNat.repr }

def updatedSource (current : String) : Option String → String
  | none => current
  | some source =>
    let canonical := (splitSourceAndSignature source).1
    if canonical = "" then current else canonical

/-- The manifest that an update at some time leaves. -/
def PluginManifestContract.update (previous : PluginManifestContract) (sign : PluginSigner)
    (pluginId : String) (source : Option String) (operator : String) (now : UInt64) :
    PluginManifestContract :=
  let next := ({ previous with
    version := bumpVersion previous.version
    source := updatedSource previous.source source }.note "updated_by" operator).note
      "updated_at_ms" now.toNat.repr
  { next with
    signatureRef := some (sign pluginId next.source next.tenant
      ((next.metadata.get "requested_by").getD operator)) }

/-- `verify` at some time. -/
def PluginManifestContract.verdict (manifest : PluginManifestContract) (sign : PluginSigner)
    (pluginId : String) (now : UInt64) : PluginVerificationVerdict :=
  let expected := sign pluginId manifest.source manifest.tenant
    ((manifest.metadata.get "requested_by").getD "unknown")
  let verified := (manifest.signatureRef.map (eqIgnoreAsciiCase · expected)).getD false
  { pluginId
    verified
    reason :=
      if verified then "plugin signature verified" else "plugin signature verification failed"
    provenanceRef := some ("plugin-signature:" ++ manifest.version)
    sbomRef := none
    checkedAtMs := now }

/-- `admit` of the contract port. -/
def admitByPort (candidates : List CapabilityCandidate) :
    Except String CapabilityAdmissionDecision :=
  let selected :=
    (candidates.find? fun item => item.active && item.verified && item.trusted) <|>
      candidates.head?
  match selected with
  | some candidate =>
    if candidate.active && candidate.verified && candidate.trusted then
      .ok ⟨true, "admitted-by-contract-port", some candidate, none, none⟩
    else
      .ok ⟨false, "rejected-by-contract-port", some candidate, none, none⟩
  | none => .error "policy error [no_candidate]: no capability candidate available"

def PluginManifestContract.candidate (manifest : PluginManifestContract)
    (verdict : PluginVerificationVerdict) : CapabilityCandidate where
  capabilityId := manifest.capability.capabilityId
  server := some "plugin-runtime"
  tool := manifest.id
  score := riskScore manifest.risk
  active := true
  verified := verdict.verified
  trusted := verdict.verified
  approvalRequired :=
    match manifest.risk with
    | .high => true
    | .critical => true
    | _ => false

/-! ## Calls -/

namespace PluginLifecycleManager

variable (manager : PluginLifecycleManager)

def onStore {α : Type} (call : StoreCall α) : PluginEffect α :=
  zoom (·.shared) (fun shared world => { world with shared }) call.run

/-- `current_time_ms`. -/
def clock : PluginEffect UInt64 := onStore StateStore.nowMs

def upsert (key text source : String) : StoreCall Unit := do
  let _ ← manager.ledger.store.upsertJsonKnowledge key (.ok text) source

def upsertValue (key : String) (value : JsonValue) (source : String) : StoreCall Unit :=
  manager.upsert key (manager.forms.toText value) source

def digestValue (value : JsonValue) : String :=
  hex64 (manager.ledger.store.defaultHash (manager.forms.toText value))

def recordOf (pluginId : String) : PluginEffect PluginRuntimeRecord := fun world =>
  (Check.present (world.records.get pluginId) ("plugin '" ++ pluginId ++ "' not found"), world)

def putRecord (pluginId : String) (record : PluginRuntimeRecord) : PluginEffect Unit :=
  Effect.modify fun world => { world with records := world.records.insert pluginId record }

/-! ### Rows -/

def emitHook (hook pluginId : String) (payload : JsonValue) : PluginEffect Unit := do
  let now ← clock
  onStore (manager.upsertValue
    ("plugin:hook:" ++ pluginId ++ ":" ++ hook ++ ":" ++ now.toNat.repr) payload
    "plugin-lifecycle")

def persistManifest (manifest : PluginManifestContract) (state : PluginState) :
    PluginEffect Unit :=
  onStore (manager.upsert (latestKey manifest.id)
    (manager.forms.latest.encode ⟨manifest.id, state, manifest⟩) "plugin-lifecycle")

def persistRolloutEvent (pluginId : String) (mode : PluginRolloutMode)
    (trafficPercent : UInt8) (operator reason : String) : PluginEffect Unit := do
  let now ← clock
  let atMs ← clock
  onStore (manager.upsertValue (lifecycleKey pluginId "rollout" now)
    (.object [("at_ms", unsigned atMs), ("mode", string mode.label),
      ("operator", string operator), ("plugin_id", string pluginId),
      ("reason", string reason), ("traffic_percent", unsigned trafficPercent.toUInt64)])
    "plugin-lifecycle")

def persistEvent (event : PluginLifecycleEvent) : PluginEffect Unit :=
  onStore (manager.upsert (eventKey event.pluginId event.atMs) (manager.forms.event.encode event)
    "plugin-lifecycle")

def persistVerdict (verdict : PluginVerificationVerdict) : PluginEffect Unit :=
  onStore (manager.upsertValue (lifecycleKey verdict.pluginId "verdict" verdict.checkedAtMs)
    verdict.toValue "plugin-signature")

def persistIndex : PluginEffect Unit := fun world =>
  let index := world.records.rows.map fun row => row.2.indexEntry row.1
  onStore (manager.upsert indexKey (manager.forms.index.encode index) "plugin-lifecycle") world

/-! ### Admission -/

def admissionFields (manifest : PluginManifestContract) (action tenantId : String)
    (signatureDigest decisionHash : String) (decision : CapabilityAdmissionDecision) :
    List (String × JsonValue) :=
  [("action", string action), ("decision", decision.toValue),
    ("decision_hash", string decisionHash), ("plugin_id", string manifest.id),
    ("policy_version", string ((manifest.metadata.get "policy_version").getD "v2")),
    ("signature_digest", string signatureDigest), ("tenant_id", string tenantId)]

def enforcePluginCapabilityAdmission (manifest : PluginManifestContract)
    (verdict : PluginVerificationVerdict) (action operator : String)
    (tenantOverride : Option String) : StoreCall String := do
  let tenantId := tenantOverride.getD manifest.tenant
  let sessionId := "plugin-session:" ++ tenantId
  let candidate := manifest.candidate verdict
  let decision ← Future.done ((admitByPort [candidate]).mapError fun message =>
    "plugin capability admission failed: " ++ message)
  let signatureDigest := manager.digestValue (optional string manifest.signatureRef)
  let decisionHash := manager.digestValue (.object [("action", string action),
    ("candidate", candidate.toValue), ("decision", decision.toValue),
    ("operator", string operator), ("plugin_id", string manifest.id),
    ("policy_version", string ((manifest.metadata.get "policy_version").getD "v2")),
    ("signature_digest", string signatureDigest), ("tenant_id", string tenantId),
    ("verified", bool verdict.verified)])
  let fields := admissionFields manifest action tenantId signatureDigest decisionHash decision
  let now ← StateStore.nowMs
  let admissionRefKey := "plugin-capability-admission:" ++ manifest.id ++ ":" ++ action ++ ":" ++
    now.toNat.repr
  manager.upsertValue admissionRefKey
    (.object (insertMember "candidate" candidate.toValue
      (insertMember "operator" (string operator) fields)))
    "plugin-capability-admission"
  let stageRef ← manager.ledger.appendStage sessionId
    ("plugin-admission:" ++ manifest.id ++ ":" ++ action) .admission
    (.object (insertMember "admission_record_ref" (string admissionRefKey) fields)) none
  if decision.allowed then
    return stageRef
  else do
    let now ← StateStore.nowMs
    manager.upsertValue
      ("policy-reject:" ++ manifest.id ++ ":" ++ action ++ ":" ++ now.toNat.repr)
      (.object (insertMember "admission_evidence_ref" (string stageRef) fields))
      "plugin-capability-admission"
    Future.fail ("plugin capability admission rejected: " ++ decision.reason)

/-! ### Verification -/

def verify (pluginId : String) : PluginEffect PluginVerificationVerdict := do
  let record ← recordOf pluginId
  let now ← clock
  let verdict := record.currentManifest.verdict manager.sign pluginId now
  putRecord pluginId
    { record with verified := verdict.verified, lastVerdict := some verdict }
  manager.persistVerdict verdict
  return verdict

def rejectInstall (verdict : PluginVerificationVerdict) :
    PluginEffect PluginVerificationVerdict := do
  manager.persistVerdict verdict
  fail ("plugin install rejected: " ++ verdict.reason)

def verifyRequest (request : PluginInstallRequest) :
    PluginEffect PluginVerificationVerdict := do
  let material := request.signatureMaterial manager.sign
  let now ← clock
  if material.providedSignature.isNone then
    manager.rejectInstall ⟨request.pluginId, false,
      "plugin install rejected: unsigned source (missing #sig=...)",
      some "plugin-signature:missing", none, now⟩
  else if !request.verifySignature then
    manager.rejectInstall ⟨request.pluginId, false,
      "plugin install rejected: verify_signature=false is not allowed",
      some "plugin-signature:bypass-blocked", none, now⟩
  else
    let verdict := request.verdict manager.sign now
    if verdict.verified then return verdict else manager.rejectInstall verdict

/-! ### Lifecycle -/

/-- The rows that follow a change of a record. -/
def persist (manifest : PluginManifestContract) (state : PluginState)
    (event : PluginLifecycleEvent) : PluginEffect Unit := do
  manager.persistManifest manifest state
  manager.persistEvent event
  manager.persistIndex

def install (request : PluginInstallRequest) : PluginEffect PluginManifestContract := do
  manager.emitHook "pre_install" request.pluginId
    (.object [("requested_by", string request.requestedBy), ("source", string request.source),
      ("tenant_id", string request.tenantId)])
  let verdict ← manager.verifyRequest request
  let now ← clock
  let manifest := request.manifest manager.sign now
  ofExcept (manifest.enforce false)
  let _ ← onStore (manager.enforcePluginCapabilityAdmission manifest verdict "install"
    request.requestedBy (some request.tenantId))
  let lifecycleEvent : PluginLifecycleEvent :=
    ⟨request.pluginId, none, .installed, "plugin installed", request.requestedBy, now⟩
  putRecord request.pluginId
    { pluginId := request.pluginId
      currentManifest := manifest
      state := .installed
      verified := verdict.verified
      history := [manifest]
      lastEvent := some lifecycleEvent
      lastVerdict := some verdict
      rolloutMode := none
      rolloutTrafficPercent := none }
  manager.persistManifest manifest .installed
  manager.persistEvent lifecycleEvent
  manager.persistVerdict verdict
  manager.persistIndex
  manager.emitHook "post_install" request.pluginId manifest.toValue
  return manifest

/-- What stands before a transition. -/
def admitTransition (pluginId : String) (target : PluginState) (operator : String) :
    PluginEffect Unit :=
  if target = .enabled then do
    let manifest := (← recordOf pluginId).currentManifest
    ofExcept (manifest.enforce false)
    let verdict ← manager.verify pluginId
    let _ ← onStore (manager.enforcePluginCapabilityAdmission manifest verdict "enable" operator
      (manifest.metadata.get "tenant_id"))
  else
    return ()

def transitionHook : PluginState → String
  | .enabled => "post_enable"
  | .disabled => "post_disable"
  | .deprecated => "post_deprecate"
  | .rolledBack => "post_rollback"
  | .installed => "post_install"

def transitionState (pluginId : String) (target : PluginState) (operator reason : String) :
    PluginEffect PluginManifestContract := do
  manager.admitTransition pluginId target operator
  let record ← recordOf pluginId
  let now ← clock
  let manifest := record.currentManifest.note "last_state_transition_at_ms" now.toNat.repr
  let atMs ← clock
  let event : PluginLifecycleEvent :=
    ⟨pluginId, some record.state, target, reason, operator, atMs⟩
  putRecord pluginId
    { record with state := target, currentManifest := manifest, lastEvent := some event }
  manager.persist manifest target event
  manager.emitHook (transitionHook target) pluginId (.object [("state", string target.name)])
  return manifest

def enable (pluginId operator reason : String) : PluginEffect PluginManifestContract :=
  manager.transitionState pluginId .enabled operator reason

def disable (pluginId operator reason : String) : PluginEffect PluginManifestContract :=
  manager.transitionState pluginId .disabled operator reason

def update (pluginId : String) (source : Option String) (operator : String) :
    PluginEffect PluginManifestContract := do
  let record ← recordOf pluginId
  let now ← clock
  let next := record.currentManifest.update manager.sign pluginId source operator now
  ofExcept (next.enforce false)
  let atMs ← clock
  let event : PluginLifecycleEvent :=
    ⟨pluginId, some record.state, .installed, "plugin updated", operator, atMs⟩
  putRecord pluginId
    { record with
      currentManifest := next
      history := record.history ++ [next]
      state := .installed
      lastEvent := some event }
  manager.persist next .installed event
  manager.emitHook "post_update" pluginId (.object [("version", string next.version)])
  return next

def rollback (pluginId operator reason : String) : PluginEffect PluginManifestContract := do
  let record ← recordOf pluginId
  -- The entry of the history before its last one.
  match record.history.dropLast.getLast? with
  | none => fail ("plugin '" ++ pluginId ++ "' has no previous version to rollback")
  | some previous =>
    let atMs ← clock
    let event : PluginLifecycleEvent :=
      ⟨pluginId, some .installed, .rolledBack, reasonOr reason "plugin rollback", operator, atMs⟩
    putRecord pluginId
      { record with
        currentManifest := previous, state := .rolledBack, lastEvent := some event }
    manager.persist previous .rolledBack event
    manager.emitHook "post_rollback" pluginId
      (.object [("active_version", string previous.version),
        ("rolled_back_from", string record.currentManifest.version)])
    return previous

def quickRollback (pluginId operator : String) : PluginEffect PluginManifestContract :=
  manager.rollback pluginId operator "plugin quick rollback"

/-- What a rollout that is no rollback does after the plugin is enabled. -/
def recordRollout (pluginId : String) (mode : PluginRolloutMode) (percent : UInt8)
    (operator reason : String) : PluginEffect PluginManifestContract := do
  let record ← recordOf pluginId
  let now ← clock
  let manifest := ((record.currentManifest.note "rollout_mode" mode.label).note
    "rollout_traffic_percent" percent.toNat.repr).note "rollout_updated_at_ms" now.toNat.repr
  putRecord pluginId
    { record with
      currentManifest := manifest
      rolloutMode := some mode
      rolloutTrafficPercent := some percent }
  manager.persistManifest manifest (manifestStateForMode mode)
  manager.persistRolloutEvent pluginId mode percent operator reason
  manager.persistIndex
  manager.emitHook "post_rollout" pluginId
    (.object [("mode", string mode.label), ("operator", string operator),
      ("reason", string reason), ("traffic_percent", unsigned percent.toUInt64)])
  return manifest

def rollout (pluginId : String) (mode : PluginRolloutMode) (trafficPercent : Option UInt8)
    (operator reason : String) : PluginEffect PluginManifestContract :=
  let percent := normalizedPercent mode trafficPercent
  match mode with
  | .rollback =>
    manager.rollback pluginId operator (reasonOr reason "plugin rollout rollback")
  | .shadow => manager.recordRollout pluginId .shadow percent operator reason
  | mode => do
      let _ ← manager.enable pluginId operator (reasonOr reason "plugin rollout enable")
      manager.recordRollout pluginId mode percent operator reason

/-! ### The host -/

def loadExternal (manifest : PluginManifestContract) (entrypoint : String) :
    PluginEffect Unit := do
  let runtime ← ofExcept (PluginHost.checkExternal manifest entrypoint)
  let now ← clock
  Effect.modify fun world => { world with host := world.host.load runtime entrypoint now }

def hostLoadSubprocess (pluginId entrypoint operator : String) :
    PluginEffect PluginManifestContract := do
  let record ← recordOf pluginId
  ofExcept (record.currentManifest.enforce false)
  if record.state = .enabled then
    let verdict ← manager.verify pluginId
    let _ ← onStore (manager.enforcePluginCapabilityAdmission record.currentManifest verdict
      "host_load" operator (record.currentManifest.metadata.get "tenant_id"))
    let _ ← clock
    loadExternal record.currentManifest entrypoint
    let now ← clock
    onStore (manager.upsertValue ("plugin:host:" ++ pluginId ++ ":loaded:" ++ now.toNat.repr)
      (.object [("entrypoint", string entrypoint), ("isolation", string "subprocess"),
        ("operator", string operator), ("plugin_id", string pluginId)]) "plugin-host")
    return record.currentManifest
  else
    fail ("plugin '" ++ pluginId ++ "' must be enabled before host-load")

section
variable (pluginId sessionId tenantId principalId : String) (capabilityId : Option String)
  (payload : JsonValue)

/-- What `host_invoke` hands to the host. -/
def hostInput : PluginEffect PluginInvocationInput := do
  let record ← recordOf pluginId
  ofExcept (record.currentManifest.enforce false)
  let now ← clock
  let invokedAtMs ← clock
  return {
    invocationId := "plugin-invoke:" ++ pluginId ++ ":" ++ now.toNat.repr
    pluginId
    sessionId
    tenantId
    principalId
    capabilityId := capabilityId.getD record.currentManifest.capability.capabilityId
    payload
    metadata := (Table.empty.insert "facade_channel" "plugin-facade-v2").insert
      "invoked_at_ms" invokedAtMs.toNat.repr }

def hostInvoke :
    PluginEffect PluginInvocationOutput := do
  let input ← hostInput pluginId sessionId tenantId principalId capabilityId payload
  fun world => (world.host.invokeById manager.runner pluginId input, world)

end

end PluginLifecycleManager

/-! ## Runs -/

inductive PluginCall where
  | install (request : PluginInstallRequest)
  | enable (pluginId operator reason : String)
  | disable (pluginId operator reason : String)
  | update (pluginId : String) (source : Option String) (operator : String)
  | rollback (pluginId operator reason : String)
  | quickRollback (pluginId operator : String)
  | rollout (pluginId : String) (mode : PluginRolloutMode) (trafficPercent : Option UInt8)
      (operator reason : String)
  | verify (pluginId : String)
  | hostLoadSubprocess (pluginId entrypoint operator : String)
  | hostInvoke (pluginId sessionId tenantId principalId : String)
      (capabilityId : Option String) (payload : JsonValue)

inductive PluginAnswer where
  | manifest (manifest : PluginManifestContract)
  | verdict (verdict : PluginVerificationVerdict)
  | output (output : PluginInvocationOutput)

def PluginLifecycleManager.call (manager : PluginLifecycleManager) :
    PluginCall → PluginEffect PluginAnswer
  | .install request => .manifest <$> manager.install request
  | .enable pluginId operator reason => .manifest <$> manager.enable pluginId operator reason
  | .disable pluginId operator reason => .manifest <$> manager.disable pluginId operator reason
  | .update pluginId source operator => .manifest <$> manager.update pluginId source operator
  | .rollback pluginId operator reason =>
    .manifest <$> manager.rollback pluginId operator reason
  | .quickRollback pluginId operator => .manifest <$> manager.quickRollback pluginId operator
  | .rollout pluginId mode trafficPercent operator reason =>
    .manifest <$> manager.rollout pluginId mode trafficPercent operator reason
  | .verify pluginId => .verdict <$> manager.verify pluginId
  | .hostLoadSubprocess pluginId entrypoint operator =>
    .manifest <$> manager.hostLoadSubprocess pluginId entrypoint operator
  | .hostInvoke pluginId sessionId tenantId principalId capabilityId payload =>
    .output <$> manager.hostInvoke pluginId sessionId tenantId principalId capabilityId payload

/-- A new manager over a new store. -/
def PluginWorld.started (host : Nat → Moment) : PluginWorld :=
  ⟨Shared.started host, Table.empty, PluginHost.new⟩

section
variable (manager : PluginLifecycleManager) (host : Nat → Moment)

/-- Calls one after another, with those that were made so far. -/
def pluginRuns :
    Component (PluginWorld × List PluginCall) PluginCall (Except String PluginAnswer) where
  initial := (PluginWorld.started host, [])
  step books call :=
    let ran := manager.call call books.1
    (ran.1, (ran.2, books.2 ++ [call]))

theorem world_step (books : PluginWorld × List PluginCall) (call : PluginCall) :
    ((pluginRuns manager host).step books call).2.1 = (manager.call call books.1).2 := rfl

def worldAfter (calls : List PluginCall) : PluginWorld :=
  ((pluginRuns manager host).run (pluginRuns manager host).initial calls).2.1

theorem worldAfter_snoc (calls : List PluginCall) (call : PluginCall) :
    worldAfter manager host (calls ++ [call]) =
      (manager.call call (worldAfter manager host calls)).2 := by
  rw [worldAfter, Component.run_append]
  rfl

end

end AutoLoop.Plugins
