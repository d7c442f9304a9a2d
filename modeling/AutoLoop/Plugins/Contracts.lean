import AutoLoop.Foundation.JsonValue
import AutoLoop.Foundation.Table
import AutoLoop.Foundation.Text

/-!
# Plugin contracts

The records of `contracts::plugin`, the contract that every manifest has to meet, and the
signatures of plugin sources.
-/

namespace AutoLoop.Plugins

open JsonValue (bool string texts unsigned optional)
open Text

def pluginApiVersionV2 : String := "v2"

def pluginLifecycleContractV2 : String := "plugin-lifecycle-v2"

def pluginEventContractV2 : String := "plugin-event-v2"

def pluginFacadeContractV2 : String := "plugin-facade-v2"

inductive PluginState where
  | installed
  | enabled
  | disabled
  | deprecated
  | rolledBack
  deriving DecidableEq, Repr

def PluginState.name : PluginState → String
  | .installed => "installed"
  | .enabled => "enabled"
  | .disabled => "disabled"
  | .deprecated => "deprecated"
  | .rolledBack => "rolled_back"

inductive PluginKind where
  | graphProjection
  | vectorProjection
  | searchProjection
  | supermemoryFederation
  | sourceAdapter
  | contextConstraint
  | softEstimator
  | optimizer
  | repair
  | proof
  | tool
  | hook
  | transport
  | service
  | other
  deriving DecidableEq, Repr

/-- The JSON form. -/
def PluginKind.name : PluginKind → String
  | .graphProjection => "graph_projection"
  | .vectorProjection => "vector_projection"
  | .searchProjection => "search_projection"
  | .supermemoryFederation => "supermemory_federation"
  | .sourceAdapter => "source_adapter"
  | .contextConstraint => "context_constraint"
  | .softEstimator => "soft_estimator"
  | .optimizer => "optimizer"
  | .repair => "repair"
  | .proof => "proof"
  | .tool => "tool"
  | .hook => "hook"
  | .transport => "transport"
  | .service => "service"
  | .other => "other"

/-- `{:?}`. -/
def PluginKind.debug : PluginKind → String
  | .graphProjection => "GraphProjection"
  | .vectorProjection => "VectorProjection"
  | .searchProjection => "SearchProjection"
  | .supermemoryFederation => "SupermemoryFederation"
  | .sourceAdapter => "SourceAdapter"
  | .contextConstraint => "ContextConstraint"
  | .softEstimator => "SoftEstimator"
  | .optimizer => "Optimizer"
  | .repair => "Repair"
  | .proof => "Proof"
  | .tool => "Tool"
  | .hook => "Hook"
  | .transport => "Transport"
  | .service => "Service"
  | .other => "Other"

inductive PluginRisk where
  | low
  | medium
  | high
  | critical
  deriving DecidableEq, Repr

def PluginRisk.name : PluginRisk → String
  | .low => "low"
  | .medium => "medium"
  | .high => "high"
  | .critical => "critical"

inductive PluginRolloutMode where
  | shadow
  | canary
  | full
  | rollback
  deriving DecidableEq, Repr

/-- `rollout_mode_label`, which is also the JSON form. -/
def PluginRolloutMode.label : PluginRolloutMode → String
  | .shadow => "shadow"
  | .canary => "canary"
  | .full => "full"
  | .rollback => "rollback"

/-- The isolation mode is `Subprocess`, the only one. -/
structure PluginIsolationContract where
  timeoutMs : UInt64
  maxMemoryMb : UInt32
  deriving DecidableEq, Repr

def PluginIsolationContract.default : PluginIsolationContract := ⟨5000, 256⟩

structure PluginFacadeContract where
  contractVersion : String
  facadeOnly : Bool
  allowRepoDirect : Bool
  allowPatchStateDirect : Bool
  allowedFacadeOps : List String
  deriving DecidableEq, Repr

def PluginFacadeContract.default : PluginFacadeContract where
  contractVersion := pluginFacadeContractV2
  facadeOnly := true
  allowRepoDirect := false
  allowPatchStateDirect := false
  allowedFacadeOps := ["recall.query", "projection.read", "mirror.export"]

structure PluginCapabilityDescriptor where
  capabilityId : String
  description : String
  scopes : List String
  deriving DecidableEq, Repr

structure PluginCompatSpec where
  apiVersion : String
  compatibleApiVersions : List String
  minCoreVersion : String
  maxCoreVersion : Option String
  deriving DecidableEq, Repr

def PluginCompatSpec.supportsApiVersion (compat : PluginCompatSpec) (hostApiVersion : String) :
    Bool :=
  compat.apiVersion = hostApiVersion || compat.compatibleApiVersions.any (· = hostApiVersion)

structure PluginManifestContract where
  id : String
  pluginId : String
  version : String
  kind : PluginKind
  capability : PluginCapabilityDescriptor
  risk : PluginRisk
  compat : PluginCompatSpec
  name : String
  source : String
  signatureRef : Option String
  permissions : List String
  hooks : List String
  commands : List String
  eventContractVersion : String
  lifecycleContractVersion : String
  isolation : PluginIsolationContract
  facade : PluginFacadeContract
  metadata : Table String String

structure PluginInstallRequest where
  pluginId : String
  source : String
  requestedBy : String
  tenantId : String
  verifySignature : Bool
  deriving DecidableEq, Repr

structure PluginLifecycleEvent where
  pluginId : String
  fromState : Option PluginState
  toState : PluginState
  reason : String
  operator : String
  atMs : UInt64
  deriving DecidableEq, Repr

structure PluginVerificationVerdict where
  pluginId : String
  verified : Bool
  reason : String
  provenanceRef : Option String
  sbomRef : Option String
  checkedAtMs : UInt64
  deriving DecidableEq, Repr

/-! ## JSON values -/

def metadataValue (metadata : Table String String) : JsonValue :=
  .object (metadata.rows.map fun row => (row.1, string row.2))

def PluginManifestContract.toValue (manifest : PluginManifestContract) : JsonValue :=
  .object [("capability", .object [("capability_id", string manifest.capability.capabilityId),
      ("description", string manifest.capability.description),
      ("scopes", texts manifest.capability.scopes)]),
    ("commands", texts manifest.commands),
    ("compat", .object [("api_version", string manifest.compat.apiVersion),
      ("compatible_api_versions", texts manifest.compat.compatibleApiVersions),
      ("max_core_version", optional string manifest.compat.maxCoreVersion),
      ("min_core_version", string manifest.compat.minCoreVersion)]),
    ("event_contract_version", string manifest.eventContractVersion),
    ("facade", .object [("allow_patch_state_direct", bool manifest.facade.allowPatchStateDirect),
      ("allow_repo_direct", bool manifest.facade.allowRepoDirect),
      ("allowed_facade_ops", texts manifest.facade.allowedFacadeOps),
      ("contract_version", string manifest.facade.contractVersion),
      ("facade_only", bool manifest.facade.facadeOnly)]),
    ("hooks", texts manifest.hooks),
    ("id", string manifest.id),
    ("isolation", .object [("max_memory_mb", unsigned manifest.isolation.maxMemoryMb.toUInt64),
      ("mode", string "subprocess"), ("timeout_ms", unsigned manifest.isolation.timeoutMs)]),
    ("kind", string manifest.kind.name),
    ("lifecycle_contract_version", string manifest.lifecycleContractVersion),
    ("metadata", metadataValue manifest.metadata),
    ("name", string manifest.name),
    ("permissions", texts manifest.permissions),
    ("plugin_id", string manifest.pluginId),
    ("risk", string manifest.risk.name),
    ("signature_ref", optional string manifest.signatureRef),
    ("source", string manifest.source),
    ("version", string manifest.version)]

def PluginVerificationVerdict.toValue (verdict : PluginVerificationVerdict) : JsonValue :=
  .object [("checked_at_ms", unsigned verdict.checkedAtMs), ("plugin_id", string verdict.pluginId),
    ("provenance_ref", optional string verdict.provenanceRef),
    ("reason", string verdict.reason), ("sbom_ref", optional string verdict.sbomRef),
    ("verified", bool verdict.verified)]

/-! ## The manifest contract -/

namespace PluginManifestContract

variable (manifest : PluginManifestContract)

def versionMessage (contract expected got : String) : String :=
  "plugin '" ++ manifest.id ++ "' violates " ++ contract ++ " contract version: expected=" ++
    expected ++ ", got=" ++ got

def facadeMessage (violation : String) : String :=
  "plugin '" ++ manifest.id ++ "' violates facade contract: " ++ violation

def isBuiltin : Bool :=
  ((manifest.metadata.get "builtin").map (eqIgnoreAsciiCase · "true")).getD false

/-- The kinds that are not builtin may have. -/
def kindAllowed : Bool :=
  match manifest.kind with
  | .graphProjection => true
  | .vectorProjection => true
  | .searchProjection => true
  | .supermemoryFederation => true
  | .sourceAdapter => true
  | _ => false

/-- `enforce_manifest_contract`. -/
def enforce (allowBuiltinRelaxation : Bool) : Except String Unit := do
  if manifest.facade.contractVersion ≠ pluginFacadeContractV2 then
    .error (manifest.versionMessage "facade" pluginFacadeContractV2 manifest.facade.contractVersion)
  if manifest.eventContractVersion ≠ pluginEventContractV2 then
    .error (manifest.versionMessage "event" pluginEventContractV2 manifest.eventContractVersion)
  if manifest.lifecycleContractVersion ≠ pluginLifecycleContractV2 then
    .error (manifest.versionMessage "lifecycle" pluginLifecycleContractV2
      manifest.lifecycleContractVersion)
  if !manifest.facade.facadeOnly then
    .error (manifest.facadeMessage "facade_only must be true")
  if manifest.facade.allowRepoDirect then
    .error (manifest.facadeMessage "direct repo access is forbidden")
  if manifest.facade.allowPatchStateDirect then
    .error (manifest.facadeMessage "direct patch-state access is forbidden")
  if !(allowBuiltinRelaxation && manifest.isBuiltin) && !manifest.kindAllowed then
    .error ("plugin '" ++ manifest.id ++ "' kind '" ++ manifest.kind.debug ++
      "' is outside day1/day2 allow-list")

end PluginManifestContract

/-! ## Signatures -/

/-- The canonical source, and the signature after the first `#sig=`. -/
def splitSourceAndSignature (source : String) : String × Option String :=
  match splitOnce "#sig=" source with
  | none => (trim source, none)
  | some (before, rest) =>
    (trim before, ((split '&' rest).head?.map trim).filter fun value => value ≠ "")

/-- `compute_plugin_signature`, which rests on `DefaultHasher`. -/
abbrev PluginSigner : Type := (pluginId canonicalSource tenantId requestedBy : String) → String

structure PluginSignatureMaterial where
  pluginId : String
  tenantId : String
  requestedBy : String
  source : String
  canonicalSource : String
  providedSignature : Option String
  computedSignature : String
  deriving DecidableEq, Repr

namespace PluginInstallRequest

variable (request : PluginInstallRequest)

def signatureMaterial (sign : PluginSigner) : PluginSignatureMaterial :=
  let parts := splitSourceAndSignature request.source
  { pluginId := request.pluginId
    tenantId := request.tenantId
    requestedBy := request.requestedBy
    source := request.source
    canonicalSource := parts.1
    providedSignature := parts.2
    computedSignature := sign request.pluginId parts.1 request.tenantId request.requestedBy }

/-- `verify_install_request` at some time. -/
def verdict (sign : PluginSigner) (now : UInt64) : PluginVerificationVerdict :=
  let material := request.signatureMaterial sign
  if !request.verifySignature then
    ⟨request.pluginId, true, "signature verification skipped by request",
      some "plugin-signature:skipped", none, now⟩
  else
    match material.providedSignature with
    | none =>
      ⟨request.pluginId, false, "missing signature in source (#sig=...)",
        some "plugin-signature:missing", none, now⟩
    | some providedSignature =>
      if eqIgnoreAsciiCase providedSignature material.computedSignature then
        ⟨request.pluginId, true, "signature verified",
          some ("plugin-signature:sha256:" ++ material.computedSignature), none, now⟩
      else
        ⟨request.pluginId, false,
          "signature mismatch provided=" ++ providedSignature ++ " expected=" ++
            material.computedSignature,
          some "plugin-signature:mismatch", none, now⟩

end PluginInstallRequest

end AutoLoop.Plugins
