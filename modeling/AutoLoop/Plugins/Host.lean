import AutoLoop.Plugins.Contracts
import AutoLoop.StateAdapter.StateStore

/-!
# The plugin host

The registry of the manifests that were loaded, the runtimes under their ids, and the
invocation of one of them.
-/

namespace AutoLoop.Plugins

open StateAdapter Text

structure PluginApiNegotiationResult where
  accepted : Bool
  pluginId : String
  selectedApiVersion : String
  reason : String
  deriving DecidableEq, Repr

structure PluginInvocationInput where
  invocationId : String
  pluginId : String
  sessionId : String
  tenantId : String
  principalId : String
  capabilityId : String
  payload : JsonValue
  metadata : Table String String

structure PluginInvocationOutput where
  invocationId : String
  pluginId : String
  status : String
  payload : JsonValue
  evidenceRefs : List String
  warnings : List String

inductive PluginSourceKind where
  | builtIn
  | external
  deriving DecidableEq, Repr

structure PluginRegistration where
  manifest : PluginManifestContract
  sourceKind : PluginSourceKind
  loadedAtMs : UInt64
  entrypoint : Option String

structure SubprocessPluginRuntime where
  manifest : PluginManifestContract
  command : String
  args : List String

/-- `PluginHost`: its registry and its runtimes. -/
structure PluginHost where
  registrations : Table String PluginRegistration
  plugins : Table String SubprocessPluginRuntime

def PluginHost.new : PluginHost := ⟨Table.empty, Table.empty⟩

/-- What running a command with its arguments on an input answers. -/
abbrev SubprocessRunner : Type :=
  (command : String) → (args : List String) → PluginInvocationInput →
    Except String PluginInvocationOutput

/-! ## Entrypoints -/

/-- `split_whitespace`. -/
def splitWhitespace (text : String) : List String :=
  ((text.toList.splitOnP isWhitespace).filter (· ≠ [])).map String.ofList

/-- `parse_entrypoint`. -/
def parseEntrypoint (entrypoint : String) : Except String (String × List String) :=
  let raw := trim entrypoint
  let value := trim
    (if startsWith raw "proc://" then String.ofList (raw.toList.drop 7) else raw)
  if value = "" then .error "plugin entrypoint cannot be empty"
  else
    match splitWhitespace value with
    | [] => .error "plugin entrypoint cannot be parsed"
    | command :: args => .ok (command, args)

/-! ## Resolution -/

/-- `negotiate_with_manifest`. -/
def negotiate (manifest : PluginManifestContract) (hostApiVersion : String)
    (requiredScopes : List String) : PluginApiNegotiationResult :=
  if !manifest.compat.supportsApiVersion hostApiVersion then
    ⟨false, manifest.id, manifest.compat.apiVersion,
      "unsupported api_version host=" ++ hostApiVersion ++ " plugin=" ++
        manifest.compat.apiVersion⟩
  else
    match requiredScopes.find? fun scope => scope ∉ manifest.capability.scopes with
    | some scope =>
      ⟨false, manifest.id, hostApiVersion, "required scope '" ++ scope ++ "' not granted by plugin"⟩
    | none => ⟨true, manifest.id, hostApiVersion, "api negotiation accepted"⟩

namespace PluginHost

variable (host : PluginHost)

/-- `resolve` of a request that names a plugin id only. -/
def resolve (pluginId : String) : Except String PluginManifestContract :=
  match host.registrations.rows.find? fun row => row.2.manifest.id = pluginId with
  | none => .error "no plugin candidate matched resolve request"
  | some row =>
    let negotiation := negotiate row.2.manifest pluginApiVersionV2 []
    if negotiation.accepted then .ok row.2.manifest
    else .error ("plugin api negotiation rejected: " ++ negotiation.reason)

/-! ## Invocation -/

def forbiddenTokens : List String :=
  ["repo", "canonical", "git", "patch_state", "patchstate", "patch_state_ref"]

def mentionsForbidden (text : String) : Bool :=
  forbiddenTokens.any (contains (toAsciiLowercase text) ·)

mutual

/-- `contains_forbidden_token`. -/
def containsForbidden : JsonValue → Bool
  | .scalar (.string text) => mentionsForbidden text
  | .scalar _ => false
  | .array items => anyForbidden items
  | .object members => anyMemberForbidden members

def anyForbidden : List JsonValue → Bool
  | [] => false
  | item :: rest => containsForbidden item || anyForbidden rest

def anyMemberForbidden : List (String × JsonValue) → Bool
  | [] => false
  | (key, value) :: rest =>
    mentionsForbidden key || containsForbidden value || anyMemberForbidden rest

end

/-- `enforce_invocation_contract`. -/
def enforceInvocation (facade : PluginFacadeContract) (input : PluginInvocationInput) :
    Except String Unit := do
  if !facade.facadeOnly then
    .error "plugin facade contract violation: facade_only=false"
  if input.metadata.get "facade_channel" ≠ some pluginFacadeContractV2 then
    .error "plugin facade contract violation: missing facade_channel=plugin-facade-v2"
  if !facade.allowRepoDirect && containsForbidden input.payload then
    .error "plugin facade contract violation: direct repo/git payload is forbidden"
  if !facade.allowPatchStateDirect && containsForbidden input.payload then
    .error "plugin facade contract violation: direct patch-state payload is forbidden"
  match input.metadata.rows.find? fun row =>
      mentionsForbidden (toAsciiLowercase row.1 ++ "=" ++ toAsciiLowercase row.2) with
  | some row =>
    .error ("plugin facade contract violation: forbidden metadata key/value '" ++ row.1 ++
      "=" ++ row.2 ++ "'")
  | none => .ok ()

/-- `invoke_by_id`. -/
def invokeById (runner : SubprocessRunner) (pluginId : String) (input : PluginInvocationInput) :
    Except String PluginInvocationOutput := do
  let manifest ← host.resolve pluginId
  match host.plugins.get manifest.id with
  | none => .error ("plugin runtime not loaded: " ++ manifest.id)
  | some plugin =>
    enforceInvocation manifest.facade input
    match runner plugin.command plugin.args input with
    | .ok output => .ok output
    | .error message =>
      .error ("plugin invoke failed [" ++ manifest.id ++ "]: " ++ message)

/-! ## Loading -/

/-- The checks of `load_external` with the loader for subprocesses, whose runtimes carry
the manifest of the request. -/
def checkExternal (manifest : PluginManifestContract) (entrypoint : String) :
    Except String SubprocessPluginRuntime := do
  let (command, args) ← parseEntrypoint entrypoint
  manifest.enforce false
  if trim manifest.id = "" then
    .error "plugin manifest id cannot be empty"
  .ok ⟨manifest, command, args⟩

def load (runtime : SubprocessPluginRuntime) (entrypoint : String) (now : UInt64) :
    PluginHost where
  registrations := host.registrations.insert runtime.manifest.id
    ⟨runtime.manifest, .external, now, some entrypoint⟩
  plugins := host.plugins.insert runtime.manifest.id runtime

end PluginHost

end AutoLoop.Plugins
