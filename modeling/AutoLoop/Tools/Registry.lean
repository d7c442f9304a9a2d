import AutoLoop.Tools.Forge

/-!
# The tool registry

`ToolRegistry` over an attached store: the tool objects, the manifests of the forged ones
and the highest version of each lineage, with the operations that govern them.
-/

namespace AutoLoop.Tools

open Contracts StateAdapter

variable {F : Type}

/-! ## Tool objects -/

inductive ToolObject (F : Type) where
  | readFile
  | writeFile
  | stub (name : String)
  | mcpAdapter (server name : String)
  | forge (defaultServer : String)
  | forgedCatalog
  | capabilityVerifier
  | capabilityDeprecation
  | capabilityRollback
  | forged (name : String) (manifest : ForgedMcpToolManifest F)

def ToolObject.name : ToolObject F → String
  | .readFile => "read_file"
  | .writeFile => "write_file"
  | .stub name => name
  | .mcpAdapter _ name => name
  | .forge _ => "cli::forge_mcp_tool"
  | .forgedCatalog => "cli::list_forged_tools"
  | .capabilityVerifier => "cli::verify_capability"
  | .capabilityDeprecation => "cli::deprecate_capability"
  | .capabilityRollback => "cli::rollback_capability"
  | .forged name _ => name

/-! ## Registries -/

structure ToolRegistry (F : Type) where
  tools : Table String (ToolObject F)
  manifests : Table String (ForgedMcpToolManifest F)
  lineageMaxVersions : Table String UInt32

structure ToolsConfig where
  builtin : List String
  mcpServers : List String

namespace ToolsConfig

variable (config : ToolsConfig)

def defaultServer : String := config.mcpServers.head?.getD "local-mcp"

def builtinTool (name : String) : ToolObject F :=
  match name with
  | "read_file" => .readFile
  | "write_file" => .writeFile
  | name => .stub name

/-- The tools that `from_config` registers, in its order. -/
def baseTools : List (ToolObject F) :=
  config.builtin.map builtinTool ++
    config.mcpServers.map (fun server => .mcpAdapter server ("mcp::" ++ server ++ "::invoke")) ++
      [.forge config.defaultServer, .forgedCatalog, .capabilityVerifier, .capabilityDeprecation,
        .capabilityRollback]

end ToolsConfig

namespace ToolRegistry

variable (registry : ToolRegistry F)

def registerTool (tool : ToolObject F) : ToolRegistry F :=
  { registry with tools := registry.tools.insert tool.name tool }

def removeTool (name : String) : ToolRegistry F :=
  { registry with tools := registry.tools.erase name }

def registerManifest (manifest : ForgedMcpToolManifest F) : ToolRegistry F :=
  { registry with
    lineageMaxVersions := registry.lineageMaxVersions.insert manifest.lineageKey
      (max ((registry.lineageMaxVersions.get manifest.lineageKey).getD 0) manifest.version)
    manifests := registry.manifests.insert manifest.registeredToolName manifest }

def fromConfig (config : ToolsConfig) : ToolRegistry F :=
  config.baseTools.foldl registerTool ⟨Table.empty, Table.empty, Table.empty⟩

/-- `manifests()`, sorted by the registered names, which are the keys of the table. -/
def manifestList : List (ForgedMcpToolManifest F) := registry.manifests.rows.map (·.2)

def hydrateManifest (manifest : ForgedMcpToolManifest F) : ToolRegistry F :=
  if manifest.status ≠ .deprecated ∧ manifest.status ≠ .rolledBack then
    (registry.registerTool (.forged manifest.registeredToolName manifest)).registerManifest
      manifest
  else registry.registerManifest manifest

/-- `supply_chain_findings` of the registry. -/
def supplyChainFindings (hash : DefaultHasher) (manifest : ForgedMcpToolManifest F) :
    List String :=
  let lineageMaxVerified := (registry.lineageMaxVersions.get manifest.lineageKey).getD 0
  manifest.supplyChainFindings hash ++
  (if 0 < lineageMaxVerified ∧ manifest.version < lineageMaxVerified then
    ["version rollback detected: " ++ manifest.version.toNat.repr ++ " < trusted " ++
      lineageMaxVerified.toNat.repr] else []) ++
  (if Text.trim manifest.provenance.sourceRef = "" then
    ["provenance source_ref missing"] else [])

/-- The next version of a lineage; the addition wraps without overflow checks. -/
def nextVersion (lineageKey : String) : UInt32 :=
  (((registry.manifestList.filter (·.lineageKey = lineageKey)).map (·.version)).max?).getD 0 + 1

/-- `max_by_key` of the version, the last one of several. -/
def newestOf (manifests : List (ForgedMcpToolManifest F)) : Option (ForgedMcpToolManifest F) :=
  manifests.foldl (fun best manifest =>
    match best with
    | none => some manifest
    | some best => some (if manifest.version < best.version then best else manifest)) none

def previousOf (current : ForgedMcpToolManifest F) : Option (ForgedMcpToolManifest F) :=
  newestOf (registry.manifestList.filter fun manifest =>
    manifest.lineageKey = current.lineageKey ∧ manifest.version + 1 = current.version)

/-! ### Execution -/

def statusDebug : CapabilityStatus → String
  | .pendingVerification => "PendingVerification"
  | .active => "Active"
  | .deprecated => "Deprecated"
  | .rolledBack => "RolledBack"

def approvalDebug : ApprovalStatus → String
  | .pending => "Pending"
  | .verified => "Verified"
  | .rejected => "Rejected"

def trustDebug : TrustStatus → String
  | .pending => "Pending"
  | .trusted => "Trusted"
  | .rejected => "Rejected"

/-- The tool object that `execute_with_context` hands the arguments to. -/
def executedTool [FloatOps F] (name : String) : Except String (ToolObject F) := do
  match registry.manifests.get name with
  | none => pure ()
  | some manifest =>
    if !manifest.isExecutable then
      .error ("capability '" ++ name ++ "' is not executable: status=" ++
        statusDebug manifest.status ++ " approval=" ++ approvalDebug manifest.approvalStatus ++
        " health=" ++ FloatOps.fixed 2 manifest.healthScore)
    if manifest.trustStatus ≠ .trusted then
      .error ("capability '" ++ name ++ "' is not trusted: trust_status=" ++
        trustDebug manifest.trustStatus ++ " findings=" ++
        String.intercalate "; " manifest.trustFindings)
  match registry.tools.get name with
  | some tool => .ok tool
  | none => .error ("unknown tool: " ++ name)

end ToolRegistry

/-! ## Rows -/

/-- The JSON form of manifests; a health score that is not finite is written as `null` and
does not read back. -/
structure ManifestForm (F : Type) [FloatOps F] where
  encode : ForgedMcpToolManifest F → String
  decode : String → Except String (ForgedMcpToolManifest F)
  decode_encode : ∀ manifest, FloatOps.isFinite manifest.healthScore = true →
    decode (encode manifest) = .ok manifest
  decode_infinite : ∀ manifest, FloatOps.isFinite manifest.healthScore = false →
    ∃ message, decode (encode manifest) = .error message

def forgedToolPrefix : String := "tooling:forged:"

def forgedToolKey (name : String) : String := forgedToolPrefix ++ name

/-- What the operations of a registry read and change. -/
structure ToolWorld (F : Type) where
  shared : Shared
  registry : ToolRegistry F

abbrev ToolEffect (F α : Type) : Type := Effect (ToolWorld F) α

/-- A registry over its store. -/
structure ToolGovernance (F : Type) [FloatOps F] where
  config : ToolsConfig
  store : StateStore
  form : ManifestForm F
  hash : DefaultHasher

namespace ToolGovernance

variable [FloatOps F] (tools : ToolGovernance F)

def onStore {α : Type} (call : StoreCall α) : ToolEffect F α :=
  Effect.zoom (·.shared) (fun shared world => { world with shared }) call.run

/-- `current_time_ms`. -/
def clock : ToolEffect F UInt64 := onStore StateStore.nowMs

def current : ToolEffect F (ToolRegistry F) := fun world => (.ok world.registry, world)

def change (update : ToolRegistry F → ToolRegistry F) : ToolEffect F Unit :=
  Effect.modify fun world => { world with registry := update world.registry }

def persistManifest (manifest : ForgedMcpToolManifest F) : ToolEffect F Unit := do
  let _ ← onStore (tools.store.upsertJsonKnowledge (forgedToolKey manifest.registeredToolName)
    (.ok (tools.form.encode manifest)) "cli-forge")

/-! ### Restoring -/

def restoreRecords : List KnowledgeRecord → ToolEffect F Nat
  | [] => return 0
  | record :: rest => do
      let manifest ← Effect.ofExcept (tools.form.decode record.value)
      change (·.hydrateManifest manifest)
      let restored ← restoreRecords rest
      return restored + 1

def restorePersistedManifests : ToolEffect F Nat := do
  let records ← onStore (tools.store.listKnowledgeByPrefix forgedToolPrefix)
  tools.restoreRecords records

/-! ### Forging -/

section
variable (registry : ToolRegistry F) (manifest : ForgedMcpToolManifest F)

def versioned :
    ForgedMcpToolManifest F :=
  let lineageKey :=
    if manifest.lineageKey = "" then manifest.capabilityId else manifest.lineageKey
  let version := registry.nextVersion lineageKey
  { manifest with
    lineageKey
    version
    updatedAtMs := max manifest.updatedAtMs manifest.createdAtMs
    capabilityId :=
      if manifest.capabilityId = "" then lineageKey ++ ":v" ++ version.toNat.repr
      else manifest.capabilityId }

/-- The manifest as `upsert_governed_manifest` keeps it. -/
def governedManifest :
    ForgedMcpToolManifest F :=
  (versioned registry manifest).govern
    (registry.supplyChainFindings tools.hash (versioned registry manifest))

end

def upsertGovernedManifest (manifest : ForgedMcpToolManifest F) : ToolEffect F Unit := do
  let registry ← current
  let governed := tools.governedManifest registry manifest
  change (·.hydrateManifest governed)
  tools.persistManifest governed

section
variable (request : McpToolForgeRequest)

def requestServer : String :=
  request.server.getD tools.config.defaultServer

def requestToolName : String :=
  "mcp::" ++ tools.requestServer request ++ "::" ++ request.capabilitySlug

/-- `cli::forge_mcp_tool` on a request; it answers the manifest as it was built. -/
def forgeMcpTool : ToolEffect F (ForgedMcpToolManifest F) :=
  if request.capabilitySlug = "" then
    Effect.fail "capability_name must contain at least one alphanumeric character"
  else do
    let nowMs ← clock
    let manifest ← Effect.ofExcept (buildManifest tools.hash (tools.requestToolName request)
      (tools.requestServer request) request nowMs)
    tools.upsertGovernedManifest manifest
    return manifest

end

/-! ### Governance -/

/-- The manifest that fails its verification at some time. -/
def rejected (manifest : ForgedMcpToolManifest F) (trustFindings : List String)
    (updatedAtMs : UInt64) : ForgedMcpToolManifest F :=
  { manifest with
    trustFindings
    trustStatus := .rejected
    approvalStatus := .rejected
    status := .pendingVerification
    updatedAtMs }

/-- The manifest that passes its verification. -/
def verified (manifest : ForgedMcpToolManifest F) (trustFindings : List String)
    (approvedAtMs updatedAtMs : UInt64) : ForgedMcpToolManifest F :=
  { manifest with
    trustFindings
    status := .active
    approvalStatus := .verified
    trustStatus := .trusted
    healthScore := max manifest.healthScore 0.8
    approvedAtMs := some approvedAtMs
    updatedAtMs }

def deprecated (manifest : ForgedMcpToolManifest F) (healthScore : F) (updatedAtMs : UInt64) :
    ForgedMcpToolManifest F :=
  { manifest with status := .deprecated, healthScore, updatedAtMs }

def verifyCapability (toolName : String) : ToolEffect F (Option (ForgedMcpToolManifest F)) := do
  let registry ← current
  match registry.manifests.get toolName with
  | none => return none
  | some manifest =>
    let trustFindings := registry.supplyChainFindings tools.hash manifest
    if trustFindings ≠ [] then do
      let updatedAtMs ← clock
      let rejected := rejected manifest trustFindings updatedAtMs
      change (·.registerManifest rejected)
      tools.persistManifest rejected
      Effect.fail ("capability '" ++ toolName ++ "' failed trusted supply-chain verification: " ++
        String.intercalate "; " trustFindings)
    else do
      let approvedAtMs ← clock
      let updatedAtMs ← clock
      let verified := verified manifest trustFindings approvedAtMs updatedAtMs
      change (·.hydrateManifest verified)
      tools.persistManifest verified
      return some verified

def deprecateCapability (toolName : String) (healthScore : F) :
    ToolEffect F (Option (ForgedMcpToolManifest F)) := do
  let registry ← current
  match registry.manifests.get toolName with
  | none => return none
  | some manifest =>
    let updatedAtMs ← clock
    let deprecated := deprecated manifest healthScore updatedAtMs
    change fun registry => (registry.removeTool toolName).registerManifest deprecated
    tools.persistManifest deprecated
    return some deprecated

def rollbackCapability (toolName : String) :
    ToolEffect F (Option (ForgedMcpToolManifest F)) := do
  let registry ← current
  match registry.manifests.get toolName with
  | none => return none
  | some manifest =>
    match registry.previousOf manifest with
    | none => return none
    | some previous =>
      let updatedAtMs ← clock
      let rolledBack : ForgedMcpToolManifest F :=
        { manifest with
          status := .rolledBack
          rollbackToVersion := some previous.version
          updatedAtMs }
      change fun registry => (registry.removeTool toolName).registerManifest rolledBack
      tools.persistManifest rolledBack
      let updatedAtMs ← clock
      let restored : ForgedMcpToolManifest F :=
        { previous with status := .active, approvalStatus := .verified, updatedAtMs }
      change (·.hydrateManifest restored)
      tools.persistManifest restored
      return some restored

def retireOne (candidate : ForgedMcpToolManifest F) :
    ToolEffect F (Option (ForgedMcpToolManifest F)) := do
  match ← tools.rollbackCapability candidate.registeredToolName with
  | some rolledBack => return some rolledBack
  | none =>
    let healthScore := min candidate.healthScore 0.35
    tools.deprecateCapability candidate.registeredToolName healthScore

def retire : List (ForgedMcpToolManifest F) → ToolEffect F (List (ForgedMcpToolManifest F))
  | [] => return []
  | candidate :: rest => do
      let changed ← tools.retireOne candidate
      let later ← retire rest
      return changed.toList ++ later

def autoRetireUnhealthyCapabilities : ToolEffect F (List (ForgedMcpToolManifest F)) := do
  let registry ← current
  tools.retire (registry.manifestList.filter fun manifest =>
    manifest.status = .active && manifest.approvalStatus = .verified &&
      manifest.healthScore < (0.45 : F))

/-- A fresh registry over the same store. -/
def restart : ToolEffect F Unit := change fun _ => ToolRegistry.fromConfig tools.config

end ToolGovernance

end AutoLoop.Tools
