import AutoLoop.Plugins.Lifecycle
import AutoLoop.StateAdapter.RecordForms

/-!
# Forms of plugin records

A form for each row of a plugin, with the law of the real one, and signatures that tell
their arguments apart.
-/

namespace AutoLoop.Plugins

open StateAdapter

namespace PlainForms

variable {Key Value : Type}

instance tableForm [LinearOrder Key] [FieldForm Key] [FieldForm Value] :
    FieldForm (Table Key Value) where
  write table := FieldForm.write table.rows
  read fields := do
    let found : List (Key × Value) × List String ← FieldForm.read fields
    if increasing : found.1.Pairwise fun row later => row.1 < later.1 then
      some (⟨found.1, increasing⟩, found.2)
    else none
  read_write table rest := by
    simp only [FieldForm.read_write, Option.bind_eq_bind, Option.bind_some, table.increasing,
      dif_pos]
  nonempty table := FieldForm.nonempty table.rows

instance optionForm [FieldForm Value] : FieldForm (Option Value) where
  write value := FieldForm.write value.toList
  read fields := (FieldForm.read fields).map fun found : List Value × List String =>
    (found.1.head?, found.2)
  read_write value rest := by
    rw [FieldForm.read_write, Option.map_some]
    cases value with
    | none => rfl
    | some value => rfl
  nonempty value := FieldForm.nonempty value.toList

instance boolForm : FieldForm Bool :=
  .ofText (fun value => if value then "true" else "false")
    (fun
      | "true" => some true
      | "false" => some false
      | _ => none)
    fun value => by cases value <;> rfl

instance byteForm : FieldForm UInt8 :=
  .ofText (·.toNat.repr) (fun field => (Text.parseUnsigned (2 ^ 8) field).map UInt8.ofNat)
    fun value => by
      rw [Text.parseUnsigned_repr value.toNat_lt, Option.map_some, UInt8.ofNat_toNat]

instance stateForm : FieldForm PluginState :=
  .ofText PluginState.name
    (fun
      | "installed" => some .installed
      | "enabled" => some .enabled
      | "disabled" => some .disabled
      | "deprecated" => some .deprecated
      | "rolled_back" => some .rolledBack
      | _ => none)
    fun value => by cases value <;> rfl

instance kindForm : FieldForm PluginKind :=
  .ofText PluginKind.name
    (fun
      | "graph_projection" => some .graphProjection
      | "vector_projection" => some .vectorProjection
      | "search_projection" => some .searchProjection
      | "supermemory_federation" => some .supermemoryFederation
      | "source_adapter" => some .sourceAdapter
      | "context_constraint" => some .contextConstraint
      | "soft_estimator" => some .softEstimator
      | "optimizer" => some .optimizer
      | "repair" => some .repair
      | "proof" => some .proof
      | "tool" => some .tool
      | "hook" => some .hook
      | "transport" => some .transport
      | "service" => some .service
      | "other" => some .other
      | _ => none)
    fun value => by cases value <;> rfl

instance riskForm : FieldForm PluginRisk :=
  .ofText PluginRisk.name
    (fun
      | "low" => some .low
      | "medium" => some .medium
      | "high" => some .high
      | "critical" => some .critical
      | _ => none)
    fun value => by cases value <;> rfl

instance rolloutModeForm : FieldForm PluginRolloutMode :=
  .ofText PluginRolloutMode.label
    (fun
      | "shadow" => some .shadow
      | "canary" => some .canary
      | "full" => some .full
      | "rollback" => some .rollback
      | _ => none)
    fun value => by cases value <;> rfl

def latest : JsonForm StoredPlugin :=
  .ofFields
    (fun row =>
      ((row.pluginId, row.state),
        (row.manifest.id, row.manifest.pluginId, row.manifest.version, row.manifest.kind,
          row.manifest.capability.capabilityId, row.manifest.capability.description,
          row.manifest.capability.scopes, row.manifest.risk),
        (row.manifest.compat.apiVersion, row.manifest.compat.compatibleApiVersions,
          row.manifest.compat.minCoreVersion, row.manifest.compat.maxCoreVersion),
        (row.manifest.name, row.manifest.source, row.manifest.signatureRef,
          row.manifest.permissions, row.manifest.hooks, row.manifest.commands),
        (row.manifest.eventContractVersion, row.manifest.lifecycleContractVersion,
          row.manifest.isolation.timeoutMs, row.manifest.isolation.maxMemoryMb),
        (row.manifest.facade.contractVersion, row.manifest.facade.facadeOnly,
          row.manifest.facade.allowRepoDirect, row.manifest.facade.allowPatchStateDirect,
          row.manifest.facade.allowedFacadeOps),
        row.manifest.metadata))
    (fun ((rowId, state), (id, pluginId, version, kind, capabilityId, description, scopes, risk),
        (apiVersion, compatibleApiVersions, minCoreVersion, maxCoreVersion),
        (name, source, signatureRef, permissions, hooks, commands),
        (eventContractVersion, lifecycleContractVersion, timeoutMs, maxMemoryMb),
        (contractVersion, facadeOnly, allowRepoDirect, allowPatchStateDirect, allowedFacadeOps),
        metadata) =>
      ⟨rowId, state,
        { id, pluginId, version, kind, risk, name, source, signatureRef, permissions, hooks
          commands, eventContractVersion, lifecycleContractVersion, metadata
          capability := ⟨capabilityId, description, scopes⟩
          compat := ⟨apiVersion, compatibleApiVersions, minCoreVersion, maxCoreVersion⟩
          isolation := ⟨timeoutMs, maxMemoryMb⟩
          facade := ⟨contractVersion, facadeOnly, allowRepoDirect, allowPatchStateDirect,
            allowedFacadeOps⟩ }⟩)
    fun _ => rfl

def event : JsonForm PluginLifecycleEvent :=
  .ofFields
    (fun event => (event.pluginId, event.fromState, event.toState, event.reason, event.operator,
      event.atMs))
    (fun (pluginId, fromState, toState, reason, operator, atMs) =>
      ⟨pluginId, fromState, toState, reason, operator, atMs⟩)
    fun _ => rfl

def index : JsonForm (List PluginIndexEntry) :=
  .ofFields
    (fun entries => entries.map fun entry =>
      (entry.pluginId, entry.state, entry.version, entry.verified, entry.rolloutMode,
        entry.rolloutTrafficPercent))
    (fun fields => fields.map fun
      (pluginId, state, version, verified, rolloutMode, rolloutTrafficPercent) =>
        ⟨pluginId, state, version, verified, rolloutMode, rolloutTrafficPercent⟩)
    fun entries => by
      rw [List.map_map]
      exact List.map_id entries

/-- The compact text of a value whose only number with a fraction is the score of a medium
risk. -/
def compactText : JsonValue → String
  | .null => "null"
  | .bool value => if value then "true" else "false"
  | .number (.posInt value) => value.toNat.repr
  | .number (.negInt value) => value.toInt.repr
  | .number (.float _) => "0.8199999928474426"
  | .string text => Json.quote text
  | .array items => "[" ++ Text.joinWith ',' (items.map compactText) ++ "]"
  | .object members => Json.object (members.map fun member => (member.1, compactText member.2))
termination_by value => sizeOf value
decreasing_by
  · exact JsonValue.sizeOf_item ‹_›
  · exact JsonValue.sizeOf_member ‹_›

def all : PluginForms where
  latest
  event
  index
  toText := compactText

/-- The arguments of a signature, one after another. -/
def signatureForm : JsonForm (String × String × String × String) :=
  .ofFields id id fun _ => rfl

/-- Signatures that tell all their arguments apart. -/
def separateSign : PluginSigner := fun pluginId source tenantId requestedBy =>
  signatureForm.encode (pluginId, source, tenantId, requestedBy)

theorem separateSign_inj {pluginId source tenantId requestedBy : String}
    {otherId other otherTenant otherBy : String}
    (same : separateSign pluginId source tenantId requestedBy =
      separateSign otherId other otherTenant otherBy) :
    (pluginId, source, tenantId, requestedBy) = (otherId, other, otherTenant, otherBy) := by
  have decoded := congrArg signatureForm.decode same
  rw [separateSign, separateSign, signatureForm.decode_encode, signatureForm.decode_encode]
    at decoded
  exact Option.some.inj decoded

end PlainForms

end AutoLoop.Plugins
