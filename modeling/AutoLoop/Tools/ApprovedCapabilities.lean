import AutoLoop.Plugins.PlainForms
import AutoLoop.Runtime.BudgetBooks
import AutoLoop.Tools.GovernanceSteps

/-!
# Forms of manifests

A form of manifests with rational health scores, with the law of the real one: their fields
one after another, each as a text.
-/

namespace AutoLoop.Tools

open Contracts StateAdapter Plugins.PlainForms

namespace PlainManifests

/-- Natural numbers by so many marks. -/
instance countForm : FieldForm Nat :=
  .ofText (fun count => String.ofList (List.replicate count 'x'))
    (fun field => some field.toList.length)
    fun count => by rw [String.toList_ofList, List.length_replicate]

instance outputModeForm : FieldForm CliOutputMode :=
  .ofText CliOutputMode.debug
    (fun
      | "Human" => some .human
      | "Json" => some .json
      | "Both" => some .both
      | _ => none)
    fun value => by cases value <;> rfl

instance statusForm : FieldForm CapabilityStatus :=
  .ofText ToolRegistry.statusDebug
    (fun
      | "PendingVerification" => some .pendingVerification
      | "Active" => some .active
      | "Deprecated" => some .deprecated
      | "RolledBack" => some .rolledBack
      | _ => none)
    fun value => by cases value <;> rfl

instance approvalForm : FieldForm ApprovalStatus :=
  .ofText ToolRegistry.approvalDebug
    (fun
      | "Pending" => some .pending
      | "Verified" => some .verified
      | "Rejected" => some .rejected
      | _ => none)
    fun value => by cases value <;> rfl

instance trustForm : FieldForm TrustStatus :=
  .ofText ToolRegistry.trustDebug
    (fun
      | "Pending" => some .pending
      | "Trusted" => some .trusted
      | "Rejected" => some .rejected
      | _ => none)
    fun value => by cases value <;> rfl

instance capabilityRiskForm : FieldForm CapabilityRisk :=
  .ofText CapabilityRisk.debug
    (fun
      | "Low" => some .low
      | "Medium" => some .medium
      | "High" => some .high
      | _ => none)
    fun value => by cases value <;> rfl

instance scopeForm : FieldForm CapabilityScope :=
  .ofText
    (fun
      | .session => "session"
      | .taskFamily => "task_family"
      | .global => "global")
    (fun
      | "session" => some .session
      | "task_family" => some .taskFamily
      | "global" => some .global
      | _ => none)
    fun value => by cases value <;> rfl

/-- A rational number by its numerator's positive and negative parts and its denominator. -/
def parts (value : ℚ) : Nat × Nat × Nat :=
  (value.num.toNat, (-value.num).toNat, value.den)

def ofParts (parts : Nat × Nat × Nat) : ℚ := mkRat (parts.1 - parts.2.1) parts.2.2

theorem ofParts_parts (value : ℚ) : ofParts (parts value) = value := by
  have isNum : (value.num.toNat : Int) - ((-value.num).toNat : Int) = value.num := by omega
  simp only [ofParts, parts, isNum, Rat.mkRat_self]

def componentFields (component : SbomComponent) : String × String × String × String :=
  (component.name, component.version, component.source, component.checksum)

def ofComponentFields (fields : String × String × String × String) : SbomComponent :=
  ⟨fields.1, fields.2.1, fields.2.2.1, fields.2.2.2⟩

theorem components_read (components : List SbomComponent) :
    (components.map componentFields).map ofComponentFields = components := by
  rw [List.map_map]
  exact List.map_id components

set_option synthInstance.maxSize 512 in
def rows : JsonForm (ForgedMcpToolManifest ℚ) :=
  .ofFields
    (fun manifest =>
      ((manifest.capabilityId, manifest.registeredToolName, manifest.delegateToolName,
          manifest.server, manifest.capabilityName, manifest.purpose, manifest.executable,
          manifest.commandTemplate),
        (manifest.payloadTemplate.server, manifest.payloadTemplate.capabilityName,
          manifest.payloadTemplate.command, manifest.payloadTemplate.arguments,
          manifest.payloadTemplate.outputMode, manifest.payloadTemplate.workingDirectory,
          manifest.payloadTemplate.successSignal),
        (manifest.outputMode, manifest.workingDirectory, manifest.successSignal,
          manifest.helpText, manifest.skillMarkdown, manifest.examples, manifest.version,
          manifest.lineageKey),
        (manifest.status, manifest.approvalStatus, parts manifest.healthScore, manifest.scope,
          manifest.tags, manifest.risk, manifest.requestedBy),
        (manifest.createdAtMs, manifest.updatedAtMs, manifest.approvedAtMs,
          manifest.rollbackToVersion, manifest.trustStatus, manifest.trustFindings),
        (manifest.artifact.artifactId, manifest.artifact.digestSha256,
          manifest.artifact.sourceUri, manifest.artifact.buildEpoch),
        (manifest.signature.signer, manifest.signature.signedPayloadHash,
          manifest.signature.signature, manifest.signature.signedAtMs),
        (manifest.provenance.sourceRepo, manifest.provenance.sourceRef,
          manifest.provenance.builder, manifest.provenance.generatedBy),
        (manifest.sbom.map componentFields, manifest.trustPolicy.requiredSigners,
          manifest.trustPolicy.blockedDependencies, manifest.trustPolicy.minProvenanceRefLen)))
    (fun ((capabilityId, registeredToolName, delegateToolName, server, capabilityName, purpose,
          executable, commandTemplate),
        (payloadServer, payloadName, command, arguments, payloadMode, payloadDirectory,
          payloadSignal),
        (outputMode, workingDirectory, successSignal, helpText, skillMarkdown, examples, version,
          lineageKey),
        (status, approvalStatus, health, scope, tags, risk, requestedBy),
        (createdAtMs, updatedAtMs, approvedAtMs, rollbackToVersion, trustStatus, trustFindings),
        (artifactId, digestSha256, sourceUri, buildEpoch),
        (signer, signedPayloadHash, signature, signedAtMs),
        (sourceRepo, sourceRef, builder, generatedBy),
        (components, requiredSigners, blockedDependencies, minProvenanceRefLen)) =>
      { capabilityId, registeredToolName, delegateToolName, server, capabilityName, purpose
        executable, commandTemplate, outputMode, workingDirectory, successSignal, helpText
        skillMarkdown, examples, version, lineageKey, status, approvalStatus, scope, tags, risk
        requestedBy, createdAtMs, updatedAtMs, approvedAtMs, rollbackToVersion, trustStatus
        trustFindings
        payloadTemplate := ⟨payloadServer, payloadName, command, arguments, payloadMode,
          payloadDirectory, payloadSignal⟩
        healthScore := ofParts health
        artifact := ⟨artifactId, digestSha256, sourceUri, buildEpoch⟩
        signature := ⟨signer, signedPayloadHash, signature, signedAtMs⟩
        provenance := ⟨sourceRepo, sourceRef, builder, generatedBy⟩
        sbom := components.map ofComponentFields
        trustPolicy := ⟨requiredSigners, blockedDependencies, minProvenanceRefLen⟩ })
    fun manifest => by
      dsimp only
      rw [ofParts_parts, components_read]

def form : ManifestForm ℚ where
  encode := rows.encode
  decode text :=
    match rows.decode text with
    | some manifest => .ok manifest
    | none => .error "invalid manifest"
  decode_encode manifest _ := by rw [rows.decode_encode]
  decode_infinite manifest infinite := by cases infinite

end PlainManifests

end AutoLoop.Tools

/-!
## Approved capabilities

Whatever calls a registry takes, a forged tool that executes carries the manifest that the
registry keeps of its name, nothing is found about its supply chain, and its version was
accepted last.
-/

namespace AutoLoop.Tools

open Contracts StateAdapter ToolRegistry ToolGovernance List Effect Table

/-! ## Names -/

theorem eq_colon_of_toLower {char : Char} (isColon : char.toLower = ':') : char = ':' := by
  delta Char.toLower at isColon
  split at isColon
  · next isUpper =>
    obtain ⟨low, high⟩ := isUpper
    have value : char.val + 32 = 58 := congrArg Char.val isColon
    have below : (65 : UInt32) ≤ char.val := low
    have above : char.val ≤ (90 : UInt32) := high
    grind
  · exact isColon

theorem not_mem_sanitizeFrom (previousDash : Bool) (text : List Char) :
    ':' ∉ sanitizeFrom previousDash text := by
  induction text generalizing previousDash with
  | nil => exact not_mem_nil
  | cons char rest ih =>
    rw [sanitizeFrom]
    split
    · next isAlphanum =>
      intro membership
      cases mem_cons.mp membership with
      | inl isColon =>
        rw [eq_colon_of_toLower isColon.symm] at isAlphanum
        exact absurd isAlphanum (by decide)
      | inr later => exact ih false later
    · split
      · exact ih true
      · intro membership
        cases mem_cons.mp membership with
        | inl isColon => cases isColon
        | inr later => exact ih true later

theorem mem_of_mem_trimMatches {char other : Char} {text : List Char}
    (membership : other ∈ trimMatches char text) : other ∈ text := by
  have inReverse := mem_reverse.mp membership
  have inStart := mem_reverse.mp ((dropWhile_suffix _).mem inReverse)
  exact (dropWhile_suffix _).mem inStart

theorem not_mem_capabilitySlug (request : McpToolForgeRequest) :
    ':' ∉ request.capabilitySlug.toList := by
  rw [McpToolForgeRequest.capabilitySlug, sanitizeSegment, String.toList_ofList]
  intro membership
  exact not_mem_sanitizeFrom false _ (mem_of_mem_trimMatches membership)

theorem append_colon_inj {server other slug otherSlug : String}
    (same : server ++ ":" ++ slug = other ++ ":" ++ otherSlug) (clean : ':' ∉ slug.toList)
    (otherClean : ':' ∉ otherSlug.toList) : server = other ∧ slug = otherSlug := by
  have lists := congrArg String.toList same
  simp only [String.toList_append] at lists
  have slugs : slug.toList = otherSlug.toList :=
    Text.after_last_separator lists clean otherClean
  rw [slugs, append_cancel_right_eq, append_cancel_right_eq] at lists
  exact ⟨String.toList_inj.mp lists, String.toList_inj.mp slugs⟩

/-! ## Approved manifests -/

variable {F : Type} [FloatOps F]

omit [FloatOps F] in
/-- The manifest of a name: it is named and numbered by it, only a manifest without findings
is trusted, and only an accepted version is active. -/
structure ForgedMcpToolManifest.Approved (manifest : ForgedMcpToolManifest F)
    (hash : DefaultHasher) (log : List CapabilityEvent) (name : String) : Prop where
  named : manifest.registeredToolName = name
  lineage : ∃ server slug, ':' ∉ slug.toList ∧ name = "mcp::" ++ server ++ "::" ++ slug ∧
    manifest.lineageKey = server ++ ":" ++ slug
  trusted : manifest.trustStatus = .trusted → manifest.supplyChainFindings hash = []
  accepted : manifest.status = .active → Accepted log name manifest.version

section Approved

variable {manifest : ForgedMcpToolManifest F} {hash : DefaultHasher}
variable {log events : List CapabilityEvent} {name other : String}

omit [FloatOps F] in
theorem ForgedMcpToolManifest.Approved.later (approved : manifest.Approved hash log name)
    (others : ∀ event ∈ events, event.name ≠ name) :
    manifest.Approved hash (events ++ log) name where
  named := approved.named
  lineage := approved.lineage
  trusted := approved.trusted
  accepted := fun isActive => (accepted_append others).mpr (approved.accepted isActive)

omit [FloatOps F] in
theorem ForgedMcpToolManifest.Approved.name_eq {second : ForgedMcpToolManifest F}
    (approved : manifest.Approved hash log name) (also : second.Approved hash log other)
    (sameLineage : manifest.lineageKey = second.lineageKey) : name = other := by
  obtain ⟨server, slug, clean, isName, isLineage⟩ := approved.lineage
  obtain ⟨otherServer, otherSlug, otherClean, isOther, isOtherLineage⟩ := also.lineage
  rw [isLineage, isOtherLineage] at sameLineage
  obtain ⟨servers, slugs⟩ := append_colon_inj sameLineage clean otherClean
  rw [isName, isOther, servers, slugs]

end Approved

/-- What a registry and its store keep of the capabilities. -/
structure Governed (tools : ToolGovernance F) (log : List CapabilityEvent)
    (world : ToolWorld F) : Prop where
  live : ∀ name manifest, world.registry.manifests.get name = some manifest →
    manifest.Approved tools.hash log name
  carried : ∀ name toolName carried,
    world.registry.tools.get name = some (.forged toolName carried) →
      ∃ manifest, world.registry.manifests.get name = some manifest ∧
        (manifest.status = .active → carried = manifest)
  stored : ∀ name text, world.row (forgedToolKey name) = some text →
    ∃ manifest, text = tools.form.encode manifest ∧ manifest.Approved tools.hash log name ∧
      ∀ current, world.registry.manifests.get name = some current → current = manifest

section Governed

variable {tools : ToolGovernance F} {log events : List CapabilityEvent}
variable {world after : ToolWorld F} {manifest : ForgedMcpToolManifest F}

section
variable (governed : Governed tools log world)
include governed

theorem Governed.executes {name toolName : String} {carried : ForgedMcpToolManifest F}
    (executed : world.registry.executedTool name = .ok (.forged toolName carried)) :
    world.registry.manifests.get name = some carried ∧
      carried.supplyChainFindings tools.hash = [] ∧ Accepted log name carried.version := by
  rw [executedTool] at executed
  cases found : world.registry.manifests.get name with
  | none =>
    rw [found] at executed
    cases isTool : world.registry.tools.get name with
    | none =>
      rw [isTool] at executed
      cases executed
    | some tool =>
      rw [isTool] at executed
      cases executed
      obtain ⟨manifest, isManifest, -⟩ := governed.carried name toolName carried isTool
      rw [found] at isManifest
      cases isManifest
  | some manifest =>
    rw [found] at executed
    by_cases executable : manifest.isExecutable = true
    · obtain ⟨⟨⟨isActive, isVerified⟩, isTrusted⟩, isHealthy⟩ : ((manifest.status = .active ∧
          manifest.approvalStatus = .verified) ∧ manifest.trustStatus = .trusted) ∧
            (0.55 : F) ≤ manifest.healthScore := by
        simpa [ForgedMcpToolManifest.isExecutable] using executable
      cases isTool : world.registry.tools.get name with
      | none =>
        rw [isTool] at executed
        simp [executable, isTrusted, bind, Except.bind, pure, Except.pure] at executed
      | some tool =>
        rw [isTool] at executed
        simp [executable, isTrusted, bind, Except.bind, pure, Except.pure] at executed
        rw [executed] at isTool
        obtain ⟨kept, isKept, same⟩ := governed.carried name toolName carried isTool
        rw [found, Option.some.injEq] at isKept
        rw [← isKept] at same
        have approved := governed.live name manifest found
        rw [same isActive]
        exact ⟨rfl, approved.trusted isTrusted, approved.accepted isActive⟩
    · simp [executable, bind, Except.bind] at executed

theorem Governed.put
    (approved : manifest.Approved tools.hash (events ++ log) manifest.registeredToolName)
    (events_name : ∀ event ∈ events, event.name = manifest.registeredToolName)
    (manifests : after.registry.manifests =
      world.registry.manifests.insert manifest.registeredToolName manifest)
    (otherTools : ∀ name, name ≠ manifest.registeredToolName →
      after.registry.tools.get name = world.registry.tools.get name)
    (ownTool : ∀ toolName carried,
      after.registry.tools.get manifest.registeredToolName = some (.forged toolName carried) →
        manifest.status = .active → carried = manifest)
    (otherRows : ∀ name, name ≠ manifest.registeredToolName →
      after.row (forgedToolKey name) = world.row (forgedToolKey name))
    (ownRow : ∀ text, after.row (forgedToolKey manifest.registeredToolName) = some text →
      text = tools.form.encode manifest) :
    Governed tools (events ++ log) after := by
  have otherEvents : ∀ name, name ≠ manifest.registeredToolName →
      ∀ event ∈ events, event.name ≠ name := by
    intro name isOther event isEvent
    rw [events_name event isEvent]
    exact Ne.symm isOther
  constructor
  · intro name found isFound
    rw [manifests, get_insert] at isFound
    split at isFound
    · next isName =>
      cases isFound
      rw [isName]
      exact approved
    · next isOther => exact (governed.live name found isFound).later (otherEvents name isOther)
  · intro name toolName carried isTool
    rw [manifests, get_insert]
    by_cases isName : name = manifest.registeredToolName
    · rw [if_pos isName]
      rw [isName] at isTool
      exact ⟨manifest, rfl, ownTool toolName carried isTool⟩
    · rw [if_neg isName]
      rw [otherTools name isName] at isTool
      exact governed.carried name toolName carried isTool
  · intro name text isRow
    rw [manifests, get_insert]
    by_cases isName : name = manifest.registeredToolName
    · rw [if_pos isName]
      rw [isName] at isRow ⊢
      refine ⟨manifest, ownRow text isRow, approved, ?_⟩
      intro current isCurrent
      exact (Option.some.inj isCurrent).symm
    · rw [if_neg isName]
      rw [otherRows name isName] at isRow
      obtain ⟨stored, isText, isApproved, isCurrent⟩ := governed.stored name text isRow
      exact ⟨stored, isText, isApproved.later (otherEvents name isName), isCurrent⟩

theorem Governed.persist {update : ToolRegistry F → ToolRegistry F}
    (persists : Persists tools update manifest world after)
    (approved : manifest.Approved tools.hash (events ++ log) manifest.registeredToolName)
    (events_name : ∀ event ∈ events, event.name = manifest.registeredToolName)
    (manifests : (update world.registry).manifests =
      world.registry.manifests.insert manifest.registeredToolName manifest)
    (otherTools : ∀ name, name ≠ manifest.registeredToolName →
      (update world.registry).tools.get name = world.registry.tools.get name)
    (ownTool : ∀ toolName carried, (update world.registry).tools.get manifest.registeredToolName =
          some (.forged toolName carried) →
        manifest.status = .active → carried = manifest) :
    Governed tools (events ++ log) after := by
  rw [← persists.registry] at manifests otherTools ownTool
  apply governed.put approved events_name manifests otherTools ownTool
  · intro name isOther
    rw [persists.rows, if_neg]
    intro sameKey
    exact isOther (forgedToolKey_inj.mp sameKey)
  · intro text isRow
    rw [persists.rows, if_pos rfl, Option.some.injEq] at isRow
    exact isRow.symm

/-- Time that passes changes nothing. -/
theorem Governed.still (still : world.Still after) :
    Governed tools log after := by
  obtain ⟨sameRegistry, sameRows⟩ := still
  constructor
  · rw [sameRegistry]
    exact governed.live
  · rw [sameRegistry]
    exact governed.carried
  · intro name text isRow
    rw [sameRows] at isRow
    rw [sameRegistry]
    exact governed.stored name text isRow

end

end Governed

namespace ToolRegistry

variable (registry : ToolRegistry F) {manifest : ForgedMcpToolManifest F}

omit [FloatOps F] in
theorem manifests_hydrateManifest :
    (registry.hydrateManifest manifest).manifests =
      registry.manifests.insert manifest.registeredToolName manifest := by
  rw [hydrateManifest]
  split
  · rfl
  · rfl

omit [FloatOps F] in
theorem tools_hydrateManifest_of_ne {name : String} (isOther : name ≠ manifest.registeredToolName) :
    (registry.hydrateManifest manifest).tools.get name = registry.tools.get name := by
  rw [hydrateManifest]
  split
  · exact get_insert_of_ne _ _ isOther
  · rfl

omit [FloatOps F] in
theorem carried_hydrateManifest {toolName : String} {carried : ForgedMcpToolManifest F}
    (isTool : (registry.hydrateManifest manifest).tools.get manifest.registeredToolName =
      some (.forged toolName carried)) (isActive : manifest.status = .active) :
    carried = manifest := by
  rw [hydrateManifest, if_pos (by simp [isActive])] at isTool
  have put := get_insert_self registry.tools manifest.registeredToolName
    (ToolObject.forged manifest.registeredToolName manifest)
  cases put.symm.trans isTool
  rfl

end ToolRegistry

section Governed

variable {tools : ToolGovernance F} {log events : List CapabilityEvent}
variable {world after : ToolWorld F} {manifest : ForgedMcpToolManifest F}

theorem Governed.hydrate (governed : Governed tools log world)
    (persists : Persists tools (·.hydrateManifest manifest) manifest world after)
    (approved : manifest.Approved tools.hash (events ++ log) manifest.registeredToolName)
    (events_name : ∀ event ∈ events, event.name = manifest.registeredToolName) :
    Governed tools (events ++ log) after :=
  governed.persist persists approved events_name
    (ToolRegistry.manifests_hydrateManifest world.registry)
    (fun _ isOther => ToolRegistry.tools_hydrateManifest_of_ne world.registry isOther)
    (fun _ _ isTool isActive =>
      ToolRegistry.carried_hydrateManifest world.registry isTool isActive)

end Governed

/-! ## Forged manifests -/

section Forged

variable {hash : DefaultHasher} {toolName server : String} {request : McpToolForgeRequest}
variable {nowMs : UInt64} {built : ForgedMcpToolManifest F}

omit [FloatOps F] in
/-- What is found about a manifest is kept beside it. -/
theorem govern_cases (manifest : ForgedMcpToolManifest F) (findings : List String) :
    findings = [] ∧
        manifest.govern findings =
          { manifest with trustFindings := findings, trustStatus := .trusted } ∨
      manifest.govern findings =
        { manifest with
          trustFindings := findings
          trustStatus := .rejected
          approvalStatus := .rejected
          status := .pendingVerification } := by
  rw [ForgedMcpToolManifest.govern]
  split
  · next nothing => exact Or.inl ⟨nothing, rfl⟩
  · exact Or.inr rfl

omit [FloatOps F] in
theorem govern_facts (manifest : ForgedMcpToolManifest F) (findings : List String) :
    (manifest.govern findings).registeredToolName = manifest.registeredToolName ∧
      (manifest.govern findings).lineageKey = manifest.lineageKey ∧
      (manifest.govern findings).risk = manifest.risk ∧
      ((manifest.govern findings).status = .active → manifest.status = .active) := by
  cases govern_cases manifest findings with
  | inl trusted =>
    rw [trusted.2]
    exact ⟨rfl, rfl, rfl, id⟩
  | inr rejects =>
    rw [rejects]
    refine ⟨rfl, rfl, rfl, ?_⟩
    intro isActive
    cases isActive

theorem risk_signedManifest
    (isActive : (signedManifest hash toolName server request nowMs :
      ForgedMcpToolManifest F).status = .active) : request.inferRisk = .low := by
  by_contra notLow
  have pending : (signedManifest hash toolName server request nowMs :
      ForgedMcpToolManifest F).status = .pendingVerification := if_neg notLow
  rw [pending] at isActive
  cases isActive

theorem built_facts (isBuilt : buildManifest hash toolName server request nowMs = .ok built) :
    built.registeredToolName = toolName ∧
      built.lineageKey = server ++ ":" ++ request.capabilitySlug ∧
      (built.status = .active → built.risk = .low) := by
  unfold buildManifest at isBuilt
  by_cases blank : Text.trim request.executable = ""
  · rw [if_pos blank] at isBuilt
    cases isBuilt
  · rw [if_neg blank] at isBuilt
    rw [← Except.ok.inj isBuilt]
    obtain ⟨sameName, sameLineage, sameRisk, wasActive⟩ := govern_facts
      (signedManifest hash toolName server request nowMs : ForgedMcpToolManifest F)
      ((signedManifest hash toolName server request nowMs : ForgedMcpToolManifest F
        ).supplyChainFindings hash)
    rw [sameName, sameLineage, sameRisk]
    exact ⟨rfl, rfl, fun isActive => risk_signedManifest (wasActive isActive)⟩

variable (tools : ToolGovernance F) (registry : ToolRegistry F)

section
variable (manifest : ForgedMcpToolManifest F)

theorem registeredToolName_governedManifest :
    (tools.governedManifest registry manifest).registeredToolName =
      manifest.registeredToolName :=
  (govern_facts _ _).1

theorem lineageKey_governedManifest (named : manifest.lineageKey ≠ "") :
    (tools.governedManifest registry manifest).lineageKey = manifest.lineageKey := by
  have sameLineage : (versioned registry manifest).lineageKey =
      manifest.lineageKey := if_neg named
  exact (govern_facts _ _).2.1.trans sameLineage

theorem trusted_governedManifest
    (isTrusted : (tools.governedManifest registry manifest).trustStatus = .trusted) :
    (tools.governedManifest registry manifest).supplyChainFindings tools.hash = [] := by
  rw [governedManifest] at isTrusted ⊢
  cases govern_cases (versioned registry manifest)
      (registry.supplyChainFindings tools.hash (versioned registry manifest)) with
  | inl trusted =>
    rw [trusted.2]
    exact (append_eq_nil_iff.mp (append_eq_nil_iff.mp trusted.1).1).1
  | inr rejects =>
    rw [rejects] at isTrusted
    cases isTrusted

theorem active_governedManifest
    (isActive : (tools.governedManifest registry manifest).status = .active) :
    manifest.status = .active ∧
      (tools.governedManifest registry manifest).risk = manifest.risk := by
  obtain ⟨-, -, sameRisk, wasActive⟩ := govern_facts (versioned registry manifest)
    (registry.supplyChainFindings tools.hash (versioned registry manifest))
  exact ⟨wasActive isActive, sameRisk⟩

end

end Forged

/-! ## Calls -/

section Governed

variable {tools : ToolGovernance F} {log events : List CapabilityEvent}
variable {world after : ToolWorld F} {manifest : ForgedMcpToolManifest F}
variable (unmirrored : tools.store.mirror = none)
include unmirrored

section
variable (governed : Governed tools log world)
include governed

theorem governed_verify (name : String) :
    Governed tools (logged (tools.call (.verify name) world).1 log)
      (tools.call (.verify name) world).2 := by
  have ends := verifyCapability_ends unmirrored name world
  cases ends with
  | inl missing =>
    have ran : tools.call (.verify name) world = (.ok [], world) := bind_of_ok missing.2
    rw [ran]
    exact governed
  | inr found =>
    obtain ⟨manifest, isManifest, outcome⟩ := found
    have approved := governed.live name manifest isManifest
    cases outcome with
    | inl fails =>
      obtain ⟨findings, updatedAtMs, message, final, ranVerify, persists⟩ := fails
      have ran : tools.call (.verify name) world = (.error message, final) :=
        bind_of_error ranVerify
      rw [ran]
      change Governed tools ([] ++ log) final
      have rejects : (rejected manifest findings updatedAtMs).Approved
          tools.hash ([] ++ log) manifest.registeredToolName := by
        rw [approved.named]
        constructor
        · exact approved.named
        · exact approved.lineage
        · intro isTrusted
          cases isTrusted
        · intro isActive
          cases isActive
      apply governed.persist persists rejects
      · intro event isEvent
        cases isEvent
      · rfl
      · exact fun _ _ => rfl
      · intro toolName carried _ isActive
        cases isActive
    | inr passes =>
      obtain ⟨noFindings, approvedAtMs, updatedAtMs, final, ranVerify, persists⟩ := passes
      have ran : tools.call (.verify name) world =
          (.ok [.verified name manifest.version], final) := bind_of_ok ranVerify
      rw [ran]
      have accepts : (verified manifest [] approvedAtMs updatedAtMs).Approved
          tools.hash ([.verified name manifest.version] ++ log)
          manifest.registeredToolName := by
        rw [approved.named]
        constructor
        · exact approved.named
        · exact approved.lineage
        · intro isTrusted
          exact (append_eq_nil_iff.mp (append_eq_nil_iff.mp noFindings).1).1
        · intro isActive
          exact accepted_cons rfl rfl
      apply governed.hydrate persists accepts
      intro event isEvent
      rw [mem_singleton.mp isEvent]
      exact approved.named.symm

theorem governed_deprecateCapability (name : String) (healthScore : F) :
    ∃ changed final, tools.deprecateCapability name healthScore world = (.ok changed, final) ∧
      (∀ manifest, changed = some manifest → manifest.retirement = .deprecated name) ∧
      Governed tools ((changed.map fun _ => .deprecated name).toList ++ log) final := by
  have ends := deprecateCapability_ends unmirrored name healthScore world
  cases ends with
  | inl missing =>
    refine ⟨none, world, missing.2, ?_, governed⟩
    intro manifest isManifest
    cases isManifest
  | inr found =>
    obtain ⟨manifest, updatedAtMs, final, isManifest, ran, persists⟩ := found
    have approved := governed.live name manifest isManifest
    refine ⟨_, final, ran, ?_, ?_⟩
    · intro retired isRetired
      rw [← Option.some.inj isRetired, ← approved.named]
      exact if_pos rfl
    have retires : (deprecated manifest healthScore updatedAtMs).Approved
        tools.hash ([.deprecated name] ++ log) manifest.registeredToolName := by
      rw [approved.named]
      constructor
      · exact approved.named
      · exact approved.lineage
      · exact approved.trusted
      · intro isActive
        cases isActive
    apply governed.persist persists retires
    · intro event isEvent
      rw [mem_singleton.mp isEvent]
      exact approved.named.symm
    · rfl
    · intro other isOther
      have notName : other ≠ name := by
        rw [← approved.named]
        exact isOther
      have erased := get_erase world.registry.tools name other
      rw [if_neg notName] at erased
      exact erased
    · intro toolName carried _ isActive
      cases isActive

theorem governed_forge (request : McpToolForgeRequest) :
    Governed tools (logged (tools.call (.forge request) world).1 log)
      (tools.call (.forge request) world).2 := by
  have ends := forgeMcpTool_ends unmirrored request world
  cases ends with
  | inl fails =>
    obtain ⟨message, final, ranForge, still⟩ := fails
    have ran : tools.call (.forge request) world = (.error message, final) :=
      bind_of_error ranForge
    rw [ran]
    exact governed.still still
  | inr forges =>
    obtain ⟨-, built, nowMs, final, isBuilt, ranForge, persists⟩ := forges
    let kept := tools.governedManifest world.registry built
    obtain ⟨isNamed, isLineage, lowRisk⟩ := built_facts isBuilt
    have keptName : kept.registeredToolName = tools.requestToolName request := by
      rw [← isNamed]
      exact registeredToolName_governedManifest tools world.registry built
    have isManifest : final.registry.manifests.get built.registeredToolName = some kept := by
      rw [persists.registry, ToolRegistry.manifests_hydrateManifest, isNamed, ← keptName]
      exact get_insert_self _ _ _
    have ran : tools.call (.forge request) world =
        (.ok [.forged kept.registeredToolName kept.version kept.risk], final) := by
      have ranCurrent := run_current final
      rw [ToolGovernance.call, bind_of_ok ranForge, bind_of_ok ranCurrent, isManifest]
      rfl
    rw [ran]
    have approves : kept.Approved tools.hash
        ([.forged kept.registeredToolName kept.version kept.risk] ++ log)
        kept.registeredToolName := by
      constructor
      · rfl
      · refine ⟨tools.requestServer request, request.capabilitySlug,
          not_mem_capabilitySlug request, keptName, ?_⟩
        rw [lineageKey_governedManifest tools world.registry built (by simp [isLineage])]
        exact isLineage
      · exact trusted_governedManifest tools world.registry built
      · intro isActive
        obtain ⟨wasActive, sameRisk⟩ :=
          active_governedManifest tools world.registry built isActive
        apply accepted_cons rfl
        exact ⟨rfl, sameRisk.trans (lowRisk wasActive)⟩
    apply governed.hydrate persists approves
    intro event isEvent
    rw [mem_singleton.mp isEvent]
    rfl

theorem governed_deprecate (name : String) (healthScore : F) :
    Governed tools (logged (tools.call (.deprecation name healthScore) world).1 log)
      (tools.call (.deprecation name healthScore) world).2 := by
  obtain ⟨changed, final, ranDeprecate, -, after⟩ :=
    governed_deprecateCapability unmirrored governed name healthScore
  have ran : tools.call (.deprecation name healthScore) world =
      (.ok (changed.map fun _ => .deprecated name).toList, final) := bind_of_ok ranDeprecate
  rw [ran]
  cases changed with
  | none => exact after
  | some manifest => exact after

end

omit unmirrored in
/-- No lineage has two versions at a time. -/
theorem previousOf_eq_none (governed : Governed tools log world) {name : String}
    {current : ForgedMcpToolManifest F}
    (isCurrent : world.registry.manifests.get name = some current) :
    world.registry.previousOf current = none := by
  have nothing : (world.registry.manifestList.filter fun manifest =>
      manifest.lineageKey = current.lineageKey ∧ manifest.version + 1 = current.version) = [] := by
    rw [filter_eq_nil_iff]
    intro other isOther
    obtain ⟨row, isRow, isManifest⟩ := mem_map.mp isOther
    have found : world.registry.manifests.get row.1 = some other := by
      rw [← isManifest]
      exact mem_rows_iff.mp isRow
    intro matching
    obtain ⟨sameLineage, isPrevious⟩ := of_decide_eq_true matching
    have sameName := (governed.live row.1 other found).name_eq
      (governed.live name current isCurrent) sameLineage
    rw [sameName, isCurrent, Option.some.injEq] at found
    rw [found] at isPrevious
    grind
  rw [previousOf, nothing]
  rfl

omit unmirrored in
/-- A rollback finds no version to go back to. -/
theorem rollbackCapability_eq (governed : Governed tools log world) (name : String) :
    tools.rollbackCapability name world = (.ok none, world) := by
  unfold rollbackCapability
  rw [bind_of_ok (run_current world)]
  cases found : world.registry.manifests.get name with
  | none => rfl
  | some manifest =>
    dsimp only
    rw [previousOf_eq_none governed found]
    rfl

section
variable (governed : Governed tools log world)
include governed

omit unmirrored in
theorem governed_rollback (name : String) :
    Governed tools (logged (tools.call (.rollback name) world).1 log)
      (tools.call (.rollback name) world).2 := by
  have ran : tools.call (.rollback name) world = (.ok [], world) :=
    bind_of_ok (rollbackCapability_eq governed name)
  rw [ran]
  exact governed

theorem governed_retire (candidates : List (ForgedMcpToolManifest F)) :
    ∃ changed final, tools.retire candidates world = (.ok changed, final) ∧
      Governed tools ((changed.map (·.retirement)).reverse ++ log) final := by
  induction candidates generalizing world log with
  | nil => exact ⟨[], world, rfl, governed⟩
  | cons candidate rest ih =>
    obtain ⟨changed, middle, ranDeprecate, isRetirement, retired⟩ :=
      governed_deprecateCapability unmirrored governed candidate.registeredToolName
        (min candidate.healthScore 0.35)
    have ranOne : tools.retireOne candidate world = (.ok changed, middle) := by
      unfold retireOne
      rw [bind_of_ok (rollbackCapability_eq governed candidate.registeredToolName)]
      exact ranDeprecate
    obtain ⟨later, final, ranLater, after⟩ := ih retired
    refine ⟨changed.toList ++ later, final, ?_, ?_⟩
    · rw [retire, bind_of_ok ranOne, bind_of_ok ranLater]
      rfl
    · cases changed with
      | none => exact after
      | some manifest =>
        simpa [isRetirement manifest rfl] using after

theorem governed_autoRetire :
    Governed tools (logged (tools.call .autoRetire world).1 log)
      (tools.call .autoRetire world).2 := by
  obtain ⟨changed, final, ranRetire, after⟩ := governed_retire unmirrored governed
    (world.registry.manifestList.filter fun manifest =>
      manifest.status = .active && manifest.approvalStatus = .verified &&
        manifest.healthScore < (0.45 : F))
  have ranAuto : tools.autoRetireUnhealthyCapabilities world = (.ok changed, final) := by
    unfold autoRetireUnhealthyCapabilities
    rw [bind_of_ok (run_current world)]
    exact ranRetire
  have ran : tools.call .autoRetire world = (.ok (changed.map (·.retirement)), final) :=
    bind_of_ok ranAuto
  rw [ran]
  exact after

end

/-! ## Restoring -/

omit unmirrored in
theorem eq_of_decode_encode {form : ManifestForm F} {read : ForgedMcpToolManifest F}
    (decoded : form.decode (form.encode manifest) = .ok read) : read = manifest := by
  cases finite : FloatOps.isFinite manifest.healthScore with
  | true =>
    rw [form.decode_encode manifest finite] at decoded
    exact (Except.ok.inj decoded).symm
  | false =>
    obtain ⟨message, isError⟩ := form.decode_infinite manifest finite
    rw [isError] at decoded
    cases decoded

omit unmirrored in
theorem governed_restoreRecords (governed : Governed tools log world)
    (records : List KnowledgeRecord)
    (areRows : ∀ record ∈ records, ∃ name, record.key = forgedToolKey name ∧
      world.row (forgedToolKey name) = some record.value) :
    Governed tools log (tools.restoreRecords records world).2 := by
  induction records generalizing world with
  | nil => exact governed
  | cons record rest ih =>
    rw [restoreRecords]
    cases decoded : tools.form.decode record.value with
    | error message => exact governed
    | ok read =>
      obtain ⟨name, isKey, isRow⟩ := areRows record mem_cons_self
      obtain ⟨manifest, isText, approved, isCurrent⟩ :=
        governed.stored name record.value isRow
      rw [isText] at decoded
      have same := eq_of_decode_encode decoded
      let hydrated : ToolWorld F :=
        { world with registry := world.registry.hydrateManifest manifest }
      have named : manifest.Approved tools.hash ([] ++ log) manifest.registeredToolName := by
        rw [approved.named]
        exact approved
      have after : Governed tools ([] ++ log) hydrated := by
        apply governed.put named
        · intro event isEvent
          cases isEvent
        · exact ToolRegistry.manifests_hydrateManifest world.registry
        · exact fun _ isOther =>
            ToolRegistry.tools_hydrateManifest_of_ne world.registry isOther
        · exact fun _ _ isTool isActive =>
            ToolRegistry.carried_hydrateManifest world.registry isTool isActive
        · exact fun _ _ => rfl
        · intro text isOwn
          rw [approved.named] at isOwn
          have sameRow : world.row (forgedToolKey name) = some text := isOwn
          rw [isRow, Option.some.injEq] at sameRow
          rw [← sameRow, isText]
      have restored := ih after fun later isLater =>
        areRows later (mem_cons_of_mem _ isLater)
      have ranDecode : (Effect.ofExcept (.ok read) :
          ToolEffect F (ForgedMcpToolManifest F)) world = (.ok read, world) := rfl
      have ranChange : ToolGovernance.change (·.hydrateManifest read) world =
          (.ok (), hydrated) := by
        rw [same]
        rfl
      rw [bind_of_ok ranDecode, bind_of_ok ranChange,
        bind_pure_apply (tools.restoreRecords rest) (· + 1) hydrated]
      exact restored

theorem governed_restore (governed : Governed tools log world) :
    Governed tools (logged (tools.call .restore world).1 log)
      (tools.call .restore world).2 := by
  let listed : ToolWorld F :=
    { world with shared := { world.shared with tick := world.shared.tick + 1 } }
  have still : world.Still listed := ⟨rfl, fun key => rfl⟩
  let records := world.shared.repo.knowledge.select (Text.startsWith · forgedToolPrefix)
  have ranList : onStore (tools.store.listKnowledgeByPrefix forgedToolPrefix)
      world = (.ok records, listed) := by
    rw [onStore, zoom_apply, StateStore.run_listKnowledgeByPrefix_unmirrored unmirrored]
  have restored := governed_restoreRecords (governed.still still) records (by
    intro record isRecord
    obtain ⟨found, starts⟩ := Knowledge.mem_select_iff.mp isRecord
    obtain ⟨name, isKey⟩ := Text.startsWith_iff_exists.mp starts
    refine ⟨name, isKey, ?_⟩
    have isRow : listed.row record.key = some record.value :=
      congrArg (Option.map KnowledgeRecord.value) found
    rw [isKey] at isRow
    exact isRow)
  have ran : tools.restorePersistedManifests world = tools.restoreRecords records listed :=
    bind_of_ok ranList
  have events : (logged (tools.call .restore world).1 log) = log := by
    rw [ToolGovernance.call, bind_pure_apply _ (fun _ => []) world]
    cases (tools.restorePersistedManifests world).1 with
    | error message => rfl
    | ok count => rfl
  rw [events, ToolGovernance.call, bind_pure_apply _ (fun _ => []) world, ran]
  exact restored

omit unmirrored in
theorem not_forged_fromConfig (config : ToolsConfig) (name toolName : String)
    (carried : ForgedMcpToolManifest F) :
    (fromConfig config).tools.get name ≠ some (.forged toolName carried) := by
  have register : ∀ (base : List (ToolObject F)) (registry : ToolRegistry F),
      (∀ tool ∈ base, tool ≠ .forged toolName carried) →
        registry.tools.get name ≠ some (.forged toolName carried) →
          (base.foldl registerTool registry).tools.get name ≠
            some (.forged toolName carried) := by
    intro base
    induction base with
    | nil => exact fun registry _ start => start
    | cons tool rest ih =>
      intro registry notForged start
      apply ih _ fun later isLater => notForged later (mem_cons_of_mem _ isLater)
      rw [registerTool, get_insert]
      split
      · intro isForged
        exact notForged tool mem_cons_self (Option.some.inj isForged)
      · exact start
  apply register
  · intro tool isBase isForged
    rw [isForged] at isBase
    simp only [ToolsConfig.baseTools, mem_append, mem_map, mem_cons,
      not_mem_nil, or_false, reduceCtorEq, and_false, exists_false] at isBase
    obtain ⟨builtin, -, isBuiltin⟩ := isBase
    unfold ToolsConfig.builtinTool at isBuiltin
    split at isBuiltin
    · cases isBuiltin
    · cases isBuiltin
    · cases isBuiltin
  · intro isForged
    cases isForged

omit unmirrored [FloatOps F] in
theorem manifests_fromConfig (config : ToolsConfig) :
    (fromConfig config : ToolRegistry F).manifests = empty := by
  have register : ∀ (base : List (ToolObject F)) (registry : ToolRegistry F),
      (base.foldl registerTool registry).manifests = registry.manifests := by
    intro base
    induction base with
    | nil => exact fun registry => rfl
    | cons tool rest ih => exact fun registry => ih (registry.registerTool tool)
  exact register _ _

omit unmirrored in
theorem governed_restart (governed : Governed tools log world) :
    Governed tools (logged (tools.call .restart world).1 log)
      (tools.call .restart world).2 := by
  have isRegistry : (tools.call .restart world).2.registry =
      fromConfig tools.config := rfl
  change Governed tools log _
  constructor
  · intro name manifest isManifest
    rw [isRegistry, manifests_fromConfig] at isManifest
    cases isManifest
  · intro name toolName carried isTool
    exact absurd isTool (not_forged_fromConfig tools.config name toolName carried)
  · intro name text isRow
    obtain ⟨manifest, isText, approved, -⟩ := governed.stored name text isRow
    refine ⟨manifest, isText, approved, ?_⟩
    intro current isCurrent
    rw [isRegistry, manifests_fromConfig] at isCurrent
    cases isCurrent

omit unmirrored in
theorem governed_started (host : Nat → Moment) : Governed tools [] (tools.started host) := by
  constructor
  · intro name manifest isManifest
    rw [started, manifests_fromConfig] at isManifest
    cases isManifest
  · intro name toolName carried isTool
    exact absurd isTool (not_forged_fromConfig tools.config name toolName carried)
  · intro name text isRow
    cases isRow

theorem governed_call (governed : Governed tools log world) (call : ToolCall F) :
    Governed tools (logged (tools.call call world).1 log) (tools.call call world).2 := by
  cases call with
  | forge request => exact governed_forge unmirrored governed request
  | verify name => exact governed_verify unmirrored governed name
  | deprecation name healthScore => exact governed_deprecate unmirrored governed name healthScore
  | rollback name => exact governed_rollback governed name
  | autoRetire => exact governed_autoRetire unmirrored governed
  | restore => exact governed_restore unmirrored governed
  | restart => exact governed_restart governed

end Governed

/-! ## Runs -/

def ExecutesApproved (tools : ToolGovernance F) (books : ToolWorld F × List CapabilityEvent)
    (name : String) : Prop :=
  ∀ toolName carried, books.1.registry.executedTool name = .ok (.forged toolName carried) →
    books.1.registry.manifests.get name = some carried ∧
      carried.supplyChainFindings tools.hash = [] ∧ Accepted books.2 name carried.version

theorem governed_runs {tools : ToolGovernance F} (unmirrored : tools.store.mirror = none)
    (host : Nat → Moment) (calls : List (ToolCall F)) :
    (toolRuns tools host).Always (fun books => Governed tools books.2 books.1)
      (toolRuns tools host).initial calls := by
  apply Component.Always.of_step
  · exact governed_started host
  · exact fun books call governed => governed_call unmirrored governed call

/-- A registry over a new store without a mirror. -/
def plainTools : ToolGovernance ℚ where
  config := ⟨["read_file"], ["local-mcp"]⟩
  store := Runtime.unmirroredStore
  form := PlainManifests.form
  hash _ := 0

/-- A request that is forged as high risk. -/
def deployRequest : McpToolForgeRequest where
  server := none
  capabilityName := "network deploy"
  purpose := "Deploy over network to remote target"
  executable := "deploy-cli"
  subcommands := []
  jsonFlag := none
  arguments := []
  outputMode := .json
  successSignal := none
  workingDirectory := none
  examples := []
  tags := []
  scope := none
  requestedBy := none
  signer := none
  sourceRepo := none
  sourceRef := some "v1.0"
  sbomComponents := []

end AutoLoop.Tools
