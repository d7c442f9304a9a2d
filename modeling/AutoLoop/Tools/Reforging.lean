import AutoLoop.Tools.ApprovedCapabilities

/-!
# Forging a capability again

Every version of a capability is kept under one name, so a capability that was forged twice
has no version to roll back to.  A capability that is forged once is free of findings when
its request has a name, an executable and the default signer.
-/

namespace AutoLoop.Tools

open Contracts StateAdapter ToolRegistry Text ToolGovernance Effect

variable {F : Type} [FloatOps F]

/-! ## What is expected -/

/-- What the requests of a capability have: an allowed signer, components without findings
and a source reference that suffices, if any. -/
structure McpToolForgeRequest.Admissible (request : McpToolForgeRequest) (hash : DefaultHasher) :
    Prop where
  signer : request.signer.getD "autoloop-ci" ∈ defaultTrustPolicy.requiredSigners
  components : ∀ component ∈ request.sbom hash, component.findings defaultTrustPolicy = []
  sourceRef : ∀ sourceRef, request.sourceRef = some sourceRef →
    3 ≤ sourceRef.utf8ByteSize ∧ trim sourceRef ≠ ""

namespace ToolGovernance

variable (tools : ToolGovernance F) (host : Nat → Moment)

def afterForging (requests : List McpToolForgeRequest) : ToolWorld F :=
  ((toolRuns tools host).run (toolRuns tools host).initial (requests.map .forge)).2.1

def Registers (world : ToolWorld F) (name : String) (version : Nat) : Prop :=
  ∃ manifest, world.registry.manifests.get name = some manifest ∧
    manifest.version.toNat = version ∧
    world.registry.supplyChainFindings tools.hash manifest = []

def ExecutesOver (registry : ToolRegistry F) (name : String)
    (manifest : ForgedMcpToolManifest F) (version : Nat) : Prop :=
  (∃ carried, registry.executedTool name = .ok (.forged name carried) ∧
      carried.commandTemplate = manifest.commandTemplate) ∧
    ∃ key kept, registry.manifests.get key = some kept ∧ kept.version.toNat = version ∧
      kept.status = .rolledBack

def restoredRegistry (world : ToolWorld F) : ToolRegistry F :=
  (tools.restorePersistedManifests (tools.restart world).2).2.registry

/-- A rollback returns to the version before, here and after a restart. -/
def RollsBack (world : ToolWorld F) (name : String) (version : Nat) : Prop :=
  ∃ previous, (tools.rollbackCapability name world).1 = .ok (some previous) ∧
    previous.version.toNat + 1 = version ∧
    ExecutesOver (tools.rollbackCapability name world).2.registry name previous version ∧
    ExecutesOver (tools.restoredRegistry (tools.rollbackCapability name world).2) name previous
      version

/-- Every request leaves its version, and of two versions the newer is rolled back. -/
structure Reforges (requests : List McpToolForgeRequest) (name : String) : Prop where
  registers : ∀ earlier request later, requests = earlier ++ request :: later →
    tools.Registers (tools.afterForging host (earlier ++ [request])) name (earlier.length + 1)
  rollsBack : 2 ≤ requests.length →
    tools.RollsBack (tools.afterForging host requests) name requests.length

/-- A request that is forged without findings in the first place. -/
structure Forgeable (request : McpToolForgeRequest) : Prop where
  named : request.capabilitySlug ≠ ""
  runs : trim request.executable ≠ ""
  signer : request.signer.getD "autoloop-ci" = "autoloop-ci"
  sourceRef : 3 ≤ (request.sourceRef.getD
    ("v" ++ (Shared.started host).moment.nowMs.toNat.repr)).utf8ByteSize

end ToolGovernance

/-! ## What one request leaves -/

omit [FloatOps F] in
theorem signatureValueFor_inj {signer other payloadHash : String} :
    signatureValueFor signer payloadHash = signatureValueFor other payloadHash ↔
      signer = other := by
  unfold signatureValueFor
  rw [String.append_left_inj, String.append_left_inj, String.append_right_inj]

variable (manifest : ForgedMcpToolManifest F) {registry : ToolRegistry F}

omit [FloatOps F] in
theorem payloadHash_sign (hash : DefaultHasher) (signer : String) (nowMs : UInt64) :
    (manifest.sign hash signer nowMs).payloadHash hash = manifest.payloadHash hash := rfl

omit [FloatOps F] in
theorem supplyChainFindings_eq_nil (hash : DefaultHasher) :
    manifest.supplyChainFindings hash = [] ↔
      manifest.signature.signedPayloadHash = manifest.payloadHash hash ∧
        manifest.signature.signature =
          signatureValueFor manifest.signature.signer (manifest.payloadHash hash) ∧
        manifest.signature.signer ∈ manifest.trustPolicy.requiredSigners ∧
        manifest.trustPolicy.minProvenanceRefLen ≤ manifest.provenance.sourceRef.utf8ByteSize ∧
        ∀ component ∈ manifest.sbom, component.findings manifest.trustPolicy = [] := by
  simp [ForgedMcpToolManifest.supplyChainFindings, and_assoc]

omit [FloatOps F] in
theorem supplyChainFindings_sign (hash : DefaultHasher) (signer : String) (nowMs : UInt64) :
    (manifest.sign hash signer nowMs).supplyChainFindings hash = [] ↔
      manifest.signature.signer = signer ∧ signer ∈ manifest.trustPolicy.requiredSigners ∧
        manifest.trustPolicy.minProvenanceRefLen ≤ manifest.provenance.sourceRef.utf8ByteSize ∧
        ∀ component ∈ manifest.sbom, component.findings manifest.trustPolicy = [] := by
  rw [supplyChainFindings_eq_nil, payloadHash_sign]
  have sameValue : (manifest.sign hash signer nowMs).signature.signature =
      signatureValueFor manifest.signature.signer (manifest.payloadHash hash) := rfl
  have sameSigner : (manifest.sign hash signer nowMs).signature.signer = signer := rfl
  rw [sameValue, sameSigner, signatureValueFor_inj]
  exact and_iff_right rfl

omit [FloatOps F] in
theorem govern_fields (findings : List String) :
    (manifest.govern findings).lineageKey = manifest.lineageKey ∧
      (manifest.govern findings).capabilityId = manifest.capabilityId ∧
      (manifest.govern findings).version = manifest.version ∧
      (manifest.govern findings).updatedAtMs = manifest.updatedAtMs ∧
      (manifest.govern findings).createdAtMs = manifest.createdAtMs := by
  unfold ForgedMcpToolManifest.govern
  split
  · exact ⟨rfl, rfl, rfl, rfl, rfl⟩
  · exact ⟨rfl, rfl, rfl, rfl, rfl⟩

omit [FloatOps F] in
theorem supplyChainFindings_govern (hash : DefaultHasher) (findings : List String) :
    (manifest.govern findings).supplyChainFindings hash = manifest.supplyChainFindings hash ∧
      (manifest.govern findings).provenance = manifest.provenance := by
  unfold ForgedMcpToolManifest.govern
  split
  · exact ⟨rfl, rfl⟩
  · exact ⟨rfl, rfl⟩

section First

variable (hash : DefaultHasher) (toolName server : String) (request : McpToolForgeRequest)
variable (nowMs : UInt64)

theorem supplyChainFindings_signed (admissible : request.Admissible hash) :
    (signedManifest hash toolName server request nowMs : ForgedMcpToolManifest F
        ).supplyChainFindings hash = [] ↔
      request.signer.getD "autoloop-ci" = "autoloop-ci" ∧
        3 ≤ (request.sourceRef.getD ("v" ++ nowMs.toNat.repr)).utf8ByteSize := by
  rw [signedManifest, supplyChainFindings_sign]
  constructor
  · intro all
    exact ⟨all.1.symm, all.2.2.1⟩
  · intro both
    exact ⟨both.1.symm, admissible.signer, both.2, admissible.components⟩

end First

/-! ## The first version -/

/-- A registry without forged manifests. -/
structure ToolRegistry.Unforged (registry : ToolRegistry F) : Prop where
  manifests : registry.manifests = Table.empty
  versions : registry.lineageMaxVersions = Table.empty

omit [FloatOps F] in
theorem unforged_fromConfig (config : ToolsConfig) :
    (fromConfig config : ToolRegistry F).Unforged := by
  have register : ∀ (base : List (ToolObject F)) (registry : ToolRegistry F),
      registry.Unforged → (base.foldl registerTool registry).Unforged := by
    intro base
    induction base with
    | nil => exact fun registry unforged => unforged
    | cons tool rest ih =>
      exact fun registry unforged => ih _ ⟨unforged.manifests, unforged.versions⟩
  exact register _ _ ⟨rfl, rfl⟩

omit [FloatOps F] in
theorem nextVersion_unforged (unforged : registry.Unforged)
    (lineageKey : String) : registry.nextVersion lineageKey = 1 := by
  rw [nextVersion, manifestList, unforged.manifests]
  rfl

omit [FloatOps F] in
theorem versioned_eq_self {manifest : ForgedMcpToolManifest F}
    (lineage : manifest.lineageKey ≠ "") (capability : manifest.capabilityId ≠ "")
    (version : manifest.version = registry.nextVersion manifest.lineageKey)
    (updated : manifest.updatedAtMs = manifest.createdAtMs) :
    versioned registry manifest = manifest := by
  have sameUpdate : max manifest.updatedAtMs manifest.createdAtMs = manifest.updatedAtMs := by
    rw [updated]
    exact ite_self manifest.createdAtMs
  simp only [versioned, if_neg lineage, if_neg capability, ← version, sameUpdate]

omit [FloatOps F] in
theorem supplyChainFindings_first (unforged : registry.Unforged)
    (hash : DefaultHasher) {manifest : ForgedMcpToolManifest F} (first : manifest.version = 1)
    (sourceRef : trim manifest.provenance.sourceRef ≠ "") :
    registry.supplyChainFindings hash manifest = manifest.supplyChainFindings hash ∧
      (registry.hydrateManifest manifest).supplyChainFindings hash manifest =
        manifest.supplyChainFindings hash := by
  have versions : (registry.hydrateManifest manifest).lineageMaxVersions.get
      manifest.lineageKey = some 1 := by
    unfold hydrateManifest
    split
    · simp only [registerManifest, registerTool, unforged.versions, Table.get_insert_self, first]
      rfl
    · simp only [registerManifest, unforged.versions, Table.get_insert_self, first]
      rfl
  constructor
  · simp [supplyChainFindings, unforged.versions, sourceRef]
  · simp [supplyChainFindings, versions, first, sourceRef]

/-! ## One call -/

namespace ToolGovernance

variable {tools : ToolGovernance F} {request : McpToolForgeRequest} {world : ToolWorld F}

section Unmirrored

variable (unmirrored : tools.store.mirror = none)
include unmirrored

theorem forgeMcpTool_built (named : request.capabilitySlug ≠ "")
    {built : ForgedMcpToolManifest F}
    (isBuilt : buildManifest tools.hash (tools.requestToolName request)
      (tools.requestServer request) request world.shared.moment.nowMs = .ok built) :
    ∃ final, tools.forgeMcpTool request world = (.ok built, final) ∧
      Persists tools (·.hydrateManifest (tools.governedManifest world.registry built))
        (tools.governedManifest world.registry built) world final := by
  have ranClock : clock world = (.ok world.shared.moment.nowMs,
      { world with shared := { world.shared with tick := world.shared.tick + 1 } }) := rfl
  generalize isLater : ({ world with shared :=
    { world.shared with tick := world.shared.tick + 1 } } : ToolWorld F) = later at ranClock
  have still : world.Still later := by
    subst isLater
    exact ⟨rfl, fun key => rfl⟩
  have ranBuild : (ofExcept (.ok built) :
      ToolEffect F (ForgedMcpToolManifest F)) later = (.ok built, later) := rfl
  obtain ⟨final, ran, persists⟩ := run_upsert unmirrored
    (·.hydrateManifest (tools.governedManifest later.registry built))
    (tools.governedManifest later.registry built) later
  have upserts : tools.upsertGovernedManifest built later = (.ok (), final) := by
    unfold upsertGovernedManifest
    rw [bind_of_ok (run_current later)]
    exact ran
  rw [still.registry] at persists
  refine ⟨final, ?_, still.persists persists⟩
  unfold forgeMcpTool
  rw [if_neg named, bind_of_ok ranClock, isBuilt, bind_of_ok ranBuild, bind_of_ok upserts]
  rfl

omit unmirrored in
theorem forgeMcpTool_refused (lacks : request.capabilitySlug = "" ∨ trim request.executable = "") :
    (tools.forgeMcpTool request world).2.registry = world.registry := by
  unfold forgeMcpTool
  by_cases named : request.capabilitySlug = ""
  · rw [if_pos named]
    rfl
  · have blank := lacks.resolve_left named
    have ranClock : clock world = (.ok world.shared.moment.nowMs,
        { world with shared := { world.shared with tick := world.shared.tick + 1 } }) := rfl
    rw [if_neg named, bind_of_ok ranClock, buildManifest, if_pos blank]
    rfl

end Unmirrored

theorem registry_afterForging_one (host : Nat → Moment) :
    (tools.afterForging host [request]).registry =
      (tools.forgeMcpTool request (tools.started host)).2.registry := by
  have call : (tools.call (.forge request) (tools.started host)).2 =
      (tools.forgeMcpTool request (tools.started host)).2 := by
    cases ran : tools.forgeMcpTool request (tools.started host) with
    | mk answer later =>
      unfold call
      dsimp only
      cases answer with
      | ok built =>
        rw [bind_of_ok ran]
        rfl
      | error message => rw [bind_of_error ran]
  exact congrArg ToolWorld.registry call

end ToolGovernance

section Built

variable {hash : DefaultHasher} {toolName server : String} {request : McpToolForgeRequest}
variable {nowMs : UInt64}

theorem sourceRef_ne_blank (admissible : request.Admissible hash) :
    trim (signedManifest hash toolName server request nowMs : ForgedMcpToolManifest F
      ).provenance.sourceRef ≠ "" := by
  have isRef : (signedManifest hash toolName server request nowMs : ForgedMcpToolManifest F
      ).provenance.sourceRef = request.sourceRef.getD ("v" ++ nowMs.toNat.repr) := rfl
  rw [isRef]
  cases given : request.sourceRef with
  | some sourceRef => exact (admissible.sourceRef sourceRef given).2
  | none =>
    refine @trim_ne_empty _ 'v' ?_ (by decide)
    simp

theorem versioned_built {registry : ToolRegistry F} (unforged : registry.Unforged)
    (findings : List String) :
    versioned registry ((signedManifest hash toolName server request nowMs :
        ForgedMcpToolManifest F).govern findings) =
      (signedManifest hash toolName server request nowMs).govern findings := by
  have named : server ++ ":" ++ request.capabilitySlug ≠ "" := by
    intro empty
    have sizes := congrArg String.length empty
    simp at sizes
  obtain ⟨lineage, capability, version, updated, created⟩ := govern_fields (signedManifest hash
    toolName server request nowMs : ForgedMcpToolManifest F) findings
  refine versioned_eq_self ?_ ?_ ?_ (updated.trans created.symm)
  · rw [lineage]
    exact named
  · rw [capability]
    exact named
  · rw [version, nextVersion_unforged unforged]
    rfl

theorem buildManifest_eq (runs : trim request.executable ≠ "") :
    (buildManifest hash toolName server request nowMs : Except String (ForgedMcpToolManifest F)) =
      .ok ((signedManifest hash toolName server request nowMs).govern
        ((signedManifest hash toolName server request nowMs : ForgedMcpToolManifest F
          ).supplyChainFindings hash)) := by
  rw [buildManifest, if_neg runs]

end Built

theorem registered_governed (unforged : registry.Unforged)
    (hash : DefaultHasher) {signed : ForgedMcpToolManifest F} (firstVersion : signed.version = 1)
    (sourceRef : trim signed.provenance.sourceRef ≠ "") (found refound : List String) :
    (registry.hydrateManifest ((signed.govern found).govern refound)).manifests.get
        signed.registeredToolName = some ((signed.govern found).govern refound) ∧
      ((signed.govern found).govern refound).version = 1 ∧
      (registry.hydrateManifest ((signed.govern found).govern refound)).supplyChainFindings hash
        ((signed.govern found).govern refound) = signed.supplyChainFindings hash := by
  obtain ⟨sameFindings, sameProvenance⟩ := supplyChainFindings_govern signed hash found
  obtain ⟨regoverned, reprovenance⟩ :=
    supplyChainFindings_govern (signed.govern found) hash refound
  have first : ((signed.govern found).govern refound).version = 1 := by
    rw [(govern_fields _ _).2.2.1, (govern_fields _ _).2.2.1, firstVersion]
  have name : ((signed.govern found).govern refound).registeredToolName =
      signed.registeredToolName := by
    rw [(govern_facts _ _).1, (govern_facts _ _).1]
  refine ⟨?_, first, ?_⟩
  · rw [manifests_hydrateManifest, name, Table.get_insert_self]
  · have sameRef : ((signed.govern found).govern refound).provenance = signed.provenance :=
      reprovenance.trans sameProvenance
    rw [(supplyChainFindings_first unforged hash first (sameRef ▸ sourceRef)).2, regoverned,
      sameFindings]

theorem registered_first {tools : ToolGovernance F} {request : McpToolForgeRequest}
    {world : ToolWorld F} (unmirrored : tools.store.mirror = none)
    (unforged : world.registry.Unforged) (named : request.capabilitySlug ≠ "")
    (runs : trim request.executable ≠ "") (admissible : request.Admissible tools.hash) :
    ∃ manifest, (tools.forgeMcpTool request world).2.registry.manifests.get
        (tools.requestToolName request) = some manifest ∧ manifest.version = 1 ∧
      (tools.forgeMcpTool request world).2.registry.supplyChainFindings tools.hash manifest =
        (signedManifest tools.hash (tools.requestToolName request) (tools.requestServer request)
          request world.shared.moment.nowMs : ForgedMcpToolManifest F).supplyChainFindings
            tools.hash := by
  obtain ⟨final, ran, persists⟩ := @ToolGovernance.forgeMcpTool_built F _ tools request world
    unmirrored named _ (buildManifest_eq runs)
  have registry := persists.registry
  rw [governedManifest, versioned_built unforged] at registry
  rw [ran, registry]
  exact ⟨_, registered_governed unforged tools.hash rfl (sourceRef_ne_blank admissible) _ _⟩

namespace ToolGovernance

variable {tools : ToolGovernance F} {request : McpToolForgeRequest} {host : Nat → Moment}

theorem registers_one_iff (unmirrored : tools.store.mirror = none)
    (admissible : request.Admissible tools.hash) :
    tools.Registers (tools.afterForging host [request]) (tools.requestToolName request) 1 ↔
      Forgeable host request := by
  have unforged : (tools.started host).registry.Unforged := unforged_fromConfig tools.config
  rw [Registers, registry_afterForging_one]
  by_cases lacks : request.capabilitySlug = "" ∨ trim request.executable = ""
  · have nothing (manifest : ForgedMcpToolManifest F) :
        (tools.forgeMcpTool request (tools.started host)).2.registry.manifests.get
          (tools.requestToolName request) ≠ some manifest := by
      rw [forgeMcpTool_refused lacks, unforged.manifests, Table.get_empty]
      exact Option.some_ne_none _ ∘ Eq.symm
    constructor
    · intro registers
      obtain ⟨manifest, isManifest, -⟩ := registers
      exact absurd isManifest (nothing manifest)
    · intro forgeable
      cases lacks with
      | inl unnamed => exact absurd unnamed forgeable.named
      | inr blank => exact absurd blank forgeable.runs
  · rw [not_or] at lacks
    obtain ⟨named, runs⟩ := lacks
    have forgeable : Forgeable host request ↔
        (signedManifest tools.hash (tools.requestToolName request) (tools.requestServer request)
          request (tools.started host).shared.moment.nowMs : ForgedMcpToolManifest F
          ).supplyChainFindings tools.hash = [] := by
      rw [supplyChainFindings_signed _ _ _ _ _ admissible]
      exact ⟨fun forgeable => ⟨forgeable.signer, forgeable.sourceRef⟩,
        fun both => ⟨named, runs, both.1, both.2⟩⟩
    obtain ⟨registered, isRegistered, first, findings⟩ :=
      registered_first unmirrored unforged named runs admissible
    rw [forgeable, ← findings]
    constructor
    · intro registers
      obtain ⟨manifest, isManifest, -, none⟩ := registers
      rw [isRegistered] at isManifest
      exact (Option.some.inj isManifest) ▸ none
    · intro none
      exact ⟨registered, isRegistered, by rw [first]; rfl, none⟩

theorem not_rollsBack (unmirrored : tools.store.mirror = none)
    (requests : List McpToolForgeRequest) (name : String) (version : Nat) :
    ¬tools.RollsBack (tools.afterForging host requests) name version := by
  have governed := (governed_runs unmirrored host (requests.map .forge)).run
  intro rollsBack
  obtain ⟨previous, isPrevious, -⟩ := rollsBack
  have isAnswer := congrArg Prod.fst (rollbackCapability_eq governed name)
  cases isPrevious.symm.trans isAnswer

/-- A request for a capability of low risk. -/
def fetchRequest : McpToolForgeRequest :=
  { deployRequest with capabilityName := "fetch", purpose := "Fetch a page" }

theorem fetchRequest_admissible : fetchRequest.Admissible plainTools.hash := by
  refine ⟨by decide, ?_, ?_⟩
  · decide +kernel
  · intro sourceRef isRef
    cases isRef
    decide +kernel

end ToolGovernance

end AutoLoop.Tools
