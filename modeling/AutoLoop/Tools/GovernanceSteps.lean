import AutoLoop.StateAdapter.UnmirroredStore
import AutoLoop.Tools.Registry

/-!
# Governance calls

The calls of a registry with what they answer for in its log, and what a call leaves of the
registry and of the rows of its manifests.
-/

namespace AutoLoop.Tools

open Contracts StateAdapter Effect

/-! ## Calls and their events -/

inductive ToolCall (F : Type) where
  | forge (request : McpToolForgeRequest)
  | verify (name : String)
  | deprecation (name : String) (healthScore : F)
  | rollback (name : String)
  | autoRetire
  | restore
  | restart

inductive CapabilityEvent where
  | forged (name : String) (version : UInt32) (risk : CapabilityRisk)
  | verified (name : String) (version : UInt32)
  | deprecated (name : String)
  | rolledBack (name : String)
  deriving DecidableEq, Repr

namespace CapabilityEvent

def name : CapabilityEvent → String
  | .forged name _ _ => name
  | .verified name _ => name
  | .deprecated name => name
  | .rolledBack name => name

def Accepts : CapabilityEvent → UInt32 → Prop
  | .forged _ version risk, accepted => version = accepted ∧ risk = .low
  | .verified _ version, accepted => version = accepted
  | .deprecated _, _ => False
  | .rolledBack _, _ => False

end CapabilityEvent

def Accepted (log : List CapabilityEvent) (name : String) (version : UInt32) : Prop :=
  ∃ event, log.find? (·.name = name) = some event ∧ event.Accepts version

section Log

variable {log events : List CapabilityEvent} {name : String} {version : UInt32}

theorem accepted_append (others : ∀ event ∈ events, event.name ≠ name) :
    Accepted (events ++ log) name version ↔ Accepted log name version := by
  have nothing : events.find? (·.name = name) = none := by
    rw [List.find?_eq_none]
    intro event isEvent
    simp [others event isEvent]
  rw [Accepted, Accepted, List.find?_append, nothing, Option.none_or]

theorem accepted_cons {event : CapabilityEvent} (isName : event.name = name)
    (accepts : event.Accepts version) : Accepted (event :: log) name version := by
  refine ⟨event, ?_, accepts⟩
  rw [List.find?_cons_of_pos (by simp [isName])]

end Log

variable {F : Type} [FloatOps F]

/-- What a retired manifest stands for. -/
def ForgedMcpToolManifest.retirement (manifest : ForgedMcpToolManifest F) : CapabilityEvent :=
  if manifest.status = .deprecated then .deprecated manifest.registeredToolName
  else .rolledBack manifest.registeredToolName

def ToolGovernance.call (tools : ToolGovernance F) : ToolCall F → ToolEffect F (List CapabilityEvent)
  | .forge request => do
      let built ← tools.forgeMcpTool request
      let registry ← ToolGovernance.current
      return ((registry.manifests.get built.registeredToolName).map fun manifest =>
        .forged manifest.registeredToolName manifest.version manifest.risk).toList
  | .verify name => do
      let verified ← tools.verifyCapability name
      return (verified.map fun manifest => .verified name manifest.version).toList
  | .deprecation name healthScore => do
      let deprecated ← tools.deprecateCapability name healthScore
      return (deprecated.map fun _ => .deprecated name).toList
  | .rollback name => do
      let restored ← tools.rollbackCapability name
      return (restored.map fun _ => .rolledBack name).toList
  | .autoRetire => do
      let changed ← tools.autoRetireUnhealthyCapabilities
      return changed.map (·.retirement)
  | .restore => do
      let _ ← tools.restorePersistedManifests
      return []
  | .restart => do
      tools.restart
      return []

/-- A fresh registry over a new store. -/
def ToolGovernance.started (tools : ToolGovernance F) (host : Nat → Moment) : ToolWorld F :=
  ⟨Shared.started host, ToolRegistry.fromConfig tools.config⟩

def logged (answer : Except String (List CapabilityEvent)) (log : List CapabilityEvent) :
    List CapabilityEvent :=
  (answer.toOption.getD []).reverse ++ log

/-- Calls one after another, with the log of what happened, its newest event first. -/
def toolRuns (tools : ToolGovernance F) (host : Nat → Moment) :
    Component (ToolWorld F × List CapabilityEvent) (ToolCall F)
      (Except String (List CapabilityEvent)) where
  initial := (tools.started host, [])
  step books call :=
    let ran := tools.call call books.1
    (ran.1, (ran.2, logged ran.1 books.2))

/-! ## Rows -/

namespace ToolWorld

variable (world : ToolWorld F)

/-- The text of a row. -/
def row (key : String) : Option String := (world.shared.repo.knowledge.get key).map (·.value)

end ToolWorld

omit [FloatOps F] in
/-- Time passes. -/
structure ToolWorld.Still (before after : ToolWorld F) : Prop where
  registry : after.registry = before.registry
  rows : ∀ key, after.row key = before.row key

structure Persists (tools : ToolGovernance F) (update : ToolRegistry F → ToolRegistry F)
    (manifest : ForgedMcpToolManifest F) (before after : ToolWorld F) : Prop where
  registry : after.registry = update before.registry
  rows : ∀ key, after.row key =
    if key = forgedToolKey manifest.registeredToolName then some (tools.form.encode manifest)
    else before.row key

namespace ToolWorld.Still

theorem refl (world : ToolWorld F) : world.Still world := ⟨rfl, fun key => rfl⟩

omit [FloatOps F] in
theorem trans {first second third : ToolWorld F} (still : first.Still second)
    (also : second.Still third) : first.Still third where
  registry := also.registry.trans still.registry
  rows key := (also.rows key).trans (still.rows key)

theorem persists {tools : ToolGovernance F} {update : ToolRegistry F → ToolRegistry F}
    {manifest : ForgedMcpToolManifest F} {first second third : ToolWorld F}
    (still : first.Still second) (persists : Persists tools update manifest second third) :
    Persists tools update manifest first third where
  registry := by rw [persists.registry, still.registry]
  rows key := by rw [persists.rows, still.rows]

end ToolWorld.Still

theorem forgedToolKey_inj {name other : String} :
    forgedToolKey name = forgedToolKey other ↔ name = other := by
  unfold forgedToolKey
  rw [String.append_right_inj]

theorem isEvidence_forgedToolKey (name : String) :
    StateStore.isEvidence (forgedToolKey name) = false := by
  rw [Bool.eq_false_iff, ne_eq, StateStore.isEvidence, Text.startsWith_iff]
  unfold forgedToolKey forgedToolPrefix
  simp [String.toList_append]

/-! ## What calls leave -/

namespace ToolGovernance

variable {tools : ToolGovernance F} {α : Type}

theorem run_clock (world : ToolWorld F) :
    ∃ nowMs later, clock world = (.ok nowMs, later) ∧ world.Still later :=
  ⟨world.shared.moment.nowMs, _, rfl, rfl, fun key => rfl⟩

theorem run_current (world : ToolWorld F) : current world = (.ok world.registry, world) := rfl

section Unmirrored

variable (unmirrored : tools.store.mirror = none)
include unmirrored

section
variable (update : ToolRegistry F → ToolRegistry F) (manifest : ForgedMcpToolManifest F)

theorem run_upsert (world : ToolWorld F) :
    ∃ final, (do
        change update
        tools.persistManifest manifest) world = (.ok (), final) ∧
      Persists tools update manifest world final := by
  let changed : ToolWorld F := { world with registry := update world.registry }
  obtain ⟨id, later, ran, put, -⟩ := StateStore.run_upsertJsonKnowledge_plain unmirrored
    (isEvidence_forgedToolKey manifest.registeredToolName) (tools.form.encode manifest)
    "cli-forge" changed.shared
  have ranChange : change update world = (.ok (), changed) := rfl
  have ranPersist : tools.persistManifest manifest changed =
      (.ok (), { changed with shared := later }) := by
    unfold persistManifest
    have stored : onStore (tools.store.upsertJsonKnowledge
        (forgedToolKey manifest.registeredToolName) (.ok (tools.form.encode manifest))
        "cli-forge") changed =
          (.ok ⟨id, forgedToolKey manifest.registeredToolName, tools.form.encode manifest,
            "cli-forge"⟩, { changed with shared := later }) := by
      rw [onStore, zoom_apply, ran]
    rw [bind_of_ok stored]
    rfl
  refine ⟨{ changed with shared := later }, ?_, rfl, ?_⟩
  · rw [bind_of_ok ranChange, ranPersist]
  · intro key
    rw [ToolWorld.row, ToolWorld.row, put, Knowledge.get_put]
    split
    · rfl
    · rfl

theorem run_change (next : ToolEffect F α) (world : ToolWorld F) :
    ∃ final, (do
        change update
        tools.persistManifest manifest
        next) world = next final ∧ Persists tools update manifest world final := by
  obtain ⟨final, ran, persists⟩ := run_upsert unmirrored update manifest world
  refine ⟨final, ?_, persists⟩
  have ranChange : change update world =
      (.ok (), { world with registry := update world.registry }) := rfl
  rw [bind_of_ok ranChange] at ran ⊢
  rw [bind_of_ok ran]

end

/-- What a verification does. -/
theorem verifyCapability_ends (name : String) (world : ToolWorld F) :
    world.registry.manifests.get name = none ∧
        tools.verifyCapability name world = (.ok none, world) ∨
      ∃ manifest, world.registry.manifests.get name = some manifest ∧
        ((∃ findings updatedAtMs message final,
            tools.verifyCapability name world = (.error message, final) ∧
            Persists tools (·.registerManifest (rejected manifest findings updatedAtMs))
              (rejected manifest findings updatedAtMs) world final) ∨
          world.registry.supplyChainFindings tools.hash manifest = [] ∧
            ∃ approvedAtMs updatedAtMs final, tools.verifyCapability name world =
                (.ok (some (verified manifest [] approvedAtMs updatedAtMs)), final) ∧
              Persists tools (·.hydrateManifest (verified manifest [] approvedAtMs updatedAtMs))
                (verified manifest [] approvedAtMs updatedAtMs) world final) := by
  unfold verifyCapability
  rw [bind_of_ok (run_current world)]
  cases found : world.registry.manifests.get name with
  | none => exact Or.inl ⟨rfl, rfl⟩
  | some manifest =>
    refine Or.inr ⟨manifest, rfl, ?_⟩
    obtain ⟨firstMs, first, ranFirst, firstStill⟩ := run_clock world
    obtain ⟨secondMs, second, ranSecond, secondStill⟩ := run_clock first
    dsimp only
    split
    · next failed =>
      rw [bind_of_ok ranFirst]
      obtain ⟨final, ran, persists⟩ := run_change unmirrored
        (·.registerManifest (rejected manifest
          (world.registry.supplyChainFindings tools.hash manifest) firstMs))
        (rejected manifest (world.registry.supplyChainFindings tools.hash manifest) firstMs)
        (Effect.fail _) first
      exact Or.inl ⟨_, _, _, final, ran, firstStill.persists persists⟩
    · next passed =>
      have nothing := not_not.mp passed
      rw [bind_of_ok ranFirst, bind_of_ok ranSecond, nothing]
      obtain ⟨final, ran, persists⟩ := run_change unmirrored
        (·.hydrateManifest (verified manifest [] firstMs secondMs))
        (verified manifest [] firstMs secondMs)
        (pure (some (verified manifest [] firstMs secondMs))) second
      exact Or.inr ⟨rfl, firstMs, secondMs, final, ran,
        (firstStill.trans secondStill).persists persists⟩

theorem deprecateCapability_ends (name : String) (healthScore : F) (world : ToolWorld F) :
    world.registry.manifests.get name = none ∧
        tools.deprecateCapability name healthScore world = (.ok none, world) ∨
      ∃ manifest updatedAtMs final, world.registry.manifests.get name = some manifest ∧
        tools.deprecateCapability name healthScore world =
          (.ok (some (deprecated manifest healthScore updatedAtMs)), final) ∧
        Persists tools
          (fun registry => (registry.removeTool name).registerManifest
            (deprecated manifest healthScore updatedAtMs))
          (deprecated manifest healthScore updatedAtMs) world final := by
  unfold deprecateCapability
  rw [bind_of_ok (run_current world)]
  cases found : world.registry.manifests.get name with
  | none => exact Or.inl ⟨rfl, rfl⟩
  | some manifest =>
    obtain ⟨nowMs, later, ranClock, still⟩ := run_clock world
    dsimp only
    rw [bind_of_ok ranClock]
    obtain ⟨final, ran, persists⟩ := run_change unmirrored
      (fun registry => (registry.removeTool name).registerManifest
        (deprecated manifest healthScore nowMs))
      (deprecated manifest healthScore nowMs)
      (pure (some (deprecated manifest healthScore nowMs))) later
    exact Or.inr ⟨manifest, nowMs, final, rfl, ran, still.persists persists⟩

theorem forgeMcpTool_ends (request : McpToolForgeRequest) (world : ToolWorld F) :
    (∃ message final, tools.forgeMcpTool request world = (.error message, final) ∧
        world.Still final) ∨
      request.capabilitySlug ≠ "" ∧ ∃ built nowMs final,
        buildManifest tools.hash (tools.requestToolName request) (tools.requestServer request)
          request nowMs = .ok built ∧
        tools.forgeMcpTool request world = (.ok built, final) ∧
        Persists tools
          (·.hydrateManifest (tools.governedManifest world.registry built))
          (tools.governedManifest world.registry built) world final := by
  unfold forgeMcpTool
  split
  · exact Or.inl ⟨_, world, rfl, .refl world⟩
  · next named =>
    obtain ⟨nowMs, later, ranClock, still⟩ := run_clock world
    rw [bind_of_ok ranClock]
    cases isBuilt : buildManifest (F := F) tools.hash (tools.requestToolName request)
        (tools.requestServer request) request nowMs with
    | error message => exact Or.inl ⟨message, later, rfl, still⟩
    | ok built =>
      have ranBuild : (Effect.ofExcept (.ok built) :
          ToolEffect F (ForgedMcpToolManifest F)) later = (.ok built, later) := rfl
      obtain ⟨final, ran, persists⟩ := run_upsert unmirrored
        (·.hydrateManifest (tools.governedManifest later.registry built))
        (tools.governedManifest later.registry built) later
      have upserts : tools.upsertGovernedManifest built later = (.ok (), final) := by
        unfold upsertGovernedManifest
        rw [bind_of_ok (run_current later)]
        exact ran
      rw [bind_of_ok ranBuild, bind_of_ok upserts]
      rw [still.registry] at persists
      exact Or.inr ⟨named, built, nowMs, final, isBuilt, rfl, still.persists persists⟩

end Unmirrored

end ToolGovernance

end AutoLoop.Tools
