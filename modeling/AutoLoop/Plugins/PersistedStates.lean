import AutoLoop.Plugins.LifecycleSteps
import AutoLoop.Plugins.PlainForms
import AutoLoop.Runtime.BudgetBooks

/-!
# Persisted plugin states

What the store tells of a plugin is what is kept of it in memory, as long as a plugin is
installed once, is rolled back and rolled out in shadow only while it is installed, and its
events are logged at increasing milliseconds.
-/

namespace AutoLoop.Plugins

open StateAdapter
open AutoLoop.Runtime (still unmirroredStore)
open Option PlainForms
open Effect (Keeps)

/-! ## Event logs -/

section
variable (events : UInt64 → Option PluginLifecycleEvent)

/-- Each event starts where the event before it ends. -/
def Connected : Prop :=
  ∀ earlier later event next, earlier < later → events earlier = some event →
    events later = some next →
      (∀ between, earlier < between → between < later → events between = none) →
        next.fromState = some event.toState

/-- The last event of a log leads to a state; without a state there is none. -/
def EndsIn : Option PluginState → Prop
  | none => ∀ atMs, events atMs = none
  | some state => ∃ atMs event, events atMs = some event ∧ event.toState = state ∧
      ∀ later, atMs < later → events later = none

end

section Logs

variable {events : UInt64 → Option PluginLifecycleEvent} {previous : Option PluginState}
variable {now : UInt64} (event : PluginLifecycleEvent)
variable (latest : ∀ atMs, events atMs ≠ none → atMs < now)
include latest

theorem endsIn_update :
    EndsIn (Function.update events now (some event)) (some event.toState) := by
  refine ⟨now, event, Function.update_self _ _ _, rfl, ?_⟩
  intro later isLater
  have other : later ≠ now := fun same => UInt64.lt_irrefl now (same ▸ isLater)
  rw [Function.update_of_ne other]
  by_contra logged
  exact UInt64.lt_irrefl now (UInt64.lt_trans isLater (latest later logged))

theorem connected_update (connected : Connected events) (ends : EndsIn events previous)
    (starts : ∀ state, previous = some state → event.fromState = some state) :
    Connected (Function.update events now (some event)) := by
  intro earlier later first next below isFirst isNext nothing
  by_cases isNow : later = now
  · have notNow : earlier ≠ now := by
      intro same
      rw [same, isNow] at below
      exact UInt64.lt_irrefl now below
    rw [isNow, Function.update_self, Option.some.injEq] at isNext
    rw [Function.update_of_ne notNow] at isFirst
    rw [← isNext]
    cases isState : previous with
    | none =>
      rw [isState] at ends
      rw [ends earlier] at isFirst
      cases isFirst
    | some state =>
      rw [isState] at ends
      obtain ⟨atMs, last, isLast, leads, after⟩ := ends
      -- The event before the new one is the last one.
      have sameTime : earlier = atMs := by
        by_contra different
        cases UInt64.lt_or_lt_of_ne different with
        | inl before =>
          have logged : events atMs ≠ none := by simp [isLast]
          have inside := nothing atMs before (isNow ▸ latest atMs logged)
          have other : atMs ≠ now := fun same =>
            UInt64.lt_irrefl now (same ▸ latest atMs logged)
          rw [Function.update_of_ne other, isLast] at inside
          cases inside
        | inr beyond =>
          rw [after earlier beyond] at isFirst
          cases isFirst
      rw [sameTime, isLast, Option.some.injEq] at isFirst
      rw [starts state isState, ← isFirst, leads]
  · have laterLogged : events later = some next := by
      rwa [Function.update_of_ne isNow] at isNext
    have beforeNow : later < now := latest later (by simp [laterLogged])
    have notNow : earlier ≠ now := fun same =>
      UInt64.lt_irrefl now (UInt64.lt_trans (same ▸ below) beforeNow)
    rw [Function.update_of_ne notNow] at isFirst
    apply connected earlier later first next below isFirst laterLogged
    intro between above under
    have other : between ≠ now := fun same =>
      UInt64.lt_irrefl now (UInt64.lt_trans (same ▸ under) beforeNow)
    have inside := nothing between above under
    rwa [Function.update_of_ne other] at inside

end Logs

/-! ## Views -/

structure LifecycleView.Settled (view : LifecycleView) : Prop where
  owned : ∀ pluginId core, view.core pluginId = some core →
    core.manifest.id = pluginId ∧ ∀ manifest ∈ core.history, manifest.id = pluginId
  stored : ∀ pluginId, view.stored pluginId =
    (view.core pluginId).map fun core => ⟨pluginId, core.state, core.manifest⟩
  indexed : ∀ pluginId, view.indexed pluginId = (view.core pluginId).map (·.state)
  connected : ∀ pluginId, Connected (view.eventAt pluginId)
  ends : ∀ pluginId, EndsIn (view.eventAt pluginId) ((view.core pluginId).map (·.state))

structure LifecycleChange.Fits (change : LifecycleChange) (view : LifecycleView) : Prop where
  owned : change.core.manifest.id = change.pluginId ∧
    ∀ manifest ∈ change.core.history, manifest.id = change.pluginId
  stored : change.stored = change.core.state
  /-- Without an event the state stays. -/
  stays : change.event = none →
    (view.core change.pluginId).map (·.state) = some change.core.state
  logged : ∀ event, change.event = some event →
    event.pluginId = change.pluginId ∧ event.toState = change.core.state ∧
      (∀ core, view.core change.pluginId = some core → event.fromState = some core.state) ∧
        ∀ atMs, view.eventAt change.pluginId atMs ≠ none → atMs < event.atMs

namespace LifecycleView

variable {view : LifecycleView} {change : LifecycleChange}

section
variable (view : LifecycleView) (change : LifecycleChange)

@[simp] theorem core_after :
    (view.after change).core = Function.update view.core change.pluginId (some change.core) := by
  cases change with
  | mk pluginId core stored event =>
    cases event with
    | none => rfl
    | some event => rfl

@[simp] theorem stored_after :
    (view.after change).stored = Function.update view.stored change.core.manifest.id
      (some ⟨change.core.manifest.id, change.stored, change.core.manifest⟩) := by
  cases change with
  | mk pluginId core stored event =>
    cases event with
    | none => rfl
    | some event => rfl

end

theorem eventAt_after_of_none (isNone : change.event = none) :
    (view.after change).eventAt = view.eventAt := by
  cases change with
  | mk pluginId core stored event =>
    cases isNone
    rfl

theorem eventAt_after_of_some {event : PluginLifecycleEvent} (isSome : change.event = some event) :
    (view.after change).eventAt = Function.update view.eventAt event.pluginId
      (Function.update (view.eventAt event.pluginId) event.atMs (some event)) := by
  cases change with
  | mk pluginId core stored event =>
    cases isSome
    rfl

theorem Settled.after (settled : view.Settled) (fits : change.Fits view) :
    (view.after change).Settled := by
  constructor
  · intro pluginId core isCore
    rw [core_after, Function.update_apply] at isCore
    by_cases isId : pluginId = change.pluginId
    · rw [if_pos isId, Option.some.injEq] at isCore
      rw [isId, ← isCore]
      exact fits.owned
    · rw [if_neg isId] at isCore
      exact settled.owned pluginId core isCore
  · intro pluginId
    rw [stored_after, core_after, fits.owned.1, Function.update_apply, Function.update_apply]
    by_cases isId : pluginId = change.pluginId
    · rw [if_pos isId, if_pos isId, map_some, fits.stored, isId]
    · rw [if_neg isId, if_neg isId]
      exact settled.stored pluginId
  · exact fun pluginId => rfl
  · intro pluginId
    cases isEvent : change.event with
    | none =>
      rw [eventAt_after_of_none isEvent]
      exact settled.connected pluginId
    | some event =>
      obtain ⟨isOf, leads, starts, latest⟩ := fits.logged event isEvent
      rw [eventAt_after_of_some isEvent, isOf, Function.update_apply]
      split
      · apply connected_update event latest (settled.connected _) (settled.ends _)
        intro state isState
        obtain ⟨core, isCore, sameState⟩ := map_eq_some_iff.mp isState
        rw [starts core isCore, sameState]
      · exact settled.connected pluginId
  · intro pluginId
    rw [core_after, Function.update_apply]
    cases isEvent : change.event with
    | none =>
      rw [eventAt_after_of_none isEvent]
      split
      · next isId =>
        have ends := settled.ends change.pluginId
        rw [fits.stays isEvent] at ends
        rw [isId]
        exact ends
      · exact settled.ends pluginId
    | some event =>
      obtain ⟨isOf, leads, starts, latest⟩ := fits.logged event isEvent
      rw [eventAt_after_of_some isEvent, isOf, Function.update_apply]
      split
      · rw [map_some, ← leads]
        exact endsIn_update event latest
      · exact settled.ends pluginId

end LifecycleView

/-! ## Changes that fit -/

section Fits

variable {view : LifecycleView} {pluginId : String} {core : PluginCore} {atMs : UInt64}

section
variable (isCore : view.core pluginId = some core)
  (latest : ∀ earlier, view.eventAt pluginId earlier ≠ none → earlier < atMs)
include isCore latest

theorem fits_transition (target : PluginState) (operator reason : String) (now : UInt64)
    (settled : view.Settled) :
    (core.transition pluginId target operator reason now atMs).Fits view := by
  constructor
  · exact settled.owned pluginId core isCore
  · rfl
  · intro isNone
    cases isNone
  · intro event isEvent
    cases isEvent
    refine ⟨rfl, rfl, ?_, latest⟩
    intro other isOther
    rw [Option.some.inj (isCore.symm.trans isOther)]

theorem fits_update (sign : PluginSigner) (source : Option String) (operator : String)
    (now : UInt64) (settled : view.Settled) :
    (core.update pluginId sign source operator now atMs).Fits view := by
  obtain ⟨ownedManifest, ownedHistory⟩ := settled.owned pluginId core isCore
  constructor
  · refine ⟨ownedManifest, ?_⟩
    intro manifest inHistory
    cases List.mem_append.mp inHistory with
    | inl old => exact ownedHistory manifest old
    | inr isNew =>
      rw [List.mem_singleton.mp isNew]
      exact ownedManifest
  · rfl
  · intro isNone
    cases isNone
  · intro event isEvent
    cases isEvent
    refine ⟨rfl, rfl, ?_, latest⟩
    intro other isOther
    rw [Option.some.inj (isCore.symm.trans isOther)]

theorem fits_rollback (isInstalled : core.state = .installed) {previous : PluginManifestContract}
    (isPrevious : core.history.dropLast.getLast? = some previous) (operator reason : String)
    (settled : view.Settled) :
    (core.rollback pluginId previous operator reason atMs).Fits view := by
  obtain ⟨ownedManifest, ownedHistory⟩ := settled.owned pluginId core isCore
  constructor
  · refine ⟨ownedHistory previous ?_, ownedHistory⟩
    exact List.mem_of_mem_dropLast (List.mem_of_getLast? isPrevious)
  · rfl
  · intro isNone
    cases isNone
  · intro event isEvent
    cases isEvent
    refine ⟨rfl, rfl, ?_, latest⟩
    intro other isOther
    rw [← Option.some.inj (isCore.symm.trans isOther), isInstalled]

end

theorem fits_rollout (isCore : view.core pluginId = some core) {mode : PluginRolloutMode}
    (isState : core.state = manifestStateForMode mode) (percent : UInt8) (now : UInt64)
    (settled : view.Settled) :
    (core.rollout pluginId mode percent now).Fits view := by
  constructor
  · exact settled.owned pluginId core isCore
  · exact isState.symm
  · intro isNone
    exact congrArg (Option.map PluginCore.state) isCore
  · intro event isEvent
    cases isEvent

theorem fits_installation {request : PluginInstallRequest}
    (isNew : view.core request.pluginId = none) (sign : PluginSigner) (now : UInt64)
    (settled : view.Settled) : (request.installation sign now).Fits view := by
  have nothing := settled.ends request.pluginId
  rw [isNew] at nothing
  constructor
  · refine ⟨rfl, ?_⟩
    intro manifest inHistory
    rw [List.mem_singleton.mp inHistory]
    rfl
  · rfl
  · intro isNone
    cases isNone
  · intro event isEvent
    cases isEvent
    refine ⟨rfl, rfl, ?_, ?_⟩
    · intro core isCore
      cases isNew.symm.trans isCore
    · intro earlier logged
      exact absurd (nothing earlier) logged

end Fits

/-! ## Calls in order -/

namespace PluginWorld

variable (forms : PluginForms) (world : PluginWorld) (pluginId : String)

/-- The clock reads later from now on than at any event of the plugin. -/
def Punctual : Prop :=
  ∀ atMs, world.Reads atMs → ∀ earlier, world.eventAt forms pluginId earlier ≠ none →
    earlier < atMs

def InState (state : PluginState) : Prop :=
  ∀ record, world.records.get pluginId = some record → record.state = state

/-- A plugin with a version to go back to is installed, and its next event is later. -/
def RollsBack : Prop :=
  (∀ record, world.records.get pluginId = some record → 2 ≤ record.history.length →
      record.state = .installed) ∧
    world.Punctual forms pluginId

/-- The state and the manifest in the row of a plugin and its state in the index are the
ones in memory, and its events are a path. -/
structure StateIsLive : Prop where
  stored : (world.storedPlugin forms pluginId).map (·.state) =
    (world.records.get pluginId).map (·.state)
  indexed : (world.indexEntry forms pluginId).map (·.state) =
    (world.records.get pluginId).map (·.state)
  manifest : (world.storedPlugin forms pluginId).map (·.manifest) =
    (world.records.get pluginId).map (·.currentManifest)
  connected : Connected (world.eventAt forms pluginId)

end PluginWorld

/-- What a call needs to keep what is stored of the plugins. -/
def PluginLifecycleManager.Orderly (manager : PluginLifecycleManager) (world : PluginWorld) :
    PluginCall → Prop
  | .install request =>
    request.Accepted manager.sign → world.records.get request.pluginId = none
  | .enable pluginId _ _ => world.Punctual manager.forms pluginId
  | .disable pluginId _ _ => world.Punctual manager.forms pluginId
  | .update pluginId _ _ => world.Punctual manager.forms pluginId
  | .rollback pluginId _ _ => world.RollsBack manager.forms pluginId
  | .quickRollback pluginId _ => world.RollsBack manager.forms pluginId
  | .rollout pluginId .shadow _ _ _ => world.InState pluginId .installed
  | .rollout pluginId .rollback _ _ _ => world.RollsBack manager.forms pluginId
  | .rollout pluginId .canary _ _ _ => world.Punctual manager.forms pluginId
  | .rollout pluginId .full _ _ _ => world.Punctual manager.forms pluginId
  | .verify _ => True
  | .hostLoadSubprocess _ _ _ => True
  | .hostInvoke _ _ _ _ _ _ => True

section Calls

variable {α β : Type} {forms : PluginForms} {world : PluginWorld}

theorem PluginWorld.StateIsLive.of_settled (settled : (world.view forms).Settled)
    (pluginId : String) : world.StateIsLive forms pluginId := by
  have cores : (world.view forms).core pluginId =
      (world.records.get pluginId).map PluginRuntimeRecord.core := rfl
  have isStored : world.storedPlugin forms pluginId =
      (world.records.get pluginId).map fun record =>
        ⟨pluginId, record.state, record.currentManifest⟩ := by
    have stored := settled.stored pluginId
    rw [cores, map_map] at stored
    exact stored
  constructor
  · rw [isStored, map_map]
    rfl
  · have indexed := settled.indexed pluginId
    rw [cores, map_map] at indexed
    exact indexed
  · rw [isStored, map_map]
    rfl
  · exact settled.connected pluginId

theorem settled_of_quiet {after : PluginWorld} (settled : (world.view forms).Settled)
    (quiet : Quiet forms world after) : (after.view forms).Settled := by
  rw [quiet.isView]
  exact settled

theorem settled_of_ends {allowed : LifecycleChange → Prop} {ran : Except String α × PluginWorld}
    (settled : (world.view forms).Settled) (ends : Ends forms allowed world ran)
    (fits : ∀ change, allowed change → change.Fits (world.view forms)) :
    (ran.2.view forms).Settled := by
  cases ends with
  | inl failed => exact settled_of_quiet settled failed.2
  | inr made =>
    obtain ⟨change, isAllowed, leaves⟩ := made
    rw [leaves.isView]
    exact settled.after (fits change isAllowed)

theorem exists_record {pluginId : String} {core : PluginCore}
    (isCore : (world.view forms).core pluginId = some core) :
    ∃ record, world.records.get pluginId = some record ∧ record.core = core :=
  map_eq_some_iff.mp isCore

theorem snd_map (view : α → β) (action : PluginEffect α) :
    ((view <$> action) world).2 = (action world).2 :=
  congrArg Prod.snd (Effect.bind_pure_apply action view world)

end Calls

section Runs

variable {manager : PluginLifecycleManager} (unmirrored : manager.ledger.store.mirror = none)
include unmirrored

namespace PluginLifecycleManager

variable {world : PluginWorld} (settled : (world.view manager.forms).Settled)
include settled

section
variable {pluginId : String}

theorem settled_transition (punctual : world.Punctual manager.forms pluginId)
    (target : PluginState) (operator reason : String) :
    ((manager.transitionState pluginId target operator reason world).2.view
      manager.forms).Settled := by
  apply settled_of_ends settled (transition_ends unmirrored pluginId target operator reason world)
  intro change isChange
  obtain ⟨core, now, atMs, isCore, reads, isMade⟩ := isChange
  rw [isMade]
  exact fits_transition isCore (punctual atMs reads) target operator reason now settled

theorem settled_update (punctual : world.Punctual manager.forms pluginId)
    (source : Option String) (operator : String) :
    ((manager.update pluginId source operator world).2.view manager.forms).Settled := by
  apply settled_of_ends settled (update_ends unmirrored pluginId source operator world)
  intro change isChange
  obtain ⟨core, now, atMs, isCore, reads, isMade⟩ := isChange
  rw [isMade]
  exact fits_update isCore (punctual atMs reads) manager.sign source operator now settled

theorem settled_rollback (rollsBack : world.RollsBack manager.forms pluginId)
    (operator reason : String) :
    ((manager.rollback pluginId operator reason world).2.view manager.forms).Settled := by
  apply settled_of_ends settled (rollback_ends unmirrored pluginId operator reason world)
  intro change isChange
  obtain ⟨core, previous, atMs, isCore, isPrevious, reads, isMade⟩ := isChange
  obtain ⟨record, found, isRecord⟩ := exists_record isCore
  have isLong : 2 ≤ record.history.length := by
    have inDropped := List.length_pos_of_mem (List.mem_of_getLast? isPrevious)
    rw [← isRecord, List.length_dropLast] at inDropped
    exact Nat.lt_of_sub_pos inDropped
  have isInstalled : core.state = .installed := by
    rw [← isRecord]
    exact rollsBack.1 record found isLong
  rw [isMade]
  exact fits_rollback isCore (rollsBack.2 atMs reads) isInstalled isPrevious operator reason
    settled

theorem settled_recordRollout {mode : PluginRolloutMode}
    (inState : world.InState pluginId (manifestStateForMode mode)) (percent : UInt8)
    (operator reason : String) :
    ((manager.recordRollout pluginId mode percent operator reason world).2.view
      manager.forms).Settled := by
  apply settled_of_ends settled
    (recordRollout_ends unmirrored pluginId mode percent operator reason world)
  intro change isChange
  obtain ⟨core, now, isCore, isMade⟩ := isChange
  obtain ⟨record, found, isRecord⟩ := exists_record isCore
  have isState : core.state = manifestStateForMode mode := by
    rw [← isRecord]
    exact inState record found
  rw [isMade]
  exact fits_rollout isCore isState percent now settled

theorem settled_enableAndRecord (punctual : world.Punctual manager.forms pluginId)
    {mode : PluginRolloutMode} (isEnabled : manifestStateForMode mode = .enabled) (percent : UInt8)
    (operator enableReason reason : String) :
    (((do
      let _ ← manager.enable pluginId operator enableReason
      manager.recordRollout pluginId mode percent operator reason :
        PluginEffect PluginManifestContract) world).2.view manager.forms).Settled := by
  have ends := transition_ends unmirrored pluginId .enabled operator enableReason world
  have middleSettled :=
    settled_transition unmirrored settled punctual .enabled operator enableReason
  cases ended : manager.enable pluginId operator enableReason world with
  | mk answer middle =>
    have same : manager.transitionState pluginId .enabled operator enableReason world =
        (answer, middle) := ended
    rw [same] at ends middleSettled
    cases answer with
    | error message =>
      rw [Effect.bind_of_error ended]
      exact middleSettled
    | ok enabled =>
      rw [Effect.bind_of_ok ended]
      apply settled_recordRollout unmirrored middleSettled
      intro record found
      cases ends with
      | inl failed =>
        obtain ⟨message, isError⟩ := failed.1
        cases isError
      | inr made =>
        obtain ⟨change, isAllowed, leaves⟩ := made
        obtain ⟨core, now, atMs, isCore, reads, isMade⟩ := isAllowed
        have seen : (middle.view manager.forms).core pluginId = some record.core :=
          congrArg (Option.map PluginRuntimeRecord.core) found
        have isId : pluginId = (core.transition pluginId .enabled operator enableReason now
          atMs).pluginId := rfl
        rw [leaves.isView, LifecycleView.core_after, isMade, Function.update_apply,
          if_pos isId, Option.some.injEq] at seen
        rw [isEnabled]
        exact (congrArg PluginCore.state seen).symm

end

theorem settled_call {call : PluginCall} (orderly : manager.Orderly world call) :
    ((manager.call call world).2.view manager.forms).Settled := by
  cases call with
  | install request =>
    rw [PluginLifecycleManager.call, snd_map]
    apply settled_of_ends settled (install_ends unmirrored request world)
    intro change isChange
    obtain ⟨now, accepted, reads, isMade⟩ := isChange
    have isNew : (world.view manager.forms).core request.pluginId = none :=
      congrArg (Option.map PluginRuntimeRecord.core) (orderly accepted)
    rw [isMade]
    exact fits_installation isNew manager.sign now settled
  | enable pluginId operator reason =>
    rw [PluginLifecycleManager.call, snd_map]
    exact settled_transition unmirrored settled orderly _ _ _
  | disable pluginId operator reason =>
    rw [PluginLifecycleManager.call, snd_map]
    exact settled_transition unmirrored settled orderly _ _ _
  | update pluginId source operator =>
    rw [PluginLifecycleManager.call, snd_map]
    exact settled_update unmirrored settled orderly _ _
  | rollback pluginId operator reason =>
    rw [PluginLifecycleManager.call, snd_map]
    exact settled_rollback unmirrored settled orderly _ _
  | quickRollback pluginId operator =>
    rw [PluginLifecycleManager.call, snd_map]
    exact settled_rollback unmirrored settled orderly _ _
  | rollout pluginId mode trafficPercent operator reason =>
    rw [PluginLifecycleManager.call, snd_map]
    cases mode with
    | shadow =>
      have inState : world.InState pluginId (manifestStateForMode .shadow) := orderly
      exact settled_recordRollout unmirrored settled inState _ _ _
    | canary => exact settled_enableAndRecord unmirrored settled orderly rfl _ _ _ _
    | full => exact settled_enableAndRecord unmirrored settled orderly rfl _ _ _ _
    | rollback => exact settled_rollback unmirrored settled orderly _ _
  | verify pluginId =>
    rw [PluginLifecycleManager.call, snd_map]
    exact settled_of_quiet settled (quiet_verify unmirrored pluginId world)
  | hostLoadSubprocess pluginId entrypoint operator =>
    rw [PluginLifecycleManager.call, snd_map]
    exact settled_of_quiet settled (quiet_hostLoadSubprocess unmirrored _ _ _ world)
  | hostInvoke pluginId sessionId tenantId principalId capabilityId payload =>
    rw [PluginLifecycleManager.call, snd_map]
    exact settled_of_quiet settled (quiet_hostInvoke _ _ _ _ _ _ world)

end PluginLifecycleManager

omit unmirrored in
theorem settled_started (host : Nat → Moment) :
    ((PluginWorld.started host).view manager.forms).Settled := by
  constructor
  · intro pluginId core isCore
    cases isCore
  · exact fun pluginId => rfl
  · exact fun pluginId => rfl
  · intro pluginId earlier later event next below isFirst
    cases isFirst
  · exact fun pluginId atMs => rfl

end Runs

/-! ## A plugin that is rolled out in shadow -/

/-- A manager over a new store, with the forms of rows that read back. -/
def plainManager : PluginLifecycleManager where
  ledger :=
    { store := unmirroredStore
      sanitize := id
      canonicalJson := compactText
      hashValue := fun content =>
        Runtime.digestOfParts [content.prevHash, compactText content.payload,
          content.createdAtMs.toNat.repr]
      encode := fun record =>
        Json.object [("record_hash", Json.quote record.recordHash),
          ("payload", compactText record.payload)]
      decode := fun _ => none }
  forms := all
  sign := separateSign
  runner := fun _ _ input => .ok ⟨input.invocationId, input.pluginId, "ok", .null, [], []⟩

def signedRequest : PluginInstallRequest where
  pluginId := "p"
  source := "builtin://p#sig=" ++ separateSign "p" "builtin://p" "acme" "ann"
  requestedBy := "ann"
  tenantId := "acme"
  verifySignature := true

section
variable {manager : PluginLifecycleManager} (unmirrored : manager.ledger.store.mirror = none)
include unmirrored

theorem inState_install {request : PluginInstallRequest}
    {world : PluginWorld} (isNew : world.records.get request.pluginId = none) :
    (manager.install request world).2.InState request.pluginId .installed := by
  have ends := manager.install_ends unmirrored request world
  generalize manager.install request world = ran at ends ⊢
  intro record found
  have seen : (ran.2.view manager.forms).core request.pluginId = some record.core :=
    congrArg (Option.map PluginRuntimeRecord.core) found
  have nothing : (world.view manager.forms).core request.pluginId = none :=
    congrArg (Option.map PluginRuntimeRecord.core) isNew
  cases ends with
  | inl failed =>
    rw [failed.2.isView, nothing] at seen
    cases seen
  | inr made =>
    obtain ⟨change, isAllowed, leaves⟩ := made
    obtain ⟨now, accepted, reads, isMade⟩ := isAllowed
    have isId : request.pluginId = (request.installation manager.sign now).pluginId := rfl
    rw [leaves.isView, LifecycleView.core_after, isMade, Function.update_apply, if_pos isId,
      Option.some.injEq] at seen
    exact (congrArg PluginCore.state seen).symm

theorem orderly_shadow_after_install (host : Nat → Moment)
    (request : PluginInstallRequest) (operator reason : String) :
    (pluginRuns manager host).EachStep (fun books call => manager.Orderly books.1 call)
      (pluginRuns manager host).initial
      [.install request, .rollout request.pluginId .shadow none operator reason] := by
  have inState : (manager.call (.install request) (PluginWorld.started host)).2.InState
      request.pluginId .installed := by
    rw [PluginLifecycleManager.call, snd_map]
    exact inState_install unmirrored rfl
  refine ⟨fun accepted => rfl, ?_, trivial⟩
  dsimp only
  rw [world_step]
  exact inState

end

def disabledWorld : PluginWorld :=
  worldAfter plainManager still [.install signedRequest, .disable "p" "ann" "pause"]

theorem PluginLifecycleManager.rollout_shadow (manager : PluginLifecycleManager)
    (pluginId operator reason : String) (trafficPercent : Option UInt8) :
    manager.rollout pluginId .shadow trafficPercent operator reason =
      manager.recordRollout pluginId .shadow 0 operator reason := rfl

theorem stored_recordRollout_shadow {manager : PluginLifecycleManager}
    (unmirrored : manager.ledger.store.mirror = none) {world : PluginWorld} {pluginId : String}
    (isId : (world.records.get pluginId).map (·.currentManifest.id) = some pluginId)
    {percent : UInt8} {operator reason : String}
    (succeeds : (manager.recordRollout pluginId .shadow percent operator reason world).1.isOk =
      true) :
    ((manager.recordRollout pluginId .shadow percent operator reason world).2.storedPlugin
      manager.forms pluginId).map (·.state) = some .installed := by
  cases manager.recordRollout_ends unmirrored pluginId .shadow percent operator reason world with
  | inl failed =>
    obtain ⟨message, isError⟩ := failed.1
    rw [isError] at succeeds
    cases succeeds
  | inr made =>
    obtain ⟨change, isAllowed, leaves⟩ := made
    obtain ⟨core, now, isCore, isMade⟩ := isAllowed
    obtain ⟨record, found, isRecord⟩ := exists_record isCore
    rw [found, map_some, Option.some.injEq] at isId
    have keeps : change.core.manifest.id = pluginId := by
      rw [isMade, ← isRecord]
      exact isId
    have seen := congrFun (congrArg LifecycleView.stored leaves.isView) pluginId
    rw [LifecycleView.stored_after, keeps, Function.update_self, isMade] at seen
    exact congrArg (Option.map (·.state)) seen

def PluginCore.Recorded (core : PluginCore) : Prop :=
  ∃ entry ∈ core.history, core.manifest = { entry with metadata := core.manifest.metadata }

def LifecycleView.Recorded (view : LifecycleView) : Prop :=
  ∀ pluginId core, view.core pluginId = some core → core.Recorded

def PluginCall.Installs : PluginCall → String → Prop
  | .install request, pluginId => request.pluginId = pluginId
  | _, _ => False

/-- Histories go on, but for those of plugins that are installed. -/
structure Continues (forms : PluginForms) (installs : String → Prop)
    (before after : PluginWorld) : Prop where
  recorded : (before.view forms).Recorded → (after.view forms).Recorded
  history : ∀ pluginId core, (before.view forms).core pluginId = some core →
    installs pluginId ∨ ∃ later, (after.view forms).core pluginId = some later ∧
      core.history <+: later.history

theorem PluginCore.recorded_of_mem {core : PluginCore} (isEntry : core.manifest ∈ core.history) :
    core.Recorded :=
  ⟨core.manifest, isEntry, rfl⟩

theorem PluginCore.Recorded.noted {core : PluginCore} (recorded : core.Recorded)
    (metadata : Table String String) (state : PluginState) :
    PluginCore.Recorded ⟨{ core.manifest with metadata }, state, core.history⟩ := by
  obtain ⟨entry, isEntry, same⟩ := recorded
  exact ⟨entry, isEntry, congrArg (fun manifest => { manifest with metadata }) same⟩

section
variable {forms : PluginForms} {installs : String → Prop} {before middle after : PluginWorld}

theorem Continues.trans (before middle after : PluginWorld)
    (first : Continues forms installs before middle)
    (second : Continues forms installs middle after) : Continues forms installs before after where
  recorded := second.recorded ∘ first.recorded
  history pluginId core isCore := by
    rcases first.history pluginId core isCore with installed | ⟨between, isBetween, grows⟩
    · exact Or.inl installed
    · refine (second.history pluginId between isBetween).imp_right fun still => ?_
      obtain ⟨later, isLater, growsAgain⟩ := still
      exact ⟨later, isLater, grows.trans growsAgain⟩

theorem Quiet.continues (quiet : Quiet forms before after) :
    Continues forms installs before after where
  recorded recorded := by rwa [quiet.isView]
  history pluginId core isCore :=
    Or.inr ⟨core, by rwa [quiet.isView], List.prefix_refl _⟩

theorem Ends.continues {α : Type} {allowed : LifecycleChange → Prop}
    {ran : Except String α × PluginWorld} (ends : Ends forms allowed before ran)
    (goesOn : ∀ change, allowed change →
      ((before.view forms).Recorded → change.core.Recorded) ∧
      ∀ core, (before.view forms).core change.pluginId = some core →
        installs change.pluginId ∨ core.history <+: change.core.history) :
    Continues forms installs before ran.2 := by
  cases ends with
  | inl failed => exact failed.2.continues
  | inr made =>
    obtain ⟨change, isAllowed, leaves⟩ := made
    obtain ⟨records, continues⟩ := goesOn change isAllowed
    have isCore : (ran.2.view forms).core =
        Function.update (before.view forms).core change.pluginId (some change.core) := by
      rw [leaves.isView, LifecycleView.core_after]
    constructor
    · intro recorded pluginId core isAfter
      rw [isCore, Function.update_apply] at isAfter
      split at isAfter
      · cases isAfter
        exact records recorded
      · exact recorded pluginId core isAfter
    · intro pluginId core isBefore
      rw [isCore, Function.update_apply]
      split
      · next isId =>
        subst isId
        exact (continues core isBefore).imp_right fun grows => ⟨_, rfl, grows⟩
      · exact Or.inr ⟨core, isBefore, List.prefix_refl _⟩

end

namespace PluginLifecycleManager

variable {manager : PluginLifecycleManager} (unmirrored : manager.ledger.store.mirror = none)
include unmirrored

section
variable {installs : String → Prop} (pluginId operator reason : String)

theorem continues_transition (target : PluginState) :
    Keeps (Continues manager.forms installs)
      (manager.transitionState pluginId target operator reason) := by
  intro world
  apply (transition_ends unmirrored pluginId target operator reason world).continues
  rintro change ⟨core, now, atMs, isCore, -, rfl⟩
  refine ⟨fun recorded => (recorded pluginId core isCore).noted _ _, ?_⟩
  intro other isOther
  cases isCore.symm.trans isOther
  exact Or.inr (List.prefix_refl _)

theorem continues_update (source : Option String) :
    Keeps (Continues manager.forms installs) (manager.update pluginId source operator) := by
  intro world
  apply (update_ends unmirrored pluginId source operator world).continues
  rintro change ⟨core, now, atMs, isCore, -, rfl⟩
  refine ⟨fun _ => PluginCore.recorded_of_mem
    (List.mem_append_right _ (List.mem_singleton_self _)), ?_⟩
  intro other isOther
  cases isCore.symm.trans isOther
  exact Or.inr (List.prefix_append _ _)

theorem continues_rollback :
    Keeps (Continues manager.forms installs) (manager.rollback pluginId operator reason) := by
  intro world
  apply (rollback_ends unmirrored pluginId operator reason world).continues
  rintro change ⟨core, previous, atMs, isCore, isPrevious, -, rfl⟩
  refine ⟨fun _ => PluginCore.recorded_of_mem
    (List.mem_of_mem_dropLast (List.mem_of_getLast? isPrevious)), ?_⟩
  intro other isOther
  cases isCore.symm.trans isOther
  exact Or.inr (List.prefix_refl _)

theorem continues_recordRollout (mode : PluginRolloutMode) (percent : UInt8) :
    Keeps (Continues manager.forms installs)
      (manager.recordRollout pluginId mode percent operator reason) := by
  intro world
  apply (recordRollout_ends unmirrored pluginId mode percent operator reason world).continues
  rintro change ⟨core, now, isCore, rfl⟩
  refine ⟨fun recorded => (recorded pluginId core isCore).noted _ _, ?_⟩
  intro other isOther
  cases isCore.symm.trans isOther
  exact Or.inr (List.prefix_refl _)

theorem continues_enableAndRecord (enableReason : String) (mode : PluginRolloutMode)
    (percent : UInt8) :
    Keeps (Continues manager.forms installs) (do
      let _ ← manager.enable pluginId operator enableReason
      manager.recordRollout pluginId mode percent operator reason) :=
  (continues_transition unmirrored pluginId operator enableReason .enabled).bind
    Continues.trans fun _ =>
      continues_recordRollout unmirrored pluginId operator reason mode percent

end

theorem continues_call (call : PluginCall) (world : PluginWorld) :
    Continues manager.forms call.Installs world (manager.call call world).2 := by
  cases call with
  | install request =>
    rw [PluginLifecycleManager.call, snd_map]
    apply (install_ends unmirrored request world).continues
    rintro change ⟨now, accepted, -, rfl⟩
    exact ⟨fun _ => PluginCore.recorded_of_mem (List.mem_singleton_self _),
      fun _ _ => Or.inl rfl⟩
  | enable pluginId operator reason =>
    rw [PluginLifecycleManager.call, snd_map]
    exact continues_transition unmirrored _ _ _ _ world
  | disable pluginId operator reason =>
    rw [PluginLifecycleManager.call, snd_map]
    exact continues_transition unmirrored _ _ _ _ world
  | update pluginId source operator =>
    rw [PluginLifecycleManager.call, snd_map]
    exact continues_update unmirrored _ _ _ world
  | rollback pluginId operator reason =>
    rw [PluginLifecycleManager.call, snd_map]
    exact continues_rollback unmirrored _ _ _ world
  | quickRollback pluginId operator =>
    rw [PluginLifecycleManager.call, snd_map]
    exact continues_rollback unmirrored _ _ _ world
  | rollout pluginId mode trafficPercent operator reason =>
    rw [PluginLifecycleManager.call, snd_map]
    cases mode with
    | shadow => exact continues_recordRollout unmirrored _ _ _ _ _ world
    | canary => exact continues_enableAndRecord unmirrored _ _ _ _ _ _ world
    | full => exact continues_enableAndRecord unmirrored _ _ _ _ _ _ world
    | rollback => exact continues_rollback unmirrored _ _ _ world
  | verify pluginId =>
    rw [PluginLifecycleManager.call, snd_map]
    exact (quiet_verify unmirrored pluginId world).continues
  | hostLoadSubprocess pluginId entrypoint operator =>
    rw [PluginLifecycleManager.call, snd_map]
    exact (quiet_hostLoadSubprocess unmirrored _ _ _ world).continues
  | hostInvoke pluginId sessionId tenantId principalId capabilityId payload =>
    rw [PluginLifecycleManager.call, snd_map]
    exact (quiet_hostInvoke _ _ _ _ _ _ world).continues

end PluginLifecycleManager

/-- Whatever is called, the manifest of a plugin is one that was installed or left by an update,
but for its metadata; and until it is installed again, the history of a plugin only grows. -/
theorem histories_continue {manager : PluginLifecycleManager}
    (unmirrored : manager.ledger.store.mirror = none) (host : Nat → Moment)
    (earlier later : List PluginCall) (pluginId : String)
    (kept : ∀ call ∈ later, ¬call.Installs pluginId) :
    (∀ core, ((worldAfter manager host (earlier ++ later)).view manager.forms).core pluginId =
      some core → core.Recorded) ∧
    ∀ core, ((worldAfter manager host earlier).view manager.forms).core pluginId = some core →
      ∃ grown, ((worldAfter manager host (earlier ++ later)).view manager.forms).core pluginId =
        some grown ∧ core.history <+: grown.history := by
  have recorded : ∀ calls, ((worldAfter manager host calls).view manager.forms).Recorded := by
    intro calls
    have always : (pluginRuns manager host).Always
        (fun books => (books.1.view manager.forms).Recorded)
        (pluginRuns manager host).initial calls := by
      refine .of_step ?_ ?_ calls
      · intro other core isCore
        cases isCore
      · exact fun books call => (manager.continues_call unmirrored call books.1).recorded
    exact always.run
  refine ⟨recorded _ pluginId, ?_⟩
  intro core isCore
  induction later using List.reverseRecOn with
  | nil => exact ⟨core, by rwa [List.append_nil], List.prefix_refl _⟩
  | append_singleton calls call ih =>
    obtain ⟨between, isBetween, grows⟩ := ih fun call isCall =>
      kept call (List.mem_append_left _ isCall)
    rw [← List.append_assoc, worldAfter_snoc]
    rcases (manager.continues_call unmirrored call _).history pluginId between isBetween with
      installs | ⟨grown, isGrown, growsAgain⟩
    · exact absurd installs (kept call (List.mem_append_right _ (List.mem_singleton_self _)))
    · exact ⟨grown, isGrown, grows.trans growsAgain⟩

theorem history_of_signed_plugin :
    (∀ core, ((worldAfter plainManager still ([.install signedRequest] ++
        [.update "p" none "ann", .quickRollback "p" "ann"])).view plainManager.forms).core "p" =
      some core → core.Recorded) ∧
    ∀ core, ((worldAfter plainManager still [.install signedRequest]).view
        plainManager.forms).core "p" = some core →
      ∃ grown, ((worldAfter plainManager still ([.install signedRequest] ++
          [.update "p" none "ann", .quickRollback "p" "ann"])).view plainManager.forms).core "p" =
        some grown ∧ core.history <+: grown.history :=
  histories_continue rfl still _ _ "p" (by simp [PluginCall.Installs])

end AutoLoop.Plugins
