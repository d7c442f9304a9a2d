import AutoLoop.Plugins.PersistedStates

/-!
# Signed plugin sources

A plugin runs from a source that a caller supplied together with its signature, as long as
every update leaves such a source and the host is called for enabled plugins only.
-/

namespace AutoLoop.Plugins

open StateAdapter
open AutoLoop.Runtime (still)
open PluginLifecycleManager List Effect PlainForms

/-! ## Origins -/

structure PluginOrigin where
  source : String
  tenantId : String
  requestedBy : String
  deriving DecidableEq, Repr

namespace PluginManifestContract

variable (manifest : PluginManifestContract)

def origin : PluginOrigin :=
  ⟨manifest.source, manifest.tenant, (manifest.metadata.get "requested_by").getD "unknown"⟩

theorem origin_note {key : String} (notTenant : key ≠ "tenant_id")
    (notRequester : key ≠ "requested_by") (value : String) :
    (manifest.note key value).origin = manifest.origin := by
  simp only [origin, tenant, note, Table.get_insert, Ne.symm notTenant, Ne.symm notRequester,
    if_false]

theorem origin_update (sign : PluginSigner) (pluginId : String) (source : Option String)
    (operator : String) (now : UInt64) :
    (manifest.update sign pluginId source operator now).origin =
      { manifest.origin with source := updatedSource manifest.source source } := by
  have noted : (manifest.update sign pluginId source operator now).origin =
      ((({ manifest with
        version := bumpVersion manifest.version
        source := updatedSource manifest.source source } : PluginManifestContract).note
          "updated_by" operator).note "updated_at_ms" now.toNat.repr).origin := rfl
  rw [noted, origin_note _ (by decide) (by decide), origin_note _ (by decide) (by decide)]
  rfl

end PluginManifestContract

theorem PluginInstallRequest.origin_manifest (request : PluginInstallRequest)
    (sign : PluginSigner) (now : UInt64) :
    (request.manifest sign now).origin =
      ⟨(splitSourceAndSignature request.source).1, request.tenantId, request.requestedBy⟩ := by
  have notTime : ("requested_by" : String) ≠ "installed_at_ms" := by decide
  have tenantTime : ("tenant_id" : String) ≠ "installed_at_ms" := by decide
  have tenantRequester : ("tenant_id" : String) ≠ "requested_by" := by decide
  simp only [PluginManifestContract.origin, PluginManifestContract.tenant,
    PluginInstallRequest.manifest, Table.get_insert, notTime, tenantTime, tenantRequester,
    if_false, if_true, Option.getD_some]

section
variable (sign : PluginSigner) (pluginId : String) (origin : PluginOrigin)

def Signs (text : String) :
    Prop :=
  (splitSourceAndSignature text).1 = origin.source ∧
    ∃ provided ∈ (splitSourceAndSignature text).2, Text.eqIgnoreAsciiCase provided
        (sign pluginId origin.source origin.tenantId origin.requestedBy) = true

def PluginCall.Supplies :
    PluginCall → Prop
  | .install request => request.pluginId = pluginId ∧ Signs sign pluginId origin request.source
  | .update updatedId (some text) _ => updatedId = pluginId ∧ Signs sign pluginId origin text
  | _ => False

end

def Supplied (sign : PluginSigner) (past : List PluginCall) (pluginId : String)
    (origin : PluginOrigin) : Prop :=
  ∃ call ∈ past, call.Supplies sign pluginId origin

theorem Supplied.later {sign : PluginSigner} {past : List PluginCall} {pluginId : String}
    {origin : PluginOrigin} (supplied : Supplied sign past pluginId origin) (call : PluginCall) :
    Supplied sign (past ++ [call]) pluginId origin := by
  obtain ⟨supplier, inPast, supplies⟩ := supplied
  exact ⟨supplier, mem_append_left _ inPast, supplies⟩

namespace PluginLifecycleManager

variable (manager : PluginLifecycleManager)

/-! ## Calls -/

def SourceSupplied (past : List PluginCall) (world : PluginWorld) (pluginId : String) : Prop :=
  ∃ record, world.records.get pluginId = some record ∧
    Supplied manager.sign past pluginId record.currentManifest.origin

/-- A call that enables a plugin, rolls it out, loads it into the host or reaches the host
does so for a source that was supplied with its signature, and the last one for an enabled
plugin. -/
def RunsSigned (books : PluginWorld × List PluginCall) (call : PluginCall) : Prop :=
  let ran := manager.call call books.1
  let past := books.2 ++ [call]
  match call with
  | .enable pluginId _ _ => ran.1.isOk = true → manager.SourceSupplied past ran.2 pluginId
  | .rollout pluginId _ _ _ _ => ran.1.isOk = true → manager.SourceSupplied past ran.2 pluginId
  | .hostLoadSubprocess pluginId _ _ =>
    ran.1.isOk = true → manager.SourceSupplied past ran.2 pluginId
  | .hostInvoke pluginId sessionId tenantId principalId capabilityId payload =>
    (hostInput pluginId sessionId tenantId principalId capabilityId payload books.1).1.isOk = true →
      manager.SourceSupplied past books.1 pluginId ∧ books.1.InState pluginId .enabled
  | _ => True

/-- An update leaves a source that was supplied with its signature, by itself or before, and
the host is called for an enabled plugin. -/
def Signed (books : PluginWorld × List PluginCall) : PluginCall → Prop
  | .update pluginId source operator =>
    ∀ record, books.1.records.get pluginId = some record →
      Supplied manager.sign (books.2 ++ [.update pluginId source operator]) pluginId
        { record.currentManifest.origin with
          source := updatedSource record.currentManifest.source source }
  | .hostInvoke pluginId _ _ _ _ _ => books.1.InState pluginId .enabled
  | _ => True

end PluginLifecycleManager

/-! ## Kept records -/

def PluginRuntimeRecord.Supplied (record : PluginRuntimeRecord) (sign : PluginSigner)
    (past : List PluginCall) (pluginId : String) : Prop :=
  Plugins.Supplied sign past pluginId record.currentManifest.origin ∧
    ∀ manifest ∈ record.history, Plugins.Supplied sign past pluginId manifest.origin

abbrev PluginRecords : Type := Table String PluginRuntimeRecord

namespace PluginRecords

variable (sign : PluginSigner) (past : List PluginCall) (records : PluginRecords)

def Supplied : Prop :=
  ∀ pluginId record, records.get pluginId = some record → record.Supplied sign past pluginId

def SuppliedWith (pluginId : String) : Prop :=
  PluginRecords.Supplied sign past records ∧ ∃ record, records.get pluginId = some record

variable {sign past records}

theorem Supplied.later (supplied : PluginRecords.Supplied sign past records) (call : PluginCall) :
    PluginRecords.Supplied sign (past ++ [call]) records := by
  intro pluginId record found
  obtain ⟨current, earlier⟩ := supplied pluginId record found
  exact ⟨current.later call, fun manifest inHistory => (earlier manifest inHistory).later call⟩

theorem Supplied.insert (supplied : PluginRecords.Supplied sign past records) {pluginId : String}
    {record : PluginRuntimeRecord} (isSupplied : record.Supplied sign past pluginId) :
    PluginRecords.SuppliedWith sign past (records.insert pluginId record) pluginId := by
  constructor
  · intro queried found isFound
    rw [Table.get_insert] at isFound
    split at isFound
    · next isId =>
      cases isFound
      rw [isId]
      exact isSupplied
    · exact supplied queried found isFound
  · exact ⟨record, by rw [Table.get_insert, if_pos rfl]⟩

end PluginRecords

/-! ## Parts of a call -/

/-- From records that meet `before`, a part of a call ends with records that meet `after`, or
fails with manifests that were supplied with their signatures. -/
structure Carries {α : Type} (sign : PluginSigner) (past : List PluginCall)
    (before : PluginRecords → Prop) (action : PluginEffect α) (after : PluginRecords → Prop) :
    Prop where
  triple : Effect.Triple (fun world => before world.records) action
    (fun _ world => after world.records)
    (fun _ world => PluginRecords.Supplied sign past world.records)

/-- A part of a call that leaves the records as they are. -/
def Steady {α : Type} (action : PluginEffect α) : Prop :=
  Effect.Keeps (fun before after => after.records = before.records) action

section Parts

variable {α β : Type} {sign : PluginSigner} {past : List PluginCall} {pluginId : String}
variable {before after : PluginRecords → Prop}

theorem steady_onStore (call : StoreCall α) :
    Steady (onStore call) := fun world => rfl

theorem steady_ofExcept (result : Except String α) :
    Steady (Effect.ofExcept result : PluginEffect α) := fun world => rfl

theorem steady_fail (message : String) :
    Steady (Effect.fail message : PluginEffect α) := fun world => rfl

theorem steady_pure (value : α) : Steady (pure value : PluginEffect α) := fun world => rfl

theorem Steady.bind {action : PluginEffect α} {next : α → PluginEffect β}
    (steady : Steady action) (also : ∀ value, Steady (next value)) : Steady (action >>= next) := by
  have composes : ∀ first second third : PluginWorld, second.records = first.records →
      third.records = second.records → third.records = first.records :=
    fun first second third same other => other.trans same
  exact Effect.Keeps.bind composes steady also

theorem Carries.bind {between : PluginRecords → Prop} {action : PluginEffect α}
    {next : α → PluginEffect β} (first : Carries sign past before action between)
    (second : ∀ value, Carries sign past between (next value) after) :
    Carries sign past before (action >>= next) after :=
  ⟨first.triple.bind fun value => (second value).triple⟩

section
variable {action : PluginEffect α} {next : α → PluginEffect β} (steady : Steady action)
  (isSupplied : ∀ records, before records → PluginRecords.Supplied sign past records)
include steady isSupplied

theorem Carries.of_answer (goesOn : ∀ value world final, action world = (.ok value, final) →
      Carries sign past before (next value) after) :
    Carries sign past before (action >>= next) after := by
  constructor
  intro world start
  cases ran : action world with
  | mk answer middle =>
    have same : middle.records = world.records := steady.of_run ran
    have still : before middle.records := same ▸ start
    cases answer with
    | error message =>
      rw [bind_of_error ran]
      exact isSupplied middle.records still
    | ok value =>
      rw [bind_of_ok ran]
      exact (goesOn value world middle ran).triple middle still

theorem Carries.after_steady (goesOn : ∀ value, Carries sign past before (next value) after) :
    Carries sign past before (action >>= next) after :=
  .of_answer steady isSupplied fun value _ _ _ => goesOn value

end

theorem Carries.of_record {next : PluginRuntimeRecord → PluginEffect β}
    (goesOn : ∀ record, record.Supplied sign past pluginId →
      Carries sign past (fun records => records.SuppliedWith sign past pluginId) (next record)
        after) :
    Carries sign past (fun records => records.Supplied sign past)
      (recordOf pluginId >>= next) after := by
  constructor
  intro world start
  cases found : world.records.get pluginId with
  | none =>
    rw [bind_of_error (PluginLifecycleManager.recordOf_of_none found)]
    exact start
  | some record =>
    rw [bind_of_ok (PluginLifecycleManager.recordOf_of_some found)]
    exact (goesOn record (start pluginId record found)).triple world ⟨start, record, found⟩

theorem Carries.of_put {record : PluginRuntimeRecord} {next : PluginEffect β}
    (supplied : record.Supplied sign past pluginId)
    (isSupplied : ∀ records, before records → PluginRecords.Supplied sign past records)
    (steady : Steady next) :
    Carries sign past before
      (putRecord pluginId record >>= fun _ => next)
      (fun records => records.SuppliedWith sign past pluginId) := by
  constructor
  intro world start
  have put := (isSupplied world.records start).insert supplied
  have ran : putRecord pluginId record world =
      (.ok (), { world with records := world.records.insert pluginId record }) := rfl
  rw [bind_of_ok ran]
  cases ended : next { world with records := world.records.insert pluginId record } with
  | mk answer final =>
    have same : final.records = world.records.insert pluginId record := steady.of_run ended
    rw [← same] at put
    cases answer with
    | error message => exact put.1
    | ok value => exact put

section
variable {action : PluginEffect α}

theorem Carries.weaken {other : PluginRecords → Prop}
    (carries : Carries sign past before action after)
    (weaker : ∀ records, after records → other records) : Carries sign past before action other := by
  constructor
  intro world start
  have ends := carries.triple world start
  cases ran : action world with
  | mk answer final =>
    rw [ran] at ends
    cases answer with
    | error message => exact ends
    | ok value => exact weaker final.records ends

theorem Carries.of_steady (steady : Steady action)
    (isSupplied : ∀ records, before records → PluginRecords.Supplied sign past records) :
    Carries sign past before action before := by
  constructor
  intro world start
  cases ran : action world with
  | mk answer final =>
    have same : final.records = world.records := steady.of_run ran
    have still : before final.records := same ▸ start
    cases answer with
    | error message => exact isSupplied final.records still
    | ok value => exact still

theorem Carries.supplied (carries : Carries sign past before action after)
    (isSupplied : ∀ records, after records → PluginRecords.Supplied sign past records)
    {world : PluginWorld} (start : before world.records) :
    PluginRecords.Supplied sign past (action world).2.records := by
  have ends := carries.triple world start
  cases ran : action world with
  | mk answer final =>
    rw [ran] at ends
    cases answer with
    | error message => exact ends
    | ok value => exact isSupplied final.records ends

theorem Carries.of_isOk (carries : Carries sign past before action after)
    {world : PluginWorld} (start : before world.records)
    (succeeds : (action world).1.isOk = true) : after (action world).2.records := by
  have ends := carries.triple world start
  cases ran : action world with
  | mk answer final =>
    rw [ran] at ends succeeds
    cases answer with
    | error message => cases succeeds
    | ok value => exact ends

end

end Parts

/-! ## Calls -/

open Carries

namespace PluginLifecycleManager

variable {manager : PluginLifecycleManager} {past : List PluginCall} {pluginId : String}

theorem steady_clock : Steady clock := steady_onStore _

theorem steady_emitHook (hook pluginId : String) (payload : JsonValue) :
    Steady (manager.emitHook hook pluginId payload) :=
  steady_clock.bind fun now => steady_onStore _

theorem steady_persistIndex : Steady manager.persistIndex := fun world => rfl

theorem steady_persist (manifest : PluginManifestContract) (state : PluginState)
    (event : PluginLifecycleEvent) : Steady (manager.persist manifest state event) := by
  apply Steady.bind (steady_onStore _)
  intro written
  apply Steady.bind (steady_onStore _)
  exact fun logged => steady_persistIndex

theorem steady_persistRolloutEvent (pluginId : String) (mode : PluginRolloutMode)
    (trafficPercent : UInt8) (operator reason : String) :
    Steady (manager.persistRolloutEvent pluginId mode trafficPercent operator reason) := by
  apply Steady.bind steady_clock
  intro now
  apply Steady.bind steady_clock
  exact fun atMs => steady_onStore _

/-- What follows a change of a record. -/
theorem steady_persist_hook {α : Type} (manifest : PluginManifestContract) (state : PluginState)
    (event : PluginLifecycleEvent) (hook pluginId : String) (payload : JsonValue) (answer : α) :
    Steady (do
      manager.persist manifest state event
      manager.emitHook hook pluginId payload
      return answer) := by
  apply Steady.bind (steady_persist manifest state event)
  intro persisted
  apply Steady.bind (steady_emitHook hook pluginId payload)
  exact fun emitted => steady_pure answer

section
variable (pluginId : String)

theorem carries_verify :
    Carries manager.sign past (fun records => records.Supplied manager.sign past)
      (manager.verify pluginId) (fun records => records.SuppliedWith manager.sign past pluginId) := by
  unfold verify
  apply of_record
  intro record supplied
  apply after_steady steady_clock (fun records holds => holds.1)
  intro now
  apply of_put _ (fun records holds => holds.1)
  · apply Steady.bind (steady_onStore _)
    exact fun written => steady_pure _
  · exact ⟨supplied.1, supplied.2⟩

theorem carries_admitTransition (target : PluginState) (operator : String) :
    Carries manager.sign past (fun records => records.Supplied manager.sign past)
      (manager.admitTransition pluginId target operator)
      (fun records => records.Supplied manager.sign past) := by
  unfold admitTransition
  split
  · apply of_record
    intro record supplied
    apply after_steady (steady_ofExcept _) (fun records holds => holds.1)
    intro enforced
    have verifies : Carries manager.sign past
        (fun records => records.SuppliedWith manager.sign past pluginId)
        (manager.verify pluginId) (fun records => records.Supplied manager.sign past) := by
      constructor
      intro world start
      exact ((carries_verify pluginId).weaken fun records holds => holds.1).triple world start.1
    apply bind verifies
    intro verdict
    apply of_steady
    · apply Steady.bind (steady_onStore _)
      exact fun stage => steady_pure ()
    · exact fun records holds => holds
  · exact of_steady (steady_pure ()) fun records holds => holds

theorem carries_transitionState (target : PluginState) (operator reason : String) :
    Carries manager.sign past (fun records => records.Supplied manager.sign past)
      (manager.transitionState pluginId target operator reason)
      (fun records => records.SuppliedWith manager.sign past pluginId) := by
  apply bind (carries_admitTransition pluginId target operator)
  intro admitted
  apply of_record
  intro record supplied
  apply after_steady steady_clock (fun records holds => holds.1)
  intro now
  apply after_steady steady_clock (fun records holds => holds.1)
  intro atMs
  apply of_put _ (fun records holds => holds.1) (steady_persist_hook _ _ _ _ _ _ _)
  refine ⟨?_, supplied.2⟩
  rw [PluginManifestContract.origin_note _ (by decide) (by decide)]
  exact supplied.1

theorem carries_recordRollout (mode : PluginRolloutMode) (percent : UInt8)
    (operator reason : String) :
    Carries manager.sign past (fun records => records.Supplied manager.sign past)
      (manager.recordRollout pluginId mode percent operator reason)
      (fun records => records.SuppliedWith manager.sign past pluginId) := by
  apply of_record
  intro record supplied
  apply after_steady steady_clock (fun records holds => holds.1)
  intro now
  apply of_put _ (fun records holds => holds.1)
  · apply Steady.bind (steady_onStore _)
    intro written
    apply Steady.bind (steady_persistRolloutEvent _ _ _ _ _)
    intro logged
    apply Steady.bind steady_persistIndex
    intro indexed
    apply Steady.bind (steady_emitHook _ _ _)
    exact fun emitted => steady_pure _
  · refine ⟨?_, supplied.2⟩
    rw [PluginManifestContract.origin_note _ (by decide) (by decide),
      PluginManifestContract.origin_note _ (by decide) (by decide),
      PluginManifestContract.origin_note _ (by decide) (by decide)]
    exact supplied.1

end

theorem carries_rollback (pluginId operator reason : String) :
    Carries manager.sign past (fun records => records.Supplied manager.sign past)
      (manager.rollback pluginId operator reason)
      (fun records => records.SuppliedWith manager.sign past pluginId) := by
  apply of_record
  intro record supplied
  cases isPrevious : record.history.dropLast.getLast? with
  | none =>
    constructor
    intro world start
    exact start.1
  | some previous =>
    apply after_steady steady_clock (fun records holds => holds.1)
    intro atMs
    apply of_put _ (fun records holds => holds.1) (steady_persist_hook _ _ _ _ _ _ _)
    refine ⟨supplied.2 previous ?_, supplied.2⟩
    exact mem_of_mem_dropLast (mem_of_getLast? isPrevious)

theorem carries_rollout (pluginId : String) (mode : PluginRolloutMode)
    (trafficPercent : Option UInt8) (operator reason : String) :
    Carries manager.sign past (fun records => records.Supplied manager.sign past)
      (manager.rollout pluginId mode trafficPercent operator reason)
      (fun records => records.SuppliedWith manager.sign past pluginId) := by
  have enables : ∀ enableReason, Carries manager.sign past
      (fun records => records.Supplied manager.sign past)
      (manager.enable pluginId operator enableReason)
      (fun records => records.Supplied manager.sign past) := fun enableReason =>
    (carries_transitionState pluginId .enabled operator enableReason).weaken
      fun records holds => holds.1
  cases mode with
  | shadow => exact carries_recordRollout pluginId .shadow _ operator reason
  | canary =>
    apply bind (enables _)
    exact fun enabled => carries_recordRollout pluginId .canary _ operator reason
  | full =>
    apply bind (enables _)
    exact fun enabled => carries_recordRollout pluginId .full _ operator reason
  | rollback => exact carries_rollback pluginId operator _

theorem steady_loadExternal (manifest : PluginManifestContract) (entrypoint : String) :
    Steady (loadExternal manifest entrypoint) := by
  apply Steady.bind (steady_ofExcept _)
  intro runtime
  apply Steady.bind steady_clock
  exact fun now world => rfl

theorem carries_hostLoadSubprocess (pluginId entrypoint operator : String) :
    Carries manager.sign past (fun records => records.Supplied manager.sign past)
      (manager.hostLoadSubprocess pluginId entrypoint operator)
      (fun records => records.SuppliedWith manager.sign past pluginId) := by
  apply of_record
  intro record supplied
  apply after_steady (steady_ofExcept _) (fun records holds => holds.1)
  intro enforced
  split
  · have verifies : Carries manager.sign past
        (fun records => records.SuppliedWith manager.sign past pluginId)
        (manager.verify pluginId)
        (fun records => records.SuppliedWith manager.sign past pluginId) := by
      constructor
      intro world start
      exact (carries_verify pluginId).triple world start.1
    apply bind verifies
    intro verdict
    refine of_steady ?_ fun records holds => holds.1
    apply Steady.bind (steady_onStore _)
    intro stage
    apply Steady.bind steady_clock
    intro now
    apply Steady.bind (steady_loadExternal _ _)
    intro loaded
    apply Steady.bind steady_clock
    intro atMs
    apply Steady.bind (steady_onStore _)
    exact fun written => steady_pure _
  · constructor
    intro world start
    exact start.1

theorem steady_verifyRequest (request : PluginInstallRequest) :
    Steady (manager.verifyRequest request) := by
  have rejects : ∀ verdict, Steady (manager.rejectInstall verdict) := by
    intro verdict
    apply Steady.bind (steady_onStore _)
    exact fun written => steady_fail _
  apply Steady.bind steady_clock
  intro now
  split
  · exact rejects _
  · split
    · exact rejects _
    · dsimp only
      split
      · exact steady_pure _
      · exact rejects _

theorem carries_install {request : PluginInstallRequest}
    (inPast : PluginCall.install request ∈ past) :
    Carries manager.sign past (fun records => records.Supplied manager.sign past)
      (manager.install request) (fun records => records.Supplied manager.sign past) := by
  unfold install
  have same : ∀ records, PluginRecords.Supplied manager.sign past records →
      PluginRecords.Supplied manager.sign past records := fun records holds => holds
  apply after_steady (steady_emitHook _ _ _) same
  intro hooked
  apply of_answer (steady_verifyRequest request) same
  intro verdict start checked ran
  obtain ⟨-, provided, isProvided, isSigned⟩ := accepted_of_verifyRequest ran
  apply after_steady steady_clock same
  intro now
  apply after_steady (steady_ofExcept _) same
  intro enforced
  apply after_steady (steady_onStore _) same
  intro stageRef
  have supplies : Supplied manager.sign past request.pluginId
      (request.manifest manager.sign now).origin := by
    refine ⟨.install request, inPast, rfl, ?_⟩
    rw [PluginInstallRequest.origin_manifest]
    exact ⟨rfl, provided, isProvided, isSigned⟩
  have weaker : ∀ records, PluginRecords.SuppliedWith manager.sign past records
      request.pluginId → PluginRecords.Supplied manager.sign past records :=
    fun records holds => holds.1
  refine weaken ?_ weaker
  apply of_put _ same
  · apply Steady.bind (steady_onStore _)
    intro written
    apply Steady.bind (steady_onStore _)
    intro logged
    apply Steady.bind (steady_onStore _)
    intro judged
    apply Steady.bind steady_persistIndex
    intro indexed
    apply Steady.bind (steady_emitHook _ _ _)
    exact fun emitted => steady_pure _
  · refine ⟨supplies, ?_⟩
    intro manifest inHistory
    rw [mem_singleton.mp inHistory]
    exact supplies

theorem supplied_update {world : PluginWorld} {source : Option String}
    (supplied : PluginRecords.Supplied manager.sign past world.records)
    (signed : ∀ record, world.records.get pluginId = some record →
      Supplied manager.sign past pluginId
        { record.currentManifest.origin with
          source := updatedSource record.currentManifest.source source })
    (operator : String) :
    PluginRecords.Supplied manager.sign past
      (manager.update pluginId source operator world).2.records := by
  unfold update
  cases found : world.records.get pluginId with
  | none =>
    rw [bind_of_error (recordOf_of_none found)]
    exact supplied
  | some record =>
    have leaves := signed record found
    have earlier := (supplied pluginId record found).2
    rw [bind_of_ok (recordOf_of_some found)]
    have same : ∀ records, PluginRecords.Supplied manager.sign past records →
        PluginRecords.Supplied manager.sign past records := fun records holds => holds
    have weaker : ∀ records, PluginRecords.SuppliedWith manager.sign past records pluginId →
        PluginRecords.Supplied manager.sign past records := fun records holds => holds.1
    refine Carries.supplied ?_ weaker supplied
    apply after_steady steady_clock same
    intro now
    apply after_steady (steady_ofExcept _) same
    intro enforced
    apply after_steady steady_clock same
    intro atMs
    have next : Supplied manager.sign past pluginId (record.currentManifest.update manager.sign
        pluginId source operator now).origin := by
      rw [PluginManifestContract.origin_update]
      exact leaves
    apply of_put _ same (steady_persist_hook _ _ _ _ _ _ _)
    refine ⟨next, ?_⟩
    intro manifest inHistory
    cases mem_append.mp inHistory with
    | inl old => exact earlier manifest old
    | inr isNext =>
      rw [mem_singleton.mp isNext]
      exact next

theorem exists_record_of_hostInput {pluginId sessionId tenantId principalId : String}
    {capabilityId : Option String} {payload : JsonValue} {world : PluginWorld}
    (succeeds : (hostInput pluginId sessionId tenantId principalId capabilityId payload
      world).1.isOk = true) : ∃ record, world.records.get pluginId = some record := by
  cases found : world.records.get pluginId with
  | none =>
    unfold hostInput at succeeds
    rw [bind_of_error (recordOf_of_none found)] at succeeds
    cases succeeds
  | some record => exact ⟨record, rfl⟩

/-! ## Runs -/

theorem steady_hostInvoke (pluginId sessionId tenantId principalId : String)
    (capabilityId : Option String) (payload : JsonValue) :
    Steady (manager.hostInvoke pluginId sessionId tenantId principalId capabilityId payload) := by
  apply Steady.bind
  · apply Steady.bind (fun world => rfl)
    intro record
    apply Steady.bind (steady_ofExcept _)
    intro enforced
    apply Steady.bind steady_clock
    intro now
    apply Steady.bind steady_clock
    exact fun atMs => steady_pure _
  · exact fun input world => rfl

variable {books : PluginWorld × List PluginCall}

theorem supplied_call {call : PluginCall}
    (supplied : PluginRecords.Supplied manager.sign books.2 books.1.records)
    (signed : manager.Signed books call) :
    PluginRecords.Supplied manager.sign (books.2 ++ [call])
      (manager.call call books.1).2.records := by
  have later := supplied.later call
  have inPast : call ∈ books.2 ++ [call] := mem_append_right _ (mem_singleton.mpr rfl)
  have same : ∀ records, PluginRecords.Supplied manager.sign (books.2 ++ [call]) records →
      PluginRecords.Supplied manager.sign (books.2 ++ [call]) records :=
    fun records holds => holds
  have weaker : ∀ pluginId records,
      PluginRecords.SuppliedWith manager.sign (books.2 ++ [call]) records pluginId →
        PluginRecords.Supplied manager.sign (books.2 ++ [call]) records :=
    fun pluginId records holds => holds.1
  cases call with
  | install request =>
    rw [PluginLifecycleManager.call, snd_map]
    exact (carries_install inPast).supplied same later
  | enable pluginId operator reason =>
    rw [PluginLifecycleManager.call, snd_map]
    exact (carries_transitionState pluginId _ operator reason).supplied (weaker pluginId) later
  | disable pluginId operator reason =>
    rw [PluginLifecycleManager.call, snd_map]
    exact (carries_transitionState pluginId _ operator reason).supplied (weaker pluginId) later
  | update pluginId source operator =>
    rw [PluginLifecycleManager.call, snd_map]
    exact supplied_update later signed operator
  | rollback pluginId operator reason =>
    rw [PluginLifecycleManager.call, snd_map]
    exact (carries_rollback pluginId operator reason).supplied (weaker pluginId) later
  | quickRollback pluginId operator =>
    rw [PluginLifecycleManager.call, snd_map]
    exact (carries_rollback pluginId operator _).supplied (weaker pluginId) later
  | rollout pluginId mode trafficPercent operator reason =>
    rw [PluginLifecycleManager.call, snd_map]
    exact (carries_rollout pluginId mode trafficPercent operator reason).supplied
      (weaker pluginId) later
  | verify pluginId =>
    rw [PluginLifecycleManager.call, snd_map]
    exact (carries_verify pluginId).supplied (weaker pluginId) later
  | hostLoadSubprocess pluginId entrypoint operator =>
    rw [PluginLifecycleManager.call, snd_map]
    exact (carries_hostLoadSubprocess pluginId entrypoint operator).supplied (weaker pluginId)
      later
  | hostInvoke pluginId sessionId tenantId principalId capabilityId payload =>
    rw [PluginLifecycleManager.call, snd_map, steady_hostInvoke]
    exact later

theorem fst_map {α β : Type} (view : α → β) (action : PluginEffect α) (world : PluginWorld) :
    ((view <$> action) world).1 = (action world).1.map view :=
  congrArg Prod.fst (bind_pure_apply action view world)

theorem isOk_map {α β : Type} (view : α → β) (answer : Except String α) :
    (answer.map view).isOk = answer.isOk := by
  cases answer with
  | error message => rfl
  | ok value => rfl

theorem sourceSupplied_of_records {world : PluginWorld}
    (holds : PluginRecords.SuppliedWith manager.sign past world.records pluginId) :
    manager.SourceSupplied past world pluginId := by
  obtain ⟨supplied, record, found⟩ := holds
  exact ⟨record, found, (supplied pluginId record found).1⟩

theorem sourceSupplied_of_carries {α β : Type} {action : PluginEffect α} {view : α → β}
    {world : PluginWorld}
    (carries : Carries manager.sign past (fun records => records.Supplied manager.sign past) action
      (fun records => records.SuppliedWith manager.sign past pluginId))
    (start : PluginRecords.Supplied manager.sign past world.records)
    (succeeds : ((view <$> action) world).1.isOk = true) :
    manager.SourceSupplied past ((view <$> action) world).2 pluginId := by
  rw [fst_map, isOk_map] at succeeds
  rw [snd_map]
  exact sourceSupplied_of_records (carries.of_isOk start succeeds)

theorem runsSigned_call {call : PluginCall}
    (supplied : PluginRecords.Supplied manager.sign books.2 books.1.records)
    (signed : manager.Signed books call) : manager.RunsSigned books call := by
  have later := supplied.later call
  cases call with
  | enable pluginId operator reason =>
    exact sourceSupplied_of_carries (carries_transitionState pluginId _ operator reason) later
  | rollout pluginId mode trafficPercent operator reason =>
    exact sourceSupplied_of_carries
      (carries_rollout pluginId mode trafficPercent operator reason) later
  | hostLoadSubprocess pluginId entrypoint operator =>
    exact sourceSupplied_of_carries (carries_hostLoadSubprocess pluginId entrypoint operator)
      later
  | hostInvoke pluginId sessionId tenantId principalId capabilityId payload =>
    intro reaches
    exact ⟨sourceSupplied_of_records ⟨later, exists_record_of_hostInput reaches⟩, signed⟩
  | install request => trivial
  | disable pluginId operator reason => trivial
  | update pluginId source operator => trivial
  | rollback pluginId operator reason => trivial
  | quickRollback pluginId operator => trivial
  | verify pluginId => trivial

end PluginLifecycleManager

/-- In every run whose updates leave sources that were supplied with their signatures, and in
which the host is called for enabled plugins only, every plugin that is enabled, rolled out,
loaded into the host or invoked runs from a source that was supplied with its signature. -/
theorem only_signed_sources_run (manager : PluginLifecycleManager) (host : Nat → Moment)
    (calls : List PluginCall)
    (signed : (pluginRuns manager host).EachStep manager.Signed (pluginRuns manager host).initial
      calls) :
    (pluginRuns manager host).EachStep manager.RunsSigned (pluginRuns manager host).initial
      calls := by
  have start : PluginRecords.Supplied manager.sign [] (PluginWorld.started host).records := by
    intro pluginId record found
    cases found
  exact signed.of_invariant start fun books call supplied meets =>
    ⟨PluginLifecycleManager.runsSigned_call supplied meets,
      PluginLifecycleManager.supplied_call supplied meets⟩

/-! ## An update with a signature, and one without -/

/-- A new source of the plugin with its signature. -/
def signedText : String :=
  "builtin://q#sig=" ++ separateSign "p" "builtin://q" "acme" "ann"

theorem origin_install {manager : PluginLifecycleManager}
    (unmirrored : manager.ledger.store.mirror = none) {request : PluginInstallRequest}
    {world : PluginWorld} (isNew : world.records.get request.pluginId = none)
    {record : PluginRuntimeRecord}
    (found : (manager.install request world).2.records.get request.pluginId = some record) :
    record.currentManifest.origin =
      ⟨(splitSourceAndSignature request.source).1, request.tenantId, request.requestedBy⟩ := by
  have ends := manager.install_ends unmirrored request world
  generalize manager.install request world = ran at ends found
  have seen : (ran.2.view manager.forms).core request.pluginId = some record.core :=
    congrArg (Option.map PluginRuntimeRecord.core) found
  have nothing : (world.view manager.forms).core request.pluginId = none :=
    congrArg (Option.map PluginRuntimeRecord.core) isNew
  cases ends with
  | inl failed =>
    rw [failed.2.isView, nothing] at seen
    cases seen
  | inr made =>
    obtain ⟨change, isAllowed, leaves⟩ := made
    obtain ⟨now, accepted, reads, isMade⟩ := isAllowed
    have isId : request.pluginId = (request.installation manager.sign now).pluginId := rfl
    rw [leaves.isView, LifecycleView.core_after, isMade, Function.update_apply, if_pos isId,
      Option.some.injEq] at seen
    rw [← request.origin_manifest manager.sign now]
    exact (congrArg (fun core => core.manifest.origin) seen).symm

/-- An update with a signature follows an install, and the plugin is enabled. -/
theorem signed_update_enabled :
    (pluginRuns plainManager still).EachStep plainManager.RunsSigned
      (pluginRuns plainManager still).initial
      [.install signedRequest, .update "p" (some signedText) "ann", .enable "p" "ann" "go"] := by
  apply only_signed_sources_run
  refine ⟨trivial, ?_, trivial, trivial⟩
  intro record found
  rw [world_step, PluginLifecycleManager.call, snd_map] at found
  have isOrigin := origin_install rfl rfl found
  have isSource : record.currentManifest.source = "builtin://p" :=
    (congrArg PluginOrigin.source isOrigin).trans (by decide +kernel)
  refine ⟨.update "p" (some signedText) "ann", mem_append_right _ (.head _), rfl, ?_⟩
  rw [isOrigin, isSource]
  exact ⟨by decide +kernel, separateSign "p" "builtin://q" "acme" "ann",
    by decide +kernel, by decide +kernel⟩

/-- Installed from a signed source, and updated to another one without a signature. -/
def unsignedUpdate : List PluginCall :=
  [.install signedRequest, .update "p" (some "builtin://other") "ann"]

theorem not_supplied_other :
    ¬Supplied separateSign (unsignedUpdate ++ [.enable "p" "ann" "go"]) "p"
      ⟨"builtin://other", "acme", "ann"⟩ := by
  intro supplied
  obtain ⟨call, isMade, supplies⟩ := supplied
  simp only [unsignedUpdate, cons_append, nil_append, mem_cons, not_mem_nil, or_false] at isMade
  obtain rfl | rfl | rfl := isMade
  · have other : (splitSourceAndSignature signedRequest.source).1 ≠ "builtin://other" := by
      decide +kernel
    exact other supplies.2.1
  · have unsigned : (splitSourceAndSignature "builtin://other").2 = none := by decide +kernel
    obtain ⟨provided, isProvided, matching⟩ := supplies.2.2
    rw [unsigned] at isProvided
    cases isProvided
  · exact supplies

/-- With signatures that tell their parts, a plugin that is updated to a source without a
signature is enabled. -/
theorem unsigned_update_enabled :
    (∀ signed other : String × String × String × String,
      separateSign signed.1 signed.2.1 signed.2.2.1 signed.2.2.2 =
          separateSign other.1 other.2.1 other.2.2.1 other.2.2.2 →
        signed = other) ∧
      ¬(pluginRuns plainManager still).EachStep plainManager.RunsSigned
        (pluginRuns plainManager still).initial
        (unsignedUpdate ++ [.enable "p" "ann" "go"]) := by
  constructor
  · exact fun signed other same => separateSign_inj same
  · intro each
    have runs := (Component.eachStep_append.mp each).2.1
    have isPast : ((pluginRuns plainManager still).run (pluginRuns plainManager still).initial
      unsignedUpdate).2.2 = unsignedUpdate := rfl
    have enabled : (plainManager.enable "p" "ann" "go"
          (worldAfter plainManager still unsignedUpdate)).1.isOk = true ∧
        ((plainManager.enable "p" "ann" "go"
          (worldAfter plainManager still unsignedUpdate)).2.records.get "p").map
            (·.currentManifest.origin) = some ⟨"builtin://other", "acme", "ann"⟩ := by
      decide +kernel
    rw [worldAfter] at enabled
    generalize ((pluginRuns plainManager still).run (pluginRuns plainManager still).initial
      unsignedUpdate).2 = books at runs isPast enabled
    obtain ⟨succeeds, isOrigin⟩ := enabled
    have sourced := runs (by
      rw [PluginLifecycleManager.call, PluginLifecycleManager.fst_map,
        PluginLifecycleManager.isOk_map]
      exact succeeds)
    obtain ⟨record, found, supplied⟩ := sourced
    rw [PluginLifecycleManager.call, snd_map] at found
    rw [found, Option.map_some, Option.some.injEq] at isOrigin
    rw [isOrigin, isPast] at supplied
    exact not_supplied_other supplied

end AutoLoop.Plugins
