import AutoLoop.Plugins.Lifecycle
import AutoLoop.Runtime.StageAppends

/-!
# What a call of the lifecycle does

The plugins are seen in four places: in memory, in their rows, in the index and in their
event logs.  A call leaves all of them as they are, or makes one change of a plugin, or,
where a rollout enables it first, two.
-/

namespace AutoLoop.Plugins

open AutoLoop.Runtime StateAdapter
open Shared (ChangesOnly)
open Text StateStore Effect Effect

/-- What the lifecycle keeps of a plugin in memory. -/
structure PluginCore where
  manifest : PluginManifestContract
  state : PluginState
  history : List PluginManifestContract

def PluginRuntimeRecord.core (record : PluginRuntimeRecord) : PluginCore :=
  ⟨record.currentManifest, record.state, record.history⟩

/-- What is seen of the plugins. -/
@[ext] structure LifecycleView where
  core : String → Option PluginCore
  stored : String → Option StoredPlugin
  indexed : String → Option PluginState
  eventAt : String → UInt64 → Option PluginLifecycleEvent

structure LifecycleChange where
  pluginId : String
  core : PluginCore
  stored : PluginState
  event : Option PluginLifecycleEvent

namespace LifecycleView

variable (view : LifecycleView)

def keep (pluginId : String) (core : PluginCore) : LifecycleView :=
  { view with core := Function.update view.core pluginId (some core) }

def store (manifest : PluginManifestContract) (state : PluginState) : LifecycleView :=
  { view with
    stored := Function.update view.stored manifest.id (some ⟨manifest.id, state, manifest⟩) }

def log (event : PluginLifecycleEvent) : LifecycleView :=
  { view with
    eventAt := Function.update view.eventAt event.pluginId
      (Function.update (view.eventAt event.pluginId) event.atMs (some event)) }

def logAll : Option PluginLifecycleEvent → LifecycleView
  | none => view
  | some event => view.log event

def reindex : LifecycleView :=
  { view with indexed := fun pluginId => (view.core pluginId).map (·.state) }

/-- What is seen after a change. -/
def after (change : LifecycleChange) : LifecycleView :=
  (((view.keep change.pluginId change.core).store change.core.manifest change.stored).logAll
    change.event).reindex

end LifecycleView

namespace PluginWorld

variable (forms : PluginForms) (world : PluginWorld)

/-- The text of a row. -/
def row (key : String) : Option String := (world.shared.repo.knowledge.get key).map (·.value)

def storedPlugin (pluginId : String) : Option StoredPlugin :=
  (world.row (latestKey pluginId)).bind forms.latest.decode

def indexEntry (pluginId : String) : Option PluginIndexEntry :=
  ((world.row indexKey).bind forms.index.decode).bind (·.find? (·.pluginId = pluginId))

def eventAt (pluginId : String) (atMs : UInt64) : Option PluginLifecycleEvent :=
  (world.row (eventKey pluginId atMs)).bind forms.event.decode

def view : LifecycleView where
  core pluginId := (world.records.get pluginId).map (·.core)
  stored := world.storedPlugin forms
  indexed pluginId := (world.indexEntry forms pluginId).map (·.state)
  eventAt := world.eventAt forms

end PluginWorld

structure Leaves (forms : PluginForms) (view : LifecycleView) (before after : PluginWorld) :
    Prop where
  host : after.shared.host = before.shared.host
  elapsed : before.shared.tick ≤ after.shared.tick
  isView : after.view forms = view

/-- Nothing that is seen of the plugins changes. -/
def Quiet (forms : PluginForms) (before after : PluginWorld) : Prop :=
  Leaves forms (before.view forms) before after

section Relations

variable {forms : PluginForms} {view : LifecycleView} {first second third : PluginWorld}

theorem Leaves.next (leaves : Leaves forms view first second) (change : LifecycleView → LifecycleView)
    (also : Leaves forms (change (second.view forms)) second third) :
    Leaves forms (change view) first third where
  host := also.host.trans leaves.host
  elapsed := leaves.elapsed.trans also.elapsed
  isView := leaves.isView ▸ also.isView

theorem Quiet.refl (world : PluginWorld) : Quiet forms world world := ⟨rfl, le_rfl, rfl⟩

theorem Leaves.quiet (leaves : Leaves forms view first second)
    (quiet : Quiet forms second third) : Leaves forms view first third where
  host := quiet.host.trans leaves.host
  elapsed := leaves.elapsed.trans quiet.elapsed
  isView := quiet.isView.trans leaves.isView

theorem Quiet.trans (first second third : PluginWorld) (quiet : Quiet forms first second)
    (also : Quiet forms second third) : Quiet forms first third :=
  Leaves.quiet quiet also

end Relations

/-! ## Keys -/

/-- The rows that are seen of the plugins. -/
inductive Watched : String → Prop where
  | latest (pluginId : String) : Watched (latestKey pluginId)
  | index : Watched indexKey
  | event (pluginId : String) (atMs : UInt64) : Watched (eventKey pluginId atMs)

theorem startsWith_of_watched {key : String} (watched : Watched key) :
    startsWith key "plugin:lifecycle:" = true := by
  cases watched with
  | latest pluginId =>
    apply startsWith_iff_exists.mpr
    exact ⟨pluginId ++ ":latest", by unfold latestKey; rw [String.append_assoc]⟩
  | index => decide
  | event pluginId atMs =>
    apply startsWith_iff_exists.mpr
    exact ⟨pluginId ++ ":" ++ "events" ++ ":" ++ atMs.toNat.repr, by
      unfold eventKey lifecycleKey
      simp only [String.append_assoc]⟩

theorem isEvidence_of_watched {key : String} (watched : Watched key) :
    isEvidence key = false := by
  obtain ⟨rest, isKey⟩ := startsWith_iff_exists.mp (startsWith_of_watched watched)
  rw [Bool.eq_false_iff, ne_eq, isEvidence, startsWith_iff, isKey]
  simp

/-- A text that ends in a field: the field stands after the last colon. -/
theorem field_eq_of_append_eq {first second field other : String}
    (same : first ++ ":" ++ field = second ++ ":" ++ other) (clean : ':' ∉ field.toList)
    (otherClean : ':' ∉ other.toList) : first = second ∧ field = other := by
  have lists := congrArg String.toList same
  simp only [String.toList_append] at lists
  have fields : field.toList = other.toList := after_last_separator lists clean otherClean
  rw [fields, List.append_cancel_right_eq, List.append_cancel_right_eq] at lists
  exact ⟨String.toList_inj.mp lists, String.toList_inj.mp fields⟩

theorem ne_repr {field : String} {char : Char} (membership : char ∈ field.toList)
    (notDigit : char.isDigit = false) (value : Nat) : field ≠ value.repr := by
  intro same
  rw [same] at membership
  exact not_mem_repr notDigit value membership

theorem latestKey_eq (pluginId : String) :
    latestKey pluginId = "plugin:lifecycle:" ++ pluginId ++ ":" ++ "latest" := by
  have field : ":latest" = ":" ++ "latest" := by decide
  unfold latestKey
  rw [field, String.append_assoc]
  simp only [String.append_assoc]

theorem indexKey_eq : indexKey = "plugin:lifecycle" ++ ":" ++ "index" := by decide

theorem latestKey_inj {pluginId other : String} :
    latestKey pluginId = latestKey other ↔ pluginId = other := by
  constructor
  · intro same
    unfold latestKey at same
    rw [String.append_left_inj, String.append_right_inj] at same
    exact same
  · exact congrArg latestKey

theorem latestKey_ne_indexKey (pluginId : String) : latestKey pluginId ≠ indexKey := by
  intro same
  rw [latestKey_eq, indexKey_eq] at same
  exact absurd (field_eq_of_append_eq same (by decide) (by decide)).2 (by decide)

theorem latestKey_ne_lifecycleKey (pluginId other rows : String) (atMs : UInt64) :
    latestKey pluginId ≠ lifecycleKey other rows atMs := by
  intro same
  unfold lifecycleKey at same
  rw [latestKey_eq] at same
  have fields := (field_eq_of_append_eq same (by decide) (not_mem_repr (by decide) _)).2
  have letter : 'l' ∈ "latest".toList := by decide
  exact ne_repr letter (by decide) _ fields

theorem indexKey_ne_lifecycleKey (pluginId rows : String) (atMs : UInt64) :
    indexKey ≠ lifecycleKey pluginId rows atMs := by
  intro same
  unfold lifecycleKey at same
  rw [indexKey_eq] at same
  have fields := (field_eq_of_append_eq same (by decide) (not_mem_repr (by decide) _)).2
  have letter : 'i' ∈ "index".toList := by decide
  exact ne_repr letter (by decide) _ fields

theorem latestKey_ne_eventKey (pluginId other : String) (atMs : UInt64) :
    latestKey pluginId ≠ eventKey other atMs :=
  latestKey_ne_lifecycleKey pluginId other "events" atMs

theorem indexKey_ne_eventKey (pluginId : String) (atMs : UInt64) :
    indexKey ≠ eventKey pluginId atMs :=
  indexKey_ne_lifecycleKey pluginId "events" atMs

theorem lifecycleKey_inj {pluginId other rows otherRows : String} {atMs otherMs : UInt64}
    (same : lifecycleKey pluginId rows atMs = lifecycleKey other otherRows otherMs)
    (clean : ':' ∉ rows.toList) (otherClean : ':' ∉ otherRows.toList) :
    pluginId = other ∧ rows = otherRows ∧ atMs = otherMs := by
  unfold lifecycleKey at same
  obtain ⟨starts, digits⟩ := field_eq_of_append_eq same (not_mem_repr (by decide) _)
    (not_mem_repr (by decide) _)
  obtain ⟨ids, fields⟩ := field_eq_of_append_eq starts clean otherClean
  rw [String.append_right_inj] at ids
  exact ⟨ids, fields, UInt64.toNat_inj.mp (repr_inj.mp digits)⟩

theorem eventKey_inj {pluginId other : String} {atMs otherMs : UInt64} :
    eventKey pluginId atMs = eventKey other otherMs ↔ pluginId = other ∧ atMs = otherMs := by
  constructor
  · intro same
    obtain ⟨ids, -, times⟩ := lifecycleKey_inj same (by decide) (by decide)
    exact ⟨ids, times⟩
  · intro same
    rw [same.1, same.2]

theorem not_watched_lifecycleKey {rows : String} (clean : ':' ∉ rows.toList)
    (other : rows ≠ "events") (pluginId : String) (atMs : UInt64) :
    ¬Watched (lifecycleKey pluginId rows atMs) := by
  intro watched
  generalize isKey : lifecycleKey pluginId rows atMs = key at watched
  cases watched with
  | latest id => exact latestKey_ne_lifecycleKey id pluginId rows atMs isKey.symm
  | index => exact indexKey_ne_lifecycleKey pluginId rows atMs isKey.symm
  | event id ms => exact other (lifecycleKey_inj isKey clean (by decide)).2.1

theorem not_watched_of_not_startsWith {key : String}
    (starts : ¬startsWith key "plugin:lifecycle:" = true) : ¬Watched key :=
  fun watched => starts (startsWith_of_watched watched)

/-! ## What is not seen -/

section Quiet

variable {α β : Type} {forms : PluginForms}

theorem view_eq_of_row {before after : PluginWorld}
    (rows : ∀ key, Watched key → after.row key = before.row key)
    (cores : ∀ pluginId, (after.records.get pluginId).map (·.core) =
      (before.records.get pluginId).map (·.core)) :
    after.view forms = before.view forms := by
  apply LifecycleView.ext
  · exact funext cores
  · funext pluginId
    exact congrArg (·.bind forms.latest.decode) (rows _ (.latest pluginId))
  · funext pluginId
    have same : after.indexEntry forms pluginId = before.indexEntry forms pluginId :=
      congrArg (fun row => (row.bind forms.index.decode).bind (·.find? (·.pluginId = pluginId)))
        (rows _ .index)
    exact congrArg (Option.map (·.state)) same
  · funext pluginId atMs
    exact congrArg (·.bind forms.event.decode) (rows _ (.event pluginId atMs))

theorem quiet_onStore {call : StoreCall α}
    (kept : Keeps (ChangesOnly fun key _ => ¬Watched key) call.run) :
    Keeps (Quiet forms) (PluginLifecycleManager.onStore call) := by
  intro world
  have changes := kept world.shared
  refine ⟨changes.host, changes.elapsed, ?_⟩
  apply view_eq_of_row
  · intro key watched
    have same := changes.rows key .repository (not_not_intro watched)
    exact congrArg (Option.map (·.value)) same
  · exact fun pluginId => rfl

theorem quiet_bind {action : PluginEffect α} {next : α → PluginEffect β}
    (first : Keeps (Quiet forms) action) (second : ∀ value, Keeps (Quiet forms) (next value)) :
    Keeps (Quiet forms) (action >>= next) :=
  first.bind Quiet.trans second

theorem quiet_clock : Keeps (Quiet forms) PluginLifecycleManager.clock :=
  quiet_onStore changesOnly_nowMs

theorem quiet_recordOf (pluginId : String) :
    Keeps (Quiet forms) (PluginLifecycleManager.recordOf pluginId) :=
  fun world => Quiet.refl world

theorem quiet_ofExcept (result : Except String α) :
    Keeps (Quiet forms) (ofExcept result) :=
  fun world => Quiet.refl world

end Quiet

namespace PluginLifecycleManager

variable {manager : PluginLifecycleManager} (unmirrored : manager.ledger.store.mirror = none)
variable {forms : PluginForms}
include unmirrored

theorem changesOnly_upsertValue {key : String} (unwatched : ¬Watched key) (value : JsonValue)
    (source : String) :
    Keeps (ChangesOnly fun key _ => ¬Watched key)
      (manager.upsertValue key value source).run := by
  apply changesOnly_bind
  · exact changesOnly_upsertJsonKnowledge unmirrored unwatched _ _
  · exact fun written => changesOnly_done _

theorem quiet_emitHook (hook pluginId : String) (payload : JsonValue) :
    Keeps (Quiet forms) (manager.emitHook hook pluginId payload) := by
  apply quiet_bind quiet_clock
  intro now
  apply quiet_onStore
  apply changesOnly_upsertValue unmirrored
  apply not_watched_of_not_startsWith
  rw [startsWith_iff]
  simp [String.toList_append]

theorem quiet_persistVerdict (verdict : PluginVerificationVerdict) :
    Keeps (Quiet forms) (manager.persistVerdict verdict) := by
  apply quiet_onStore
  apply changesOnly_upsertValue unmirrored
  exact not_watched_lifecycleKey (by decide) (by decide) _ _

theorem quiet_admission (manifest : PluginManifestContract) (verdict : PluginVerificationVerdict)
    (action operator : String) (tenantOverride : Option String) :
    Keeps (Quiet forms) (onStore (manager.enforcePluginCapabilityAdmission manifest
      verdict action operator tenantOverride)) := by
  apply quiet_onStore
  unfold enforcePluginCapabilityAdmission
  apply changesOnly_bind (changesOnly_done _)
  intro decision
  apply changesOnly_bind changesOnly_nowMs
  intro now
  apply changesOnly_bind
  · apply changesOnly_upsertValue unmirrored
    apply not_watched_of_not_startsWith
    rw [startsWith_iff]
    simp [String.toList_append]
  · intro stored
    apply changesOnly_bind
    · intro shared
      apply (EvidenceLedgerWriter.changesOnly_appendStage unmirrored _ _ _ _ shared).mono
      intro key place evidence watched
      rw [isEvidence_of_watched watched] at evidence
      cases evidence
    · intro stageRef
      split
      · exact changesOnly_done _
      · apply changesOnly_bind changesOnly_nowMs
        intro later
        apply changesOnly_bind
        · apply changesOnly_upsertValue unmirrored
          apply not_watched_of_not_startsWith
          rw [startsWith_iff]
          simp [String.toList_append]
        · exact fun written => changesOnly_done _

omit unmirrored in
theorem recordOf_of_none {world : PluginWorld} {pluginId : String}
    (missing : world.records.get pluginId = none) :
    recordOf pluginId world = (.error ("plugin '" ++ pluginId ++ "' not found"), world) := by
  simp only [recordOf, missing, Check.present]

omit unmirrored in
theorem recordOf_of_some {world : PluginWorld} {pluginId : String} {record : PluginRuntimeRecord}
    (found : world.records.get pluginId = some record) :
    recordOf pluginId world = (.ok record, world) := by
  simp only [recordOf, found, Check.present]

omit unmirrored in
theorem quiet_putRecord {world : PluginWorld} {pluginId : String}
    {record other : PluginRuntimeRecord} (found : world.records.get pluginId = some record)
    (same : other.core = record.core) :
    Quiet forms world (putRecord pluginId other world).2 := by
  refine ⟨rfl, le_rfl, ?_⟩
  apply view_eq_of_row
  · exact fun key watched => rfl
  · intro queried
    have put : (putRecord pluginId other world).2.records = world.records.insert pluginId other :=
      rfl
    rw [put, Table.get_insert]
    by_cases isId : queried = pluginId
    · rw [if_pos isId, isId, found, Option.map_some, Option.map_some, same]
    · rw [if_neg isId]

/-- A verification changes no more than the verdict that is kept. -/
theorem quiet_verify (pluginId : String) :
    Keeps (Quiet forms) (manager.verify pluginId) := by
  intro world
  unfold verify
  cases found : world.records.get pluginId with
  | none =>
    rw [bind_of_error (recordOf_of_none found)]
    exact Quiet.refl world
  | some record =>
    let ticked := (clock world).2
    have ranClock : clock world = (.ok world.shared.moment.nowMs, ticked) := rfl
    have stillFound : ticked.records.get pluginId = some record := found
    let verdict := record.currentManifest.verdict manager.sign pluginId
      world.shared.moment.nowMs
    let verified : PluginRuntimeRecord :=
      { record with verified := verdict.verified, lastVerdict := some verdict }
    have put : putRecord pluginId verified ticked =
        (.ok (), (putRecord pluginId verified ticked).2) := rfl
    have rest : Keeps (Quiet forms) (do
        manager.persistVerdict verdict
        return verdict) :=
      quiet_bind (quiet_persistVerdict unmirrored verdict) fun _ => Quiet.refl
    rw [bind_of_ok (recordOf_of_some found), bind_of_ok ranClock, bind_of_ok put]
    apply Leaves.quiet ?_ (rest _)
    exact Leaves.quiet (quiet_clock world) (quiet_putRecord stillFound rfl)

/-! ## What is written -/

/-- A write outside the write-once rule succeeds and changes the row of its key. -/
theorem run_upsert {key : String} (plain : isEvidence key = false)
    (text source : String) (world : PluginWorld) :
    ∃ final, onStore (manager.upsert key text source) world = (.ok (), final) ∧
      final.records = world.records ∧ final.shared.host = world.shared.host ∧
      world.shared.tick ≤ final.shared.tick ∧
      ∀ other, final.row other = if other = key then some text else world.row other := by
  obtain ⟨id, later, ran, put, sameHost, isLater⟩ :=
    run_upsertJsonKnowledge_plain unmirrored plain text source world.shared
  have written : (manager.upsert key text source).run world.shared = (.ok (), later) :=
    Future.run_bind_of_ok ran
  refine ⟨{ world with shared := later }, ?_, rfl, sameHost, ?_, ?_⟩
  · rw [onStore, zoom_apply, written]
  · exact Nat.le_of_lt (isLater ▸ Nat.lt_succ_self _)
  · intro other
    rw [PluginWorld.row, PluginWorld.row]
    simp only [put, Knowledge.get_put]
    split
    · rfl
    · rfl

theorem run_persistManifest (manifest : PluginManifestContract) (state : PluginState)
    (world : PluginWorld) :
    ∃ final, manager.persistManifest manifest state world = (.ok (), final) ∧
      Leaves manager.forms ((world.view manager.forms).store manifest state) world final := by
  obtain ⟨final, ran, sameRecords, sameHost, isLater, rows⟩ :=
    run_upsert unmirrored (isEvidence_of_watched (.latest manifest.id))
      (manager.forms.latest.encode ⟨manifest.id, state, manifest⟩) "plugin-lifecycle" world
  refine ⟨final, ran, sameHost, isLater, ?_⟩
  apply LifecycleView.ext
  · funext pluginId
    exact congrArg (fun records => (records.get pluginId).map (·.core)) sameRecords
  · funext pluginId
    have isRow := rows (latestKey pluginId)
    simp only [latestKey_inj] at isRow
    simp only [PluginWorld.view, LifecycleView.store, PluginWorld.storedPlugin, isRow,
      Function.update_apply]
    split
    · exact manager.forms.latest.decode_encode _
    · rfl
  · funext pluginId
    have isRow := rows indexKey
    rw [if_neg (latestKey_ne_indexKey _).symm] at isRow
    simp only [PluginWorld.view, LifecycleView.store, PluginWorld.indexEntry, isRow]
  · funext pluginId atMs
    have isRow := rows (eventKey pluginId atMs)
    rw [if_neg (latestKey_ne_eventKey _ _ _).symm] at isRow
    simp only [PluginWorld.view, LifecycleView.store, PluginWorld.eventAt, isRow]

theorem run_persistEvent (event : PluginLifecycleEvent) (world : PluginWorld) :
    ∃ final, manager.persistEvent event world = (.ok (), final) ∧
      Leaves manager.forms ((world.view manager.forms).log event) world final := by
  obtain ⟨final, ran, sameRecords, sameHost, isLater, rows⟩ :=
    run_upsert unmirrored (isEvidence_of_watched (.event event.pluginId event.atMs))
      (manager.forms.event.encode event) "plugin-lifecycle" world
  refine ⟨final, ran, sameHost, isLater, ?_⟩
  apply LifecycleView.ext
  · funext pluginId
    exact congrArg (fun records => (records.get pluginId).map (·.core)) sameRecords
  · funext pluginId
    have isRow := rows (latestKey pluginId)
    rw [if_neg (latestKey_ne_eventKey _ _ _)] at isRow
    simp only [PluginWorld.view, LifecycleView.log, PluginWorld.storedPlugin, isRow]
  · funext pluginId
    have isRow := rows indexKey
    rw [if_neg (indexKey_ne_eventKey _ _)] at isRow
    simp only [PluginWorld.view, LifecycleView.log, PluginWorld.indexEntry, isRow]
  · funext pluginId atMs
    have isRow := rows (eventKey pluginId atMs)
    simp only [eventKey_inj] at isRow
    simp only [PluginWorld.view, LifecycleView.log, PluginWorld.eventAt, isRow,
      Function.update_apply]
    by_cases isId : pluginId = event.pluginId
    · by_cases isTime : atMs = event.atMs
      · simp [isId, isTime, manager.forms.event.decode_encode]
      · simp [isId, isTime, PluginWorld.eventAt]
    · simp [isId, PluginWorld.eventAt]

omit unmirrored in
theorem find?_indexEntries {records : Table String PluginRuntimeRecord} (pluginId : String) :
    (records.rows.map fun row => row.2.indexEntry row.1).find? (·.pluginId = pluginId) =
      (records.get pluginId).map (·.indexEntry pluginId) := by
  rw [Table.get, List.find?_map, Option.map_map]
  have sameTest : ((fun entry : PluginIndexEntry => decide (entry.pluginId = pluginId)) ∘
      fun row : String × PluginRuntimeRecord => row.2.indexEntry row.1) =
        fun row => decide (row.1 = pluginId) := rfl
  rw [sameTest]
  cases found : records.rows.find? fun row => decide (row.1 = pluginId) with
  | none => rfl
  | some row =>
    have isId : row.1 = pluginId := by
      have holds := List.find?_some found
      exact of_decide_eq_true holds
    simp only [Option.map_some, Function.comp_apply, isId]

theorem run_persistIndex (world : PluginWorld) :
    ∃ final, manager.persistIndex world = (.ok (), final) ∧
      Leaves manager.forms (world.view manager.forms).reindex world final := by
  obtain ⟨final, ran, sameRecords, sameHost, isLater, rows⟩ :=
    run_upsert unmirrored (isEvidence_of_watched .index)
      (manager.forms.index.encode (world.records.rows.map fun row => row.2.indexEntry row.1))
      "plugin-lifecycle" world
  refine ⟨final, ran, sameHost, isLater, ?_⟩
  apply LifecycleView.ext
  · funext pluginId
    exact congrArg (fun records => (records.get pluginId).map (·.core)) sameRecords
  · funext pluginId
    have isRow := rows (latestKey pluginId)
    rw [if_neg (latestKey_ne_indexKey _)] at isRow
    simp only [PluginWorld.view, LifecycleView.reindex, PluginWorld.storedPlugin, isRow]
  · funext pluginId
    have isRow := rows indexKey
    rw [if_pos rfl] at isRow
    simp only [PluginWorld.view, LifecycleView.reindex, PluginWorld.indexEntry, isRow,
      Option.bind_some, manager.forms.index.decode_encode, find?_indexEntries, Option.map_map]
    rfl
  · funext pluginId atMs
    have isRow := rows (eventKey pluginId atMs)
    rw [if_neg (indexKey_ne_eventKey _ _).symm] at isRow
    simp only [PluginWorld.view, LifecycleView.reindex, PluginWorld.eventAt, isRow]

theorem run_upsertValue {key : String} (unwatched : ¬Watched key) (plain : isEvidence key = false)
    (value : JsonValue) (source : String) (world : PluginWorld) :
    ∃ final, onStore (manager.upsertValue key value source) world = (.ok (), final) ∧
      Quiet forms world final := by
  obtain ⟨final, ran, -⟩ :=
    run_upsert unmirrored plain (manager.forms.toText value) source world
  have quiet : Keeps (Quiet forms) (onStore (manager.upsertValue key value source)) :=
    quiet_onStore (changesOnly_upsertValue unmirrored unwatched value source)
  exact ⟨final, ran, quiet.of_run ran⟩

omit unmirrored in
theorem isEvidence_lifecycleKey (pluginId rows : String) (atMs : UInt64) :
    isEvidence (lifecycleKey pluginId rows atMs) = false := by
  rw [Bool.eq_false_iff, ne_eq, isEvidence, startsWith_iff]
  unfold lifecycleKey
  simp [String.toList_append]

theorem run_persistVerdict (verdict : PluginVerificationVerdict) (world : PluginWorld) :
    ∃ final, manager.persistVerdict verdict world = (.ok (), final) ∧
      Quiet forms world final :=
  run_upsertValue unmirrored (not_watched_lifecycleKey (by decide) (by decide) _ _)
    (isEvidence_lifecycleKey _ _ _) verdict.toValue "plugin-signature" world

theorem run_persistRolloutEvent (pluginId : String) (mode : PluginRolloutMode)
    (trafficPercent : UInt8) (operator reason : String) (world : PluginWorld) :
    ∃ final, manager.persistRolloutEvent pluginId mode trafficPercent operator reason world =
        (.ok (), final) ∧ Quiet forms world final := by
  let once := (clock world).2
  let twice := (clock once).2
  have ranOnce : clock world = (.ok world.shared.moment.nowMs, once) := rfl
  have ranTwice : clock once = (.ok once.shared.moment.nowMs, twice) := rfl
  unfold persistRolloutEvent
  rw [bind_of_ok ranOnce, bind_of_ok ranTwice]
  obtain ⟨final, ran, quiet⟩ := run_upsertValue unmirrored
    (not_watched_lifecycleKey (by decide) (by decide) pluginId world.shared.moment.nowMs)
    (isEvidence_lifecycleKey pluginId "rollout" world.shared.moment.nowMs) _ "plugin-lifecycle"
    twice
  exact ⟨final, ran, Leaves.quiet (Leaves.quiet (quiet_clock world) (quiet_clock once)) quiet⟩

omit unmirrored in
theorem run_putRecord (forms : PluginForms) (pluginId : String) (record : PluginRuntimeRecord) (world : PluginWorld) :
    ∃ final, putRecord pluginId record world = (.ok (), final) ∧
      Leaves forms ((world.view forms).keep pluginId record.core) world final := by
  refine ⟨(putRecord pluginId record world).2, rfl, rfl, le_rfl, ?_⟩
  apply LifecycleView.ext
  · funext queried
    have put : (putRecord pluginId record world).2.records =
        world.records.insert pluginId record := rfl
    simp only [PluginWorld.view, LifecycleView.keep, put, Table.get_insert, Function.update_apply]
    split
    · rfl
    · rfl
  · rfl
  · rfl
  · rfl

end PluginLifecycleManager

/-! ## Changes -/

namespace PluginCore

variable (core : PluginCore) (pluginId : String)

def transition (target : PluginState) (operator reason : String) (now atMs : UInt64) :
    LifecycleChange where
  pluginId
  core :=
    { core with
      manifest := core.manifest.note "last_state_transition_at_ms" now.toNat.repr
      state := target }
  stored := target
  event := some ⟨pluginId, some core.state, target, reason, operator, atMs⟩

def update (sign : PluginSigner) (source : Option String) (operator : String)
    (now atMs : UInt64) : LifecycleChange :=
  let next := core.manifest.update sign pluginId source operator now
  { pluginId
    core := ⟨next, .installed, core.history ++ [next]⟩
    stored := .installed
    event := some ⟨pluginId, some core.state, .installed, "plugin updated", operator, atMs⟩ }

def rollback (previous : PluginManifestContract) (operator reason : String) (atMs : UInt64) :
    LifecycleChange where
  pluginId
  core := { core with manifest := previous, state := .rolledBack }
  stored := .rolledBack
  event := some ⟨pluginId, some .installed, .rolledBack, reasonOr reason "plugin rollback",
    operator, atMs⟩

def rollout (mode : PluginRolloutMode) (percent : UInt8) (now : UInt64) : LifecycleChange where
  pluginId
  core :=
    { core with
      manifest := ((core.manifest.note "rollout_mode" mode.label).note
        "rollout_traffic_percent" percent.toNat.repr).note "rollout_updated_at_ms"
          now.toNat.repr }
  stored := manifestStateForMode mode
  event := none

end PluginCore

namespace PluginInstallRequest

variable (request : PluginInstallRequest) (sign : PluginSigner)

def Accepted : Prop :=
  request.verifySignature = true ∧
    ∃ provided ∈ (splitSourceAndSignature request.source).2,
      eqIgnoreAsciiCase provided (sign request.pluginId
        (splitSourceAndSignature request.source).1 request.tenantId request.requestedBy) = true

instance decidableAccepted : Decidable (request.Accepted sign) :=
  inferInstanceAs (Decidable (_ ∧ ∃ provided ∈ _, _))

def installation (now : UInt64) : LifecycleChange :=
  let manifest := request.manifest sign now
  { pluginId := request.pluginId
    core := ⟨manifest, .installed, [manifest]⟩
    stored := .installed
    event := some ⟨request.pluginId, none, .installed, "plugin installed", request.requestedBy,
      now⟩ }

end PluginInstallRequest

def PluginWorld.Reads (world : PluginWorld) (atMs : UInt64) : Prop :=
  ∃ tick, world.shared.tick ≤ tick ∧ atMs = (world.shared.host tick).nowMs

/-- The call fails and nothing that is seen changes, or a change is made as allowed. -/
def Ends {α : Type} (forms : PluginForms) (allowed : LifecycleChange → Prop)
    (before : PluginWorld) (ran : Except String α × PluginWorld) : Prop :=
  (∃ message, ran.1 = .error message) ∧ Quiet forms before ran.2 ∨
    ∃ change, allowed change ∧ Leaves forms ((before.view forms).after change) before ran.2

section Ends

variable {α β : Type} {forms : PluginForms} {view : LifecycleView}
variable {allowed : LifecycleChange → Prop} {before middle : PluginWorld}

theorem Leaves.reads (leaves : Leaves forms view before middle) {atMs : UInt64}
    (reads : middle.Reads atMs) : before.Reads atMs := by
  obtain ⟨tick, isLater, isTime⟩ := reads
  exact ⟨tick, leaves.elapsed.trans isLater, leaves.host ▸ isTime⟩

theorem reads_clock (world : PluginWorld) : world.Reads world.shared.moment.nowMs :=
  ⟨world.shared.tick, le_rfl, rfl⟩

theorem Quiet.ends {ran : Except String β × PluginWorld} (quiet : Quiet forms before middle)
    (ends : Ends forms allowed middle ran) : Ends forms allowed before ran := by
  cases ends with
  | inl nothing => exact Or.inl ⟨nothing.1, Leaves.quiet quiet nothing.2⟩
  | inr made =>
    obtain ⟨change, isAllowed, leaves⟩ := made
    have sameView : middle.view forms = before.view forms := quiet.isView
    refine Or.inr ⟨change, isAllowed, ?_, ?_, ?_⟩
    · exact leaves.host.trans quiet.host
    · exact quiet.elapsed.trans leaves.elapsed
    · rw [← sameView]
      exact leaves.isView

theorem ends_bind {action : PluginEffect α} {next : α → PluginEffect β} {world : PluginWorld}
    (kept : Keeps (Quiet forms) action)
    (goesOn : ∀ value middle, action world = (.ok value, middle) → Quiet forms world middle →
      Ends forms allowed middle (next value middle)) :
    Ends forms allowed world ((action >>= next) world) := by
  cases ended : action world with
  | mk answer middle =>
    have quiet := kept.of_run ended
    cases answer with
    | error message =>
      rw [bind_of_error ended]
      exact Or.inl ⟨⟨message, rfl⟩, quiet⟩
    | ok value =>
      rw [bind_of_ok ended]
      exact quiet.ends (goesOn value middle ended quiet)

theorem ends_recordOf {pluginId : String} {next : PluginRuntimeRecord → PluginEffect β}
    {world : PluginWorld}
    (goesOn : ∀ record, world.records.get pluginId = some record →
      (world.view forms).core pluginId = some record.core →
        Ends forms allowed world (next record world)) :
    Ends forms allowed world ((PluginLifecycleManager.recordOf pluginId >>= next) world) := by
  cases found : world.records.get pluginId with
  | none =>
    rw [bind_of_error (PluginLifecycleManager.recordOf_of_none found)]
    exact Or.inl ⟨⟨_, rfl⟩, Quiet.refl world⟩
  | some record =>
    rw [bind_of_ok (PluginLifecycleManager.recordOf_of_some found)]
    exact goesOn record found (congrArg (Option.map PluginRuntimeRecord.core) found)

theorem ends_clock {next : UInt64 → PluginEffect β} {world : PluginWorld}
    (goesOn : ∀ now middle, world.Reads now → Quiet forms world middle →
      Ends forms allowed middle (next now middle)) :
    Ends forms allowed world ((PluginLifecycleManager.clock >>= next) world) := by
  apply ends_bind quiet_clock
  intro now middle ended quiet
  have isNow : world.shared.moment.nowMs = now := Except.ok.inj (congrArg Prod.fst ended)
  exact goesOn now middle (isNow ▸ reads_clock world) quiet

end Ends

namespace PluginLifecycleManager

variable {manager : PluginLifecycleManager} (unmirrored : manager.ledger.store.mirror = none)
include unmirrored

theorem leaves_persist {α : Type} {pluginId : String} {record : PluginRuntimeRecord}
    {manifest : PluginManifestContract} {stored : PluginState} {event : PluginLifecycleEvent}
    {change : LifecycleChange} {rest : PluginEffect α}
    (isManifest : record.currentManifest = manifest)
    (isChange : change = ⟨pluginId, record.core, stored, some event⟩)
    (quietRest : Keeps (Quiet manager.forms) rest) (world : PluginWorld) :
    Leaves manager.forms ((world.view manager.forms).after change) world
      ((do
        putRecord pluginId record
        manager.persist manifest stored event
        rest : PluginEffect α) world).2 := by
  obtain ⟨put, ranPut, leavesPut⟩ := run_putRecord manager.forms pluginId record world
  obtain ⟨rowed, ranRow, leavesRow⟩ :=
    run_persistManifest unmirrored record.currentManifest stored put
  obtain ⟨logged, ranEvent, leavesEvent⟩ := run_persistEvent unmirrored event rowed
  obtain ⟨indexed, ranIndex, leavesIndex⟩ := run_persistIndex unmirrored logged
  have ranPersist : manager.persist manifest stored event put = (.ok (), indexed) := by
    unfold persist
    rw [← isManifest, bind_of_ok ranRow, bind_of_ok ranEvent, ranIndex]
  rw [bind_of_ok ranPut, bind_of_ok ranPersist, isChange]
  apply Leaves.quiet ?_ (quietRest indexed)
  exact ((leavesPut.next (·.store record.currentManifest stored) leavesRow).next (·.log event)
    leavesEvent).next (·.reindex) leavesIndex

theorem quiet_admitTransition (pluginId : String) (target : PluginState) (operator : String) :
    Keeps (Quiet manager.forms) (manager.admitTransition pluginId target operator) := by
  unfold admitTransition
  split
  · apply quiet_bind (quiet_recordOf pluginId)
    intro record
    apply quiet_bind (quiet_ofExcept _)
    intro enforced
    apply quiet_bind (quiet_verify unmirrored pluginId)
    intro verdict
    apply quiet_bind (quiet_admission unmirrored _ _ _ _ _)
    exact fun stageRef => Quiet.refl
  · exact Quiet.refl

theorem transition_ends (pluginId : String) (target : PluginState) (operator reason : String)
    (world : PluginWorld) :
    Ends manager.forms (fun change => ∃ core now atMs,
        (world.view manager.forms).core pluginId = some core ∧ world.Reads atMs ∧
          change = core.transition pluginId target operator reason now atMs) world
      (manager.transitionState pluginId target operator reason world) := by
  unfold transitionState
  apply ends_bind (quiet_admitTransition unmirrored pluginId target operator)
  intro admitted middle _ quiet
  apply ends_recordOf
  intro record _ isCore
  apply ends_clock
  intro now once _ quietOnce
  apply ends_clock
  intro atMs twice reads quietTwice
  refine Or.inr ⟨record.core.transition pluginId target operator reason now atMs,
    ⟨record.core, now, atMs, quiet.isView ▸ isCore, quiet.reads (quietOnce.reads reads), rfl⟩, ?_⟩
  apply leaves_persist unmirrored
  · rfl
  · rfl
  · apply quiet_bind (quiet_emitHook unmirrored _ _ _)
    exact fun hooked => Quiet.refl

theorem update_ends (pluginId : String) (source : Option String) (operator : String)
    (world : PluginWorld) :
    Ends manager.forms (fun change => ∃ core now atMs,
        (world.view manager.forms).core pluginId = some core ∧ world.Reads atMs ∧
          change = core.update pluginId manager.sign source operator now atMs) world
      (manager.update pluginId source operator world) := by
  unfold update
  apply ends_recordOf
  intro record _ isCore
  apply ends_clock
  intro now once _ quietOnce
  apply ends_bind (quiet_ofExcept _)
  intro enforced middle _ quietMiddle
  apply ends_clock
  intro atMs twice reads quietTwice
  refine Or.inr ⟨record.core.update pluginId manager.sign source operator now atMs,
    ⟨record.core, now, atMs, isCore, quietOnce.reads (quietMiddle.reads reads), rfl⟩, ?_⟩
  apply leaves_persist unmirrored
  · rfl
  · rfl
  · apply quiet_bind (quiet_emitHook unmirrored _ _ _)
    exact fun hooked => Quiet.refl

theorem rollback_ends (pluginId operator reason : String) (world : PluginWorld) :
    Ends manager.forms (fun change => ∃ core previous atMs,
        (world.view manager.forms).core pluginId = some core ∧
          core.history.dropLast.getLast? = some previous ∧ world.Reads atMs ∧
            change = core.rollback pluginId previous operator reason atMs) world
      (manager.rollback pluginId operator reason world) := by
  unfold rollback
  apply ends_recordOf
  intro record _ isCore
  cases isPrevious : record.history.dropLast.getLast? with
  | none => exact Or.inl ⟨⟨_, rfl⟩, Quiet.refl world⟩
  | some previous =>
    apply ends_clock
    intro atMs once reads quietOnce
    refine Or.inr ⟨record.core.rollback pluginId previous operator reason atMs,
      ⟨record.core, previous, atMs, isCore, isPrevious, reads, rfl⟩, ?_⟩
    apply leaves_persist unmirrored
    · rfl
    · rfl
    · apply quiet_bind (quiet_emitHook unmirrored _ _ _)
      exact fun hooked => Quiet.refl

theorem recordRollout_ends (pluginId : String) (mode : PluginRolloutMode) (percent : UInt8)
    (operator reason : String) (world : PluginWorld) :
    Ends manager.forms (fun change => ∃ core now,
        (world.view manager.forms).core pluginId = some core ∧
          change = core.rollout pluginId mode percent now) world
      (manager.recordRollout pluginId mode percent operator reason world) := by
  unfold recordRollout
  apply ends_recordOf
  intro record _ isCore
  apply ends_clock
  intro now once _ quietOnce
  let manifest := ((record.currentManifest.note "rollout_mode" mode.label).note
    "rollout_traffic_percent" percent.toNat.repr).note "rollout_updated_at_ms" now.toNat.repr
  let kept : PluginRuntimeRecord :=
    { record with
      currentManifest := manifest
      rolloutMode := some mode
      rolloutTrafficPercent := some percent }
  obtain ⟨put, ranPut, leavesPut⟩ := run_putRecord manager.forms pluginId kept once
  obtain ⟨rowed, ranRow, leavesRow⟩ :=
    run_persistManifest unmirrored manifest (manifestStateForMode mode) put
  refine Or.inr ⟨record.core.rollout pluginId mode percent now, ⟨record.core, now, isCore, rfl⟩, ?_⟩
  have rowedView := leavesPut.next (·.store manifest (manifestStateForMode mode)) leavesRow
  obtain ⟨recorded, ranEvent, quietEvent⟩ :=
    run_persistRolloutEvent unmirrored pluginId mode percent operator reason rowed
  obtain ⟨indexed, ranIndex, leavesIndex⟩ := run_persistIndex unmirrored recorded
  have quietHook : Keeps (Quiet manager.forms) (do
      manager.emitHook "post_rollout" pluginId
        (.object [("mode", .string mode.label), ("operator", .string operator),
          ("reason", .string reason), ("traffic_percent", .unsigned percent.toUInt64)])
      return manifest) :=
    quiet_bind (quiet_emitHook unmirrored _ _ _) fun _ => Quiet.refl
  rw [bind_of_ok ranPut, bind_of_ok ranRow, bind_of_ok ranEvent, bind_of_ok ranIndex]
  apply Leaves.quiet ?_ (quietHook indexed)
  exact (rowedView.quiet quietEvent).next (·.reindex) leavesIndex

omit unmirrored in
theorem rejectInstall_ne_ok (rejected verdict : PluginVerificationVerdict)
    (world final : PluginWorld) :
    manager.rejectInstall rejected world ≠ (.ok verdict, final) := by
  intro ran
  obtain ⟨written, middle, -, failed⟩ := bind_eq_ok.mp ran
  cases failed

theorem quiet_rejectInstall (rejected : PluginVerificationVerdict) :
    Keeps (Quiet manager.forms) (manager.rejectInstall rejected) := by
  apply quiet_bind (quiet_persistVerdict unmirrored rejected)
  exact fun written => Quiet.refl

theorem quiet_verifyRequest (request : PluginInstallRequest) :
    Keeps (Quiet manager.forms) (manager.verifyRequest request) := by
  apply quiet_bind quiet_clock
  intro now
  split
  · exact quiet_rejectInstall unmirrored _
  · split
    · exact quiet_rejectInstall unmirrored _
    · dsimp only
      split
      · exact Quiet.refl
      · exact quiet_rejectInstall unmirrored _

omit unmirrored in
theorem accepted_of_verifyRequest {request : PluginInstallRequest}
    {verdict : PluginVerificationVerdict} {world final : PluginWorld}
    (ran : manager.verifyRequest request world = (.ok verdict, final)) :
    request.Accepted manager.sign := by
  obtain ⟨now, middle, -, goesOn⟩ := bind_eq_ok.mp ran
  have isSignature : (request.signatureMaterial manager.sign).providedSignature =
      (splitSourceAndSignature request.source).2 := rfl
  dsimp only at goesOn
  cases isProvided : (splitSourceAndSignature request.source).2 with
  | none =>
    have unsigned : (request.signatureMaterial manager.sign).providedSignature.isNone = true := by
      rw [isSignature, isProvided, Option.isNone_none]
    rw [if_pos unsigned] at goesOn
    exact absurd goesOn (rejectInstall_ne_ok _ _ _ _)
  | some provided =>
    have signed : ¬(request.signatureMaterial manager.sign).providedSignature.isNone = true := by
      rw [isSignature, isProvided]
      simp
    rw [if_neg signed] at goesOn
    by_cases isChecked : request.verifySignature = true
    · rw [if_neg (by simp [isChecked])] at goesOn
      by_cases verified : (request.verdict manager.sign now).verified = true
      · refine ⟨isChecked, provided, isProvided, ?_⟩
        simp only [PluginInstallRequest.verdict, PluginInstallRequest.signatureMaterial,
          isChecked, isProvided, Bool.not_true, Bool.false_eq_true, if_false] at verified
        by_contra mismatch
        rw [if_neg mismatch] at verified
        cases verified
      · rw [if_neg verified] at goesOn
        exact absurd goesOn (rejectInstall_ne_ok _ _ _ _)
    · rw [if_pos (by simp [isChecked])] at goesOn
      exact absurd goesOn (rejectInstall_ne_ok _ _ _ _)

theorem install_ends (request : PluginInstallRequest) (world : PluginWorld) :
    Ends manager.forms (fun change => ∃ now, request.Accepted manager.sign ∧ world.Reads now ∧
          change = request.installation manager.sign now) world
      (manager.install request world) := by
  unfold install
  apply ends_bind (quiet_emitHook unmirrored _ _ _)
  intro hooked start _ quietStart
  apply ends_bind (quiet_verifyRequest unmirrored request)
  intro verdict checked ranCheck quietChecked
  apply ends_clock
  intro now ticked reads quietTicked
  apply ends_bind (quiet_ofExcept _)
  intro enforced middle _ quietMiddle
  apply ends_bind (quiet_admission unmirrored _ _ _ _ _)
  intro stageRef admitted _ quietAdmitted
  have accepted := accepted_of_verifyRequest ranCheck
  refine Or.inr ⟨request.installation manager.sign now,
    ⟨now, accepted, quietStart.reads (quietChecked.reads reads), rfl⟩, ?_⟩
  let manifest := request.manifest manager.sign now
  let event : PluginLifecycleEvent :=
    ⟨request.pluginId, none, .installed, "plugin installed", request.requestedBy, now⟩
  let kept : PluginRuntimeRecord :=
    { pluginId := request.pluginId
      currentManifest := manifest
      state := .installed
      verified := verdict.verified
      history := [manifest]
      lastEvent := some event
      lastVerdict := some verdict
      rolloutMode := none
      rolloutTrafficPercent := none }
  obtain ⟨put, ranPut, leavesPut⟩ := run_putRecord manager.forms request.pluginId kept admitted
  obtain ⟨rowed, ranRow, leavesRow⟩ := run_persistManifest unmirrored manifest .installed put
  obtain ⟨logged, ranEvent, leavesEvent⟩ := run_persistEvent unmirrored event rowed
  obtain ⟨judged, ranVerdict, quietVerdict⟩ := run_persistVerdict unmirrored verdict logged
  obtain ⟨indexed, ranIndex, leavesIndex⟩ := run_persistIndex unmirrored judged
  have quietHook : Keeps (Quiet manager.forms) (do
      manager.emitHook "post_install" request.pluginId manifest.toValue
      return manifest) :=
    quiet_bind (quiet_emitHook unmirrored _ _ _) fun _ => Quiet.refl
  rw [bind_of_ok ranPut, bind_of_ok ranRow, bind_of_ok ranEvent,
    bind_of_ok ranVerdict, bind_of_ok ranIndex]
  apply Leaves.quiet ?_ (quietHook indexed)
  have loggedView := (leavesPut.next (·.store manifest .installed) leavesRow).next (·.log event)
    leavesEvent
  exact (loggedView.quiet quietVerdict).next (·.reindex) leavesIndex

/-! ## The host -/

omit unmirrored in
theorem quiet_loadExternal (manifest : PluginManifestContract) (entrypoint : String) :
    Keeps (Quiet manager.forms) (loadExternal manifest entrypoint) := by
  apply quiet_bind (quiet_ofExcept _)
  intro runtime
  apply quiet_bind quiet_clock
  exact fun now world => ⟨rfl, le_rfl, rfl⟩

theorem quiet_hostLoadSubprocess (pluginId entrypoint operator : String) :
    Keeps (Quiet manager.forms)
      (manager.hostLoadSubprocess pluginId entrypoint operator) := by
  apply quiet_bind (quiet_recordOf pluginId)
  intro record
  apply quiet_bind (quiet_ofExcept _)
  intro enforced
  split
  · apply quiet_bind (quiet_verify unmirrored pluginId)
    intro verdict
    apply quiet_bind (quiet_admission unmirrored _ _ _ _ _)
    intro stageRef
    apply quiet_bind quiet_clock
    intro loadedAt
    apply quiet_bind (quiet_loadExternal _ _)
    intro loaded
    apply quiet_bind quiet_clock
    intro now
    apply quiet_bind
    · apply quiet_onStore
      apply changesOnly_upsertValue unmirrored
      apply not_watched_of_not_startsWith
      rw [startsWith_iff]
      simp [String.toList_append]
    · exact fun written => Quiet.refl
  · exact Quiet.refl

omit unmirrored in
theorem quiet_hostInvoke (pluginId sessionId tenantId principalId : String)
    (capabilityId : Option String) (payload : JsonValue) :
    Keeps (Quiet manager.forms) (manager.hostInvoke pluginId sessionId tenantId
      principalId capabilityId payload) := by
  apply quiet_bind
  · apply quiet_bind (quiet_recordOf pluginId)
    intro record
    apply quiet_bind (quiet_ofExcept _)
    intro enforced
    apply quiet_bind quiet_clock
    intro now
    apply quiet_bind quiet_clock
    exact fun invokedAt => Quiet.refl
  · exact fun input => Quiet.refl

end PluginLifecycleManager

end AutoLoop.Plugins
