import AutoLoop.Services.RelationTables
import AutoLoop.StateAdapter.RecordForms

/-!
# Relation listings without a mirror

What the facade leaves in the store is the table of its writes by state key, so a session's
listings are those of its relational tables exactly as long as each call replaces what these
replace.
-/

namespace AutoLoop.Services

open StateAdapter Text List OrderDual

/-- A call of the facade. -/
inductive RelationCall where
  | upsertContract (sessionId traceId : String) (contract : RelationContract) (source : String)
  | upsertEdge (sessionId traceId : String) (edge : RelationEdge) (source : String)
  | appendEvent (sessionId traceId : String) (event : RelationEvent) (source : String)

def RelationCall.writeAt (nowMs : UInt64) : RelationCall → RelationWrite
  | .upsertContract sessionId traceId contract source =>
    ⟨sessionId, traceId, .contract contract, source, nowMs⟩
  | .upsertEdge sessionId traceId edge source => ⟨sessionId, traceId, .edge edge, source, nowMs⟩
  | .appendEvent sessionId traceId event source =>
    ⟨sessionId, traceId, .event event, source, nowMs⟩

/-- The backends, and the writes so far with the latest one first. -/
structure RelationRun where
  shared : Shared
  log : List RelationWrite

/-- What a call writes in the state it is made in. -/
def RelationRun.next (run : RelationRun) (call : RelationCall) : RelationWrite :=
  call.writeAt run.shared.moment.nowMs

namespace RelationFacade

variable {facade : RelationFacade}

def perform (facade : RelationFacade) : RelationCall → StoreCall String
  | .upsertContract sessionId traceId contract source =>
    facade.upsertContract sessionId traceId contract source
  | .upsertEdge sessionId traceId edge source => facade.upsertEdge sessionId traceId edge source
  | .appendEvent sessionId traceId event source =>
    facade.appendEvent sessionId traceId event source

def calls (facade : RelationFacade) (start : Shared) :
    Component RelationRun RelationCall (Except String String) where
  initial := ⟨start, []⟩
  step := fun run call =>
    let ran := (facade.perform call).run run.shared
    (ran.1, ⟨ran.2, run.next call :: run.log⟩)

/-- The records of a table, sorted by falling time and cut off at the limit. -/
def ListsNewest {Record : Type} (time : Record → UInt64) (limit : Nat) (table : List Record)
    (answer : Except String (List Record)) : Prop :=
  ∃ records : List Record, records.Perm table ∧
    (records.Pairwise fun first second => time second ≤ time first) ∧
    answer = .ok (records.take (max limit 1))

def ListsTables (facade : RelationFacade) (sessionId : String) (run : RelationRun) : Prop :=
  ∀ limit, ListsNewest RelationEdgeCurrentRecord.updatedAtMs limit (relationEdges sessionId run.log)
        ((facade.listEdges sessionId limit).run run.shared).1 ∧
      ListsNewest RelationEventRecord.createdAtMs limit (relationEvents sessionId run.log)
        ((facade.listEvents sessionId limit).run run.shared).1

/-! ## Newest records -/

section Newest

variable {Record : Type} {time : Record → UInt64} {records table : List Record}

theorem pairwise_newest (records : List Record) :
    (sortByKey (fun record => toDual (time record).toNat) records).Pairwise
      fun first second => time second ≤ time first := by
  have sorted : (sortByKey (fun record => toDual (time record).toNat)
      records).Pairwise fun first second =>
        toDual (time first).toNat ≤ toDual (time second).toNat :=
    pairwise_insertionSort _ records
  exact sorted.imp fun below => UInt64.le_iff_toNat_le.mpr (toDual_le_toDual.mp below)

theorem forall_listsNewest_iff :
    (∀ limit, ListsNewest time limit table (.ok (newest time limit records))) ↔
      records.Perm table := by
  constructor
  · intro lists
    obtain ⟨others, perm, -, same⟩ := lists (records.length + table.length + 1)
    have all := Except.ok.inj same
    rw [newest, take_of_length_le, take_of_length_le] at all
    · have same : (sortByKey (fun record => toDual (time record).toNat) records).Perm
          table := all ▸ perm
      exact (sortByKey_perm _ records).symm.trans same
    · rw [perm.length_eq]
      omega
    · rw [(sortByKey_perm _ records).length_eq]
      omega
  · intro perm limit
    exact ⟨_, (sortByKey_perm _ records).trans perm, pairwise_newest records, rfl⟩

end Newest

/-! ## What the store holds -/

/-- The state rows of the store are those of the writes. -/
def Recorded (facade : RelationFacade) (run : RelationRun) : Prop :=
  ∀ key, startsWith key "relation:state:" = true →
    run.shared.repo.knowledge.texts.get key =
      ((stateTable run.log).get key).map facade.texts.state

section Unmirrored

variable (unmirrored : facade.stateStore.mirror = none)
include unmirrored

/-- A call leaves the four rows of its write. -/
theorem run_perform (call : RelationCall) (run : RelationRun) :
    ∃ answer later, (facade.perform call).run run.shared = (.ok answer, later) ∧
      later.repo.knowledge.texts = run.shared.repo.knowledge.texts.insertAll
        [((run.next call).stateKey, facade.texts.state (run.next call)),
          ((run.next call).relationEventKey, facade.texts.relationEvent (run.next call)),
          ((run.next call).evidenceKey, facade.texts.evidence (run.next call)),
          ((run.next call).writeProofKey, facade.texts.writeProof (run.next call))] := by
  let clocked : Shared := { run.shared with tick := run.shared.tick + 1 }
  have ranClock : StateStore.nowMs.run run.shared =
      (.ok run.shared.moment.nowMs, clocked) := rfl
  have isWrite : (facade.perform call).run run.shared =
      (facade.atomicWriteRelationBundleWithFallback (run.next call)).run clocked := by
    cases call <;> exact Future.run_bind_of_ok ranClock
  have missing : isMissingPostgresMirrorError "atomic relation write requires postgres mirror" =
      true := by decide
  have plain : ∀ (start rest : String),
      (¬start.toList <+: "evidence:".toList ∧ ¬"evidence:".toList <+: start.toList) →
      StateStore.isEvidence (start ++ rest) = false :=
    fun start rest apart => isEvidence_append apart rest
  have refused : (Future.attempt (facade.atomicWriteRelationBundle (run.next call))).run
      clocked = (.ok (.error "atomic relation write requires postgres mirror"), clocked) := by
    rw [atomicWriteRelationBundle, unmirrored]
    rfl
  have writes :=
    (Writes.upsertJsonKnowledge unmirrored (plain "relation:state:" (run.next call).place
      (by decide)) (facade.texts.state (run.next call)) (run.next call).source).bind fun _ =>
    (Writes.upsertJsonKnowledge unmirrored (plain "relation:event:" (run.next call).place
      (by decide)) (facade.texts.relationEvent (run.next call))
      (run.next call).source).bind fun _ =>
    (Writes.upsertJsonKnowledge unmirrored (plain "relation:evidence:" (run.next call).place
      (by decide)) (facade.texts.evidence (run.next call)) (run.next call).source).bind fun _ =>
    (Writes.upsertJsonKnowledge unmirrored (plain "relation:write_proof:" (run.next call).place
      (by decide)) (facade.texts.writeProof (run.next call))
      (run.next call).source).bind fun _ =>
    Writes.done (run.next call).evidenceKey
  obtain ⟨answer, later, ran, put⟩ := writes clocked
  have answered : (facade.perform call).run run.shared = (.ok answer, later) := by
    rw [isWrite, atomicWriteRelationBundleWithFallback, Future.run_bind_of_ok refused]
    simp only [missing, if_true]
    exact ran
  exact ⟨answer, later, answered, put⟩

theorem recorded_step {start : Shared} {run : RelationRun} (recorded : facade.Recorded run)
    (call : RelationCall) : facade.Recorded ((facade.calls start).step run call).2 := by
  obtain ⟨answer, later, ran, put⟩ := run_perform unmirrored call run
  intro key isState
  obtain ⟨place, rfl⟩ := startsWith_iff_exists.mp isState
  have texts : ((facade.calls start).step run call).2.shared.repo.knowledge.texts =
      later.repo.knowledge.texts := by
    simp only [calls, ran]
  have log : ((facade.calls start).step run call).2.log = run.next call :: run.log := rfl
  have notEvent : ∀ other, "relation:event:" ++ other ≠ "relation:state:" ++ place :=
    fun other => append_ne_append (by decide) other place
  have notEvidence : ∀ other, "relation:evidence:" ++ other ≠ "relation:state:" ++ place :=
    fun other => append_ne_append (by decide) other place
  have notProof : ∀ other, "relation:write_proof:" ++ other ≠ "relation:state:" ++ place :=
    fun other => append_ne_append (by decide) other place
  rw [texts, log, put, Table.insertAll_cons, Table.get_insertAll_of_absent, Table.get_insert,
    stateTable, foldr_cons, Table.get_insert]
  · split
    · rfl
    · exact recorded _ isState
  · intro row isRow
    simp only [mem_cons, not_mem_nil, or_false] at isRow
    rcases isRow with rfl | rfl | rfl
    · exact notEvent _
    · exact notEvidence _
    · exact notProof _

section
variable {run : RelationRun} (recorded : facade.Recorded run) (sessionId : String)
include recorded

theorem run_fallbackKvList :
    ((facade.fallbackKvList (statePrefix sessionId)).run run.shared).1 =
      .ok ((seenRows sessionId run.log).map fun row => row.2.statePayload) := by
  clear unmirrored
  have listed : (facade.fallbackKvList (statePrefix sessionId)).run run.shared =
      (.ok ((run.shared.repo.knowledge.select
        (startsWith · (statePrefix sessionId))).filterMap fun record =>
          facade.texts.parse record.value), run.shared.after 1) := rfl
  have under : ∀ key, startsWith key (statePrefix sessionId) = true →
      startsWith key "relation:state:" = true := by
    intro key starts
    obtain ⟨rest, rfl⟩ := startsWith_iff_exists.mp starts
    rw [startsWith_iff_exists]
    exact ⟨sessionId ++ ":" ++ rest, by rw [statePrefix, String.append_assoc]⟩
  have rows := run.shared.repo.knowledge.select_texts
    (startsWith · (statePrefix sessionId))
  rw [Table.select_eq_map fun key starts => recorded key (under key starts)] at rows
  have values := congrArg (List.map Prod.snd) rows
  rw [map_map, map_map] at values
  rw [listed]
  refine congrArg Except.ok ?_
  calc
    (run.shared.repo.knowledge.select (startsWith · (statePrefix sessionId))).filterMap
        (fun record => facade.texts.parse record.value) =
      ((run.shared.repo.knowledge.select (startsWith · (statePrefix sessionId))).map
        (Prod.snd ∘ fun record => (record.key, record.value))).filterMap
          facade.texts.parse := by
      rw [filterMap_map]
      rfl
    _ = ((seenRows sessionId run.log).map fun row => row.2.statePayload) := by
      rw [← values, filterMap_map, ← filterMap_eq_map]
      apply filterMap_congr
      intro row _
      exact facade.texts.parse_state row.2

theorem run_listEdges (limit : Nat) :
    ((facade.listEdges sessionId limit).run run.shared).1 =
      .ok (newest RelationEdgeCurrentRecord.updatedAtMs limit (seenEdges sessionId run.log)) := by
  obtain ⟨later, ran⟩ := Effect.exists_run (run_fallbackKvList unmirrored recorded sessionId)
  have records : ((seenRows sessionId run.log).map fun row => row.2.statePayload).filterMap
      (edgeRecord sessionId) = seenEdges sessionId run.log := by
    rw [filterMap_map]
    exact filterMap_congr fun row _ => RelationWrite.edgeRecord_statePayload sessionId
  rw [listEdges, unmirrored]
  simp only [Future.run_bind_of_ok ran, records]
  rfl

theorem run_listEvents (limit : Nat) :
    ((facade.listEvents sessionId limit).run run.shared).1 =
      .ok (newest RelationEventRecord.createdAtMs limit (seenEvents sessionId run.log)) := by
  obtain ⟨later, ran⟩ := Effect.exists_run (run_fallbackKvList unmirrored recorded sessionId)
  have records : ((seenRows sessionId run.log).map fun row => row.2.statePayload).filterMap
      (eventRecord sessionId) = seenEvents sessionId run.log := by
    rw [filterMap_map]
    exact filterMap_congr fun row _ => RelationWrite.eventRecord_statePayload sessionId
  rw [listEvents, unmirrored]
  simp only [Future.run_bind_of_ok ran, records]
  rfl

theorem listsTables_iff : facade.ListsTables sessionId run ↔ Alike sessionId run.log := by
  simp only [ListsTables, run_listEdges unmirrored recorded, run_listEvents unmirrored recorded,
    forall_and, forall_listsNewest_iff, Alike]

end

omit unmirrored in
theorem recorded_start {start : Shared}
    (unused : ∀ key, startsWith key "relation:state:" = true →
      start.repo.knowledge.get key = none) : facade.Recorded ⟨start, []⟩ := by
  intro key isState
  show start.repo.knowledge.texts.get key = _
  rw [Knowledge.get_texts, unused key isState]
  rfl

theorem recorded_run {start : Shared} {run : RelationRun} (recorded : facade.Recorded run)
    (ops : List RelationCall) : facade.Recorded ((facade.calls start).run run ops).2 := by
  induction ops generalizing run with
  | nil => exact recorded
  | cons call rest ih => exact ih (recorded_step unmirrored recorded call)

end Unmirrored

/-- On a store without a mirror and without relation rows, the listings of a session are
throughout the newest records of its relational tables, with one record for each edge id and
one for each event, exactly when each call under the session's prefix that writes an edge or
an event is one of the session, and each call under the prefix takes the place of the former
record of the edge that it upserts and of no other edge or event. -/
theorem listings_law (facade : RelationFacade) (unmirrored : facade.stateStore.mirror = none)
    (start : Shared) (unused : ∀ key, startsWith key "relation:state:" = true →
      start.repo.knowledge.get key = none) (sessionId : String) (ops : List RelationCall) :
    (facade.calls start).Always (facade.ListsTables sessionId) ⟨start, []⟩ ops ↔
      (facade.calls start).EachStep
        (fun run call => Replaces sessionId run.log (run.next call)) ⟨start, []⟩ ops := by
  have holds : ∀ run : RelationRun, facade.Recorded run ∧ Alike sessionId run.log →
      facade.ListsTables sessionId run :=
    fun run kept => (listsTables_iff unmirrored kept.1 sessionId).mpr kept.2
  have kept : ∀ (run : RelationRun) (call : RelationCall),
      facade.Recorded run ∧ Alike sessionId run.log →
      Replaces sessionId run.log (run.next call) →
      facade.Recorded ((facade.calls start).step run call).2 ∧
        Alike sessionId ((facade.calls start).step run call).2.log :=
    fun run call kept replaces =>
      ⟨recorded_step unmirrored kept.1 call, (alike_cons_iff kept.2).mpr replaces⟩
  have needed : ∀ (run : RelationRun) (call : RelationCall),
      facade.Recorded run ∧ Alike sessionId run.log →
      facade.ListsTables sessionId ((facade.calls start).step run call).2 →
      Replaces sessionId run.log (run.next call) := by
    intro run call kept lists
    apply (alike_cons_iff kept.2).mp
    exact (listsTables_iff unmirrored (recorded_step unmirrored kept.1 call) sessionId).mp lists
  apply Component.always_iff_of_invariant holds kept needed
  exact ⟨recorded_start unused, List.Perm.refl _, List.Perm.refl _⟩

end RelationFacade

end AutoLoop.Services
