import AutoLoop.Services.RelationFacade

/-!
# Relation tables

The tables that a list of writes makes: the rows by state key, of which a listing sees those
under its session's prefix, and the relational ones, with one row for each edge of a session
and one for each event appended in it.  A write keeps them alike exactly when the row it
takes the place of is the one that the relational tables replace.
-/

namespace AutoLoop.Services

open List Text

/-! ## Records of writes -/

namespace RelationWrite

variable (write : RelationWrite)

def currentEdge : Option RelationEdgeCurrentRecord :=
  match write.payload with
  | .edge edge => some {
      sessionId := write.sessionId
      traceId := write.traceId
      edgeId := edge.edgeId
      fromNode := ""
      toNode := ""
      edgeType := edge.edgeType.name
      payload := edge.json
      evidenceRef := ""
      updatedAtMs := write.nowMs }
  | _ => none

def appendedEvent : Option RelationEventRecord :=
  match write.payload with
  | .event event => some {
      sessionId := write.sessionId
      traceId := write.traceId
      eventId := event.eventId
      eventType := event.eventType.name
      payload := event.json
      evidenceRef := ""
      createdAtMs := write.nowMs }
  | _ => none

def edgeIn (sessionId : String) : Option RelationEdge :=
  if write.sessionId = sessionId then
    match write.payload with
    | .edge edge => some edge
    | _ => none
  else none

def eventIn (sessionId : String) : Option RelationEventRecord :=
  if write.sessionId = sessionId then write.appendedEvent else none

variable {write}

theorem edgeRecord_statePayload (sessionId : String) :
    edgeRecord sessionId write.statePayload = write.currentEdge := by
  rw [edgeRecord, statePayload, currentEdge]
  cases write.payload <;>
    simp [textAt, unsignedAt, JsonValue.get, JsonValue.asString, RelationEdge.json,
      lookup_cons, lookup_nil, JsonValue.unsigned]

theorem eventRecord_statePayload (sessionId : String) :
    eventRecord sessionId write.statePayload = write.appendedEvent := by
  rw [eventRecord, statePayload, appendedEvent]
  cases write.payload <;>
    simp [textAt, unsignedAt, JsonValue.get, JsonValue.asString, RelationEvent.json,
      lookup_cons, lookup_nil, JsonValue.unsigned]

theorem sessionId_of_currentEdge {record : RelationEdgeCurrentRecord}
    (isRecord : write.currentEdge = some record) : record.sessionId = write.sessionId := by
  rw [currentEdge] at isRecord
  split at isRecord
  · exact (Option.some.inj isRecord) ▸ rfl
  · cases isRecord

theorem sessionId_of_appendedEvent {record : RelationEventRecord}
    (isRecord : write.appendedEvent = some record) : record.sessionId = write.sessionId := by
  rw [appendedEvent] at isRecord
  split at isRecord
  · exact (Option.some.inj isRecord) ▸ rfl
  · cases isRecord

theorem edgeIn_of_ne {sessionId : String} (foreign : write.sessionId ≠ sessionId) :
    write.edgeIn sessionId = none := if_neg foreign

theorem eventIn_of_ne {sessionId : String} (foreign : write.sessionId ≠ sessionId) :
    write.eventIn sessionId = none := if_neg foreign

theorem startsWith_stateKey {sessionId : String} (ofSession : write.sessionId = sessionId) :
    startsWith write.stateKey (statePrefix sessionId) = true := by
  rw [startsWith_iff_exists]
  refine ⟨write.traceId ++ ":" ++ write.nowMs.toNat.repr, ?_⟩
  rw [stateKey, place, statePrefix, ofSession]
  simp only [String.append_assoc]

end RelationWrite

/-! ## Tables -/

def stateTable (log : List RelationWrite) : Table String RelationWrite :=
  log.foldr (fun write table => table.insert write.stateKey write) Table.empty

section
variable (sessionId : String) (log : List RelationWrite)

def edgeTable : Table String RelationWrite :=
  log.foldr (fun write table =>
    match write.edgeIn sessionId with
    | some edge => table.insert edge.edgeId write
    | none => table) Table.empty

def seenRows : List (String × RelationWrite) :=
  (stateTable log).select (startsWith · (statePrefix sessionId))

def relationEdges :
    List RelationEdgeCurrentRecord :=
  ((edgeTable sessionId log).select fun _ => true).filterMap fun row => row.2.currentEdge

/-- The relational table of the events of a session: one record for each append. -/
def relationEvents :
    List RelationEventRecord :=
  log.filterMap (·.eventIn sessionId)

def seenEdges :
    List RelationEdgeCurrentRecord :=
  (seenRows sessionId log).filterMap fun row => row.2.currentEdge

def seenEvents : List RelationEventRecord :=
  (seenRows sessionId log).filterMap fun row => row.2.appendedEvent

/-- What a listing sees are the records of the relational tables. -/
def Alike : Prop :=
  (seenEdges sessionId log).Perm (relationEdges sessionId log) ∧
    (seenEvents sessionId log).Perm (relationEvents sessionId log)

end

/-- The row that a write takes the place of. -/
def heldRow (log : List RelationWrite) (write : RelationWrite) : Option RelationWrite :=
  (stateTable log).get write.stateKey

section
variable (sessionId : String) (log : List RelationWrite) (write : RelationWrite)

def formerEdge :
    Option RelationEdgeCurrentRecord :=
  (write.edgeIn sessionId).bind fun edge =>
    ((edgeTable sessionId log).get edge.edgeId).bind (·.currentEdge)

def Replaces : Prop :=
  startsWith write.stateKey (statePrefix sessionId) = true →
    (write.sessionId = sessionId ∨ ∃ contract, write.payload = .contract contract) ∧
      (heldRow log write).bind (·.currentEdge) = formerEdge sessionId log write ∧
      (heldRow log write).bind (·.appendedEvent) = none

end

section Tables

variable {sessionId : String} {log : List RelationWrite} {write : RelationWrite}

theorem sessionId_of_mem_edgeTable {row : String × RelationWrite}
    (membership : row ∈ (edgeTable sessionId log).select fun _ => true) :
    row.2.sessionId = sessionId := by
  have ofSession : ∀ key held, (edgeTable sessionId log).get key = some held →
      held.sessionId = sessionId := by
    clear membership
    induction log with
    | nil =>
      intro key held found
      cases found
    | cons write rest ih =>
      intro key held found
      rw [edgeTable, foldr_cons] at found
      by_cases own : write.sessionId = sessionId
      · cases isEdge : write.edgeIn sessionId with
        | none =>
          rw [isEdge] at found
          exact ih key held found
        | some edge =>
          rw [isEdge] at found
          simp only [Table.get_insert] at found
          split at found
          · cases found
            exact own
          · exact ih key held found
      · rw [RelationWrite.edgeIn_of_ne own] at found
        exact ih key held found
  exact ofSession row.1 row.2 (Table.mem_select_iff.mp membership).1

theorem sessionId_of_mem_relationEdges {record : RelationEdgeCurrentRecord}
    (membership : record ∈ relationEdges sessionId log) : record.sessionId = sessionId := by
  obtain ⟨row, isRow, isRecord⟩ := mem_filterMap.mp membership
  rw [RelationWrite.sessionId_of_currentEdge isRecord, sessionId_of_mem_edgeTable isRow]

theorem sessionId_of_mem_relationEvents {record : RelationEventRecord}
    (membership : record ∈ relationEvents sessionId log) : record.sessionId = sessionId := by
  obtain ⟨write, -, isRecord⟩ := mem_filterMap.mp membership
  rw [RelationWrite.eventIn] at isRecord
  split at isRecord
  · next own => rw [RelationWrite.sessionId_of_appendedEvent isRecord, own]
  · cases isRecord

section
variable (under : startsWith write.stateKey (statePrefix sessionId) = true)
include under

theorem seenEdges_cons_perm_iff
    (alike : (seenEdges sessionId log).Perm (relationEdges sessionId log)) :
    (seenEdges sessionId (write :: log)).Perm (relationEdges sessionId (write :: log)) ↔
      (heldRow log write).bind (·.currentEdge) =
        if (write.edgeIn sessionId).isSome then formerEdge sessionId log write
        else write.currentEdge := by
  obtain ⟨rest, before, after⟩ := (stateTable log).exists_rest_filterMap
    RelationWrite.currentEdge (startsWith · (statePrefix sessionId)) under
  have seenBefore : (seenEdges sessionId log).Perm
      (((heldRow log write).bind (·.currentEdge)).toList ++ rest) := before
  have seenAfter : (seenEdges sessionId (write :: log)).Perm
      (write.currentEdge.toList ++ rest) := after write
  cases isEdge : write.edgeIn sessionId with
  | none =>
    have same : relationEdges sessionId (write :: log) = relationEdges sessionId log := by
      rw [relationEdges, edgeTable, foldr_cons, isEdge]
      rfl
    rw [same, if_neg (by simp)]
    have parts := (seenBefore.symm.trans alike)
    have swapped : (write.currentEdge.toList ++ rest).Perm (relationEdges sessionId log) ↔
        (((heldRow log write).bind (·.currentEdge)).toList ++ rest).Perm
          (write.currentEdge.toList ++ rest) :=
      ⟨fun next => parts.trans next.symm, fun next => next.symm.trans parts⟩
    have byAfter : (seenEdges sessionId (write :: log)).Perm (relationEdges sessionId log) ↔
        (write.currentEdge.toList ++ rest).Perm (relationEdges sessionId log) :=
      ⟨fun next => seenAfter.symm.trans next, fun next => seenAfter.trans next⟩
    rw [byAfter, swapped]
    constructor
    · intro next
      exact (perm_rests_iff next).mp (List.Perm.refl rest)
    · intro same
      rw [same]
  | some edge =>
    obtain ⟨others, edgesBefore, edgesAfter⟩ :=
      (edgeTable sessionId log).exists_rest_filterMap RelationWrite.currentEdge
        (fun _ => true) (rfl : (fun _ : String => true) edge.edgeId = true)
    have former : formerEdge sessionId log write =
        ((edgeTable sessionId log).get edge.edgeId).bind (·.currentEdge) := by
      rw [formerEdge, isEdge]
      rfl
    have tableAfter : (relationEdges sessionId (write :: log)).Perm
        (write.currentEdge.toList ++ others) := by
      rw [relationEdges, edgeTable, foldr_cons, isEdge]
      exact edgesAfter write
    have parts := (seenBefore.symm.trans alike).trans edgesBefore
    rw [if_pos (by simp), former, ← perm_rests_iff parts]
    constructor
    · intro next
      exact (perm_append_left_iff _).mp
        ((seenAfter.symm.trans next).trans tableAfter)
    · intro same
      exact (seenAfter.trans (List.Perm.append_left _ same)).trans tableAfter.symm

theorem seenEvents_cons_perm_iff
    (alike : (seenEvents sessionId log).Perm (relationEvents sessionId log)) :
    (seenEvents sessionId (write :: log)).Perm (relationEvents sessionId (write :: log)) ↔
      (heldRow log write).bind (·.appendedEvent) =
        if write.sessionId = sessionId then none else write.appendedEvent := by
  obtain ⟨rest, before, after⟩ := (stateTable log).exists_rest_filterMap
    RelationWrite.appendedEvent (startsWith · (statePrefix sessionId)) under
  have seenBefore : (seenEvents sessionId log).Perm
      (((heldRow log write).bind (·.appendedEvent)).toList ++ rest) := before
  have seenAfter : (seenEvents sessionId (write :: log)).Perm
      (write.appendedEvent.toList ++ rest) := after write
  have parts := seenBefore.symm.trans alike
  by_cases own : write.sessionId = sessionId
  · have table : relationEvents sessionId (write :: log) =
        write.appendedEvent.toList ++ relationEvents sessionId log := by
      have same : write.eventIn sessionId = write.appendedEvent := if_pos own
      rw [relationEvents, relationEvents, filterMap_cons, same]
      cases write.appendedEvent <;> rfl
    have noRow : (((heldRow log write).bind (·.appendedEvent)).toList ++ rest).Perm
        ((none : Option RelationEventRecord).toList ++ relationEvents sessionId log) := parts
    rw [if_pos own, table, ← perm_rests_iff noRow]
    constructor
    · intro next
      exact (perm_append_left_iff _).mp (seenAfter.symm.trans next)
    · intro same
      exact seenAfter.trans (List.Perm.append_left _ same)
  · have table : relationEvents sessionId (write :: log) = relationEvents sessionId log := by
      rw [relationEvents, filterMap_cons, RelationWrite.eventIn_of_ne own]
      rfl
    rw [if_neg own, table]
    constructor
    · intro next
      exact (perm_rests_iff (parts.trans (next.symm.trans seenAfter))).mp (List.Perm.refl rest)
    · intro same
      exact seenAfter.trans (same ▸ parts)

theorem heldRow_ne_of_foreign
    (alike : Alike sessionId log) (foreign : write.sessionId ≠ sessionId) :
    (∀ record, write.currentEdge = some record →
        (heldRow log write).bind (·.currentEdge) ≠ some record) ∧
      ∀ record, write.appendedEvent = some record →
        (heldRow log write).bind (·.appendedEvent) ≠ some record := by
  have inRows : ∀ held, heldRow log write = some held →
      (write.stateKey, held) ∈ seenRows sessionId log := fun held found =>
    Table.mem_select_iff.mpr ⟨found, under⟩
  constructor
  · intro record isRecord sameRecord
    obtain ⟨held, found, isHeld⟩ := Option.bind_eq_some_iff.mp sameRecord
    have seen : record ∈ seenEdges sessionId log :=
      mem_filterMap.mpr ⟨_, inRows held found, isHeld⟩
    apply foreign
    rw [← RelationWrite.sessionId_of_currentEdge isRecord]
    exact sessionId_of_mem_relationEdges (alike.1.mem_iff.mp seen)
  · intro record isRecord sameRecord
    obtain ⟨held, found, isHeld⟩ := Option.bind_eq_some_iff.mp sameRecord
    have seen : record ∈ seenEvents sessionId log :=
      mem_filterMap.mpr ⟨_, inRows held found, isHeld⟩
    apply foreign
    rw [← RelationWrite.sessionId_of_appendedEvent isRecord]
    exact sessionId_of_mem_relationEvents (alike.2.mem_iff.mp seen)

end

theorem alike_cons_iff (alike : Alike sessionId log) :
    Alike sessionId (write :: log) ↔ Replaces sessionId log write := by
  by_cases under : startsWith write.stateKey (statePrefix sessionId) = true
  · rw [Alike, seenEdges_cons_perm_iff under alike.1, seenEvents_cons_perm_iff under alike.2,
      Replaces]
    simp only [under, true_implies]
    by_cases own : write.sessionId = sessionId
    · rw [if_pos own]
      simp only [own, true_or, true_and]
      cases isEdge : write.edgeIn sessionId with
      | some edge => simp
      | none =>
        have noEdge : write.currentEdge = none := by
          rw [RelationWrite.edgeIn, if_pos own] at isEdge
          rw [RelationWrite.currentEdge]
          cases isPayload : write.payload with
          | edge edge =>
            rw [isPayload] at isEdge
            cases isEdge
          | contract contract => rfl
          | event event => rfl
        have noFormer : formerEdge sessionId log write = none := by
          rw [formerEdge, isEdge]
          rfl
        simp [noEdge, noFormer]
    · obtain ⟨noEdge, noEvent⟩ := heldRow_ne_of_foreign under alike own
      have noFormer : formerEdge sessionId log write = none := by
        rw [formerEdge, RelationWrite.edgeIn_of_ne own]
        rfl
      rw [if_neg own, RelationWrite.edgeIn_of_ne own, if_neg (by simp), noFormer]
      simp only [own, false_or]
      cases isPayload : write.payload with
      | contract contract => simp [RelationWrite.currentEdge, RelationWrite.appendedEvent, isPayload]
      | edge edge =>
        have isRecord : ∃ record, write.currentEdge = some record := by
          rw [RelationWrite.currentEdge, isPayload]
          exact ⟨_, rfl⟩
        obtain ⟨record, isRecord⟩ := isRecord
        constructor
        · intro same
          exact absurd (same.1.trans isRecord) (noEdge record isRecord)
        · rintro ⟨⟨contract, isContract⟩, -⟩
          cases isContract
      | event event =>
        have isRecord : ∃ record, write.appendedEvent = some record := by
          rw [RelationWrite.appendedEvent, isPayload]
          exact ⟨_, rfl⟩
        obtain ⟨record, isRecord⟩ := isRecord
        constructor
        · intro same
          exact absurd (same.2.trans isRecord) (noEvent record isRecord)
        · rintro ⟨⟨contract, isContract⟩, -⟩
          cases isContract
  · have foreign : write.sessionId ≠ sessionId := fun own =>
      under (RelationWrite.startsWith_stateKey own)
    have sameRows : seenRows sessionId (write :: log) = seenRows sessionId log :=
      (stateTable log).select_insert_of_not_kept (startsWith · (statePrefix sessionId))
        under write
    have sameEdges : relationEdges sessionId (write :: log) = relationEdges sessionId log := by
      rw [relationEdges, edgeTable, foldr_cons, RelationWrite.edgeIn_of_ne foreign]
      rfl
    have sameEvents : relationEvents sessionId (write :: log) =
        relationEvents sessionId log := by
      rw [relationEvents, filterMap_cons, RelationWrite.eventIn_of_ne foreign]
      rfl
    rw [Alike, seenEdges, seenEvents, sameRows, sameEdges, sameEvents]
    exact ⟨fun _ isUnder => absurd isUnder under, fun _ => alike⟩

end Tables

end AutoLoop.Services
