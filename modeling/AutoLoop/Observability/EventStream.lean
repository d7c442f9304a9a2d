import AutoLoop.Runtime.BudgetBooks

/-!
# The session event log

Each event is stored under its session, its millisecond and a counter.  What is read back
is a prefix scan, in the order of the keys as texts, and a stable sort by millisecond.
-/

namespace AutoLoop.Observability

open StateAdapter

structure EventEnvelope (Payload : Type) where
  eventId : String
  kind : String
  traceId : String
  sessionId : String
  taskId : Option String
  capabilityId : Option String
  version : String
  payload : Payload
  createdAtMs : UInt64
  deriving DecidableEq, Repr

structure SessionEventView where
  sessionId : String
  totalEvents : Nat
  byKind : Table String Nat
  latestTraceId : Option String
  latestEventMs : Option UInt64

/-- The arguments of an append. -/
structure NewEvent (Payload : Type) where
  kind : String
  traceId : String
  sessionId : String
  taskId : Option String
  capabilityId : Option String
  version : String
  payload : Payload
  deriving DecidableEq, Repr

structure EventStream (Payload : Type) where
  store : StateStore
  form : JsonForm (EventEnvelope Payload)

variable {Payload : Type}

def eventPrefix (sessionId : String) : String := "eventlog:" ++ sessionId ++ ":"

section
variable (sessionId : String) (createdAtMs seq : UInt64)

/-- What the id and the key of an event share. -/
def eventTail : String :=
  sessionId ++ ":" ++ createdAtMs.toNat.repr ++ ":" ++ seq.toNat.repr

def eventKey : String :=
  "eventlog:" ++ eventTail sessionId createdAtMs seq

end

def NewEvent.envelope (event : NewEvent Payload) (createdAtMs seq : UInt64) :
    EventEnvelope Payload where
  eventId := "evt:" ++ eventTail event.sessionId createdAtMs seq
  kind := event.kind
  traceId := event.traceId
  sessionId := event.sessionId
  taskId := event.taskId
  capabilityId := event.capabilityId
  version := event.version
  payload := event.payload
  createdAtMs

/-! ## Views -/

namespace SessionEventView

def empty (sessionId : String) : SessionEventView where
  sessionId
  totalEvents := 0
  byKind := Table.empty
  latestTraceId := none
  latestEventMs := none

/-- Count an event, and keep it as the latest one if it is later than the one kept. -/
def count (view : SessionEventView) (event : EventEnvelope Payload) : SessionEventView :=
  let byKind := view.byKind.insert event.kind ((view.byKind.get event.kind).getD 0 + 1)
  if view.latestEventMs.all (· < event.createdAtMs) then
    { view with
      byKind
      latestEventMs := some event.createdAtMs
      latestTraceId := some event.traceId }
  else { view with byKind }

end SessionEventView

namespace EventStream

variable (stream : EventStream Payload)

/-- The rows that hold an event. -/
def decoded (records : List KnowledgeRecord) : List (EventEnvelope Payload) :=
  records.filterMap fun record => stream.form.decode record.value

def buildView (sessionId : String) (records : List KnowledgeRecord) : SessionEventView :=
  { (stream.decoded records).foldl SessionEventView.count (.empty sessionId) with
    totalEvents := records.length }

/-! ## Calls -/

/-- An append with the number that it drew from `EVENT_SEQ`. -/
def appendEvent (event : NewEvent Payload) (seq : UInt64) :
    StoreCall (EventEnvelope Payload) := do
  let createdAtMs ← StateStore.nowMs
  let envelope := event.envelope createdAtMs seq
  let _ ← stream.store.upsertJsonKnowledge (eventKey event.sessionId createdAtMs seq)
    (.ok (stream.form.encode envelope)) "event-stream"
  return envelope

def aggregateSessionView (sessionId : String) : StoreCall SessionEventView := do
  let records ← stream.store.listKnowledgeByPrefix (eventPrefix sessionId)
  return stream.buildView sessionId records

def listSessionEvents (sessionId : String) : StoreCall (List (EventEnvelope Payload)) := do
  let records ← stream.store.listKnowledgeByPrefix (eventPrefix sessionId)
  return sortByKey (·.createdAtMs.toNat) (stream.decoded records)

def replayTraceEvents (sessionId traceId : String) :
    StoreCall (List (EventEnvelope Payload)) := do
  let events ← stream.listSessionEvents sessionId
  return sortByKey (·.createdAtMs.toNat) (events.filter (·.traceId = traceId))

end EventStream

/-! ## Runs -/

/-- An event with the millisecond and the number it was appended with. -/
structure LoggedEvent (Payload : Type) extends NewEvent Payload where
  createdAtMs : UInt64
  seq : UInt64
  deriving DecidableEq, Repr

namespace LoggedEvent

variable (event : LoggedEvent Payload)

def envelope : EventEnvelope Payload :=
  event.toNewEvent.envelope event.createdAtMs event.seq

def key : String := eventKey event.sessionId event.createdAtMs event.seq

end LoggedEvent

/-- The store, the counter, and what was appended so far. -/
structure EventBooks (Payload : Type) where
  shared : Shared
  eventSeq : UInt64
  log : List (LoggedEvent Payload)

section
variable (stream : EventStream Payload) (host : Nat → Moment) (firstSeq : UInt64)

/-- Appends one after another, from some number on. -/
def eventRuns :
    Component (EventBooks Payload) (NewEvent Payload) (Except String (EventEnvelope Payload))
    where
  initial := ⟨Shared.started host, firstSeq, []⟩
  step books event :=
    let ran := (stream.appendEvent event books.eventSeq).run books.shared
    (ran.1,
      { shared := ran.2
        eventSeq := books.eventSeq + 1
        log := books.log ++ (match ran.1 with
          | .ok appended => [⟨event, appended.createdAtMs, books.eventSeq⟩]
          | .error _ => []) })

/-- The books after some appends. -/
def afterEvents (events : List (NewEvent Payload)) : EventBooks Payload :=
  ((eventRuns stream host firstSeq).run (eventRuns stream host firstSeq).initial events).2

end

end AutoLoop.Observability

/-!
## What the event log of a session shows

The listing of a session is the log of its events exactly when no other session has a key
that goes on after its prefix and the counter texts of its events increase within each
millisecond.
-/

namespace AutoLoop.Observability

open StateAdapter
open AutoLoop.Runtime (still unmirroredStore)
open Text List StateStore EventStream Knowledge

variable {Payload : Type}

/-! ## Keys -/

theorem eventTail_inj {sessionId other : String} {atMs otherMs seq otherSeq : UInt64}
    (same : eventTail sessionId atMs seq = eventTail other otherMs otherSeq) :
    sessionId = other ∧ atMs = otherMs ∧ seq = otherSeq := by
  have clean : ∀ value : Nat, ':' ∉ value.repr.toList := not_mem_repr (by decide)
  have lists := congrArg String.toList same
  simp only [eventTail, String.toList_append] at lists
  have seqs : seq.toNat.repr.toList = otherSeq.toNat.repr.toList :=
    after_last_separator lists (clean _) (clean _)
  rw [seqs, append_cancel_right_eq, append_cancel_right_eq] at lists
  have stamps : atMs.toNat.repr.toList = otherMs.toNat.repr.toList :=
    after_last_separator lists (clean _) (clean _)
  rw [stamps, append_cancel_right_eq, append_cancel_right_eq] at lists
  constructor
  · exact String.toList_inj.mp lists
  · constructor
    · exact UInt64.toNat_inj.mp (repr_inj.mp (String.toList_inj.mp stamps))
    · exact UInt64.toNat_inj.mp (repr_inj.mp (String.toList_inj.mp seqs))

theorem eventTail_lt_iff {sessionId : String} {atMs seq otherSeq : UInt64} :
    eventTail sessionId atMs seq < eventTail sessionId atMs otherSeq ↔
      seq.toNat.repr < otherSeq.toNat.repr := by
  rw [eventTail, eventTail, append_lt_append_iff]

theorem isEvidence_eventKey (sessionId : String) (atMs seq : UInt64) :
    isEvidence (eventKey sessionId atMs seq) = false := by
  rw [Bool.eq_false_iff, ne_eq, isEvidence, startsWith_iff]
  intro extends'
  cases extends' with
  | intro rest same => simp [eventKey] at same

theorem startsWith_eventPrefix (sessionId : String) (atMs seq : UInt64) :
    startsWith (eventKey sessionId atMs seq) (eventPrefix sessionId) = true := by
  apply startsWith_iff_exists.mpr
  exact ⟨atMs.toNat.repr ++ ":" ++ seq.toNat.repr, by
    simp only [eventKey, eventTail, eventPrefix, String.append_assoc]⟩

variable {first second : LoggedEvent Payload}

theorem eventId_lt_iff :
    first.envelope.eventId < second.envelope.eventId ↔ first.key < second.key := by
  rw [LoggedEvent.key, LoggedEvent.key, eventKey, eventKey, append_lt_append_iff]
  exact append_lt_append_iff

theorem eq_of_key_eq (same : first.key = second.key) :
    first.sessionId = second.sessionId ∧ first.createdAtMs = second.createdAtMs ∧
      first.seq = second.seq := by
  apply eventTail_inj
  have lists := congrArg String.toList same
  rw [LoggedEvent.key, LoggedEvent.key, eventKey, eventKey, String.toList_append,
    String.toList_append, append_cancel_left_eq] at lists
  exact String.toList_inj.mp lists

/-! ## Books -/

namespace EventBooks

variable (stream : EventStream Payload) (books : EventBooks Payload) (sessionId : String)

/-- The entries of a session, in the order in which they were appended. -/
def logOf : List (LoggedEvent Payload) := books.log.filter (·.sessionId = sessionId)

def appended : List (EventEnvelope Payload) := (books.logOf sessionId).map (·.envelope)

structure Faithful : Prop where
  listed : ((stream.listSessionEvents sessionId).run books.shared).1 =
    .ok (books.appended sessionId)
  replayed : ∀ traceId, ((stream.replayTraceEvents sessionId traceId).run books.shared).1 =
    .ok ((books.appended sessionId).filter (·.traceId = traceId))
  viewed : ∃ view, ((stream.aggregateSessionView sessionId).run books.shared).1 = .ok view ∧
    view.totalEvents = (books.appended sessionId).length ∧
    (view.byKind.rows.map (·.2)).sum = (books.appended sessionId).length ∧
    view.latestTraceId = (books.appended sessionId).getLast?.map (·.traceId)

def Unmixed : Prop :=
  ∀ entry ∈ books.log, startsWith entry.key (eventPrefix sessionId) = true →
    entry.sessionId = sessionId

/-- Within each millisecond of the session the numbers increase as texts. -/
def Numbered : Prop :=
  (books.logOf sessionId).Pairwise fun entry later =>
    entry.createdAtMs = later.createdAtMs → entry.seq.toNat.repr < later.seq.toNat.repr

def firstAt (createdAtMs : UInt64) : Option (EventEnvelope Payload) :=
  (books.appended sessionId).find? (·.createdAtMs = createdAtMs)

def OneTrace : Prop :=
  ∀ last ∈ (books.appended sessionId).getLast?,
    ∀ first ∈ books.firstAt sessionId last.createdAtMs, first.traceId = last.traceId

instance decidableUnmixed : Decidable (books.Unmixed sessionId) :=
  List.decidableBAll _ _

instance decidableNumbered : Decidable (books.Numbered sessionId) :=
  inferInstanceAs (Decidable (List.Pairwise _ _))

instance decidableOneTrace : Decidable (books.OneTrace sessionId) :=
  inferInstanceAs (Decidable (∀ last ∈ _, ∀ first ∈ _, _ = _))

def lastUnder (key : String) : Option (LoggedEvent Payload) :=
  (books.log.filter (·.key = key)).getLast?

/-- What a prefix scan for a session reads. -/
def scanned : List KnowledgeRecord :=
  books.shared.repo.knowledge.select (startsWith · (eventPrefix sessionId))

/-- The rows are the last entries under their keys, and the milliseconds do not
decrease. -/
structure Kept (host : Nat → Moment) : Prop where
  rows : ∀ key, (books.shared.repo.knowledge.get key).map (·.value) =
    (books.lastUnder key).map fun entry => stream.form.encode entry.envelope
  ordered : books.log.Pairwise fun entry later => entry.createdAtMs ≤ later.createdAtMs
  past : ∀ entry ∈ books.log, ∃ tick ≤ books.shared.tick,
    entry.createdAtMs = (host tick).nowMs
  sameHost : books.shared.host = host

end EventBooks

/-! ## Appends -/

section Appends

variable {stream : EventStream Payload} (unmirrored : stream.store.mirror = none)
include unmirrored

theorem run_appendEvent (event : NewEvent Payload) (seq : UInt64) (shared : Shared) :
    ∃ id later, (stream.appendEvent event seq).run shared =
        (.ok (event.envelope shared.moment.nowMs seq), later) ∧
      later.repo.knowledge = shared.repo.knowledge.put
        ⟨id, eventKey event.sessionId shared.moment.nowMs seq,
          stream.form.encode (event.envelope shared.moment.nowMs seq), "event-stream"⟩ ∧
      later.host = shared.host ∧ later.tick = shared.tick + 2 := by
  have ranClock : nowMs.run shared = (.ok shared.moment.nowMs, shared.after 1) := rfl
  obtain ⟨id, later, ran, put, sameHost, isLater⟩ :=
    run_upsertJsonKnowledge_plain unmirrored
      (isEvidence_eventKey event.sessionId shared.moment.nowMs seq)
      (stream.form.encode (event.envelope shared.moment.nowMs seq)) "event-stream"
      (shared.after 1)
  refine ⟨id, later, ?_, put, sameHost, isLater⟩
  unfold appendEvent
  refine (Future.run_bind_of_ok ranClock).trans ?_
  exact Future.run_bind_of_ok ran

end Appends

/-! ## Steps -/

theorem lastUnder_snoc (log : List (LoggedEvent Payload)) (entry : LoggedEvent Payload)
    (key : String) :
    ((log ++ [entry]).filter (·.key = key)).getLast? =
      if entry.key = key then some entry else (log.filter (·.key = key)).getLast? := by
  rw [filter_append]
  by_cases isKey : entry.key = key
  · simp [isKey]
  · simp [isKey]

section Steps

variable {stream : EventStream Payload} (unmirrored : stream.store.mirror = none)
variable {host : Nat → Moment}
variable (forwards : ∀ tick later, tick ≤ later → (host tick).nowMs ≤ (host later).nowMs)
include unmirrored forwards

theorem kept_step (firstSeq : UInt64) (books : EventBooks Payload) (event : NewEvent Payload)
    (kept : books.Kept stream host) :
    ((eventRuns stream host firstSeq).step books event).2.Kept stream host := by
  obtain ⟨id, later, ran, put, sameHost, isLater⟩ :=
    run_appendEvent unmirrored event books.eventSeq books.shared
  let entry : LoggedEvent Payload := ⟨event, books.shared.moment.nowMs, books.eventSeq⟩
  let row : KnowledgeRecord :=
    ⟨id, entry.key, stream.form.encode entry.envelope, "event-stream"⟩
  have putRow : later.repo.knowledge = books.shared.repo.knowledge.put row := put
  have stepped : ((eventRuns stream host firstSeq).step books event).2 =
      ⟨later, books.eventSeq + 1, books.log ++ [entry]⟩ := by
    simp only [eventRuns, ran]
    rfl
  have isMoment : entry.createdAtMs = (host books.shared.tick).nowMs := by
    rw [← kept.sameHost]
    rfl
  rw [stepped]
  constructor
  · intro key
    have previous := kept.rows key
    rw [EventBooks.lastUnder] at previous ⊢
    rw [putRow, get_put, lastUnder_snoc]
    by_cases isKey : entry.key = key
    · have rowKey : key = row.key := isKey.symm
      rw [if_pos rowKey, if_pos isKey]
      rfl
    · have otherKey : key ≠ row.key := Ne.symm isKey
      rw [if_neg otherKey, if_neg isKey]
      exact previous
  · apply pairwise_append.mpr
    refine ⟨kept.ordered, pairwise_singleton _ _, ?_⟩
    intro earlier inLog last isLast
    rw [mem_singleton.mp isLast, isMoment]
    obtain ⟨tick, before, atTick⟩ := kept.past earlier inLog
    rw [atTick]
    exact forwards tick _ before
  · intro earlier inLog
    rw [isLater]
    cases mem_append.mp inLog with
    | inl old =>
      obtain ⟨tick, before, atTick⟩ := kept.past earlier old
      exact ⟨tick, Nat.le_add_right_of_le before, atTick⟩
    | inr new =>
      rw [mem_singleton.mp new]
      exact ⟨books.shared.tick, Nat.le_add_right _ 2, isMoment⟩
  · exact sameHost.trans kept.sameHost

theorem kept_run (firstSeq : UInt64) (events : List (NewEvent Payload)) :
    (afterEvents stream host firstSeq events).Kept stream host := by
  have started : (eventRuns stream host firstSeq).initial.Kept stream host := by
    constructor
    · intro key
      rfl
    · exact List.Pairwise.nil
    · intro entry inLog
      cases inLog
    · rfl
  have each : (eventRuns stream host firstSeq).EachStep (fun _ _ => True)
      (eventRuns stream host firstSeq).initial events :=
    Component.EachStep.of_forall (fun _ _ => trivial) _ _
  exact each.run_invariant started
    fun books event kept _ => kept_step unmirrored forwards firstSeq books event kept

end Steps

/-! ## Scans -/

open List.Pairwise

namespace EventBooks

variable {stream : EventStream Payload} {books : EventBooks Payload} {sessionId : String}
variable {host : Nat → Moment} (kept : books.Kept stream host)
include kept

theorem Kept.row {key : String} {row : KnowledgeRecord}
    (found : books.shared.repo.knowledge.get key = some row) :
    ∃ entry ∈ books.log, entry.key = key ∧ books.lastUnder key = some entry ∧
      stream.form.decode row.value = some entry.envelope := by
  have isRow := kept.rows key
  rw [found, Option.map_some] at isRow
  obtain ⟨entry, isLast, encodes⟩ := Option.map_eq_some_iff.mp isRow.symm
  obtain ⟨inLog, isKey⟩ := mem_filter.mp (mem_of_getLast? isLast)
  refine ⟨entry, inLog, of_decide_eq_true isKey, isLast, ?_⟩
  rw [← encodes]
  exact stream.form.decode_encode entry.envelope

theorem Kept.exists_row {key : String} {entry : LoggedEvent Payload}
    (isLast : books.lastUnder key = some entry) :
    ∃ row, books.shared.repo.knowledge.get key = some row ∧
      row.value = stream.form.encode entry.envelope := by
  have isRow := kept.rows key
  rw [isLast, Option.map_some] at isRow
  exact Option.map_eq_some_iff.mp isRow

theorem Kept.mem_decoded_iff {envelope : EventEnvelope Payload} :
    envelope ∈ stream.decoded (books.scanned sessionId) ↔
      ∃ entry, books.lastUnder entry.key = some entry ∧
        startsWith entry.key (eventPrefix sessionId) = true ∧
        entry.envelope = envelope := by
  rw [decoded, mem_filterMap]
  constructor
  · intro decodes
    cases decodes with
    | intro row holds =>
      obtain ⟨found, starts⟩ := mem_select_iff.mp holds.1
      obtain ⟨entry, -, isKey, isLast, isEntry⟩ := kept.row found
      rw [isEntry, Option.some.injEq] at holds
      rw [← isKey] at isLast starts
      exact ⟨entry, isLast, starts, holds.2⟩
  · intro logged
    obtain ⟨entry, isLast, starts, isEnvelope⟩ := logged
    obtain ⟨row, found, isValue⟩ := kept.exists_row isLast
    have rowKey := books.shared.repo.knowledge.key_of_get found
    refine ⟨row, mem_select_iff.mpr ⟨rowKey.symm ▸ found, rowKey.symm ▸ starts⟩, ?_⟩
    rw [isValue, ← isEnvelope]
    exact stream.form.decode_encode entry.envelope

/-- The scan reads events in the order of their ids. -/
theorem Kept.increasing_decoded :
    (stream.decoded (books.scanned sessionId)).Pairwise fun event later =>
      event.eventId < later.eventId := by
  rw [decoded, pairwise_filterMap]
  apply imp_of_mem ?_ (books.shared.repo.knowledge.increasing_select _)
  intro row next rowIn nextIn below event isEvent later isLater
  obtain ⟨entry, -, isKey, -, isEntry⟩ := kept.row (mem_select_iff.mp rowIn).1
  obtain ⟨other, -, otherKey, -, isOther⟩ := kept.row (mem_select_iff.mp nextIn).1
  rw [isEntry, Option.some.injEq] at isEvent
  rw [isOther, Option.some.injEq] at isLater
  rw [← isEvent, ← isLater, eventId_lt_iff, isKey, otherKey]
  exact below

theorem Kept.length_decoded :
    (stream.decoded (books.scanned sessionId)).length = (books.scanned sessionId).length := by
  have decodes : ∀ row ∈ books.scanned sessionId,
      (stream.form.decode row.value).isSome = true := by
    intro row inScan
    obtain ⟨entry, -, -, -, isEntry⟩ := kept.row (mem_select_iff.mp inScan).1
    rw [isEntry]
    rfl
  rw [decoded, length_filterMap_eq_countP]
  exact countP_eq_length.mpr decodes

/-! ## Listings -/

omit kept in
theorem mem_appended_iff {envelope : EventEnvelope Payload} :
    envelope ∈ books.appended sessionId ↔
      ∃ entry ∈ books.log, entry.sessionId = sessionId ∧ entry.envelope = envelope := by
  simp only [appended, logOf, mem_map, mem_filter, decide_eq_true_eq, and_assoc]

omit kept in
theorem exists_lastUnder {entry : LoggedEvent Payload} (inLog : entry ∈ books.log) :
    ∃ last ∈ books.log, last.key = entry.key ∧ books.lastUnder entry.key = some last := by
  have isUnder : entry ∈ books.log.filter (·.key = entry.key) :=
    mem_filter.mpr ⟨inLog, decide_eq_true rfl⟩
  cases isLast : (books.log.filter (·.key = entry.key)).getLast? with
  | none =>
    rw [getLast?_eq_none_iff.mp isLast] at isUnder
    cases isUnder
  | some last =>
    obtain ⟨lastIn, lastKey⟩ := mem_filter.mp (mem_of_getLast? isLast)
    exact ⟨last, lastIn, of_decide_eq_true lastKey, isLast⟩

theorem Kept.numbered_iff :
    books.Numbered sessionId ↔ (books.appended sessionId).Pairwise
      (Before (·.createdAtMs.toNat) (·.eventId)) := by
  have ordered : (books.logOf sessionId).Pairwise fun entry later =>
      entry.createdAtMs ≤ later.createdAtMs := kept.ordered.filter _
  have ids : ∀ entry ∈ books.logOf sessionId, ∀ later ∈ books.logOf sessionId,
      entry.createdAtMs = later.createdAtMs →
        (entry.envelope.eventId < later.envelope.eventId ↔
          entry.seq.toNat.repr < later.seq.toNat.repr) := by
    intro entry entryIn later laterIn sameMs
    have ofSession := of_decide_eq_true (mem_filter.mp entryIn).2
    have laterOf := of_decide_eq_true (mem_filter.mp laterIn).2
    refine append_lt_append_iff.trans ?_
    rw [ofSession, laterOf, sameMs]
    exact eventTail_lt_iff
  rw [appended, pairwise_map]
  constructor
  · intro numbered
    apply imp_of_mem ?_ (ordered.and numbered)
    intro entry later entryIn laterIn both
    by_cases sameMs : entry.createdAtMs = later.createdAtMs
    · exact Or.inr ⟨congrArg UInt64.toNat sameMs,
        (ids entry entryIn later laterIn sameMs).mpr (both.2 sameMs)⟩
    · have different : entry.createdAtMs.toNat ≠ later.createdAtMs.toNat :=
        fun same => sameMs (UInt64.toNat_inj.mp same)
      exact Or.inl (lt_of_le_of_ne (UInt64.le_iff_toNat_le.mp both.1) different)
  · intro inOrder
    apply imp_of_mem ?_ inOrder
    intro entry later entryIn laterIn before sameMs
    cases before with
    | inl below => exact absurd (congrArg UInt64.toNat sameMs) below.ne
    | inr same => exact (ids entry entryIn later laterIn sameMs).mp same.2

omit kept in
theorem Numbered.nodup_key (numbered : books.Numbered sessionId) :
    ((books.logOf sessionId).map (·.key)).Nodup := by
  apply pairwise_map.mpr
  apply numbered.imp
  intro entry later increases sameKey
  obtain ⟨-, sameMs, sameSeq⟩ := eq_of_key_eq sameKey
  have below := increases sameMs
  rw [sameSeq] at below
  exact lt_irrefl _ below

theorem Kept.appended_perm (unmixed : books.Unmixed sessionId)
    (numbered : books.Numbered sessionId) :
    (books.appended sessionId).Perm (stream.decoded (books.scanned sessionId)) := by
  have nodup : (books.appended sessionId).Nodup := by
    apply (kept.numbered_iff.mp numbered).imp
    intro event later before same
    rw [same] at before
    exact Before.irrefl later before
  have nodupDecoded : (stream.decoded (books.scanned sessionId)).Nodup := by
    have increasing : (stream.decoded (books.scanned sessionId)).Pairwise fun event later =>
        event.eventId < later.eventId := kept.increasing_decoded
    apply increasing.imp
    intro event later below same
    rw [same] at below
    exact lt_irrefl _ below
  rw [perm_ext_iff_of_nodup nodup nodupDecoded]
  intro envelope
  rw [mem_appended_iff, kept.mem_decoded_iff]
  constructor
  · intro logged
    obtain ⟨entry, inLog, ofSession, isEnvelope⟩ := logged
    obtain ⟨last, lastIn, lastKey, isLast⟩ := exists_lastUnder inLog
    have lastOf := (eq_of_key_eq lastKey).1.trans ofSession
    have isEntry : last = entry := inj_on_of_nodup_map numbered.nodup_key
      (mem_filter.mpr ⟨lastIn, decide_eq_true lastOf⟩)
      (mem_filter.mpr ⟨inLog, decide_eq_true ofSession⟩) lastKey
    rw [isEntry] at isLast
    refine ⟨entry, isLast, ?_, isEnvelope⟩
    rw [← ofSession]
    exact startsWith_eventPrefix _ _ _
  · intro read
    obtain ⟨entry, isLast, starts, isEnvelope⟩ := read
    have inLog := (mem_filter.mp (mem_of_getLast? isLast)).1
    exact ⟨entry, inLog, unmixed entry inLog starts, isEnvelope⟩

theorem Kept.listed_iff :
    sortByKey (·.createdAtMs.toNat) (stream.decoded (books.scanned sessionId)) =
        books.appended sessionId ↔
      books.Unmixed sessionId ∧ books.Numbered sessionId := by
  constructor
  · intro listed
    constructor
    · intro entry inLog starts
      obtain ⟨last, lastIn, lastKey, isLast⟩ := exists_lastUnder inLog
      rw [← lastKey] at starts isLast
      have read : last.envelope ∈ sortByKey (·.createdAtMs.toNat)
          (stream.decoded (books.scanned sessionId)) :=
        mem_sortByKey.mpr (kept.mem_decoded_iff.mpr ⟨last, isLast, starts, rfl⟩)
      rw [listed, mem_appended_iff] at read
      obtain ⟨other, -, ofSession, sameEnvelope⟩ := read
      have lastOf : last.sessionId = other.sessionId :=
        congrArg EventEnvelope.sessionId sameEnvelope.symm
      rw [← (eq_of_key_eq lastKey).1, lastOf, ofSession]
    · rw [kept.numbered_iff, ← listed]
      exact before_sortByKey kept.increasing_decoded
  · intro holds
    exact (eq_sortByKey kept.increasing_decoded (kept.numbered_iff.mp holds.2)
      (kept.appended_perm holds.1 holds.2)).symm

end EventBooks

/-! ## Views -/

namespace SessionEventView

variable {sessionId : String}

section
variable (view : SessionEventView)

/-- The number of events counted. -/
def counted : Nat := (view.byKind.rows.map (·.2)).sum

theorem counted_count (event : EventEnvelope Payload) :
    (view.count event).counted = view.counted + 1 := by
  have sum := view.byKind.sum_insert event.kind ((view.byKind.get event.kind).getD 0 + 1)
  have counts : (view.count event).byKind =
      view.byKind.insert event.kind ((view.byKind.get event.kind).getD 0 + 1) := by
    rw [count]
    split
    · rfl
    · rfl
  rw [counted, counted, counts]
  omega

theorem counted_foldl (events : List (EventEnvelope Payload)) :
    (events.foldl count view).counted = view.counted + events.length := by
  induction events generalizing view with
  | nil => rfl
  | cons event rest ih =>
    rw [foldl_cons, ih, counted_count, length_cons]
    omega

end

def Latest (events : List (EventEnvelope Payload)) (view : SessionEventView) : Prop :=
  (events = [] ∧ view.latestTraceId = none ∧ view.latestEventMs = none) ∨
    ∃ before event after, events = before ++ event :: after ∧
      (∀ other ∈ before, other.createdAtMs < event.createdAtMs) ∧
      (∀ other ∈ after, other.createdAtMs ≤ event.createdAtMs) ∧
      view.latestTraceId = some event.traceId ∧ view.latestEventMs = some event.createdAtMs

theorem Latest.count {events : List (EventEnvelope Payload)} {view : SessionEventView}
    (latest : view.Latest events) (event : EventEnvelope Payload) :
    (view.count event).Latest (events ++ [event]) := by
  right
  cases latest with
  | inl isEmpty =>
    obtain ⟨rfl, -, noMs⟩ := isEmpty
    refine ⟨[], event, [], rfl, by simp, by simp, ?_⟩
    rw [SessionEventView.count, noMs]
    exact ⟨rfl, rfl⟩
  | inr held =>
    obtain ⟨before, first, after, rfl, below, notAbove, isTrace, isMs⟩ := held
    rw [SessionEventView.count, isMs, Option.all_some]
    by_cases later : first.createdAtMs < event.createdAtMs
    · refine ⟨before ++ first :: after, event, [], rfl, ?_, by simp, ?_⟩
      · intro other membership
        cases mem_append.mp membership with
        | inl inBefore => exact UInt64.lt_trans (below other inBefore) later
        | inr rest =>
          cases mem_cons.mp rest with
          | inl isFirst => exact isFirst ▸ later
          | inr inAfter => exact UInt64.lt_of_le_of_lt (notAbove other inAfter) later
      · rw [if_pos (decide_eq_true later)]
        exact ⟨rfl, rfl⟩
    · refine ⟨before, first, after ++ [event], by simp, below, ?_, ?_⟩
      · intro other membership
        cases mem_append.mp membership with
        | inl inAfter => exact notAbove other inAfter
        | inr isEvent =>
          rw [mem_singleton.mp isEvent]
          exact UInt64.not_lt.mp later
      · rw [if_neg (by simpa using later)]
        exact ⟨isTrace, rfl⟩

theorem latest_foldl (events : List (EventEnvelope Payload)) :
    (events.foldl count (empty sessionId)).Latest events := by
  induction events using List.reverseRecOn with
  | nil => exact Or.inl ⟨rfl, rfl, rfl⟩
  | append_singleton events event ih =>
    rw [foldl_append]
    exact ih.count event

theorem Latest.traceId {events sorted : List (EventEnvelope Payload)} {view : SessionEventView}
    (latest : view.Latest events) (isSorted : sortByKey (·.createdAtMs.toNat) events = sorted) :
    view.latestTraceId = (sorted.getLast?.bind fun last =>
      sorted.find? (·.createdAtMs = last.createdAtMs)).map (·.traceId) := by
  cases latest with
  | inl isEmpty =>
    obtain ⟨rfl, noTrace, -⟩ := isEmpty
    rw [← isSorted, noTrace]
    rfl
  | inr held =>
    obtain ⟨before, first, after, rfl, below, notAbove, isTrace, -⟩ := held
    have perm := sortByKey_perm (·.createdAtMs.toNat) (before ++ first :: after)
    have firstIn : first ∈ sorted := by
      rw [← isSorted, mem_sortByKey]
      simp
    obtain ⟨last, isLast⟩ := Option.ne_none_iff_exists'.mp fun isNone =>
      ne_nil_of_mem firstIn (getLast?_eq_none_iff.mp isNone)
    have sameMs : last.createdAtMs = first.createdAtMs := by
      have lastIn : last ∈ before ++ first :: after := by
        have inSorted := mem_of_getLast? isLast
        rw [← isSorted] at inSorted
        exact mem_sortByKey.mp inSorted
      rw [← isSorted] at isLast
      have above := le_getLast?_sortByKey isLast
        (mem_append_right before mem_cons_self)
      apply UInt64.le_antisymm
      · cases mem_append.mp lastIn with
        | inl inBefore => exact UInt64.le_of_lt (below last inBefore)
        | inr rest =>
          cases mem_cons.mp rest with
          | inl isFirst => exact isFirst ▸ UInt64.le_refl _
          | inr inAfter => exact notAbove last inAfter
      · exact UInt64.le_iff_toNat_le.mpr above
    have sameKeys : ∀ event : EventEnvelope Payload,
        decide (event.createdAtMs = last.createdAtMs) = true →
          event.createdAtMs.toNat = last.createdAtMs.toNat :=
      fun event same => congrArg UInt64.toNat (of_decide_eq_true same)
    have keeps := filter_sortByKey (fun event : EventEnvelope Payload =>
      event.createdAtMs.toNat) (before ++ first :: after) sameKeys
    have found := congrArg List.head? keeps
    rw [head?_filter, head?_filter, isSorted] at found
    have noEarlier : before.find? (·.createdAtMs = last.createdAtMs) = none := by
      rw [find?_eq_none]
      intro event inBefore same
      have isEarlier := below event inBefore
      rw [of_decide_eq_true same, sameMs] at isEarlier
      exact UInt64.lt_irrefl _ isEarlier
    rw [isLast, Option.bind_some, found, isTrace, find?_append, noEarlier,
      Option.none_or, find?_cons_of_pos (by simp [sameMs])]
    rfl

end SessionEventView

/-! ## Every run -/

theorem EventBooks.oneTrace_iff {books : EventBooks Payload} {sessionId : String} :
    ((books.appended sessionId).getLast?.bind fun last =>
        books.firstAt sessionId last.createdAtMs).map (·.traceId) =
      (books.appended sessionId).getLast?.map (·.traceId) ↔ books.OneTrace sessionId := by
  rw [EventBooks.OneTrace]
  cases isLast : (books.appended sessionId).getLast? with
  | none => simp
  | some last =>
    cases found : books.firstAt sessionId last.createdAtMs with
    | none =>
      have absent := find?_eq_none.mp found last (mem_of_getLast? isLast)
      exact absurd (decide_eq_true rfl) absent
    | some first => simp [found]

section Runs

variable {stream : EventStream Payload} (unmirrored : stream.store.mirror = none)
variable {books : EventBooks Payload}
include unmirrored

theorem run_scan {α : Type} (sessionId : String) (shared : Shared)
    (view : List KnowledgeRecord → α) :
    ((stream.store.listKnowledgeByPrefix (eventPrefix sessionId) >>= fun records =>
      pure (view records)).run shared).1 =
      .ok (view (shared.repo.knowledge.select (startsWith · (eventPrefix sessionId)))) := by
  rw [Future.run_bind_of_ok
    (run_listKnowledgeByPrefix_unmirrored unmirrored _ shared)]
  rfl

theorem faithful_iff {host : Nat → Moment} (kept : books.Kept stream host)
    (sessionId : String) :
    books.Faithful stream sessionId ↔
      books.Unmixed sessionId ∧ books.Numbered sessionId ∧ books.OneTrace sessionId := by
  let read := stream.decoded (books.scanned sessionId)
  let listing := sortByKey (fun event : EventEnvelope Payload => event.createdAtMs.toNat) read
  have ranList : ((stream.listSessionEvents sessionId).run books.shared).1 = .ok listing :=
    run_scan unmirrored sessionId books.shared fun records =>
      sortByKey (fun event : EventEnvelope Payload => event.createdAtMs.toNat)
        (stream.decoded records)
  have ranView : ((stream.aggregateSessionView sessionId).run books.shared).1 =
      .ok (stream.buildView sessionId (books.scanned sessionId)) :=
    run_scan unmirrored sessionId books.shared (stream.buildView sessionId)
  have latest : (read.foldl SessionEventView.count (SessionEventView.empty sessionId)).Latest read :=
    SessionEventView.latest_foldl read
  rw [← and_assoc, ← kept.listed_iff]
  constructor
  · intro faithful
    have listed : listing = books.appended sessionId := by
      have same := faithful.listed
      rw [ranList] at same
      exact Except.ok.inj same
    refine ⟨listed, EventBooks.oneTrace_iff.mp ?_⟩
    obtain ⟨view, ran, -, -, isTrace⟩ := faithful.viewed
    rw [ranView, Except.ok.injEq] at ran
    rw [← isTrace, ← ran]
    exact (latest.traceId listed).symm
  · intro holds
    have listed : listing = books.appended sessionId := holds.1
    have size : (books.appended sessionId).length = read.length := by
      rw [← listed]
      exact (sortByKey_perm _ read).length_eq
    constructor
    · rw [ranList, listed]
    · intro traceId
      have sorted : (books.appended sessionId).Pairwise fun event later =>
          event.createdAtMs.toNat ≤ later.createdAtMs.toNat := by
        rw [← listed]
        exact pairwise_insertionSort _ read
      have stays := insertionSort_eq
        (sorted.filter fun event => decide (event.traceId = traceId))
      have ran := Effect.bind_pure_apply (stream.listSessionEvents sessionId).run
        (fun events => sortByKey (fun event : EventEnvelope Payload => event.createdAtMs.toNat)
          (events.filter fun event => decide (event.traceId = traceId))) books.shared
      have answer := congrArg Prod.fst ran
      rw [ranList, listed] at answer
      rw [replayTraceEvents, Future.run_bind]
      exact answer.trans (congrArg Except.ok stays)
    · refine ⟨_, ranView, ?_, ?_, ?_⟩
      · rw [size]
        exact kept.length_decoded.symm
      · rw [size]
        have counted := SessionEventView.counted_foldl (.empty sessionId) read
        rw [SessionEventView.counted, SessionEventView.counted] at counted
        refine counted.trans ?_
        exact Nat.zero_add _
      · exact (latest.traceId listed).trans (EventBooks.oneTrace_iff.mpr holds.2)

end Runs

/-! ## Three events -/

/-- A form with the law of the real one. -/
def eventForm : JsonForm (EventEnvelope String) :=
  .ofFields
    (fun event => (event.eventId, event.kind, event.traceId, event.sessionId,
      event.taskId.toList, event.capabilityId.toList, event.version, event.payload,
      event.createdAtMs))
    (fun (eventId, kind, traceId, sessionId, taskId, capabilityId, version, payload,
        createdAtMs) =>
      ⟨eventId, kind, traceId, sessionId, taskId.head?, capabilityId.head?, version, payload,
        createdAtMs⟩)
    fun event => by simp

def plainStream : EventStream String where
  store := unmirroredStore
  form := eventForm

def eventOf (sessionId : String) : NewEvent String :=
  ⟨"kind", "trace", sessionId, none, none, "v1", "payload"⟩

end AutoLoop.Observability
