import AutoLoop.Foundation.LinkedChain
import AutoLoop.Runtime.EvidenceLedger
import AutoLoop.StateAdapter.StoreRuns
import AutoLoop.StateAdapter.UnmirroredStore

/-!
# The stream that a reader sees

What `list_stage_records` reads is determined by the rows under the prefix of a
stream: those that parse, in the order of their times and, among equal times, of
their keys.  A row that is added behind all of them extends what is read by one
record.
-/

namespace AutoLoop.Runtime

open StateAdapter
open LinkedChain (Linked linked_snoc links)
open Shared

namespace EvidenceLedgerWriter

variable {Payload : Type} {ledger : EvidenceLedgerWriter Payload}
variable {before after : Shared} {place : Place} {start : String}

/-! ## What is read -/

def entryOf (ledger : EvidenceLedgerWriter Payload) (row : KnowledgeRecord) :
    Option (String × StageEvidenceRecord Payload) :=
  (ledger.decode row.value).map (row.key, ·)

def entryTime (entry : String × StageEvidenceRecord Payload) : Nat :=
  entry.2.createdAtMs.toNat

/-- The records under a prefix, with their keys, as they are read. -/
def entries (ledger : EvidenceLedgerWriter Payload) (shared : Shared) (place : Place)
    (start : String) : List (String × StageEvidenceRecord Payload) :=
  sortByKey entryTime ((shared.rows start place).filterMap ledger.entryOf)

abbrev ReadBefore (first second : String × StageEvidenceRecord Payload) : Prop :=
  Before entryTime Prod.fst first second

theorem mem_entries_iff {entry : String × StageEvidenceRecord Payload} :
    entry ∈ ledger.entries before place start ↔
      ∃ row, before.row entry.1 place = some row ∧ place.sees start entry.1 = true ∧
        ledger.decode row.value = some entry.2 := by
  rw [entries, mem_sortByKey, List.mem_filterMap]
  constructor
  · rintro ⟨row, membership, isEntry⟩
    obtain ⟨record, decoded, rfl⟩ := Option.map_eq_some_iff.mp isEntry
    obtain ⟨found, seen⟩ := mem_rows_iff.mp membership
    exact ⟨row, found, seen, decoded⟩
  · rintro ⟨row, found, seen, decoded⟩
    have isKey := key_of_row found
    refine ⟨row, mem_rows_iff.mpr (by rw [isKey]; exact ⟨found, seen⟩), ?_⟩
    rw [entryOf, decoded, isKey]
    rfl

theorem increasing_filterMap_entry (ledger : EvidenceLedgerWriter Payload)
    {rows : List KnowledgeRecord}
    (increasing : rows.Pairwise fun first second => first.key < second.key) :
    (rows.filterMap ledger.entryOf).Pairwise fun first second => first.1 < second.1 := by
  apply increasing.filterMap
  intro first second below entry isEntry other isOther
  obtain ⟨record, -, rfl⟩ := Option.map_eq_some_iff.mp isEntry
  obtain ⟨otherRecord, -, rfl⟩ := Option.map_eq_some_iff.mp isOther
  exact below

theorem ordered_entries (ledger : EvidenceLedgerWriter Payload) (shared : Shared)
    (place : Place) (start : String) :
    (ledger.entries shared place start).Pairwise ReadBefore :=
  before_sortByKey (increasing_filterMap_entry ledger (shared.increasing_rows start place))

theorem entries_eq_of_row
    (same : ∀ key, place.sees start key = true → after.row key place = before.row key place) :
    ledger.entries after place start = ledger.entries before place start := by
  rw [entries, entries, rows_eq_of_row same]

theorem entries_eq_nil (fresh : ∀ key, place.sees start key = true → before.row key place = none) :
    ledger.entries before place start = [] := by
  rw [List.eq_nil_iff_forall_not_mem]
  intro entry membership
  obtain ⟨row, found, seen, -⟩ := mem_entries_iff.mp membership
  rw [fresh entry.1 seen] at found
  cases found

theorem entries_perm_cons {row : KnowledgeRecord} {record : StageEvidenceRecord Payload}
    (fresh : before.row row.key place = none) (stored : after.row row.key place = some row)
    (seen : place.sees start row.key = true)
    (same : ∀ key, place.sees start key = true → key ≠ row.key →
      after.row key place = before.row key place)
    (decoded : ledger.decode row.value = some record) :
    (ledger.entries after place start).Perm
      ((row.key, record) :: ledger.entries before place start) := by
  have isEntry : ledger.entryOf row = some (row.key, record) := by
    rw [entryOf, decoded]
    rfl
  have added := (rows_perm_cons fresh stored seen same).filterMap ledger.entryOf
  rw [List.filterMap_cons_some isEntry] at added
  apply (sortByKey_perm _ _).trans
  apply added.trans
  exact (sortByKey_perm _ _).symm.cons _

theorem eq_entries {listed : List (String × StageEvidenceRecord Payload)}
    (ordered : listed.Pairwise ReadBefore)
    (same : listed.Perm (ledger.entries before place start)) :
    ledger.entries before place start = listed := by
  symm
  apply eq_sortByKey (increasing_filterMap_entry ledger (before.increasing_rows start place))
    ordered
  exact same.trans (sortByKey_perm _ _)

section
variable (ledger : EvidenceLedgerWriter Payload) (shared : Shared)

/-- The records in the order in which they are read. -/
def records (place : Place)
    (start : String) : List (StageEvidenceRecord Payload) :=
  (ledger.entries shared place start).map Prod.snd

@[simp] theorem records_after (accesses : Nat) (place : Place) (start : String) :
    ledger.records (shared.after accesses) place start = ledger.records shared place start := by
  have same : ledger.entries (shared.after accesses) place start =
      ledger.entries shared place start :=
    entries_eq_of_row fun key _ => by rw [row_after]
  rw [records, records, same]

end

theorem sortByKey_filterMap_decode (shared : Shared) :
    sortByKey (fun record => record.createdAtMs.toNat)
        ((shared.rows start place).filterMap fun row => ledger.decode row.value) =
      ledger.records shared place start := by
  have decoded : ((shared.rows start place).filterMap fun row => ledger.decode row.value) =
      ((shared.rows start place).filterMap ledger.entryOf).map Prod.snd := by
    rw [List.map_filterMap]
    apply List.filterMap_congr
    intro row _
    rw [entryOf, Option.map_map]
    exact (congrFun Option.map_id _).symm
  rw [decoded, sortByKey_map]
  rfl

theorem run_listStageRecords (ledger : EvidenceLedgerWriter Payload)
    (sessionId traceId : String) (shared : Shared) :
    ∃ answer, (ledger.listStageRecords sessionId traceId).run shared =
        (answer, shared.after (ledger.store.listAccesses (streamPrefix sessionId traceId))) ∧
      ∀ read, answer = .ok read ↔
        ∃ place, ledger.store.listing (streamPrefix sessionId traceId) shared = some place ∧
          ledger.records shared place (streamPrefix sessionId traceId) = read := by
  obtain ⟨answer, ran, lists⟩ := StateStore.run_listKnowledgeByPrefix ledger.store
    (streamPrefix sessionId traceId) shared
  rw [listStageRecords, Future.run_bind]
  cases answer with
  | error message =>
    rw [Effect.bind_of_error ran]
    refine ⟨_, rfl, fun read => ⟨nofun, ?_⟩⟩
    rintro ⟨place, answered, -⟩
    cases (lists _).mpr ⟨place, answered, rfl⟩
  | ok rows =>
    obtain ⟨place, answered, rfl⟩ := (lists rows).mp rfl
    rw [Effect.bind_of_ok ran]
    refine ⟨_, rfl, fun read => ?_⟩
    rw [Except.ok.injEq, sortByKey_filterMap_decode, answered]
    simp

/-! ## What is verified -/

theorem verifyRecords_eq_ok_iff {hashValue : StageContent Payload → String} {index : Nat}
    {prevHash : String} {read : List (StageEvidenceRecord Payload)} :
    verifyRecords hashValue index prevHash read = .ok () ↔
      Linked (·.prevHash) (·.recordHash) prevHash read ∧
        ∀ record ∈ read, hashValue record.toStageContent = record.recordHash := by
  induction read generalizing index prevHash with
  | nil => simp [verifyRecords, Linked]
  | cons record rest ih =>
    rw [verifyRecords, Linked, List.forall_mem_cons]
    by_cases links : record.prevHash = prevHash
    · by_cases sealed : hashValue record.toStageContent = record.recordHash
      · rw [if_neg (not_not.mpr links), if_neg (not_not.mpr sealed), ih]
        simp only [links, sealed, true_and]
      · rw [if_neg (not_not.mpr links), if_pos sealed]
        simp [sealed]
    · rw [if_pos links]
      simp [links]

def Verified (ledger : EvidenceLedgerWriter Payload)
    (read : List (StageEvidenceRecord Payload)) : Prop :=
  Linked (·.prevHash) (·.recordHash) "genesis" read ∧
    ∀ record ∈ read, ledger.hashValue record.toStageContent = record.recordHash

theorem run_verifyStageChain (ledger : EvidenceLedgerWriter Payload)
    (sessionId traceId : String) (shared : Shared) :
    ∃ answer, (ledger.verifyStageChain sessionId traceId).run shared =
        (answer, shared.after (ledger.store.listAccesses (streamPrefix sessionId traceId))) ∧
      (answer = .ok () ↔
        ∃ place, ledger.store.listing (streamPrefix sessionId traceId) shared = some place ∧
          ledger.Verified (ledger.records shared place (streamPrefix sessionId traceId))) := by
  obtain ⟨answer, ran, reads⟩ := run_listStageRecords ledger sessionId traceId shared
  rw [verifyStageChain, Future.run_bind]
  cases answer with
  | error message =>
    rw [Effect.bind_of_error ran]
    refine ⟨_, rfl, nofun, ?_⟩
    rintro ⟨place, answered, -⟩
    cases (reads _).mpr ⟨place, answered, rfl⟩
  | ok read =>
    obtain ⟨place, answered, rfl⟩ := (reads read).mp rfl
    rw [Effect.bind_of_ok ran]
    refine ⟨_, rfl, ?_⟩
    rw [verifyRecords_eq_ok_iff, answered]
    simp [Verified]

end EvidenceLedgerWriter

end AutoLoop.Runtime

/-!
## What an append does

An append reads the head of its stream from the place that answers the listing and
writes one record, which names that head, in the place where the write lands.
Otherwise it fails, and then it changes no row that a stream consists of.
-/

namespace AutoLoop.Runtime

open StateAdapter
open LinkedChain (links)
open StateStore (isEvidence)
open StateStore Future List Effect Json Shared.ChangesOnly

/-- The arguments of `append_stage`. -/
structure StageCall (Payload : Type) where
  sessionId : String
  traceId : String
  stage : EvidenceStage
  payload : Payload
  prevHash : Option String
  deriving DecidableEq

namespace StageCall

variable {Payload : Type}

def start (call : StageCall Payload) : String :=
  EvidenceLedgerWriter.streamPrefix call.sessionId call.traceId

/-- The key of the record, which is fixed by the clock and the counter. -/
def key (call : StageCall Payload) (shared : Shared) : String :=
  EvidenceLedgerWriter.stageKey call.sessionId call.traceId shared.moment.nowMs
    shared.evidenceSeq call.stage

end StageCall

namespace EvidenceLedgerWriter

/-! ## Keys under the write-once rule -/

theorem isEvidence_stageKey (sessionId traceId : String) (createdAtMs seq : UInt64)
    (stage : EvidenceStage) :
    isEvidence (stageKey sessionId traceId createdAtMs seq stage) = true := by
  have lowered : "evidence:".toList <+: "evidence:stage:".toList.map Char.toLower := by
    decide
  rw [isEvidence, Text.startsWith_iff, stageKey, Text.toAsciiLowercase]
  simp only [String.toList_ofList, String.toList_append, map_append, append_assoc]
  exact lowered.trans (prefix_append _ _)

theorem streamPrefix_eq (sessionId traceId : String) :
    ∃ rest, streamPrefix sessionId traceId = "evidence:" ++ rest := by
  refine ⟨"stage:" ++ sessionId ++ ":" ++ traceId ++ ":", ?_⟩
  have split : "evidence:stage:" = "evidence:" ++ "stage:" := rfl
  unfold streamPrefix
  rw [split]
  simp only [String.append_assoc]

theorem isEvidence_of_sees {sessionId traceId key : String} {place : Place}
    (seen : place.sees (streamPrefix sessionId traceId) key = true) :
    isEvidence key = true := by
  obtain ⟨rest, shape⟩ := streamPrefix_eq sessionId traceId
  rw [isEvidence, Text.startsWith_iff]
  cases place with
  | repository =>
    have starts := Text.startsWith_iff.mp seen
    rw [shape, String.toList_append] at starts
    exact (prefix_append _ _).trans starts
  | postgres =>
    have matched : Sql.matchChars ((streamPrefix sessionId traceId) ++ "%").toList
      key.toList = true := seen
    rw [shape, String.toList_append, String.toList_append, append_assoc] at matched
    exact Sql.isPrefix_of_matchChars (by decide) (by decide) (by decide) matched

/-! ## The record of an append -/

variable {Payload : Type}

section
variable (read : List (StageEvidenceRecord Payload))

/-- The hash that the next record of a stream names. -/
def headHash : String :=
  (read.getLast?.map (·.recordHash)).getD "genesis"

theorem getD_eq_headHash :
    (read.getLast?.map (·.recordHash)).getD "genesis" = headHash read := rfl

theorem getLast?_links :
    (links (·.recordHash) "genesis" read).getLast? = some (headHash read) := by
  rw [links, headHash, getLast?_cons, getLast?_map]

end

variable (ledger : EvidenceLedgerWriter Payload)

section
variable (call : StageCall Payload) (shared : Shared) (source : Place)

/-- The record that follows the stream as it is read from a place. -/
def nextRecord :
    StageEvidenceRecord Payload :=
  ledger.stageRecord {
    sessionId := call.sessionId
    traceId := call.traceId
    stage := call.stage
    prevHash := headHash (ledger.records shared source call.start)
    payload := ledger.sanitize call.payload
    createdAtMs := shared.moment.nowMs }

/-- Where the record lands; none when the write fails. -/
def recordPlace :
    Option Place :=
  ledger.store.landing (call.key shared) (ledger.encode (ledger.nextRecord call shared source))
    "evidence-ledger" (shared.after (2 + ledger.store.listAccesses call.start))

end

def append (call : StageCall Payload) : StoreCall (String × StageEvidenceRecord Payload) :=
  ledger.appendRecord call.sessionId call.traceId call.stage call.payload call.prevHash

/-- An append goes through when its reader is answered, its previous hash is the one of
the head, and its write lands. -/
structure GoesThrough (call : StageCall Payload) (before : Shared) (source target : Place) :
    Prop where
  answered : ledger.store.listing call.start (before.after 1) = some source
  accepted : ∀ provided ∈ call.prevHash,
    provided = headHash (ledger.records before source call.start)
  landed : ledger.recordPlace call before source = some target

theorem GoesThrough.unique {ledger : EvidenceLedgerWriter Payload} {call : StageCall Payload}
    {before : Shared} {source target otherSource otherTarget : Place}
    (goes : ledger.GoesThrough call before source target)
    (other : ledger.GoesThrough call before otherSource otherTarget) :
    otherSource = source ∧ otherTarget = target := by
  have sameSource := Option.some.inj (other.answered.symm.trans goes.answered)
  subst sameSource
  exact ⟨rfl, Option.some.inj (other.landed.symm.trans goes.landed)⟩

/-- What a successful append has read and written. -/
structure Appends (call : StageCall Payload) (before : Shared) (source target : Place)
    (written : String × StageEvidenceRecord Payload) (after : Shared) : Prop
    extends GoesThrough ledger call before source target where
  isKey : written.1 = call.key before
  isRecord : written.2 = ledger.nextRecord call before source
  stored : (after.row written.1 target).map (·.value) = some (ledger.encode written.2)
  changes : before.ChangesOnly (fun key place =>
    isEvidence key = true → key = written.1 ∧ place = target) after

/-- An append either has read the head and written the next record, or has failed and
left the rows under the write-once rule alone. -/
inductive AppendOutcome (call : StageCall Payload) (before : Shared) :
    Except String (String × StageEvidenceRecord Payload) → Shared → Prop where
  | appended {source target : Place} {written : String × StageEvidenceRecord Payload}
      {after : Shared} (appends : ledger.Appends call before source target written after) :
      AppendOutcome call before (.ok written) after
  | failed {message : String} {after : Shared}
      (changes : before.ChangesOnly (fun key _ => isEvidence key = false) after)
      (stuck : ∀ source target, ¬ledger.GoesThrough call before source target) :
      AppendOutcome call before (.error message) after

/-! ## The run of an append -/

/-- After drawing a sequence number. -/
def drawn (shared : Shared) : Shared :=
  { shared with evidenceSeq := shared.evidenceSeq + 1, tick := shared.tick + 1 }

theorem row_drawn (shared : Shared) : (drawn shared).row = shared.row := by
  funext key place
  cases place <;> rfl

theorem atomic_drawn {shared : Shared} (atomic : shared.Atomic) : (drawn shared).Atomic := atomic

theorem run_drawSequence (shared : Shared) :
    drawSequence.run shared = (.ok shared.evidenceSeq, drawn shared) := rfl

theorem changes_drawn (changed : String → Place → Prop) (shared : Shared) :
    shared.ChangesOnly changed (drawn shared) :=
  ⟨rfl, Nat.le_succ _, fun key place _ => by rw [row_drawn]⟩

theorem landing_drawn (store : StateStore) (key value source : String) (shared : Shared) :
    store.landing key value source (drawn shared) =
      store.landing key value source (shared.after 1) := rfl

/-- The key of an audit record is not under the write-once rule. -/
theorem not_isEvidence_audit (sessionId traceId ts reason : String) :
    isEvidence ("audit:evidence:worm:" ++ sessionId ++ ":" ++ traceId ++ ":" ++ ts ++ ":" ++
      reason) = false := by
  have audit : "audit:evidence:worm:".toList = 'a' :: "udit:evidence:worm:".toList := by
    decide
  have evidence : "evidence:".toList = 'e' :: "vidence:".toList := by
    decide
  rw [Bool.eq_false_iff, ne_eq, isEvidence, Text.startsWith_iff]
  simp only [String.toList_append, audit, evidence, cons_append, cons_prefix_cons]
  rintro ⟨isE, -⟩
  exact absurd isE (by decide)

theorem not_isEvidence_of_auditKey {store : StateStore} {key value source other : String}
    {shared : Shared} (audit : store.auditKey key value source shared = some other) :
    isEvidence other = false := by
  unfold auditKey writeAudit fallBackKey at audit
  split at audit
  · split at audit
    · cases audit
    · split at audit
      · cases audit
        exact isEvidence_rollbackEventKey _ _ _ _
      · cases audit
  · cases audit

/-- A write changes at most its own row among those under the write-once rule. -/
theorem changes_upsert {store : StateStore} {key value source : String} {before after : Shared}
    (changes : before.ChangesOnly (fun other place =>
      (other = key ∧ store.landing key value source before = some place) ∨
        (store.auditKey key value source before = some other ∧ place = .repository)) after) :
    before.ChangesOnly (fun other place => isEvidence other = true →
      other = key ∧ store.landing key value source before = some place) after := by
  apply changes.mono
  rintro other place (own | ⟨audit, -⟩) evidence
  · exact own
  · rw [not_isEvidence_of_auditKey audit] at evidence
    cases evidence

theorem run_auditWormViolation {shared : Shared} (atomic : shared.Atomic)
    (sessionId traceId reason detail : String) :
    ∃ answer after, (ledger.auditWormViolation sessionId traceId reason detail).run shared =
        (answer, after) ∧
      shared.ChangesOnly (fun key _ => isEvidence key = false) after := by
  have readsClock : nowMs.run shared = (.ok shared.moment.nowMs, shared.after 1) := rfl
  rw [auditWormViolation, run_bind, bind_of_ok readsClock]
  generalize shared.moment.nowMs.toNat.repr = ts
  simp only [upsertJsonKnowledge]
  obtain ⟨answer, after, ran, -, -, changes⟩ := run_upsertKnowledge ledger.store
    (atomic.after 1)
    ("audit:evidence:worm:" ++ sessionId ++ ":" ++ traceId ++ ":" ++ ts ++ ":" ++ reason)
    (object [("created_at_ms", ts), ("detail", detail), ("reason", quote reason),
      ("session_id", quote sessionId), ("trace_id", quote traceId)])
    "evidence-worm-audit"
  have unprotected : shared.ChangesOnly (fun key _ => isEvidence key = false) after := by
    apply (of_after shared 1).trans
    apply (changes_upsert changes).mono
    intro other place own
    cases evidence : isEvidence other with
    | false => rfl
    | true =>
      rw [(own evidence).1, not_isEvidence_audit] at evidence
      cases evidence
  cases answer with
  | ok written =>
    rw [run_bind, bind_of_ok ran]
    exact ⟨_, _, rfl, unprotected⟩
  | error message =>
    rw [run_bind, bind_of_error ran]
    exact ⟨_, _, rfl, unprotected⟩

/-- Refusing a previous hash leaves an audit record at most. -/
theorem run_checkPrevHash {shared : Shared} (atomic : shared.Atomic) (sessionId traceId : String)
    (stage : EvidenceStage) (prevHash : Option String) (expected : String) :
    ∃ answer after, (ledger.checkPrevHash sessionId traceId stage prevHash expected).run shared =
        (answer, after) ∧
      if ∀ provided ∈ prevHash, provided = expected then answer = .ok () ∧ after = shared
      else answer.isOk = false ∧
        shared.ChangesOnly (fun key _ => isEvidence key = false) after := by
  cases prevHash with
  | none => exact ⟨.ok (), shared, rfl, by simp⟩
  | some provided =>
    by_cases same : provided = expected
    · subst same
      exact ⟨.ok (), shared, by simp [checkPrevHash], by simp⟩
    · simp only [checkPrevHash, ne_eq, same, not_false_eq_true, if_true,
        Option.mem_def, Option.some.injEq, forall_eq', if_false]
      obtain ⟨answer, after, ran, changes⟩ := run_auditWormViolation ledger atomic sessionId
        traceId "prev_hash_mismatch" (object [("expected_prev_hash", quote expected),
            ("provided_prev_hash", quote provided), ("stage", stage.json)])
      cases answer with
      | ok auditRef =>
        rw [run_bind, bind_of_ok ran]
        exact ⟨_, _, rfl, rfl, changes⟩
      | error message =>
        rw [run_bind, bind_of_error ran]
        exact ⟨_, _, rfl, rfl, changes⟩

theorem run_latestStageRecord (sessionId traceId : String) (shared : Shared) :
    ∃ answer, (ledger.latestStageRecord sessionId traceId).run shared =
        (answer, shared.after (ledger.store.listAccesses (streamPrefix sessionId traceId))) ∧
      ∀ latest, answer = .ok latest ↔
        ∃ place, ledger.store.listing (streamPrefix sessionId traceId) shared = some place ∧
          (ledger.records shared place (streamPrefix sessionId traceId)).getLast? = latest := by
  obtain ⟨answer, ran, reads⟩ := run_listStageRecords ledger sessionId traceId shared
  rw [latestStageRecord, run_bind]
  cases answer with
  | error message =>
    rw [bind_of_error ran]
    refine ⟨_, rfl, fun latest => ⟨nofun, ?_⟩⟩
    rintro ⟨place, answered, -⟩
    cases (reads _).mpr ⟨place, answered, rfl⟩
  | ok read =>
    obtain ⟨place, answered, rfl⟩ := (reads read).mp rfl
    rw [bind_of_ok ran]
    refine ⟨_, rfl, fun latest => ?_⟩
    rw [answered]
    simp

theorem run_writeRecord {before : Shared} (atomic : before.Atomic) (key : String)
    (record : StageEvidenceRecord Payload) :
    ∃ answer after, ((do
        let _ ← ledger.store.upsertJsonKnowledge key (.ok (ledger.encode record)) "evidence-ledger"
        return (key, record)) : StoreCall (String × StageEvidenceRecord Payload)).run before =
        (answer, after) ∧
      before.ChangesOnly (fun other place => isEvidence other = true → other = key ∧
        ledger.store.landing key (ledger.encode record) "evidence-ledger" before = some place)
        after ∧
      (ledger.store.landing key (ledger.encode record) "evidence-ledger" before = none →
        answer.isOk = false) ∧
      ∀ target,
        ledger.store.landing key (ledger.encode record) "evidence-ledger" before = some target →
          answer = .ok (key, record) ∧
            (after.row key target).map (·.value) = some (ledger.encode record) := by
  obtain ⟨answer, after, ran, succeeds, lands, changes⟩ :=
    run_upsertKnowledge ledger.store atomic key (ledger.encode record)
      "evidence-ledger"
  rw [upsertJsonKnowledge, run_bind]
  cases landed : ledger.store.landing key (ledger.encode record) "evidence-ledger" before with
  | none =>
    rw [landed] at succeeds
    cases answer with
    | ok written => cases succeeds
    | error message =>
      rw [bind_of_error ran]
      refine ⟨_, _, rfl, ?_, fun _ => rfl, nofun⟩
      rw [← landed]
      exact changes_upsert changes
  | some target =>
    rw [landed] at succeeds
    cases answer with
    | error message => cases succeeds
    | ok written =>
      rw [bind_of_ok ran]
      refine ⟨_, _, rfl, ?_, nofun, ?_⟩
      · rw [← landed]
        exact changes_upsert changes
      · rintro other ⟨⟩
        exact ⟨rfl, lands target landed⟩

theorem recordPlace_drawn (call : StageCall Payload) (shared : Shared) (source : Place) :
    ledger.store.landing (call.key shared) (ledger.encode (ledger.nextRecord call shared source))
        "evidence-ledger" (drawn (shared.after
          (1 + ledger.store.listAccesses (streamPrefix call.sessionId call.traceId)))) =
      ledger.recordPlace call shared source := by
  have accesses : 1 + ledger.store.listAccesses (streamPrefix call.sessionId call.traceId) + 1 =
      2 + ledger.store.listAccesses call.start := by
    rw [StageCall.start]
    omega
  rw [landing_drawn, Shared.after_after, accesses, recordPlace]

theorem outcome_of_write {call : StageCall Payload} {before after : Shared} {source : Place}
    {answer : Except String (String × StageEvidenceRecord Payload)}
    (answered : ledger.store.listing call.start (before.after 1) = some source)
    (accepted : ∀ provided ∈ call.prevHash,
      provided = headHash (ledger.records before source call.start))
    (changes : before.ChangesOnly (fun other place => isEvidence other = true →
      other = call.key before ∧ ledger.recordPlace call before source = some place) after)
    (refused : ledger.recordPlace call before source = none → answer.isOk = false)
    (wrote : ∀ target, ledger.recordPlace call before source = some target →
      answer = .ok (call.key before, ledger.nextRecord call before source) ∧
        (after.row (call.key before) target).map (·.value) =
          some (ledger.encode (ledger.nextRecord call before source))) :
    ledger.AppendOutcome call before answer after := by
  cases landed : ledger.recordPlace call before source with
  | none =>
    rw [landed] at changes
    have failed := refused landed
    cases answer with
    | ok written => cases failed
    | error message =>
      apply AppendOutcome.failed
      · apply changes.mono
        intro key place own
        cases evidence : isEvidence key with
        | false => rfl
        | true => cases (own evidence).2
      · intro other target goes
        have same := goes.answered.symm.trans answered
        cases same
        cases goes.landed.symm.trans landed
  | some target =>
    rw [landed] at changes
    obtain ⟨isOk, stored⟩ := wrote target landed
    have appends : ledger.Appends call before source target
        (call.key before, ledger.nextRecord call before source) after := by
      refine ⟨⟨answered, accepted, landed⟩, rfl, rfl, stored, ?_⟩
      apply changes.mono
      intro key place own evidence
      exact ⟨(own evidence).1, (Option.some.inj (own evidence).2).symm⟩
    rw [isOk]
    exact .appended appends

section
variable {shared : Shared} (atomic : shared.Atomic) (call : StageCall Payload)
include atomic

theorem run_append :
    ∃ answer after, (ledger.append call).run shared = (answer, after) ∧
      ledger.AppendOutcome call shared answer after := by
  have readsClock : nowMs.run shared = (.ok shared.moment.nowMs, shared.after 1) := rfl
  obtain ⟨latest, ranLatest, reads⟩ := run_latestStageRecord ledger
    call.sessionId call.traceId (shared.after 1)
  rw [Shared.after_after] at ranLatest
  rw [append, appendRecord, run_bind, bind_of_ok readsClock, run_bind]
  cases latest with
  | error message =>
    rw [bind_of_error ranLatest]
    refine ⟨_, _, rfl, .failed (.of_after shared _) fun source target goes => ?_⟩
    cases (reads _).mpr ⟨source, goes.answered, rfl⟩
  | ok latest =>
    obtain ⟨source, answered, rfl⟩ := (reads latest).mp rfl
    rw [bind_of_ok ranLatest, run_bind, records_after]
    have listedAtomic := atomic.after
      (1 + ledger.store.listAccesses (streamPrefix call.sessionId call.traceId))
    obtain ⟨checked, audited, ranCheck, ended⟩ := run_checkPrevHash ledger listedAtomic
      call.sessionId call.traceId call.stage call.prevHash
      (headHash (ledger.records shared source (streamPrefix call.sessionId call.traceId)))
    rw [getD_eq_headHash]
    cases checked with
    | error message =>
      split at ended
      · cases ended.1
      · next differs =>
        rw [bind_of_error ranCheck]
        refine ⟨_, _, rfl, .failed ((of_after shared _).trans ended.2) fun other target goes => ?_⟩
        have same := goes.answered.symm.trans answered
        cases same
        exact differs goes.accepted
    | ok passed =>
      split at ended
      · next accepted =>
        obtain ⟨-, rfl⟩ := ended
        rw [bind_of_ok ranCheck, run_bind, bind_of_ok (run_drawSequence _)]
        obtain ⟨answer, after, ran, changes, refused, wrote⟩ :=
          run_writeRecord ledger (atomic_drawn listedAtomic) (call.key shared)
            (ledger.nextRecord call shared source)
        rw [recordPlace_drawn] at changes refused wrote
        have whole := ((of_after shared _).trans (changes_drawn _ _)).trans changes
        exact ⟨answer, after, ran, outcome_of_write ledger answered accepted whole refused wrote⟩
      · cases ended.1

theorem atomic_append :
    ((ledger.append call).run shared).2.Atomic := by
  obtain ⟨answer, after, ran, outcome⟩ := run_append ledger atomic call
  rw [ran]
  cases outcome with
  | appended appends => exact appends.changes.atomic atomic
  | failed changes _ => exact changes.atomic atomic

end

/-! ## What an append does to a stream -/

variable {ledger : EvidenceLedgerWriter Payload}
variable {before after : Shared} {place : Place} {sessionId traceId : String}

theorem entries_of_unprotected
    (changes : before.ChangesOnly (fun key _ => isEvidence key = false) after) :
    ledger.entries after place (streamPrefix sessionId traceId) =
      ledger.entries before place (streamPrefix sessionId traceId) := by
  apply entries_eq_of_row
  intro key seen
  apply changes.rows
  rw [isEvidence_of_sees seen]
  exact nofun

namespace Appends

variable {call : StageCall Payload} {source target : Place}
variable {written : String × StageEvidenceRecord Payload}

section
variable (appends : ledger.Appends call before source target written after)
include appends

theorem row_eq {key : String} (seen : place.sees (streamPrefix sessionId traceId) key = true)
    (other : key = written.1 → place ≠ target) : after.row key place = before.row key place := by
  apply appends.changes.rows
  intro own
  obtain ⟨isKey, isPlace⟩ := own (isEvidence_of_sees seen)
  exact other isKey isPlace

theorem row_stored :
    ∃ row, row.key = written.1 ∧ row.value = ledger.encode written.2 ∧
      after.row row.key target = some row := by
  obtain ⟨row, found, isValue⟩ := Option.map_eq_some_iff.mp appends.stored
  have isKey := Shared.key_of_row found
  exact ⟨row, isKey, isValue, isKey ▸ found⟩

theorem entries_of_unseen
    (unseen : place.sees (streamPrefix sessionId traceId) written.1 = true → place ≠ target) :
    ledger.entries after place (streamPrefix sessionId traceId) =
      ledger.entries before place (streamPrefix sessionId traceId) := by
  apply entries_eq_of_row
  intro key seen
  apply appends.row_eq seen
  rintro rfl
  exact unseen seen

section
variable (fresh : before.row written.1 target = none)
  (seen : target.sees (streamPrefix sessionId traceId) written.1 = true)
  (readsBack : ledger.decode (ledger.encode written.2) = some written.2)
include fresh seen readsBack

theorem entries_perm :
    (ledger.entries after target (streamPrefix sessionId traceId)).Perm
      (written :: ledger.entries before target (streamPrefix sessionId traceId)) := by
  obtain ⟨row, isKey, isValue, stored⟩ := appends.row_stored
  have decoded : ledger.decode row.value = some written.2 := by rw [isValue, readsBack]
  rw [← isKey] at fresh seen
  have added := entries_perm_cons fresh stored seen
    (fun key inStream other => appends.row_eq inStream fun same => absurd (same.trans isKey.symm) other)
    decoded
  rw [isKey] at added
  exact added

theorem entries_append
    (last : ∀ entry ∈ ledger.entries before target (streamPrefix sessionId traceId),
      ReadBefore entry written) :
    ledger.entries after target (streamPrefix sessionId traceId) =
      ledger.entries before target (streamPrefix sessionId traceId) ++ [written] := by
  apply eq_entries
  · apply pairwise_append.mpr
    refine ⟨ordered_entries ledger before target _, pairwise_singleton _ _, ?_⟩
    intro entry membership other isLast
    rw [mem_singleton.mp isLast]
    exact last entry membership
  · apply (perm_append_singleton _ _).trans
    exact (appends.entries_perm fresh seen readsBack).symm

end

end

end Appends

/-! ## What an append leaves alone -/

section Frames

open Shared (ChangesOnly)

variable (unmirrored : ledger.store.mirror = none)
include unmirrored

theorem changesOnly_appendStage (sessionId traceId : String) (stage : EvidenceStage)
    (payload : Payload) :
    Effect.Keeps (ChangesOnly fun key _ => StateStore.isEvidence key = true)
      (ledger.appendStage sessionId traceId stage payload none).run := by
  unfold appendStage appendRecord
  apply changesOnly_bind
  · apply changesOnly_bind changesOnly_nowMs
    intro createdAtMs
    apply changesOnly_bind
    · apply changesOnly_bind
      · apply changesOnly_bind (StateStore.changesOnly_listKnowledgeByPrefix unmirrored _)
        exact fun rows => changesOnly_done _
      · exact fun records => changesOnly_done _
    · intro latest
      apply changesOnly_bind (changesOnly_done _)
      intro passed
      apply changesOnly_bind
      · exact fun shared => changes_drawn _ shared
      · intro seq
        apply changesOnly_bind
        · apply StateStore.changesOnly_upsertJsonKnowledge unmirrored
          exact isEvidence_stageKey sessionId traceId createdAtMs seq stage
        · exact fun written => changesOnly_done _
  · exact fun written => changesOnly_done _

end Frames

end EvidenceLedgerWriter

end AutoLoop.Runtime
