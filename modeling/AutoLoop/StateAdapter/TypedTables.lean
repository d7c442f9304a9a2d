import AutoLoop.Foundation.Framing
import AutoLoop.StateAdapter.StateStore

/-!
# Identity and billing records

The typed tables of the state store.  Without a mirror they share the knowledge
table: a record is stored as JSON under the name of its table followed by its
identifiers, joined by colons, and lists are prefix scans.  The methods of all
tables have one shape, and each table gives it its own names and identifiers.
-/

namespace AutoLoop.StateAdapter

open Text (joinWith)
open Text StateStore Future Knowledge

variable {Record : Type}

/-- The JSON form of a record of texts and integers: reading a written record
gives it back. -/
structure JsonForm (Record : Type) where
  encode : Record → String
  decode : String → Option Record
  decode_encode : ∀ record, decode (encode record) = some record

namespace JsonForm

def encodeText (text : String) : String := HexCodec.lowercase.encode text.toUTF8

def decodeText (field : String) : Option String :=
  (HexCodec.lowercase.decode field).bind String.fromUTF8?

theorem decodeText_encodeText (text : String) : decodeText (encodeText text) = some text := by
  rw [decodeText, encodeText, HexCodec.decode_encode]
  exact fromUTF8?_toUTF8 text

theorem mapM_decodeText (texts : List String) :
    (texts.map encodeText).mapM decodeText = some texts := by
  induction texts with
  | nil => rfl
  | cons text rest ih => simp [List.mapM_cons, decodeText_encodeText, ih]

/-- A form with the law of the real one, for records that some texts determine. -/
def ofTexts (texts : Record → List String) (build : List String → Option Record)
    (nonempty : ∀ record, texts record ≠ [])
    (built : ∀ record, build (texts record) = some record) : JsonForm Record where
  encode record := joinWith ',' ((texts record).map encodeText)
  decode text := ((Text.split ',' text).mapM decodeText).bind build
  decode_encode record := by
    rw [split_joinWith ',' _ (by simpa using nonempty record) ?_, mapM_decodeText]
    · exact built record
    · intro field membership
      obtain ⟨text, -, rfl⟩ := List.mem_map.mp membership
      exact not_mem_of_isHexDigit (HexCodec.lowercase.encode_digits _) (by decide)

end JsonForm

structure TypedTable (Record : Type) where
  /-- The source of its knowledge records and the domain of its audit records. -/
  domain : String
  /-- What its keys begin with. -/
  name : String
  /-- Its table in Postgres. -/
  relation : String
  operation : String
  columns : Record → List String
  form : JsonForm Record
  /-- Its keys are not under the write-once rule. -/
  plain : name.toList.head? ≠ some 'e' ∧ name ≠ ""

/-- Whatever the store holds, a write does not change what a read returns. -/
def Unaffected {α β : Type} (write : StoreCall α) (read : StoreCall β) : Prop :=
  ∀ shared, (read.run (write.run shared).2).1 = (read.run shared).1

namespace TypedTable

variable (table : TypedTable Record)

/-- The key of the record with the given identifiers. -/
def key (columns : List String) : String := table.name ++ ":" ++ joinWith ':' columns

/-- What the keys of all records with the given first identifiers begin with. -/
def start (columns : List String) : String := table.key columns ++ ":"

def upsertFallback (store : StateStore) (record : Record) : StoreCall Record := do
  let _ ← store.upsertJsonKnowledge (table.key (table.columns record))
    (.ok (table.form.encode record)) table.domain
  return record

def upsert (store : StateStore) (record : Record) : StoreCall Record := do
  match store.mirror with
  | none => table.upsertFallback store record
  | some _ =>
    match ← attempt (postgresTyped table.relation
      (Postgres.upsertTyped table.relation (table.columns record) (table.form.encode record))) with
    | .ok () => return record
    | .error error =>
      fallBack table.domain table.operation
        (joinWith ':' (table.columns record)) error
      table.upsertFallback store record

/-- `fallback_kv_get`. -/
def getFallback (columns : List String) : StoreCall (Option Record) := do
  return (← repoGet (table.key columns)).bind fun record =>
    table.form.decode record.value

def get (store : StateStore) (columns : List String) : StoreCall (Option Record) :=
  match store.mirror with
  | none => table.getFallback columns
  | some mirror => do
      match ← attempt (postgresTyped table.relation (Postgres.getTyped table.relation columns)) with
      | .ok payload => return payload.bind table.form.decode
      | .error error =>
        if mirror.mode = .shadow then table.getFallback columns else fail error

/-- `fallback_kv_list` of the records with the given first identifiers, in order
of a time. -/
def listFallback (atMs : Record → UInt64) (columns : List String) :
    StoreCall (List Record) := do
  return sortByKey (fun record => (atMs record).toNat)
    ((← repoList (table.start columns)).filterMap fun record =>
      table.form.decode record.value)

def list (atMs : Record → UInt64) (store : StateStore) (columns : List String) :
    StoreCall (List Record) :=
  match store.mirror with
  | none => table.listFallback atMs columns
  | some mirror => do
      match ← attempt (postgresTyped table.relation
        (Postgres.listTyped table.relation columns)) with
      | .ok payloads =>
        return sortByKey (fun record => (atMs record).toNat)
          (payloads.filterMap table.form.decode)
      | .error error =>
        if mirror.mode = .shadow then table.listFallback atMs columns
        else fail error

/-- A write that must not find its record in place. -/
def append (describe : Record → String) (store : StateStore) (record : Record) :
    StoreCall Record := do
  match store.mirror with
  | none => appendFallback
  | some _ =>
    match ← attempt (postgresTyped table.relation
      (Postgres.insertTyped table.relation (table.columns record)
        (table.form.encode record) (describe record ++ " already exists"))) with
    | .ok () => return record
    | .error error =>
      fallBack table.domain table.operation
        (joinWith ':' (table.columns record)) error
      appendFallback
where
  appendFallback : StoreCall Record := do
    if (← store.getKnowledge (table.key (table.columns record))).isSome then
      fail (describe record ++ " already exists")
    else
      table.upsertFallback store record

/-! ## Keys -/

theorem isEvidence_key (columns : List String) :
    isEvidence (table.key columns) = false := by
  obtain ⟨notE, nonempty⟩ := table.plain
  rw [Bool.eq_false_iff, ne_eq, isEvidence, startsWith_iff, key,
    String.toList_append, String.toList_append]
  rintro ⟨rest, same⟩
  cases letters : table.name.toList with
  | nil => exact nonempty (String.toList_inj.mp letters)
  | cons first later =>
    rw [letters] at same notE
    have isE : 'e' = first := (List.cons.inj same).1
    exact notE (by rw [isE]; rfl)

section
variable {columns others : List String} (nonempty : columns ≠ []) (othersNonempty : others ≠ [])
include nonempty othersNonempty

/-- Keys agree exactly when the joined identifiers do. -/
theorem key_eq_iff (different : columns ≠ others) :
    table.key columns = table.key others ↔ Reframed ':' columns others := by
  rw [reframed_iff nonempty othersNonempty, and_iff_left different, key, key,
    String.append_right_inj]

theorem start_iff :
    startsWith (table.key others) (table.start columns) = true ↔
      ∃ later, later ≠ [] ∧
        pieces ':' others = pieces ':' columns ++ later := by
  rw [← joinWith_starts_iff nonempty othersNonempty, startsWith_iff_exists]
  apply exists_congr
  intro rest
  have colon : String.singleton ':' = ":" := rfl
  simp only [start, key, colon, String.append_assoc, String.append_right_inj]

end

/-! ## Without a mirror -/

section Unmirrored

variable {store : StateStore} (unmirrored : store.mirror = none)
include unmirrored

theorem run_upsert (record : Record) (shared : Shared) :
    ∃ id nextId, (table.upsert store record).run shared =
      (.ok record, { shared with
        repo := { shared.repo with
          knowledge := shared.repo.knowledge.put ⟨id, table.key (table.columns record),
            table.form.encode record, table.domain⟩, nextId }
        tick := shared.tick + 1 }) := by
  obtain ⟨id, nextId, ran⟩ := run_upsertKnowledge_plain unmirrored
    (table.isEvidence_key (table.columns record)) (table.form.encode record) table.domain
    shared
  refine ⟨id, nextId, ?_⟩
  simp [upsert, upsertFallback, upsertJsonKnowledge, unmirrored, ran, Effect.bind_apply]

theorem run_get (columns : List String) (shared : Shared) :
    (table.get store columns).run shared =
      (.ok ((shared.repo.knowledge.get (table.key columns)).bind fun record =>
        table.form.decode record.value), { shared with tick := shared.tick + 1 }) := by
  simp [get, getFallback, unmirrored, repoGet, Effect.bind_apply]

theorem run_list (atMs : Record → UInt64) (columns : List String) (shared : Shared) :
    (table.list atMs store columns).run shared =
      (.ok (sortByKey (fun record => (atMs record).toNat)
        ((shared.repo.knowledge.select (startsWith · (table.start columns))).filterMap
          fun record => table.form.decode record.value)),
        { shared with tick := shared.tick + 1 }) := by
  simp [list, listFallback, unmirrored, repoList, Effect.bind_apply]

theorem run_append (describe : Record → String) (record : Record) (shared : Shared) :
    (table.append describe store record).run shared =
      if (shared.repo.knowledge.get (table.key (table.columns record))).isSome then
        (.error (describe record ++ " already exists"), { shared with tick := shared.tick + 1 })
      else (table.upsert store record).run { shared with tick := shared.tick + 1 } := by
  simp only [append, append.appendFallback, unmirrored, run_bind,
    run_getKnowledge_unmirrored unmirrored, Effect.bind_apply]
  split
  · rfl
  · simp only [upsert, unmirrored]

theorem get_upsert (record : Record) (columns : List String) (shared : Shared) :
    ((table.get store columns).run ((table.upsert store record).run shared).2).1 =
      if table.key columns = table.key (table.columns record) then .ok (some record)
      else ((table.get store columns).run shared).1 := by
  obtain ⟨id, nextId, ran⟩ := table.run_upsert unmirrored record shared
  rw [ran, table.run_get unmirrored, table.run_get unmirrored]
  simp only [get_put]
  split
  · rw [Option.bind_some, table.form.decode_encode]
  · rfl

/-- An upsert leaves the record of other identifiers alone exactly when the
identifiers are not the same pieces grouped in another way. -/
theorem unaffected_iff {record : Record} {columns : List String} (nonempty : columns ≠ [])
    (recordNonempty : table.columns record ≠ []) (different : columns ≠ table.columns record) :
    Unaffected (table.upsert store record) (table.get store columns) ↔
      ¬Reframed ':' columns (table.columns record) := by
  rw [← table.key_eq_iff nonempty recordNonempty different]
  constructor
  · intro unchanged sameKey
    have read := unchanged Shared.empty
    rw [table.get_upsert unmirrored, if_pos sameKey, table.run_get unmirrored] at read
    cases read
  · intro otherKey shared
    rw [table.get_upsert unmirrored, if_neg otherKey]

end Unmirrored

/-! ## What a table holds -/

/-- The identifiers of `others` consist of the pieces of `columns` and more. -/
def Extends (columns others : List String) : Prop :=
  ∃ later, later ≠ [] ∧ pieces ':' others = pieces ':' columns ++ later

def Stored (shared : Shared) (entry : Record) : Prop :=
  ∃ record, shared.repo.knowledge.get (table.key (table.columns entry)) = some record ∧
    record.value = table.form.encode entry

def Kept (knowledge : Knowledge) : Prop :=
  ∀ key record, knowledge.get key = some record →
    startsWith key (table.name ++ ":") = true →
      ∃ entry, table.key (table.columns entry) = key ∧ record.value = table.form.encode entry

/-- No key of one of the names is a key of the other one. -/
def NamesApart (first second : String) : Prop :=
  ¬(first ++ ":").toList <+: (second ++ ":").toList ∧
    ¬(second ++ ":").toList <+: (first ++ ":").toList

instance (first second : String) : Decidable (NamesApart first second) :=
  inferInstanceAs (Decidable (_ ∧ _))

theorem not_startsWith_of_apart {first second : String} (apart : NamesApart first second)
    (rest : String) : startsWith (second ++ ":" ++ rest) (first ++ ":") = false := by
  have shape : (second ++ ":" ++ rest).toList = (second ++ ":").toList ++ rest.toList :=
    String.toList_append
  rw [Bool.eq_false_iff, ne_eq, startsWith_iff, shape]
  intro starts
  rcases List.prefix_or_prefix_of_prefix starts (List.prefix_append _ _) with inside | outside
  · exact apart.1 inside
  · exact apart.2 outside

theorem kept_empty : table.Kept empty := by
  intro key record found
  cases found

variable {table} in
theorem Kept.put {knowledge : Knowledge} (kept : table.Kept knowledge) (entry : Record)
    (id : UInt64) (source : String) :
    table.Kept (knowledge.put
      ⟨id, table.key (table.columns entry), table.form.encode entry, source⟩) := by
  intro key record found starts
  rw [get_put] at found
  split at found
  · next same =>
    cases found
    exact ⟨entry, same.symm, rfl⟩
  · exact kept key record found starts

variable {table} in
theorem Kept.put_apart {Other : Type} {other : TypedTable Other} {knowledge : Knowledge}
    (kept : table.Kept knowledge) (apart : NamesApart table.name other.name)
    (columns : List String) (id : UInt64) (value source : String) :
    table.Kept (knowledge.put ⟨id, other.key columns, value, source⟩) := by
  intro key record found starts
  rw [get_put] at found
  split at found
  · next same =>
    rw [same, TypedTable.key, not_startsWith_of_apart apart] at starts
    cases starts
  · exact kept key record found starts

section
variable {store : StateStore} (unmirrored : store.mirror = none) {shared : Shared}
  (kept : table.Kept shared.repo.knowledge) (hasColumns : ∀ entry, table.columns entry ≠ [])
  (atMs : Record → UInt64) {columns : List String} (nonempty : columns ≠ [])
include unmirrored kept hasColumns nonempty

theorem mem_list {entries : List Record}
    (ran : ((table.list atMs store columns).run shared).1 = .ok entries) (entry : Record) :
    entry ∈ entries ↔ table.Stored shared entry ∧ Extends columns (table.columns entry) := by
  rw [table.run_list unmirrored, Except.ok.injEq] at ran
  rw [← ran, mem_sortByKey, List.mem_filterMap]
  constructor
  · rintro ⟨record, selected, decoded⟩
    obtain ⟨found, starts⟩ := mem_select_iff.mp selected
    have underName : startsWith record.key (table.name ++ ":") = true := by
      obtain ⟨rest, isStart⟩ := startsWith_iff_exists.mp starts
      rw [isStart, start, key, String.append_assoc, String.append_assoc]
      exact startsWith_iff_exists.mpr ⟨_, rfl⟩
    obtain ⟨held, sameKey, sameValue⟩ := kept record.key record found underName
    rw [sameValue, table.form.decode_encode, Option.some.injEq] at decoded
    subst decoded
    rw [← sameKey] at found starts
    exact ⟨⟨record, found, sameValue⟩, (table.start_iff nonempty (hasColumns held)).mp starts⟩
  · rintro ⟨⟨record, found, sameValue⟩, extends'⟩
    have isKey := key_of_get found
    refine ⟨record, mem_select_iff.mpr ⟨isKey ▸ found, ?_⟩, ?_⟩
    · rw [isKey]
      exact (table.start_iff nonempty (hasColumns entry)).mpr extends'
    · rw [sameValue, table.form.decode_encode]

theorem list_own_iff (own : Record → Prop) :
    (∀ entries, ((table.list atMs store columns).run shared).1 = .ok entries →
        ∀ entry ∈ entries, own entry) ↔
      ∀ entry, table.Stored shared entry → Extends columns (table.columns entry) →
        own entry := by
  constructor
  · intro onlyOwn entry stored isExtension
    have ran := congrArg (·.1) (table.run_list unmirrored atMs columns shared)
    exact onlyOwn _ ran entry
      ((table.mem_list unmirrored kept hasColumns atMs nonempty ran entry).mpr
        ⟨stored, isExtension⟩)
  · intro noneElse entries ran entry membership
    obtain ⟨stored, isExtension⟩ :=
      (table.mem_list unmirrored kept hasColumns atMs nonempty ran entry).mp membership
    exact noneElse entry stored isExtension

end

end TypedTable

end AutoLoop.StateAdapter
