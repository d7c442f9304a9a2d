import AutoLoop.StateAdapter.TypedTables

/-!
# What the typed tables show

The records that a knowledge table shows under the names of the typed tables, and
how a write to one of these tables changes them.
-/

namespace AutoLoop.StateAdapter.TypedTable

open Text Effect Knowledge

variable {Record Other : Type} (table : TypedTable Record) {other : TypedTable Other}
variable {store : StateStore} {before after : Knowledge} {record : Record}

section
variable (knowledge : Knowledge) (columns : List String)

/-- The record with the given identifiers. -/
def read : Option Record :=
  (knowledge.get (table.key columns)).bind fun record => table.form.decode record.value

/-- The records whose identifiers begin with the given ones, in order of their keys. -/
def listed : List Record :=
  (knowledge.select (startsWith · (table.start columns))).filterMap fun record =>
    table.form.decode record.value

/-- Some record is stored under the identifiers. -/
def Taken : Prop :=
  (knowledge.get (table.key columns)).isSome = true

end

instance (knowledge : Knowledge) (columns : List String) :
    Decidable (table.Taken knowledge columns) :=
  inferInstanceAs (Decidable (_ = true))

def Put (record : Record) (before after : Knowledge) : Prop :=
  ∃ id, after = before.put
    ⟨id, table.key (table.columns record), table.form.encode record, table.domain⟩

section Runs

variable (unmirrored : store.mirror = none)
include unmirrored

theorem run_get_read (columns : List String) (shared : Shared) :
    (table.get store columns).run shared =
      (.ok (table.read shared.repo.knowledge columns), shared.after 1) :=
  table.run_get unmirrored columns shared

theorem run_upsert_put (record : Record) (shared : Shared) :
    ∃ later : Shared, (table.upsert store record).run shared = (.ok record, later) ∧
      table.Put record shared.repo.knowledge later.repo.knowledge := by
  obtain ⟨id, nextId, ran⟩ := table.run_upsert unmirrored record shared
  exact ⟨_, ran, id, rfl⟩

variable (describe : Record → String)

theorem run_append_of_taken {shared : Shared}
    (taken : table.Taken shared.repo.knowledge (table.columns record)) :
    (table.append describe store record).run shared =
      (.error (describe record ++ " already exists"), shared.after 1) := by
  rw [table.run_append unmirrored]
  exact if_pos taken

theorem run_append_put {shared : Shared}
    (free : ¬table.Taken shared.repo.knowledge (table.columns record)) :
    ∃ later : Shared, (table.append describe store record).run shared = (.ok record, later) ∧
      table.Put record shared.repo.knowledge later.repo.knowledge := by
  obtain ⟨later, ran, put⟩ := table.run_upsert_put unmirrored record (shared.after 1)
  refine ⟨later, ?_, put⟩
  rw [table.run_append unmirrored]
  exact (if_neg free).trans ran

/-- The host stays the same. -/
def SameHost (before after : Shared) : Prop := after.host = before.host

omit unmirrored in
theorem SameHost.bind {α β : Type} {first : StoreCall α} {next : α → StoreCall β}
    (kept : Keeps SameHost first.run) (keptNext : ∀ value, Keeps SameHost (next value).run) :
    Keeps SameHost (first >>= next).run := by
  rw [Future.run_bind]
  exact kept.bind (fun _ _ _ same later => later.trans same) keptNext

theorem sameHost_get (columns : List String) :
    Keeps SameHost (table.get store columns).run := by
  intro shared
  rw [table.run_get unmirrored]
  rfl

theorem sameHost_upsert (record : Record) :
    Keeps SameHost (table.upsert store record).run := by
  intro shared
  obtain ⟨id, nextId, ran⟩ := table.run_upsert unmirrored record shared
  rw [ran]
  rfl

theorem sameHost_append (record : Record) :
    Keeps SameHost (table.append describe store record).run := by
  intro shared
  rw [table.run_append unmirrored]
  split
  · rfl
  · exact table.sameHost_upsert unmirrored record { shared with tick := shared.tick + 1 }

end Runs

variable {table}

section
variable (put : table.Put record before after) (columns : List String)
include put

theorem read_put :
    table.read after columns =
      if table.key columns = table.key (table.columns record) then some record
      else table.read before columns := by
  obtain ⟨id, rfl⟩ := put
  simp only [read, get_put]
  split
  · exact table.form.decode_encode record
  · rfl

theorem taken_put :
    table.Taken after columns ↔
      table.key columns = table.key (table.columns record) ∨ table.Taken before columns := by
  obtain ⟨id, rfl⟩ := put
  rw [Taken, Taken, get_put]
  split
  · next same => simp [same]
  · next different => simp [different]

end

theorem kept_put (kept : table.Kept before) (put : table.Put record before after) :
    table.Kept after := by
  obtain ⟨id, rfl⟩ := put
  exact kept.put record id _

theorem key_of_read (kept : table.Kept before) {columns : List String}
    (found : table.read before columns = some record) :
    table.key (table.columns record) = table.key columns := by
  obtain ⟨stored, row, decoded⟩ := Option.bind_eq_some_iff.mp found
  have underName : startsWith (table.key columns) (table.name ++ ":") = true :=
    startsWith_iff_exists.mpr ⟨_, rfl⟩
  obtain ⟨entry, sameKey, encoded⟩ := kept _ stored row underName
  rw [encoded, table.form.decode_encode, Option.some.injEq] at decoded
  rw [← decoded, sameKey]

section Apart

variable {written : Other}

theorem NamesApart.symm {first second : String} (apart : NamesApart first second) :
    NamesApart second first := ⟨apart.2, apart.1⟩

section
variable (apart : NamesApart table.name other.name)
include apart

theorem key_ne_of_apart (columns others : List String) : table.key columns ≠ other.key others := by
  intro same
  have below : startsWith (table.key columns) (table.name ++ ":") = true :=
    startsWith_iff_exists.mpr ⟨_, rfl⟩
  rw [same, key, not_startsWith_of_apart apart] at below
  cases below

section
variable (put : other.Put written before after) (columns : List String)
include put

theorem read_put_apart :
    table.read after columns = table.read before columns := by
  obtain ⟨id, rfl⟩ := put
  rw [read, read, get_put_of_ne]
  exact key_ne_of_apart apart _ _

theorem taken_put_apart :
    table.Taken after columns ↔ table.Taken before columns := by
  obtain ⟨id, rfl⟩ := put
  rw [Taken, Taken, get_put_of_ne]
  exact key_ne_of_apart apart _ _

end

theorem kept_put_apart (kept : table.Kept before)
    (put : other.Put written before after) : table.Kept after := by
  obtain ⟨id, rfl⟩ := put
  exact kept.put_apart apart _ id _ _

theorem not_startsWith_start_of_apart (columns others : List String) :
    startsWith (other.key others) (table.start columns) = false := by
  rw [Bool.eq_false_iff]
  intro starts
  obtain ⟨rest, isKey⟩ := startsWith_iff_exists.mp starts
  have below : startsWith (other.key others) (table.name ++ ":") = true := by
    rw [isKey, start, key, String.append_assoc, String.append_assoc]
    exact startsWith_iff_exists.mpr ⟨_, rfl⟩
  rw [key, not_startsWith_of_apart apart] at below
  cases below

theorem listed_put_apart (put : other.Put written before after) (columns : List String) :
    table.listed after columns = table.listed before columns := by
  obtain ⟨id, rfl⟩ := put
  rw [listed, listed, select_eq_of_get]
  intro key seen
  apply get_put_of_ne
  rintro rfl
  rw [not_startsWith_start_of_apart apart] at seen
  cases seen

end

end Apart

theorem listed_put_perm (free : ¬table.Taken before (table.columns record))
    (put : table.Put record before after) {columns : List String}
    (seen : startsWith (table.key (table.columns record)) (table.start columns) = true) :
    (table.listed after columns).Perm (record :: table.listed before columns) := by
  obtain ⟨id, rfl⟩ := put
  rw [Taken, Bool.not_eq_true, Option.isSome_eq_false_iff, Option.isNone_iff_eq_none] at free
  let row : KnowledgeRecord :=
    ⟨id, table.key (table.columns record), table.form.encode record, table.domain⟩
  have rows : ((before.put row).select (startsWith · (table.start columns))).Perm
      (if startsWith row.key (table.start columns) then
        row :: before.select (startsWith · (table.start columns))
      else before.select (startsWith · (table.start columns))) :=
    select_put_perm free
  rw [if_pos seen] at rows
  have listing := rows.filterMap fun row => table.form.decode row.value
  rw [List.filterMap_cons, table.form.decode_encode] at listing
  exact listing

end AutoLoop.StateAdapter.TypedTable
