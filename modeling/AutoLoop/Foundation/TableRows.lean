import AutoLoop.Foundation.Table
import Mathlib.Data.List.Perm.Basic

/-!
# Rows of tables

Of several rows with one key that are put into a table the last one stays.  A row that is
put into a table takes the place of the one with its key in every selection.
-/

namespace AutoLoop

open List

namespace Table

variable {Key Value : Type} [LinearOrder Key]

section
variable (table : Table Key Value)

/-- Put rows one after another. -/
def insertAll (rows : List (Key × Value)) : Table Key Value :=
  rows.foldl (fun table row => table.insert row.1 row.2) table

@[simp] theorem insertAll_nil : table.insertAll [] = table := rfl

@[simp] theorem insertAll_cons (row : Key × Value)
    (rows : List (Key × Value)) :
    table.insertAll (row :: rows) = (table.insert row.1 row.2).insertAll rows := rfl

theorem insertAll_append (rows others : List (Key × Value)) :
    table.insertAll (rows ++ others) = (table.insertAll rows).insertAll others :=
  foldl_append

end

theorem get_insertAll_of_absent {rows : List (Key × Value)} {key : Key}
    (absent : ∀ row ∈ rows, row.1 ≠ key) (table : Table Key Value) :
    (table.insertAll rows).get key = table.get key := by
  induction rows generalizing table with
  | nil => rfl
  | cons row rows ih =>
    obtain ⟨first, later⟩ := forall_mem_cons.mp absent
    rw [insertAll_cons, ih later, get_insert_of_ne _ _ first.symm]

theorem get_insertAll_of_unique {rows : List (Key × Value)} {key : Key} {value : Value}
    (membership : (key, value) ∈ rows) (unique : ∀ row ∈ rows, row.1 = key → row.2 = value)
    (table : Table Key Value) : (table.insertAll rows).get key = some value := by
  induction rows generalizing table with
  | nil => cases membership
  | cons row rows ih =>
    obtain ⟨first, later⟩ := forall_mem_cons.mp unique
    rw [insertAll_cons]
    by_cases again : ∃ other ∈ rows, other.1 = key
    · obtain ⟨other, isLater, isKey⟩ := again
      have isRow : (key, value) = other :=
        Prod.ext isKey.symm (later other isLater isKey).symm
      exact ih (isRow ▸ isLater) later _
    · rw [get_insertAll_of_absent fun other isLater isKey => again ⟨other, isLater, isKey⟩]
      rcases mem_cons.mp membership with rfl | isLater
      · exact get_insert_self table key value
      · exact absurd ⟨(key, value), isLater, rfl⟩ again

/-! ## Selections -/

theorem select_eq_map {Other : Type} {table : Table Key Value} {other : Table Key Other}
    {view : Other → Value} {keep : Key → Bool}
    (same : ∀ key, keep key = true → table.get key = (other.get key).map view) :
    table.select keep = (other.select keep).map fun row => (row.1, view row.2) := by
  apply eq_of_increasing (table.increasing_select keep)
  · exact pairwise_map.mpr (other.increasing_select keep)
  · rintro ⟨key, value⟩
    rw [mem_select_iff, mem_map]
    constructor
    · rintro ⟨found, kept⟩
      rw [same key kept, Option.map_eq_some_iff] at found
      obtain ⟨held, isHeld, rfl⟩ := found
      exact ⟨(key, held), mem_select_iff.mpr ⟨isHeld, kept⟩, rfl⟩
    · rintro ⟨⟨otherKey, held⟩, membership, isRow⟩
      cases isRow
      obtain ⟨found, kept⟩ := mem_select_iff.mp membership
      exact ⟨by rw [same otherKey kept, found, Option.map_some], kept⟩

section
variable (table : Table Key Value) (keep : Key → Bool) {key : Key}

theorem select_insert_of_not_kept (notKept : ¬keep key = true) (value : Value) :
    (table.insert key value).select keep = table.select keep := by
  have same : ∀ other, keep other = true →
      (table.insert key value).get other = (table.get other).map id := by
    intro other kept
    rw [Option.map_id, id, get_insert_of_ne]
    rintro rfl
    exact notKept kept
  rw [select_eq_map same]
  exact map_id _

/-- A new row takes the place of the one with its key. -/
theorem exists_rest_select (kept : keep key = true) :
    ∃ rest, (table.select keep).Perm (((table.get key).map (key, ·)).toList ++ rest) ∧
      ∀ value, ((table.insert key value).select keep).Perm ((key, value) :: rest) := by
  have nodup : ∀ table : Table Key Value, (table.select keep).Nodup := fun table =>
    nodup_of_increasing (table.increasing_select keep)
  have restNodup : ((table.select keep).filter (·.1 ≠ key)).Nodup := (nodup table).filter _
  have outside : ∀ value, (key, value) ∉ (table.select keep).filter (·.1 ≠ key) := by
    intro value membership
    simpa using (mem_filter.mp membership).2
  refine ⟨(table.select keep).filter (·.1 ≠ key), ?_, fun value => ?_⟩
  · apply (perm_ext_iff_of_nodup (nodup table) ?_).mpr
    · rintro ⟨other, held⟩
      rw [mem_append, mem_filter, mem_select_iff]
      by_cases isKey : other = key
      · subst isKey
        cases found : table.get other with
        | none => simp
        | some value => simp [kept, eq_comm]
      · cases found : table.get key with
        | none => simp [isKey]
        | some value => simp [isKey]
    · cases found : table.get key with
      | none => exact restNodup
      | some value => exact nodup_cons.mpr ⟨outside value, restNodup⟩
  · apply (perm_ext_iff_of_nodup (nodup _) (nodup_cons.mpr ⟨outside value, restNodup⟩)).mpr
    rintro ⟨other, held⟩
    rw [mem_cons, mem_filter, mem_select_iff, mem_select_iff, get_insert]
    by_cases isKey : other = key
    · subst isKey
      simp [kept, eq_comm]
    · simp [isKey]

end

theorem exists_rest_filterMap {Seen : Type} (table : Table Key Value) (view : Value → Option Seen)
    (keep : Key → Bool) {key : Key} (kept : keep key = true) :
    ∃ rest, ((table.select keep).filterMap fun row => view row.2).Perm
        (((table.get key).bind view).toList ++ rest) ∧
      ∀ value, (((table.insert key value).select keep).filterMap fun row => view row.2).Perm
        ((view value).toList ++ rest) := by
  obtain ⟨rest, before, after⟩ := table.exists_rest_select keep kept
  refine ⟨rest.filterMap fun row => view row.2, ?_, fun value => ?_⟩
  · apply (before.filterMap _).trans
    rw [filterMap_append]
    cases table.get key with
    | none => exact List.Perm.refl _
    | some value => cases seen : view value <;> simp [seen]
  · apply ((after value).filterMap _).trans
    cases seen : view value <;> simp [seen]

end Table

/-- Of equal collections with one part optional the rests are equal exactly when the parts
are. -/
theorem perm_rests_iff {α : Type} {first second : Option α} {rest other : List α}
    (same : (first.toList ++ rest).Perm (second.toList ++ other)) :
    rest.Perm other ↔ first = second := by
  constructor
  · intro sameRest
    have parts : first.toList.Perm second.toList :=
      (perm_append_right_iff other).mp
        (((List.Perm.append_left _ sameRest).symm).trans same)
    cases first with
    | none =>
      cases second with
      | none => rfl
      | some value => exact absurd parts.length_eq (by simp)
    | some value =>
      cases second with
      | none => exact absurd parts.length_eq (by simp)
      | some held => exact congrArg some (singleton_perm_singleton.mp parts)
  · rintro rfl
    exact (perm_append_left_iff _).mp same

end AutoLoop
