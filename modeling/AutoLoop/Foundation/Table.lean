import Mathlib.Algebra.Ring.Nat
import Mathlib.Data.List.Pairwise
import Mathlib.Data.List.Sort

/-!
# Tables in key order

A finite map whose rows can be enumerated.  The rows are kept in strictly
increasing key order, so that a table is determined by its lookups and a listing
of some of its rows is a sorted one.
-/

namespace AutoLoop

open List

structure Table (Key Value : Type) [LinearOrder Key] where
  rows : List (Key × Value)
  increasing : rows.Pairwise fun row later => row.1 < later.1

namespace Table

variable {Key Value : Type} [LinearOrder Key]

def empty : Table Key Value := ⟨[], .nil⟩

instance : Inhabited (Table Key Value) := ⟨empty⟩

def get (table : Table Key Value) (key : Key) : Option Value :=
  (table.rows.find? (·.1 = key)).map (·.2)

/-- Put a row in its place, instead of the one with its key. -/
def insertRow (key : Key) (value : Value) : List (Key × Value) → List (Key × Value)
  | [] => [(key, value)]
  | row :: rest =>
    if key < row.1 then (key, value) :: row :: rest
    else if key = row.1 then (key, value) :: rest
    else row :: insertRow key value rest

theorem mem_insertRow {key : Key} {value : Value} {rows : List (Key × Value)}
    {row : Key × Value} (membership : row ∈ insertRow key value rows) :
    row = (key, value) ∨ row ∈ rows := by
  induction rows with
  | nil => exact Or.inl (mem_singleton.mp membership)
  | cons first rest ih =>
    rw [insertRow] at membership
    split at membership
    · exact mem_cons.mp membership
    · split at membership
      · rcases mem_cons.mp membership with isNew | inRest
        · exact Or.inl isNew
        · exact Or.inr (mem_cons_of_mem _ inRest)
      · rcases mem_cons.mp membership with isFirst | later
        · exact Or.inr (isFirst ▸ mem_cons_self)
        · rcases ih later with isNew | inRest
          · exact Or.inl isNew
          · exact Or.inr (mem_cons_of_mem _ inRest)

variable (table : Table Key Value) (key : Key)

theorem increasing_insertRow (value : Value) {rows : List (Key × Value)}
    (increasing : rows.Pairwise fun row later => row.1 < later.1) :
    (insertRow key value rows).Pairwise fun row later => row.1 < later.1 := by
  induction rows with
  | nil => exact pairwise_singleton _ _
  | cons first rest ih =>
    obtain ⟨aboveFirst, restIncreasing⟩ := pairwise_cons.mp increasing
    rw [insertRow]
    split
    · next below =>
      apply pairwise_cons.mpr ⟨?_, increasing⟩
      intro later membership
      rcases mem_cons.mp membership with rfl | inRest
      · exact below
      · exact below.trans (aboveFirst later inRest)
    · next notBelow =>
      split
      · next same =>
        apply pairwise_cons.mpr ⟨?_, restIncreasing⟩
        intro later inRest
        exact same ▸ aboveFirst later inRest
      · next different =>
        apply pairwise_cons.mpr ⟨?_, ih restIncreasing⟩
        intro later membership
        rcases mem_insertRow membership with rfl | inRest
        · exact lt_of_le_of_ne (not_lt.mp notBelow) (Ne.symm different)
        · exact aboveFirst later inRest

def insert (table : Table Key Value) (key : Key) (value : Value) : Table Key Value where
  rows := insertRow key value table.rows
  increasing := increasing_insertRow key value table.increasing

/-- The rows that satisfy a test, in key order. -/
def select (table : Table Key Value) (keep : Key → Bool) : List (Key × Value) :=
  table.rows.filter fun row => keep row.1

@[simp] theorem get_empty : (empty : Table Key Value).get key = none := rfl

@[simp] theorem select_empty (keep : Key → Bool) :
    (empty : Table Key Value).select keep = [] := rfl

theorem find?_insertRow (key other : Key) (value : Value) {rows : List (Key × Value)}
    (increasing : rows.Pairwise fun row later => row.1 < later.1) :
    ((insertRow key value rows).find? (·.1 = other)).map (·.2) =
      if other = key then some value else (rows.find? (·.1 = other)).map (·.2) := by
  induction rows with
  | nil =>
    by_cases same : other = key
    · simp [insertRow, same]
    · simp [insertRow, same, Ne.symm same]
  | cons first rest ih =>
    obtain ⟨aboveFirst, restIncreasing⟩ := pairwise_cons.mp increasing
    have restFound := ih restIncreasing
    rw [insertRow]
    by_cases isKey : other = key
    · subst isKey
      split
      · simp
      · split
        · simp
        · next different =>
          rw [find?_cons_of_neg (by simpa using Ne.symm different), restFound,
            if_pos rfl, if_pos rfl]
    · have notKey : ¬key = other := Ne.symm isKey
      rw [if_neg isKey] at restFound ⊢
      split
      · rw [find?_cons_of_neg (by simpa using notKey)]
      · split
        · next same =>
          rw [find?_cons_of_neg (by simpa using notKey),
            find?_cons_of_neg (by simpa [← same] using notKey)]
        · by_cases isFirst : first.1 = other
          · rw [find?_cons_of_pos (by simpa using isFirst),
              find?_cons_of_pos (by simpa using isFirst)]
          · rw [find?_cons_of_neg (by simpa using isFirst),
              find?_cons_of_neg (by simpa using isFirst), restFound]

theorem sum_insertRow (value : Nat) {rows : List (Key × Nat)}
    (increasing : rows.Pairwise fun row later => row.1 < later.1) :
    ((insertRow key value rows).map (·.2)).sum +
        ((rows.find? (·.1 = key)).map (·.2)).getD 0 =
      (rows.map (·.2)).sum + value := by
  induction rows with
  | nil => simp [insertRow]
  | cons row rest ih =>
    obtain ⟨first, restIncreasing⟩ := pairwise_cons.mp increasing
    have summed := ih restIncreasing
    rw [insertRow]
    split
    · next below =>
      have absent : rest.find? (·.1 = key) = none := by
        rw [find?_eq_none]
        intro other inRest
        simp [(below.trans (first other inRest)).ne']
      rw [find?_cons_of_neg (by simp [below.ne']), absent]
      simp [Nat.add_comm]
    · split
      · next same =>
        rw [find?_cons_of_pos (by simp [same])]
        simp only [map_cons, sum_cons, Option.map_some, Option.getD_some]
        omega
      · next different =>
        rw [find?_cons_of_neg (by simp [Ne.symm different])]
        simp only [map_cons, sum_cons]
        omega

theorem sum_insert (table : Table Key Nat) (key : Key) (value : Nat) :
    ((table.insert key value).rows.map (·.2)).sum + (table.get key).getD 0 =
      (table.rows.map (·.2)).sum + value :=
  sum_insertRow key value table.increasing

theorem get_insert (key other : Key) (value : Value) :
    (table.insert key value).get other =
      if other = key then some value else table.get other :=
  find?_insertRow key other value table.increasing

@[simp] theorem get_insert_self (value : Value) :
    (table.insert key value).get key = some value := by
  rw [get_insert, if_pos rfl]

theorem get_insert_of_ne {key other : Key} (value : Value)
    (different : other ≠ key) : (table.insert key value).get other = table.get other := by
  rw [get_insert, if_neg different]

theorem mem_rows_iff {table : Table Key Value} {key : Key} {value : Value} :
    (key, value) ∈ table.rows ↔ table.get key = some value := by
  obtain ⟨rows, increasing⟩ := table
  rw [get]
  simp only
  induction rows with
  | nil => simp
  | cons first rest ih =>
    obtain ⟨aboveFirst, restIncreasing⟩ := pairwise_cons.mp increasing
    by_cases isFirst : first.1 = key
    · rw [find?_cons_of_pos (by simpa using isFirst), Option.map_some, Option.some.injEq, mem_cons]
      constructor
      · rintro (same | inRest)
        · rw [← same]
        · exact absurd (aboveFirst _ inRest) (by simp [isFirst])
      · intro same
        exact Or.inl (by rw [← isFirst, ← same])
    · rw [find?_cons_of_neg (by simpa using isFirst), ← ih restIncreasing, mem_cons, or_iff_right]
      intro same
      exact isFirst (by rw [← same])

theorem mem_select_iff {table : Table Key Value} {keep : Key → Bool} {key : Key} {value : Value} :
    (key, value) ∈ table.select keep ↔ table.get key = some value ∧ keep key = true := by
  rw [select, mem_filter, mem_rows_iff]

theorem increasing_select (keep : Key → Bool) :
    (table.select keep).Pairwise fun row later => row.1 < later.1 :=
  table.increasing.filter _

theorem nodup_of_increasing {rows : List (Key × Value)}
    (increasing : rows.Pairwise fun row later => row.1 < later.1) : rows.Nodup := by
  apply increasing.imp
  intro row later below same
  exact lt_irrefl _ (same ▸ below)

theorem eq_of_increasing {rows others : List (Key × Value)}
    (increasing : rows.Pairwise fun row later => row.1 < later.1)
    (othersIncreasing : others.Pairwise fun row later => row.1 < later.1)
    (same : ∀ row, row ∈ rows ↔ row ∈ others) : rows = others := by
  have perm : rows.Perm others :=
    (perm_ext_iff_of_nodup (nodup_of_increasing increasing)
      (nodup_of_increasing othersIncreasing)).mpr same
  exact perm.eq_of_pairwise
    (fun row other _ _ below above => absurd below (not_lt_of_gt above))
    increasing othersIncreasing

theorem ext_get {table other : Table Key Value}
    (same : ∀ key, table.get key = other.get key) : table = other := by
  have sameRows : table.rows = other.rows := by
    apply eq_of_increasing table.increasing other.increasing
    rintro ⟨key, value⟩
    rw [mem_rows_iff, mem_rows_iff, same]
  cases table
  cases other
  cases sameRows
  rfl

theorem select_insert_perm {table : Table Key Value} {key : Key} (value : Value)
    (fresh : table.get key = none) (keep : Key → Bool) :
    ((table.insert key value).select keep).Perm
      (if keep key then (key, value) :: table.select keep else table.select keep) := by
  have freshRows : ∀ other, (key, other) ∉ table.rows := by
    intro other membership
    rw [mem_rows_iff, fresh] at membership
    cases membership
  have nodup : ∀ (table : Table Key Value), (table.select keep).Nodup := fun table =>
    nodup_of_increasing (table.increasing_select keep)
  have sameMembers : ∀ row, row ∈ (table.insert key value).select keep ↔
      row ∈ (if keep key then (key, value) :: table.select keep else table.select keep) := by
    rintro ⟨other, held⟩
    rw [mem_select_iff, get_insert]
    by_cases isKey : other = key
    · subst isKey
      by_cases kept : keep other
      · simp [kept, mem_select_iff, fresh, eq_comm]
      · simp [kept, mem_select_iff]
    · by_cases kept : keep key
      · simp [kept, isKey, mem_select_iff]
      · simp [kept, isKey, mem_select_iff]
  apply (perm_ext_iff_of_nodup (nodup _) ?_).mpr sameMembers
  by_cases kept : keep key
  · rw [if_pos kept]
    apply nodup_cons.mpr ⟨?_, nodup table⟩
    intro membership
    exact freshRows value (mem_of_mem_filter membership)
  · rw [if_neg kept]
    exact nodup table

/-! ## Removal -/

def erase (table : Table Key Value) (key : Key) : Table Key Value where
  rows := table.rows.filter (·.1 ≠ key)
  increasing := table.increasing.filter _

theorem get_erase (table : Table Key Value) (key other : Key) :
    (table.erase key).get other = if other = key then none else table.get other := by
  rw [get, get, erase, List.find?_filter]
  split
  · next isKey =>
    have nothing : table.rows.find? (fun row =>
        decide (decide (row.1 ≠ key) = true) && decide (row.1 = other)) = none := by
      rw [List.find?_eq_none]
      intro row _
      simp [isKey]
    simpa using nothing
  · next isOther =>
    congr 2
    funext row
    by_cases found : row.1 = other
    · simp [found, isOther]
    · simp [found]

end Table

end AutoLoop
