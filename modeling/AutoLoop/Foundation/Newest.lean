import AutoLoop.Foundation.Table
import Mathlib.Data.List.Induction

/-!
# The newest copy of each key

A table that takes copies one after another and keeps for each key the newest of them,
the earliest of those of one age.  Copies of known items show exactly these items when
each is among them and no copy is as new as its item without being the same.
-/

namespace AutoLoop

open List

variable {Key Item Age : Type} [LinearOrder Key] [LinearOrder Age]

namespace Table

def values (table : Table Key Item) : List Item := table.rows.map (·.2)

section Copies

variable (key : Item → Key) (age : Item → Age)

/-- Take a copy in, unless one as new is there. -/
def keepNewer (table : Table Key Item) (item : Item) : Table Key Item :=
  match table.get (key item) with
  | some existing =>
    if age item ≤ age existing then table else table.insert (key item) item
  | none => table.insert (key item) item

def newest (items : List Item) : Table Key Item := items.foldl (keepNewer key age) empty

variable {key : Item → Key} {age : Item → Age}

theorem newest_snoc (items : List Item) (item : Item) :
    newest key age (items ++ [item]) = keepNewer key age (newest key age items) item := by
  simp only [newest, foldl_append, foldl_cons, foldl_nil]

/-- What is known of the row of a key: it is the newest of the copies. -/
def Newest (key : Item → Key) (age : Item → Age) (items : List Item) (name : Key) :
    Option Item → Prop
  | some item => item ∈ items ∧ key item = name ∧
      ∀ other ∈ items, key other = name → age other ≤ age item
  | none => ∀ other ∈ items, key other ≠ name

theorem Newest.snoc_of_ne {items : List Item} {name : Key} {found : Option Item}
    (isNewest : Newest key age items name found) {item : Item} (different : key item ≠ name) :
    Newest key age (items ++ [item]) name found := by
  have earlier : ∀ other ∈ items ++ [item], key other = name → other ∈ items := by
    intro other membership isName
    rcases mem_append.mp membership with inItems | isItem
    · exact inItems
    · rw [mem_singleton.mp isItem] at isName
      exact absurd isName different
  cases found with
  | none =>
    intro other membership isName
    exact isNewest other (earlier other membership isName) isName
  | some found =>
    constructor
    · exact mem_append_left _ isNewest.1
    · constructor
      · exact isNewest.2.1
      · intro other membership isName
        exact isNewest.2.2 other (earlier other membership isName) isName

/-- Taking in one copy. -/
theorem newest_step {items : List Item} {table : Table Key Item} {name : Key}
    (isNewest : Newest key age items name (table.get name)) (item : Item) :
    Newest key age (items ++ [item]) name ((keepNewer key age table item).get name) := by
  by_cases isName : key item = name
  · subst isName
    rw [keepNewer]
    cases found : table.get (key item) with
    | none =>
      rw [found] at isNewest
      simp only [get_insert_self]
      refine ⟨mem_append_right _ (mem_singleton_self item), rfl, ?_⟩
      intro other membership same
      rcases mem_append.mp membership with inItems | isItem
      · exact absurd same (isNewest other inItems)
      · exact (congrArg age (mem_singleton.mp isItem)).le
    | some existing =>
      rw [found] at isNewest
      obtain ⟨inItems, isKey, above⟩ := isNewest
      by_cases older : age item ≤ age existing
      · simp only [if_pos older, found]
        refine ⟨mem_append_left _ inItems, isKey, ?_⟩
        intro other membership same
        rcases mem_append.mp membership with earlier | isItem
        · exact above other earlier same
        · rw [mem_singleton.mp isItem]
          exact older
      · simp only [if_neg older, get_insert_self]
        refine ⟨mem_append_right _ (mem_singleton_self item), rfl, ?_⟩
        intro other membership same
        rcases mem_append.mp membership with earlier | isItem
        · exact (above other earlier same).trans (not_le.mp older).le
        · exact (congrArg age (mem_singleton.mp isItem)).le
  · have unchanged : (keepNewer key age table item).get name = table.get name := by
      rw [keepNewer]
      split
      · split
        · rfl
        · exact get_insert_of_ne table item (Ne.symm isName)
      · exact get_insert_of_ne table item (Ne.symm isName)
    rw [unchanged]
    exact isNewest.snoc_of_ne isName

theorem get_newest (items : List Item) (name : Key) :
    Newest key age items name ((newest key age items).get name) := by
  induction items using List.reverseRecOn with
  | nil =>
    intro other membership
    cases membership
  | append_singleton items item ih =>
    rw [newest_snoc]
    exact newest_step ih item

end Copies

theorem mem_values_iff {table : Table Key Item} {item : Item} :
    item ∈ table.values ↔ ∃ name, table.get name = some item := by
  simp only [values, mem_map, Prod.exists, mem_rows_iff, exists_eq_right]

variable {key : Item → Key} {age : Item → Age}

theorem mem_of_mem_values_newest {items : List Item} {item : Item}
    (isValue : item ∈ (newest key age items).values) : item ∈ items := by
  obtain ⟨name, found⟩ := mem_values_iff.mp isValue
  have newestFound := @get_newest _ _ _ _ _ key age items name
  rw [found] at newestFound
  exact newestFound.1

theorem nodup_values {table : Table Key Item}
    (keyed : ∀ name item, table.get name = some item → key item = name) :
    table.values.Nodup := by
  refine List.Nodup.map_on ?_ (nodup_of_increasing table.increasing)
  intro first isFirst second isSecond same
  have firstKey := keyed first.1 first.2 (mem_rows_iff.mp isFirst)
  have secondKey := keyed second.1 second.2 (mem_rows_iff.mp isSecond)
  rw [same] at firstKey
  exact Prod.ext (firstKey.symm.trans secondKey) same

theorem values_newest_perm {copies current : List Item}
    (distinct : (current.map key).Nodup) (present : ∀ item ∈ current, item ∈ copies)
    (ofCurrent : ∀ copy ∈ copies, ∃ item ∈ current, key copy = key item ∧
      age copy ≤ age item ∧ (age copy = age item → copy = item)) :
    (newest key age copies).values.Perm current := by
  have isCurrent : ∀ name item, (newest key age copies).get name = some item →
      key item = name ∧ item ∈ current := by
    intro name found isFound
    have newestFound := @get_newest _ _ _ _ _ key age copies name
    rw [isFound] at newestFound
    obtain ⟨inCopies, isName, above⟩ := newestFound
    obtain ⟨item, inCurrent, sameKey, notNewer, same⟩ := ofCurrent found inCopies
    have notOlder := above item (present item inCurrent) (sameKey.symm.trans isName)
    rw [same (le_antisymm notNewer notOlder)]
    exact ⟨sameKey.symm.trans isName, inCurrent⟩
  apply (perm_ext_iff_of_nodup (nodup_values fun name item found =>
    (isCurrent name item found).1) (List.Nodup.of_map key distinct)).mpr
  intro item
  rw [mem_values_iff]
  constructor
  · intro isValue
    cases isValue with
    | intro name found => exact (isCurrent name item found).2
  · intro inCurrent
    refine ⟨key item, ?_⟩
    have newestFound := @get_newest _ _ _ _ _ key age copies (key item)
    cases found : (newest key age copies).get (key item) with
    | none =>
      rw [found] at newestFound
      exact absurd rfl (newestFound item (present item inCurrent))
    | some other =>
      obtain ⟨sameKey, otherCurrent⟩ := isCurrent _ _ found
      have same := inj_on_of_nodup_map distinct otherCurrent inCurrent sameKey
      rw [same]

end Table

end AutoLoop
