import Mathlib.Data.List.Nodup

/-!
# Changing the first match of a list

`iter_mut().find` with a change of what is found, and what it does where keys tell the
items apart.
-/

namespace AutoLoop

open List

variable {α Key : Type}

def modifyFirst (matching : α → Bool) (change : α → α) : List α → List α
  | [] => []
  | item :: rest =>
    if matching item then change item :: rest
    else item :: modifyFirst matching change rest

variable {matching : α → Bool} {change : α → α}

theorem map_modifyFirst {β : Type} {view : α → β} (kept : ∀ item, view (change item) = view item)
    (items : List α) : (modifyFirst matching change items).map view = items.map view := by
  induction items with
  | nil => rfl
  | cons item rest ih =>
    rw [modifyFirst]
    split
    · simp [kept]
    · simp [ih]

variable {items : List α}

theorem modifyFirst_of_none (none : items.find? matching = none) :
    modifyFirst matching change items = items := by
  induction items with
  | nil => rfl
  | cons item rest ih =>
    rw [find?_eq_none] at none
    rw [modifyFirst, if_neg (none item mem_cons_self), ih]
    rw [find?_eq_none]
    intro later isLater
    exact none later (mem_cons_of_mem _ isLater)

theorem mem_modifyFirst {key : α → Key} {items : List α} (distinct : (items.map key).Nodup)
    {found : α} (isFound : items.find? matching = some found) {item : α} :
    item ∈ modifyFirst matching change items ↔
      item = change found ∨ (item ∈ items ∧ key item ≠ key found) := by
  induction items with
  | nil => simp at isFound
  | cons first rest ih =>
    rw [map_cons, nodup_cons] at distinct
    obtain ⟨fresh, distinct⟩ := distinct
    have apart (later : α) (isLater : later ∈ rest) : key later ≠ key first :=
      fun same => fresh (same ▸ mem_map_of_mem isLater)
    rw [modifyFirst]
    by_cases isMatch : matching first = true
    · rw [find?_cons_of_pos isMatch] at isFound
      cases isFound
      rw [if_pos isMatch, mem_cons, mem_cons]
      constructor
      · intro either
        cases either with
        | inl isChanged => exact Or.inl isChanged
        | inr isLater => exact Or.inr ⟨Or.inr isLater, apart item isLater⟩
      · intro either
        cases either with
        | inl isChanged => exact Or.inl isChanged
        | inr both =>
          cases both.1 with
          | inl isFirst => exact absurd (congrArg key isFirst) both.2
          | inr isLater => exact Or.inr isLater
    · rw [find?_cons_of_neg isMatch] at isFound
      rw [if_neg isMatch, mem_cons, mem_cons, ih distinct isFound]
      have foundLater : key found ≠ key first :=
        apart found (mem_of_find?_eq_some isFound)
      constructor
      · intro either
        cases either with
        | inl isFirst =>
          refine Or.inr ⟨Or.inl isFirst, ?_⟩
          rw [isFirst]
          exact Ne.symm foundLater
        | inr later =>
          cases later with
          | inl isChanged => exact Or.inl isChanged
          | inr both => exact Or.inr ⟨Or.inr both.1, both.2⟩
      · intro either
        cases either with
        | inl isChanged => exact Or.inr (Or.inl isChanged)
        | inr both =>
          cases both.1 with
          | inl isFirst => exact Or.inl isFirst
          | inr isLater => exact Or.inr (Or.inr ⟨isLater, both.2⟩)

theorem exists_of_mem_modifyFirst {item : α} (isItem : item ∈ modifyFirst matching change items) :
    ∃ old ∈ items, item = old ∨ item = change old := by
  induction items with
  | nil => simp [modifyFirst] at isItem
  | cons first rest ih =>
    rw [modifyFirst] at isItem
    split at isItem
    · cases mem_cons.mp isItem with
      | inl isFirst => exact ⟨first, mem_cons_self, Or.inr isFirst⟩
      | inr isLater => exact ⟨item, mem_cons_of_mem _ isLater, Or.inl rfl⟩
    · cases mem_cons.mp isItem with
      | inl isFirst => exact ⟨first, mem_cons_self, Or.inl isFirst⟩
      | inr isLater =>
        obtain ⟨old, isOld, shape⟩ := ih isLater
        exact ⟨old, mem_cons_of_mem _ isOld, shape⟩

theorem change_mem_modifyFirst {found : α} (isFound : items.find? matching = some found) :
    change found ∈ modifyFirst matching change items := by
  induction items with
  | nil => cases isFound
  | cons first rest ih =>
    rw [modifyFirst]
    by_cases isMatch : matching first = true
    · rw [find?_cons_of_pos isMatch] at isFound
      rw [if_pos isMatch, Option.some.inj isFound]
      exact mem_cons_self
    · rw [find?_cons_of_neg isMatch] at isFound
      rw [if_neg isMatch]
      exact mem_cons_of_mem _ (ih isFound)

theorem any_modifyFirst {wanted : α → Bool}
    (kept : ∀ item, wanted (change item) = wanted item) (items : List α) :
    (modifyFirst matching change items).any wanted = items.any wanted := by
  have views := congrArg (List.any · id)
    (@map_modifyFirst α matching change Bool wanted kept items)
  simpa [any_map] using views

end AutoLoop
