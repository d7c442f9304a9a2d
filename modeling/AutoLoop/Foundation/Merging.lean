import AutoLoop.Foundation.FirstMatch

/-!
# Merging lists

An item is merged into the first item of its kind, or added.  Where merging keeps kinds,
every view that it keeps is that of the held items and of the novel ones after them.
-/

namespace AutoLoop

open List

variable {α β : Type}

section
variable (same : α → α → Bool) (change : α → α → α)

def mergeOne (held : List α) (item : α) : List α :=
  match held.find? (same · item) with
  | some _ => modifyFirst (same · item) (change item) held
  | none => held ++ [item]

def mergeAll (held items : List α) : List α :=
  items.foldl (mergeOne same change) held

end

/-- The items that find none of their kind, neither held nor novel before them. -/
def novel (same : α → α → Bool) : List α → List α → List α
  | _, [] => []
  | held, item :: rest =>
    if held.any (same · item) then novel same held rest
    else item :: novel same (held ++ [item]) rest

variable {same : α → α → Bool} {change : α → α → α} {held items : List α} {item : α}

theorem mergeOne_of_any (known : held.any (same · item) = true) :
    mergeOne same change held item = modifyFirst (same · item) (change item) held := by
  unfold mergeOne
  cases found : held.find? (same · item) with
  | some first => rfl
  | none =>
    obtain ⟨first, isFirst, isSame⟩ := any_eq_true.mp known
    exact absurd isSame (find?_eq_none.mp found first isFirst)

theorem mergeOne_of_not_any (new : held.any (same · item) = false) :
    mergeOne same change held item = held ++ [item] := by
  unfold mergeOne
  cases found : held.find? (same · item) with
  | none => rfl
  | some first =>
    have isSame : same first item = true := by simpa using find?_some found
    rw [any_eq_false] at new
    exact absurd isSame (new first (mem_of_find?_eq_some found))

theorem novel_congr {other : List α}
    (alike : ∀ item, held.any (same · item) = other.any (same · item)) :
    novel same held items = novel same other items := by
  induction items generalizing held other with
  | nil => rfl
  | cons item rest ih =>
    rw [novel, novel, alike item, ih alike]
    congr 2
    refine ih ?_
    intro later
    simp [alike later]

theorem map_mergeAll {view : α → β} (keptView : ∀ item held, view (change item held) = view held)
    (keptKind : ∀ item held later, same (change item held) later = same held later)
    (held items : List α) :
    (mergeAll same change held items).map view =
      held.map view ++ (novel same held items).map view := by
  induction items generalizing held with
  | nil => simp [mergeAll, novel]
  | cons item rest ih =>
    refine (ih (mergeOne same change held item)).trans ?_
    cases known : held.any (same · item) with
    | true =>
      rw [mergeOne_of_any known, map_modifyFirst (keptView item), novel, if_pos known]
      congr 2
      refine novel_congr ?_
      intro later
      exact any_modifyFirst (fun held => keptKind item held later) held
    | false =>
      rw [mergeOne_of_not_any known, novel, if_neg (by simp [known])]
      simp

theorem novel_sublist (held items : List α) : (novel same held items).Sublist items := by
  induction items generalizing held with
  | nil => exact .refl _
  | cons item rest ih =>
    rw [novel]
    split
    · exact (ih held).cons item
    · exact (ih (held ++ [item])).cons_cons item

theorem nodup_novel_iff {key : α → β} (heldKeys : (held.map key).Nodup)
    (itemKeys : (items.map key).Nodup) :
    ((held ++ novel same held items).map key).Nodup ↔
      ∀ item ∈ novel same held items, key item ∉ held.map key := by
  rw [map_append, nodup_append]
  constructor
  · intro all item isNovel isHeld
    exact all.2.2 _ isHeld _ (mem_map_of_mem isNovel) rfl
  · intro apart
    refine ⟨heldKeys, itemKeys.sublist ((novel_sublist held items).map key), ?_⟩
    intro first isHeld second isNovel same
    obtain ⟨item, isItem, rfl⟩ := mem_map.mp isNovel
    exact apart item isItem (same ▸ isHeld)

theorem any_mergeAll (keptKind : ∀ item held later, same (change item held) later = same held later)
    (later : α) (isHeld : held.any (same · later) = true) (items : List α) :
    (mergeAll same change held items).any (same · later) = true := by
  induction items generalizing held with
  | nil => exact isHeld
  | cons item rest ih =>
    refine ih ?_
    cases known : held.any (same · item) with
    | true =>
      rw [mergeOne_of_any known, any_modifyFirst (fun held => keptKind item held later)]
      exact isHeld
    | false =>
      rw [mergeOne_of_not_any known, any_append, isHeld, Bool.true_or]

theorem exists_of_merged (reflexive : ∀ item, same item item = true)
    (keptKind : ∀ item held later, same (change item held) later = same held later)
    (held : List α) {items : List α} {item : α} (isItem : item ∈ items) :
    ∃ merged ∈ mergeAll same change held items, same merged item = true := by
  refine any_eq_true.mp ?_
  induction items generalizing held with
  | nil => cases isItem
  | cons first rest ih =>
    cases mem_cons.mp isItem with
    | inr isLater => exact ih (mergeOne same change held first) isLater
    | inl isFirst =>
      subst isFirst
      refine any_mergeAll keptKind item ?_ rest
      cases known : held.any (same · item) with
      | true =>
        rw [mergeOne_of_any known, any_modifyFirst (fun held => keptKind item held item)]
        exact known
      | false =>
        rw [mergeOne_of_not_any known, any_append]
        simp [reflexive]

end AutoLoop
