import Mathlib.Data.List.Sort

/-!
# Stable sorting by a key

`slice::sort_by_key`.  Equal keys keep their order, so items that stand in
strictly increasing order of a second key are sorted by the pair of keys, and
that order determines the result.
-/

namespace AutoLoop

open List

variable {α β Key Tag : Type} [LinearOrder Key] [LinearOrder Tag]

/-- `sort_by_key`. -/
def sortByKey (key : α → Key) (items : List α) : List α :=
  items.insertionSort fun first second => key first ≤ key second

/-- Earlier by the first key, or by the second one among equals. -/
def Before (key : α → Key) (tag : α → Tag) (first second : α) : Prop :=
  key first < key second ∨ (key first = key second ∧ tag first < tag second)

variable {key : α → Key} {tag : α → Tag}

theorem sortByKey_perm (key : α → Key) (items : List α) : (sortByKey key items).Perm items :=
  perm_insertionSort _ items

variable {items : List α} {first second : α}

@[simp] theorem mem_sortByKey {item : α} :
    item ∈ sortByKey key items ↔ item ∈ items :=
  (sortByKey_perm key items).mem_iff

@[simp] theorem sortByKey_nil (key : α → Key) : sortByKey key [] = [] := rfl

theorem sortByKey_map (key : β → Key) (view : α → β) (items : List α) :
    sortByKey key (items.map view) = (sortByKey (fun item => key (view item)) items).map view :=
  (map_insertionSort _ _ view items fun _ _ _ _ => Iff.rfl).symm

theorem le_getLast?_sortByKey {item last : α}
    (isLast : (sortByKey key items).getLast? = some last) (membership : item ∈ items) :
    key item ≤ key last := by
  have sorted : (sortByKey key items).Pairwise fun first second => key first ≤ key second :=
    pairwise_insertionSort _ items
  obtain ⟨earlier, shape⟩ := getLast?_eq_some_iff.mp isLast
  have inSorted : item ∈ sortByKey key items := mem_sortByKey.mpr membership
  rw [shape] at sorted inSorted
  cases mem_append.mp inSorted with
  | inl inEarlier =>
    exact (pairwise_append.mp sorted).2.2 item inEarlier last (mem_singleton_self last)
  | inr isItem => rw [mem_singleton.mp isItem]

theorem head?_sortByKey_le {item first : α}
    (isFirst : (sortByKey key items).head? = some first) (membership : item ∈ items) :
    key first ≤ key item := by
  have sorted : (sortByKey key items).Pairwise fun first second => key first ≤ key second :=
    pairwise_insertionSort _ items
  obtain ⟨later, shape⟩ := head?_eq_some_iff.mp isFirst
  have inSorted : item ∈ sortByKey key items := mem_sortByKey.mpr membership
  rw [shape] at sorted inSorted
  cases mem_cons.mp inSorted with
  | inl isItem => rw [isItem]
  | inr inLater => exact (pairwise_cons.mp sorted).1 item inLater

theorem filter_sortByKey (key : α → Key) (items : List α) {keep : α → Bool} {value : Key}
    (alike : ∀ item, keep item = true → key item = value) :
    (sortByKey key items).filter keep = items.filter keep := by
  have sorted : (items.filter keep).Pairwise fun first second => key first ≤ key second := by
    apply pairwise_of_forall_mem_list
    intro first firstKept second secondKept
    rw [alike first (mem_filter.mp firstKept).2, alike second (mem_filter.mp secondKept).2]
  have kept : (items.filter keep).Sublist (sortByKey key items) :=
    sublist_insertionSort sorted filter_sublist
  have again := kept.filter keep
  rw [filter_filter, filter_congr fun item _ => Bool.and_self (keep item)] at again
  exact (again.eq_of_length ((sortByKey_perm key items).filter keep).length_eq.symm).symm

theorem Before.trans {first second third : α} (earlier : Before key tag first second)
    (later : Before key tag second third) : Before key tag first third := by
  rcases earlier with below | ⟨same, below⟩
  · rcases later with above | ⟨alike, -⟩
    · exact Or.inl (below.trans above)
    · exact Or.inl (alike ▸ below)
  · rcases later with above | ⟨alike, above⟩
    · exact Or.inl (same ▸ above)
    · exact Or.inr ⟨same.trans alike, below.trans above⟩

theorem Before.irrefl (item : α) : ¬Before key tag item item := by
  rintro (below | ⟨-, below⟩)
  · exact lt_irrefl _ below
  · exact lt_irrefl _ below

theorem Before.asymm (earlier : Before key tag first second) :
    ¬Before key tag second first :=
  fun later => Before.irrefl first (earlier.trans later)

theorem before_of_le (below : key first ≤ key second)
    (tagBelow : tag first < tag second) : Before key tag first second := by
  rcases below.lt_or_eq with strictly | same
  · exact Or.inl strictly
  · exact Or.inr ⟨same, tagBelow⟩

theorem Before.le (before : Before key tag first second) :
    key first ≤ key second := by
  rcases before with below | ⟨same, -⟩
  · exact below.le
  · exact same.le

theorem before_orderedInsert {item : α} {items : List α} (ordered : items.Pairwise (Before key tag))
    (first : ∀ other ∈ items, tag item < tag other) :
    (items.orderedInsert (fun left right => key left ≤ key right) item).Pairwise
      (Before key tag) := by
  induction items with
  | nil => exact pairwise_singleton _ _
  | cons head rest ih =>
    obtain ⟨beforeRest, restOrdered⟩ := pairwise_cons.mp ordered
    rw [orderedInsert_cons]
    split
    · next below =>
      apply pairwise_cons.mpr ⟨?_, ordered⟩
      intro other membership
      apply before_of_le ?_ (first other membership)
      rcases mem_cons.mp membership with rfl | inRest
      · exact below
      · exact below.trans (beforeRest other inRest).le
    · next above =>
      have inserted := ih restOrdered fun other inRest =>
        first other (mem_cons_of_mem head inRest)
      apply pairwise_cons.mpr ⟨?_, inserted⟩
      intro other membership
      rcases (mem_orderedInsert _).mp membership with rfl | inRest
      · exact Or.inl (not_le.mp above)
      · exact beforeRest other inRest

theorem before_sortByKey (increasing : items.Pairwise fun first second => tag first < tag second) :
    (sortByKey key items).Pairwise (Before key tag) := by
  induction items with
  | nil => exact List.Pairwise.nil
  | cons item rest ih =>
    obtain ⟨first, restIncreasing⟩ := pairwise_cons.mp increasing
    rw [sortByKey, insertionSort_cons]
    apply before_orderedInsert (ih restIncreasing)
    intro other membership
    exact first other (mem_sortByKey.mp membership)

theorem eq_sortByKey {items ordered : List α}
    (increasing : items.Pairwise fun first second => tag first < tag second)
    (isOrdered : ordered.Pairwise (Before key tag)) (same : ordered.Perm items) :
    ordered = sortByKey key items := by
  have perm : ordered.Perm (sortByKey key items) := same.trans (sortByKey_perm key items).symm
  exact perm.eq_of_pairwise (fun first second _ _ before after => absurd after before.asymm)
    isOrdered (before_sortByKey increasing)

end AutoLoop
