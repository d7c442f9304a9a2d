import Mathlib.Algebra.Ring.Nat
import Mathlib.Data.List.Perm.Basic
import Mathlib.Data.List.Flatten

/-!
# Lists with copies

Lists in which each item stands one or more times in a row.  Selecting, reversing and taking
a first part go through to the items.
-/

namespace AutoLoop

open List

variable {α : Type}

/-- Each item at least once, and as many times again as is asked for. -/
def withCopies (again : α → Nat) (items : List α) : List α :=
  items.flatMap fun item => List.replicate (again item + 1) item

variable {again : α → Nat}

@[simp] theorem withCopies_nil : withCopies again [] = [] := rfl

theorem withCopies_cons (item : α) (items : List α) :
    withCopies again (item :: items) =
      List.replicate (again item + 1) item ++ withCopies again items := rfl

theorem filter_withCopies (keep : α → Bool) (items : List α) :
    (withCopies again items).filter keep = withCopies again (items.filter keep) := by
  induction items with
  | nil => rfl
  | cons item items ih =>
    rw [withCopies_cons, filter_append, ih, filter_cons]
    split
    · next kept => rw [filter_replicate_of_pos kept, withCopies_cons]
    · next dropped => rw [filter_replicate_of_neg dropped, nil_append]

theorem reverse_withCopies (items : List α) :
    (withCopies again items).reverse = withCopies again items.reverse := by
  rw [withCopies, reverse_flatMap]
  simp only [Function.comp_def, reverse_replicate]
  rfl

theorem takeWhile_withCopies (goesOn : α → Bool) (items : List α) :
    (withCopies again items).takeWhile goesOn = withCopies again (items.takeWhile goesOn) := by
  induction items with
  | nil => rfl
  | cons item items ih =>
    rw [withCopies_cons, takeWhile_cons]
    cases goes : goesOn item with
    | true =>
      rw [takeWhile_append_of_pos fun other membership => ?_, ih]
      · rfl
      · rw [eq_of_mem_replicate membership, goes]
    | false =>
      rw [replicate_succ, cons_append, takeWhile_cons, goes]
      rfl

theorem length_withCopies (items : List α) :
    (withCopies again items).length = items.length + (items.map again).sum := by
  induction items with
  | nil => rfl
  | cons item items ih =>
    rw [withCopies_cons, length_append, length_replicate, ih, length_cons, map_cons, sum_cons]
    omega

theorem mem_withCopies {item : α} {items : List α} :
    item ∈ withCopies again items ↔ item ∈ items := by
  simp only [withCopies, mem_flatMap, mem_replicate]
  constructor
  · rintro ⟨other, membership, -, rfl⟩
    exact membership
  · exact fun membership => ⟨item, membership, Nat.succ_ne_zero _, rfl⟩

theorem pairwise_withCopies {related : α → α → Prop} (reflexive : ∀ item, related item item)
    {items : List α} (ordered : items.Pairwise related) :
    (withCopies again items).Pairwise related := by
  induction items with
  | nil => exact List.Pairwise.nil
  | cons head items ih =>
    obtain ⟨first, rest⟩ := pairwise_cons.mp ordered
    rw [withCopies_cons]
    refine pairwise_append.mpr ⟨?_, ih rest, ?_⟩
    · exact pairwise_replicate.mpr (Or.inr (reflexive head))
    · intro item isHead other isOther
      rw [eq_of_mem_replicate isHead]
      exact first other (mem_withCopies.mp isOther)

theorem single_of_nodup {items : List α} (nodup : (withCopies again items).Nodup) :
    ∀ item ∈ items, again item = 0 := by
  induction items with
  | nil =>
    intro item membership
    cases membership
  | cons head items ih =>
    rw [withCopies_cons] at nodup
    obtain ⟨headNodup, restNodup, -⟩ := nodup_append.mp nodup
    intro item membership
    rcases mem_cons.mp membership with rfl | inItems
    · have atMostOne := nodup_replicate.mp headNodup
      omega
    · exact ih restNodup item inItems

theorem withCopies_of_single {items : List α} (single : ∀ item ∈ items, again item = 0) :
    withCopies again items = items := by
  induction items with
  | nil => rfl
  | cons head items ih =>
    obtain ⟨headSingle, restSingle⟩ := forall_mem_cons.mp single
    rw [withCopies_cons, headSingle, ih restSingle]
    rfl

theorem withCopies_perm (twice : α → Prop) [DecidablePred twice] (items : List α) :
    (withCopies (fun item => if twice item then 1 else 0) items).Perm
      (items ++ items.filter twice) := by
  induction items with
  | nil => exact List.Perm.refl []
  | cons item items ih =>
    rw [withCopies_cons, filter_cons]
    by_cases again : twice item
    · simp only [again, if_true, decide_true]
      exact ((ih.cons item).trans perm_middle.symm).cons item
    · simp only [again, if_false, decide_false, Bool.false_eq_true]
      exact ih.cons item

end AutoLoop
