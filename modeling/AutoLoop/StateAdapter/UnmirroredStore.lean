import AutoLoop.StateAdapter.StateStore

/-!
# What calls of a store without a mirror leave alone

A listing changes no row, and a write changes at most the row of its key.
-/

namespace AutoLoop.StateAdapter

open Shared (ChangesOnly)
open Effect

variable {α β : Type} {changed : String → Place → Prop}

theorem changesOnly_bind {first : StoreCall α} {next : α → StoreCall β}
    (kept : Keeps (ChangesOnly changed) first.run)
    (keptNext : ∀ value, Keeps (ChangesOnly changed) (next value).run) :
    Keeps (ChangesOnly changed) (first >>= next).run := by
  have composes : ∀ first second third : Shared, ChangesOnly changed first second →
      ChangesOnly changed second third → ChangesOnly changed first third :=
    fun _ _ _ => ChangesOnly.trans
  rw [Future.run_bind]
  exact kept.bind composes keptNext

theorem changesOnly_done (answer : Except String α) :
    Keeps (ChangesOnly changed) (Future.done answer : StoreCall α).run :=
  fun shared => ChangesOnly.of_after shared 0

theorem changesOnly_nowMs : Keeps (ChangesOnly changed) StateStore.nowMs.run :=
  fun shared => ChangesOnly.of_after shared 1

namespace StateStore

variable {store : StateStore} (unmirrored : store.mirror = none)
include unmirrored

theorem changesOnly_listKnowledgeByPrefix (start : String) :
    Keeps (ChangesOnly changed) (store.listKnowledgeByPrefix start).run := by
  intro shared
  rw [run_listKnowledgeByPrefix_unmirrored unmirrored]
  exact ChangesOnly.of_after shared 1

theorem changesOnly_enforceEvidenceWormWrite (key value : String) :
    Keeps (ChangesOnly changed) (store.enforceEvidenceWormWrite key value).run := by
  rw [enforceEvidenceWormWrite]
  split
  · exact fun shared => ChangesOnly.of_after shared 0
  · apply changesOnly_bind
    · exact fun shared => ChangesOnly.of_after shared 1
    · intro found
      cases found with
      | some existing => exact fun shared => ChangesOnly.of_after shared 0
      | none =>
        rw [unmirrored]
        exact fun shared => ChangesOnly.of_after shared 0

theorem changesOnly_upsertKnowledge {key : String} (isChanged : changed key .repository)
    (value source : String) :
    Keeps (ChangesOnly changed) (store.upsertKnowledge key value source).run := by
  apply changesOnly_bind (changesOnly_enforceEvidenceWormWrite unmirrored key value)
  intro checked shared
  rw [writeKnowledge, unmirrored]
  obtain ⟨id, nextId, ran, -⟩ := InMemory.upsertKnowledge_apply key value source shared.repo
  rw [repoUpsert, Future.run_call, Shared.onRepo_apply, ran]
  refine ⟨rfl, Nat.le_succ _, ?_⟩
  intro other place unchanged
  cases place with
  | postgres => rfl
  | repository =>
    apply Knowledge.get_put_of_ne
    intro isKey
    exact unchanged (isKey ▸ isChanged)

theorem changesOnly_upsertJsonKnowledge {key : String} (isChanged : changed key .repository)
    (text source : String) :
    Keeps (ChangesOnly changed) (store.upsertJsonKnowledge key (.ok text) source).run :=
  changesOnly_upsertKnowledge unmirrored isChanged text source

end StateStore

end AutoLoop.StateAdapter
