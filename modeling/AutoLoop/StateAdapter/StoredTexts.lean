import AutoLoop.Foundation.TableRows
import AutoLoop.StateAdapter.StateStore

/-!
# The texts of a store

The text under each key of the knowledge table, and the calls of a store without a mirror
that put rows of texts into it.
-/

namespace AutoLoop

/-- Texts neither of which begins with the other go on to different texts. -/
theorem Text.append_ne_append {first second : String}
    (apart : ¬first.toList <+: second.toList ∧ ¬second.toList <+: first.toList)
    (rest other : String) : first ++ rest ≠ second ++ other := by
  intro same
  have spelled := congrArg String.toList same
  rw [String.toList_append, String.toList_append] at spelled
  have ofFirst : first.toList <+: second.toList ++ other.toList := ⟨rest.toList, spelled⟩
  rcases List.prefix_or_prefix_of_prefix ofFirst (List.prefix_append _ _) with isFirst | isSecond
  · exact apart.1 isFirst
  · exact apart.2 isSecond

namespace StateAdapter

variable {α β : Type}

namespace Knowledge

/-- The text under each key. -/
def texts (knowledge : Knowledge) : Table String String where
  rows := knowledge.table.rows.map fun row => (row.1, row.2.value)
  increasing := List.pairwise_map.mpr knowledge.table.increasing

variable (knowledge : Knowledge)

theorem get_texts (key : String) :
    knowledge.texts.get key = (knowledge.get key).map (·.value) := by
  rw [Table.get, texts, List.find?_map, get, Table.get, Option.map_map, Option.map_map]
  rfl

theorem texts_put (record : KnowledgeRecord) :
    (knowledge.put record).texts = knowledge.texts.insert record.key record.value := by
  apply Table.ext_get
  intro key
  rw [get_texts, get_put, Table.get_insert, get_texts]
  split <;> rfl

theorem select_texts (keep : String → Bool) :
    knowledge.texts.select keep =
      (knowledge.select keep).map fun record => (record.key, record.value) := by
  rw [Table.select, texts, List.filter_map, select, Table.select, List.map_map]
  apply List.map_congr_left
  rintro ⟨key, record⟩ membership
  have found := Table.mem_rows_iff.mp (List.mem_of_mem_filter membership)
  exact Prod.ext (knowledge.keyed key record found).symm rfl

end Knowledge

theorem isEvidence_append {start : String}
    (apart : ¬start.toList <+: "evidence:".toList ∧ ¬"evidence:".toList <+: start.toList)
    (rest : String) : StateStore.isEvidence (start ++ rest) = false := by
  rw [Bool.eq_false_iff, ne_eq, StateStore.isEvidence, Text.startsWith_iff_exists]
  rintro ⟨other, same⟩
  exact Text.append_ne_append apart rest other same

/-- From every state of the backends the call succeeds and puts the rows. -/
def Writes (call : StoreCall α) (rows : List (String × String)) : Prop :=
  ∀ shared, ∃ value later, call.run shared = (.ok value, later) ∧
    later.repo.knowledge.texts = shared.repo.knowledge.texts.insertAll rows

namespace Writes

variable {call : StoreCall α} {next : α → StoreCall β} {rows others : List (String × String)}

theorem done (value : α) : Writes (Future.done (.ok value)) [] :=
  fun shared => ⟨value, shared, rfl, rfl⟩

theorem bind (first : Writes call rows) (second : ∀ value, Writes (next value) others) :
    Writes (call >>= next) (rows ++ others) := by
  intro shared
  obtain ⟨value, middle, ran, put⟩ := first shared
  obtain ⟨answer, later, ranNext, putNext⟩ := second value middle
  refine ⟨answer, later, ?_, ?_⟩
  · rw [Future.run_bind, Effect.bind_of_ok ran, ranNext]
  · rw [putNext, put, Table.insertAll_append]

variable {store : StateStore} (unmirrored : store.mirror = none)
include unmirrored

theorem upsertKnowledge {key : String} (plain : StateStore.isEvidence key = false)
    (value source : String) : Writes (store.upsertKnowledge key value source) [(key, value)] := by
  intro shared
  obtain ⟨id, nextId, ran⟩ :=
    StateStore.run_upsertKnowledge_plain unmirrored plain value source shared
  exact ⟨_, _, ran, Knowledge.texts_put _ _⟩

theorem upsertJsonKnowledge {key : String} (plain : StateStore.isEvidence key = false)
    (text source : String) :
    Writes (store.upsertJsonKnowledge key (.ok text) source) [(key, text)] :=
  upsertKnowledge unmirrored plain text source

end Writes

end StateAdapter

end AutoLoop
