import AutoLoop.StateAdapter.StoreRuns
import AutoLoop.StateAdapter.WriteOutlines

/-!
# What a call that succeeds has done

Reads leave the rows alone and are answered from them.  A write that succeeds has put its
row somewhere, and leaves the rows of other keys as they are; this holds whatever the
mirror is and whatever becomes of the requests to it.
-/

namespace AutoLoop.StateAdapter

open StateStore Future

variable {α : Type} {shared : Shared}

/-! ## Reads -/

/-- A call that changes no row. -/
def OnlyReads (call : StoreCall α) : Prop :=
  ∀ shared, ∃ answer accesses, call.run shared = (answer, shared.after accesses)

/-- The store, with these rows, gives the value as its answer. -/
def Answers (shared : Shared) (call : StoreCall α) (value : α) : Prop :=
  ∃ accesses, (call.run (shared.after accesses)).1 = .ok value

theorem OnlyReads.answers {call : StoreCall α} (onlyReads : OnlyReads call) {accesses : Nat}
    {value : α} {after : Shared} (ran : call.run (shared.after accesses) = (.ok value, after)) :
    Answers shared call value ∧ ∃ later, after = shared.after later := by
  constructor
  · exact ⟨accesses, by rw [ran]⟩
  · obtain ⟨answer, more, reads⟩ := onlyReads (shared.after accesses)
    rw [ran, Shared.after_after] at reads
    exact ⟨accesses + more, congrArg Prod.snd reads⟩

theorem OnlyReads.bind {β : Type} {first : StoreCall α} {next : α → StoreCall β}
    (firstReads : OnlyReads first) (nextReads : ∀ value, OnlyReads (next value)) :
    OnlyReads (first >>= next) := by
  intro shared
  obtain ⟨answer, accesses, ran⟩ := firstReads shared
  cases answer with
  | error message => exact ⟨.error message, accesses, run_bind_of_error ran⟩
  | ok value =>
    obtain ⟨final, more, ranNext⟩ := nextReads value (shared.after accesses)
    rw [Shared.after_after] at ranNext
    exact ⟨final, accesses + more, (run_bind_of_ok ran).trans ranNext⟩

theorem onlyReads_done (answer : Except String α) :
    OnlyReads (Future.done answer : StoreCall α) :=
  fun shared => ⟨answer, 0, rfl⟩

theorem onlyReads_getKnowledge (store : StateStore) (key : String) :
    OnlyReads (store.getKnowledge key) := by
  intro shared
  obtain ⟨answer, accesses, ran, -⟩ := run_getKnowledge store key shared
  exact ⟨answer, accesses, ran⟩

theorem onlyReads_getFallback {Record : Type} (table : TypedTable Record)
    (columns : List String) : OnlyReads (table.getFallback columns) :=
  fun shared => ⟨_, 1, rfl⟩

theorem onlyReads_get {Record : Type} (table : TypedTable Record) (store : StateStore)
    (columns : List String) : OnlyReads (table.get store columns) := by
  rw [TypedTable.get]
  cases store.mirror with
  | none => exact onlyReads_getFallback table columns
  | some mirror =>
    refine OnlyReads.bind ?_ fun answer => ?_
    · intro shared
      obtain ⟨message, ran⟩ := shared.onPostgres_read columns
        (fun _ postgres => (.ok ((postgres.typedRow table.relation columns).map (·.2.2)),
          postgres)) fun _ => rfl
      have called : (postgresTyped table.relation
          (Postgres.getTyped table.relation columns)).run shared = _ := ran
      exact ⟨_, 1, run_attempt_of called⟩
    · cases answer with
      | ok payload => exact onlyReads_done _
      | error message =>
        simp only
        split
        · exact onlyReads_getFallback table columns
        · exact onlyReads_done _

/-! ## Writes -/

theorem row_of_standsBy {key : String} {call : StoreCall α} (stands : StandsBy key call)
    (shared : Shared) (place : Place) :
    (call.run shared).2.row key place = shared.row key place := by
  suffices ∀ past shared, (bystander key).Conforms (fun _ _ _ => True) past call shared →
      (call.run shared).2.row key place = shared.row key place from
    this [] shared (stands [] shared)
  clear stands shared
  induction call with
  | done answer =>
    intro past shared _
    rfl
  | access observe change next ih =>
    intro past shared conforms
    have step := (conforms shared trivial).2 trivial
    exact (ih shared _ _ step.2).trans (step.1 place)

theorem row_of_postgresUpsert {key value source : String} {record : KnowledgeRecord}
    {after : Shared} (ran : (postgresUpsert key value source).run shared = (.ok record, after)) :
    (after.row key .postgres).map (·.value) = some value := by
  have called : Shared.onPostgres (Postgres.upsertKnowledge key value source) shared =
      (.ok record, after) := ran
  obtain ⟨accepted, isAfter⟩ := Shared.onPostgres_eq_ok (congrArg Prod.fst called)
  rw [called] at isAfter
  rw [Shared.row, isAfter]
  by_cases storable : Postgres.Storable [key, value, source]
  · rw [Postgres.upsertKnowledge, Effect.bind_of_ok (Postgres.bindTexts_of_storable storable _)]
    exact congrArg (Option.map (·.value)) (Knowledge.get_put_self _ ⟨0, key, value, source⟩)
  · have rejected : Postgres.upsertKnowledge key value source shared.postgres =
        (.error _, shared.postgres) := Postgres.bindTexts_of_not_storable storable _ _
    rw [rejected] at accepted
    cases accepted

/-- A write that succeeds has put its value in one of the two backends. -/
theorem row_of_upsertKnowledge {store : StateStore} {key value source : String}
    {record : KnowledgeRecord} {after : Shared}
    (ran : (store.upsertKnowledge key value source).run shared = (.ok record, after)) :
    ∃ place, (after.row key place).map (·.value) = some value := by
  obtain ⟨-, middle, -, wrote⟩ := parts_of_run_bind ran
  have inRepository : ∀ {before : Shared},
      (repoUpsert key value source).run before = (.ok record, after) →
        ∃ place, (after.row key place).map (·.value) = some value := by
    intro before ranRepo
    obtain ⟨_, final, ranHere, stored, -⟩ :=
      run_repoUpsert key value source before
    rw [ranHere] at ranRepo
    cases ranRepo
    exact ⟨.repository, stored⟩
  rw [writeKnowledge] at wrote
  cases mirrored : store.mirror with
  | none =>
    rw [mirrored] at wrote
    exact inRepository wrote
  | some mirror =>
    rw [mirrored] at wrote
    obtain ⟨answer, written, ranAttempt, wrote⟩ := parts_of_run_bind wrote
    cases answer with
    | ok stored =>
      rw [run_attempt, Effect.attempt_apply] at ranAttempt
      have ranPostgres : (postgresUpsert key value source).run middle =
          (.ok stored, written) := by
        have answered := congrArg Prod.fst ranAttempt
        have world := congrArg Prod.snd ranAttempt
        exact Prod.ext (Except.ok.inj answered) world
      cases wrote
      exact ⟨.postgres, row_of_postgresUpsert ranPostgres⟩
    | error message =>
      obtain ⟨-, fallen, -, wrote⟩ := parts_of_run_bind wrote
      exact inRepository wrote

end AutoLoop.StateAdapter
