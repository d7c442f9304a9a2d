import AutoLoop.StateAdapter.StateStore

/-!
# What the methods of the store do

Which of the two backends answers a read or a listing, in which of them a write
lands, and what each method leaves unchanged, from the state before the call: the
mode and the preference of the mirror, the rollback window, the outcome of each
request and the rows that are there.
-/

namespace AutoLoop.StateAdapter

open Future Shared Effect Knowledge Shared.ChangesOnly

namespace StateStore

variable {store : StateStore} {shared : Shared}

/-! ## Where a read is answered -/

def answering (store : StateStore) (key : String) (shared : Shared) : Option Place :=
  match store.mirror with
  | none => some .repository
  | some mirror =>
    match store.effectiveShadowReadPreference mirror key with
    | .primaryStore => some .repository
    | .postgres =>
      if shared.serves 1 [key] then
        if (shared.row key .postgres).isSome || mirror.mode = .enforced then some .postgres
        else some .repository
      else if mirror.mode = .shadow then some .repository else none

/-- The place that answers a listing of a prefix; none when the listing fails. -/
def listing (store : StateStore) (start : String) (shared : Shared) : Option Place :=
  match store.mirror with
  | none => some .repository
  | some mirror =>
    match store.effectiveShadowReadPreference mirror start with
    | .primaryStore => some .repository
    | .postgres =>
      if shared.serves 1 [start] then some .postgres
      else if mirror.mode = .shadow then some .repository else none

/-- How many accesses a listing takes. -/
def listAccesses (store : StateStore) (start : String) : Nat :=
  match store.mirror with
  | none => 1
  | some mirror =>
    match store.effectiveShadowReadPreference mirror start with
    | .primaryStore => 1
    | .postgres => 2

theorem run_repoGet (key : String) (shared : Shared) :
    (repoGet key).run shared = (.ok (shared.row key .repository), shared.after 1) := rfl

theorem run_repoList (start : String) (shared : Shared) :
    (repoList start).run shared = (.ok (shared.rows start .repository), shared.after 1) := rfl

theorem run_postgresGet (key : String) (shared : Shared) :
    ∃ message, (attempt (postgresGet key)).run shared =
      (.ok (if shared.serves 0 [key] then .ok (shared.row key .postgres) else .error message),
        shared.after 1) := by
  obtain ⟨message, ran⟩ := shared.onPostgres_read [key]
    (fun _ postgres => (.ok (postgres.kvRecords.get key), postgres)) fun _ => rfl
  refine ⟨message, ?_⟩
  have called : (postgresGet key).run shared = _ := ran
  rw [run_attempt, attempt_apply, called]
  rfl

theorem run_postgresList (start : String) (shared : Shared) :
    ∃ message, (attempt (postgresList start)).run shared =
      (.ok (if shared.serves 0 [start] then .ok (shared.rows start .postgres)
        else .error message), shared.after 1) := by
  obtain ⟨message, ran⟩ := shared.onPostgres_read [start] (fun _ postgres =>
    (.ok (postgres.kvRecords.select (Sql.like · (start ++ "%"))), postgres)) fun _ => rfl
  refine ⟨message, ?_⟩
  have called : (postgresList start).run shared = _ := ran
  rw [run_attempt, attempt_apply, called]
  rfl

section
variable (store : StateStore)

theorem run_getKnowledge (key : String) (shared : Shared) :
    ∃ answer accesses, (store.getKnowledge key).run shared = (answer, shared.after accesses) ∧
      ∀ found, answer = .ok found →
        ∃ place, store.answering key shared = some place ∧ found = shared.row key place := by
  rw [getKnowledge, run_bind, bind_of_ok (run_repoGet key shared), answering]
  cases mirrored : store.mirror with
  | none =>
    refine ⟨_, 1, rfl, ?_⟩
    rintro found ⟨⟩
    exact ⟨.repository, rfl, rfl⟩
  | some mirror =>
    cases preferred : store.effectiveShadowReadPreference mirror key with
    | primaryStore =>
      simp only [preferred]
      refine ⟨_, 1, rfl, ?_⟩
      rintro found ⟨⟩
      exact ⟨.repository, rfl, rfl⟩
    | postgres =>
      obtain ⟨message, ran⟩ := run_postgresGet key (shared.after 1)
      simp only [serves_after, row_after, after_after] at ran
      simp only [preferred, run_bind, bind_of_ok ran]
      cases served : shared.serves 1 [key] with
      | true =>
        cases inPostgres : shared.row key .postgres with
        | some record =>
          refine ⟨_, 2, rfl, ?_⟩
          rintro found ⟨⟩
          exact ⟨.postgres, by simp, inPostgres.symm⟩
        | none =>
          refine ⟨_, 2, rfl, ?_⟩
          rintro found ⟨⟩
          by_cases enforced : mirror.mode = .enforced
          · exact ⟨.postgres, by simp [enforced], by simp [enforced, inPostgres]⟩
          · exact ⟨.repository, by simp [enforced], by simp [enforced]⟩
      | false =>
        by_cases shadow : mirror.mode = .shadow
        · simp only [shadow]
          refine ⟨_, 2, rfl, ?_⟩
          rintro found ⟨⟩
          exact ⟨.repository, rfl, rfl⟩
        · simp only [shadow]
          refine ⟨_, 2, rfl, ?_⟩
          rintro found ⟨⟩

theorem run_listKnowledgeByPrefix (start : String) (shared : Shared) :
    ∃ answer, (store.listKnowledgeByPrefix start).run shared =
        (answer, shared.after (store.listAccesses start)) ∧
      ∀ records, answer = .ok records ↔
        ∃ place, store.listing start shared = some place ∧
          shared.rows start place = records := by
  rw [listKnowledgeByPrefix, run_bind, bind_of_ok (run_repoList start shared),
    listing, listAccesses]
  cases mirrored : store.mirror with
  | none => exact ⟨_, rfl, fun records => by simp⟩
  | some mirror =>
    cases preferred : store.effectiveShadowReadPreference mirror start with
    | primaryStore =>
      simp only [preferred]
      exact ⟨_, rfl, fun records => by simp⟩
    | postgres =>
      obtain ⟨message, ran⟩ := run_postgresList start (shared.after 1)
      simp only [serves_after, rows_after, after_after] at ran
      simp only [preferred, run_bind, bind_of_ok ran]
      cases served : shared.serves 1 [start] with
      | true => exact ⟨_, rfl, fun records => by simp⟩
      | false =>
        by_cases shadow : mirror.mode = .shadow
        · simp only [shadow]
          exact ⟨_, rfl, fun records => by simp⟩
        · simp only [shadow]
          exact ⟨_, rfl, fun records => by simp⟩

/-! ## Where a write lands -/

/-- Whether the write-once rule lets a write through. -/
def admits (key : String) (shared : Shared) : Bool :=
  !isEvidence key || ((shared.row key .repository).isNone &&
    (store.mirror.isNone || !shared.serves 1 [key] || (shared.row key .postgres).isNone))

/-- How many accesses the write-once rule takes to let a write through. -/
def probes (key : String) : Nat :=
  if isEvidence key then (if store.mirror.isSome then 2 else 1) else 0

/-- The place where a write that was let through lands; none when it fails. -/
def writePlace (key value source : String) (shared : Shared) :
    Option Place :=
  if store.mirror.isNone then some .repository
  else if shared.serves 0 [key, value, source] then some .postgres
  else if (rollbackWindow (shared.later 1)).isSome then some .repository
  else none

def landing (key value source : String) (shared : Shared) :
    Option Place :=
  if store.admits key shared then
    store.writePlace key value source (shared.after (store.probes key))
  else none

end

/-- The key of the audit record that falling back leaves. -/
def fallBackKey (domain operation target : String) (shared : Shared) : Option String :=
  if (rollbackWindow (shared.later 0)).isSome && (rollbackWindow (shared.later 1)).isSome then
    some (rollbackEventKey domain operation target (shared.later 2).nowMs)
  else none

section
variable (store : StateStore) (key value source : String) (shared : Shared)

/-- The key of the audit record that a write that was let through leaves. -/
def writeAudit :
    Option String :=
  if store.mirror.isNone || shared.serves 0 [key, value, source] then none
  else fallBackKey "knowledge" "upsert_knowledge" key (shared.after 1)

def auditKey :
    Option String :=
  if store.admits key shared then
    store.writeAudit key value source (shared.after (store.probes key))
  else none

end

theorem run_enforceEvidenceWormWrite (store : StateStore) (key value : String) (shared : Shared) :
    ∃ answer accesses,
      (store.enforceEvidenceWormWrite key value).run shared = (answer, shared.after accesses) ∧
      if store.admits key shared then answer = .ok () ∧ accesses = store.probes key
      else answer.isOk = false := by
  rw [enforceEvidenceWormWrite, admits, probes]
  cases evidence : isEvidence key with
  | false => exact ⟨.ok (), 0, rfl, rfl, rfl⟩
  | true =>
    simp only [Bool.not_true, Bool.false_eq_true, if_false, Bool.false_or, if_true]
    rw [run_bind, bind_of_ok (run_repoGet key shared)]
    cases inRepository : shared.row key .repository with
    | some existing => exact ⟨_, 1, rfl, rfl⟩
    | none =>
      cases mirrored : store.mirror with
      | none => exact ⟨.ok (), 1, rfl, rfl, rfl⟩
      | some mirror =>
        obtain ⟨message, ran⟩ := run_postgresGet key (shared.after 1)
        simp only [serves_after, row_after, after_after] at ran
        simp only [run_bind, bind_of_ok ran]
        cases served : shared.serves 1 [key] with
        | false => exact ⟨.ok (), 2, rfl, rfl, rfl⟩
        | true =>
          cases inPostgres : shared.row key .postgres with
          | none => exact ⟨.ok (), 2, rfl, rfl, rfl⟩
          | some existing => exact ⟨_, 2, rfl, rfl⟩

theorem run_repoUpsert (key value source : String) (shared : Shared) :
    ∃ record final, (repoUpsert key value source).run shared = (.ok record, final) ∧
      (final.row key .repository).map (·.value) = some value ∧
      shared.ChangesOnly (fun other place => other = key ∧ place = .repository) final := by
  obtain ⟨id, nextId, ran, -⟩ := InMemory.upsertKnowledge_apply key value source shared.repo
  have called : (repoUpsert key value source).run shared = _ := onRepo_apply _ shared
  rw [called, ran]
  refine ⟨_, _, rfl, ?_, rfl, Nat.le_succ _, ?_⟩
  · simp [row, get_put]
  · intro other place unchanged
    cases place with
    | postgres => rfl
    | repository =>
      apply get_put_of_ne
      intro same
      exact unchanged ⟨same, rfl⟩

theorem run_postgresUpsert (atomic : shared.Atomic) (key value source : String) :
    ∃ answer final, (attempt (postgresUpsert key value source)).run shared =
        (.ok answer, final) ∧
      if shared.serves 0 [key, value, source] then
        answer.isOk = true ∧ (final.row key .postgres).map (·.value) = some value ∧
          shared.ChangesOnly (fun other place => other = key ∧ place = .postgres) final
      else answer.isOk = false ∧ final = shared.after 1 := by
  let record : KnowledgeRecord := ⟨0, key, value, source⟩
  obtain ⟨message, ran⟩ := onPostgres_apply atomic [key, value, source] fun _ postgres =>
    (.ok record, { postgres with kvRecords := postgres.kvRecords.put record })
  have called : (postgresUpsert key value source).run shared = _ := ran
  rw [run_attempt, attempt_apply, called]
  refine ⟨_, _, rfl, ?_⟩
  cases served : shared.serves 0 [key, value, source] with
  | false => exact ⟨rfl, rfl⟩
  | true =>
    refine ⟨rfl, ?_, rfl, Nat.le_succ _, ?_⟩
    · exact congrArg (Option.map (·.value)) (get_put_self _ _)
    · intro other place unchanged
      cases place with
      | repository => rfl
      | postgres =>
        apply get_put_of_ne
        intro same
        exact unchanged ⟨same, rfl⟩

theorem run_fallBack (domain operation target error : String) (shared : Shared) :
    ∃ answer final, (fallBack domain operation target error).run shared = (answer, final) ∧
      answer.isOk = (rollbackWindow (shared.later 0)).isSome ∧
      shared.ChangesOnly (fun other place =>
        fallBackKey domain operation target shared = some other ∧ place = .repository) final := by
  have readsWindow : ∀ shared, parseControlledRollbackWindow.run shared =
      (.ok (rollbackWindow (shared.later 0)), shared.after 1) := fun _ => rfl
  rw [fallBack, run_bind, bind_of_ok (readsWindow shared), fallBackKey]
  cases first : rollbackWindow (shared.later 0) with
  | none => exact ⟨_, _, rfl, rfl, .of_after shared 1⟩
  | some window =>
    simp only [Option.isNone_some, Bool.false_eq_true, if_false]
    rw [recordControlledRollbackEvent, run_bind,
      bind_of_ok (readsWindow (shared.after 1)), later_after,
      after_after]
    cases second : rollbackWindow (shared.later 1) with
    | none => exact ⟨_, _, rfl, rfl, .of_after shared 2⟩
    | some window =>
      let audit := rollbackEventKey domain operation target (shared.later 2).nowMs
      have readsClock : nowMs.run (shared.after 2) =
        (.ok (shared.later 2).nowMs, shared.after 3) := rfl
      obtain ⟨record, final, ran, -, changes⟩ := run_repoUpsert audit
        (rollbackEventPayload domain operation target error window (shared.later 2).nowMs)
        "storage-rollback" (shared.after 3)
      simp only [run_bind, bind_of_ok readsClock, run_attempt]
      rw [bind_of_ok (attempt_apply _ _), ran]
      refine ⟨_, _, rfl, rfl, ?_⟩
      apply (of_after shared 3).trans
      apply changes.mono
      rintro other place ⟨rfl, rfl⟩
      exact ⟨rfl, rfl⟩

section
variable (store : StateStore) (atomic : shared.Atomic) (key value source : String)
include atomic

theorem run_writeKnowledge :
    ∃ answer final, (store.writeKnowledge key value source).run shared = (answer, final) ∧
      answer.isOk = (store.writePlace key value source shared).isSome ∧
      (∀ place, store.writePlace key value source shared = some place →
        (final.row key place).map (·.value) = some value) ∧
      shared.ChangesOnly (fun other place =>
        (other = key ∧ store.writePlace key value source shared = some place) ∨
          (store.writeAudit key value source shared = some other ∧ place = .repository))
        final := by
  rw [writeKnowledge, writePlace, writeAudit]
  cases mirrored : store.mirror with
  | none =>
    obtain ⟨record, final, ran, holds, changes⟩ := run_repoUpsert key value source shared
    refine ⟨_, _, ran, rfl, ?_, ?_⟩
    · rintro place ⟨⟩
      exact holds
    · apply changes.mono
      rintro other place ⟨isKey, rfl⟩
      exact Or.inl ⟨isKey, rfl⟩
  | some mirror =>
    obtain ⟨answer, middle, ran, ended⟩ := run_postgresUpsert atomic key value source
    simp only [run_bind, bind_of_ok ran]
    cases served : shared.serves 0 [key, value, source] with
    | true =>
      rw [served, if_pos rfl] at ended
      obtain ⟨succeeded, holds, changes⟩ := ended
      cases answer with
      | error message => cases succeeded
      | ok written =>
        refine ⟨_, _, rfl, rfl, ?_, ?_⟩
        · rintro place ⟨⟩
          exact holds
        · apply changes.mono
          rintro other place ⟨isKey, rfl⟩
          exact Or.inl ⟨isKey, rfl⟩
    | false =>
      simp only [served, Bool.false_eq_true, if_false] at ended
      obtain ⟨failed, rfl⟩ := ended
      cases answer with
      | ok written => cases failed
      | error message =>
        obtain ⟨fellBack, audited, ranBack, allowed, auditChanges⟩ :=
          run_fallBack "knowledge" "upsert_knowledge" key message (shared.after 1)
        rw [later_after] at allowed
        cases fellBack with
        | error refused =>
          simp only [run_bind, bind_of_error ranBack]
          have noWindow : (rollbackWindow (shared.later 1)).isSome = false :=
            allowed.symm
          refine ⟨_, _, rfl, by simp [noWindow]; rfl, by simp [noWindow], ?_⟩
          apply (of_after shared 1).trans
          exact auditChanges.mono fun other place audit => Or.inr audit
        | ok done =>
          obtain ⟨record, final, ranLast, holds, changes⟩ :=
            run_repoUpsert key value source audited
          simp only [run_bind, bind_of_ok ranBack, ranLast]
          have inWindow : (rollbackWindow (shared.later 1)).isSome = true :=
            allowed.symm
          simp only [inWindow]
          refine ⟨_, _, rfl, rfl, ?_, ?_⟩
          · rintro place ⟨⟩
            exact holds
          · apply (of_after shared 1).trans
            apply Shared.ChangesOnly.trans
            · exact auditChanges.mono fun other place audit => Or.inr audit
            · apply changes.mono
              rintro other place ⟨isKey, rfl⟩
              exact Or.inl ⟨isKey, rfl⟩

theorem run_upsertKnowledge :
    ∃ answer final, (store.upsertKnowledge key value source).run shared = (answer, final) ∧
      answer.isOk = (store.landing key value source shared).isSome ∧
      (∀ place, store.landing key value source shared = some place →
        (final.row key place).map (·.value) = some value) ∧
      shared.ChangesOnly (fun other place =>
        (other = key ∧ store.landing key value source shared = some place) ∨
          (store.auditKey key value source shared = some other ∧ place = .repository))
        final := by
  obtain ⟨checked, accesses, ran, ended⟩ := run_enforceEvidenceWormWrite store key value shared
  rw [upsertKnowledge, run_bind, landing, auditKey]
  cases admitted : store.admits key shared with
  | false =>
    rw [admitted] at ended
    cases checked with
    | ok passed => cases ended
    | error message =>
      rw [bind_of_error ran]
      refine ⟨_, _, rfl, rfl, ?_, .of_after shared accesses⟩
      intro place landed
      cases landed
  | true =>
    rw [admitted] at ended
    obtain ⟨rfl, rfl⟩ := ended
    obtain ⟨answer, final, ranWrite, succeeds, lands, changes⟩ :=
      run_writeKnowledge store (atomic.after (store.probes key)) key value source
    rw [bind_of_ok ran, ranWrite]
    exact ⟨_, _, rfl, succeeds, lands, (of_after shared _).trans changes⟩

end

end StateStore

end AutoLoop.StateAdapter
