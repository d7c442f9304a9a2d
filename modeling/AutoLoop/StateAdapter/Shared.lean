import AutoLoop.Foundation.Future
import AutoLoop.StateAdapter.InMemory
import AutoLoop.StateAdapter.Postgres

/-!
# What concurrent calls share

The two backends, the counter of the evidence ledger and the host: the clock, the
environment variables and what becomes of each request to Postgres.  Every access
to any of them takes one moment of the host, so that time, environment and
failures can change between any two accesses.
-/

namespace AutoLoop.StateAdapter

open Postgres Knowledge

/-- What becomes of a request to Postgres.  A request that is not acknowledged
was committed, but the caller gets an error. -/
inductive PostgresOutcome where
  | completed
  | failed
  | unacknowledged
  deriving DecidableEq, Repr

/-- What the host answers at one access. -/
structure Moment where
  nowMs : UInt64
  /-- `AUTOLOOP_STORAGE_ROLLBACK_UNTIL_MS`, `…_TICKET` and `…_REASON`. -/
  rollbackUntilMs : Option String
  rollbackTicket : Option String
  rollbackReason : Option String
  outcome : PostgresOutcome
  deriving DecidableEq, Repr

structure Shared where
  repo : InMemory
  postgres : Postgres
  /-- `EVIDENCE_SEQ`. -/
  evidenceSeq : UInt64
  host : Nat → Moment
  tick : Nat

/-- The accesses to the shared state. -/
inductive StoreAccess where
  | clock (nowMs : UInt64)
  | rollbackWindow
  | drawSequence (drawn : UInt64)
  | repoGet (key : String)
  | repoList (start : String)
  | repoUpsert (key : String)
  | postgresGet (key : String) (outcome : PostgresOutcome)
  | postgresList (start : String) (outcome : PostgresOutcome)
  | postgresUpsert (key : String) (outcome : PostgresOutcome)
  | postgresTyped (table : String) (outcome : PostgresOutcome)
  deriving DecidableEq, Repr

/-- Where the row of a key can stand. -/
inductive Place where
  | repository
  | postgres
  deriving DecidableEq, Repr

/-- Whether a listing of a prefix sees a key. -/
def Place.sees (start key : String) : Place → Bool
  | .repository => Text.startsWith key start
  | .postgres => Sql.like key (start ++ "%")

namespace Shared

variable {α : Type} {shared : Shared}

/-- Empty backends, at the first moment of a host. -/
def started (host : Nat → Moment) : Shared where
  repo := InMemory.default
  postgres := new
  evidenceSeq := 1
  host
  tick := 0

/-- Empty backends on a host whose clock stands still and whose Postgres answers. -/
def empty : Shared := started fun _ => ⟨0, none, none, none, .completed⟩

def moment (shared : Shared) : Moment := shared.host shared.tick

def onHost (read : Moment → α) : Effect Shared α := fun shared =>
  (.ok (read shared.moment), { shared with tick := shared.tick + 1 })

def onRepo (action : Effect InMemory α) : Effect Shared α := fun shared =>
  ((action shared.repo).1, { shared with repo := (action shared.repo).2, tick := shared.tick + 1 })

/-- A request to Postgres: one that fails has no effect, one that is not
acknowledged has its effect and reports an error. -/
def onPostgres (action : Effect Postgres α) : Effect Shared α := fun shared =>
  match shared.moment.outcome with
  | .completed =>
    ((action shared.postgres).1,
      { shared with postgres := (action shared.postgres).2, tick := shared.tick + 1 })
  | .failed =>
    (.error "postgres: connection failed", { shared with tick := shared.tick + 1 })
  | .unacknowledged =>
    (.error "postgres: connection closed",
      { shared with postgres := (action shared.postgres).2, tick := shared.tick + 1 })

@[simp] theorem onHost_apply (read : Moment → α) (shared : Shared) :
    onHost read shared =
      (.ok (read shared.moment), { shared with tick := shared.tick + 1 }) := rfl

@[simp] theorem onRepo_apply (action : Effect InMemory α) (shared : Shared) :
    onRepo action shared = ((action shared.repo).1,
      { shared with repo := (action shared.repo).2, tick := shared.tick + 1 }) := rfl

section
variable (action : Effect Postgres α)

theorem onPostgres_of_completed (completed : shared.moment.outcome = .completed) :
    onPostgres action shared = ((action shared.postgres).1,
      { shared with postgres := (action shared.postgres).2, tick := shared.tick + 1 }) := by
  rw [onPostgres, completed]

theorem onPostgres_of_failed (failed : shared.moment.outcome = .failed) :
    onPostgres action shared =
      (.error "postgres: connection failed", { shared with tick := shared.tick + 1 }) := by
  rw [onPostgres, failed]

/-- Whatever becomes of a request, Postgres is left as it was or as the action
leaves it, and nothing else changes. -/
theorem onPostgres_postgres (shared : Shared) :
    ((onPostgres action shared).2.postgres = shared.postgres ∨
        (onPostgres action shared).2.postgres = (action shared.postgres).2) ∧
      (onPostgres action shared).2.repo = shared.repo := by
  rw [onPostgres]
  split
  · exact ⟨Or.inr rfl, rfl⟩
  · exact ⟨Or.inl rfl, rfl⟩
  · exact ⟨Or.inr rfl, rfl⟩

end

theorem onPostgres_eq_ok {action : Effect Postgres α} {value : α}
    (answered : (onPostgres action shared).1 = .ok value) :
    (action shared.postgres).1 = .ok value ∧
      (onPostgres action shared).2.postgres = (action shared.postgres).2 := by
  rw [onPostgres] at answered ⊢
  split at answered
  · exact ⟨answered, rfl⟩
  · cases answered
  · cases answered

/-! ## Rows, and statements that Postgres executes -/

section
variable (shared : Shared)

def row (key : String) : Place → Option KnowledgeRecord
  | .repository => shared.repo.knowledge.get key
  | .postgres => shared.postgres.kvRecords.get key

def rows (start : String) : Place → List KnowledgeRecord
  | .repository => shared.repo.knowledge.select (Text.startsWith · start)
  | .postgres => shared.postgres.kvRecords.select (Sql.like · (start ++ "%"))

/-- After some accesses that left both backends alone. -/
def after (accesses : Nat) : Shared :=
  { shared with tick := shared.tick + accesses }

/-- What the host answers at an access yet to come. -/
def later (accesses : Nat) : Moment :=
  shared.host (shared.tick + accesses)

/-- Whether Postgres executes a statement with these parameters after some more
accesses. -/
def serves (accesses : Nat) (texts : List String) : Bool :=
  (shared.later accesses).outcome = .completed && Storable texts

/-- A failed statement has no effect. -/
def Atomic : Prop :=
  ∀ tick, (shared.host tick).outcome ≠ .unacknowledged

end

section
variable (shared : Shared)

@[simp] theorem after_zero : shared.after 0 = shared := rfl

variable (first second : Nat)

@[simp] theorem after_after :
    (shared.after first).after second = shared.after (first + second) := by
  simp [after, Nat.add_assoc]

@[simp] theorem row_after (accesses : Nat) :
    (shared.after accesses).row = shared.row := by
  funext key place
  cases place <;> rfl

@[simp] theorem rows_after (accesses : Nat) :
    (shared.after accesses).rows = shared.rows := by
  funext start place
  cases place <;> rfl

@[simp] theorem later_after :
    (shared.after first).later second = shared.later (first + second) := by
  simp [later, after, Nat.add_assoc]

@[simp] theorem serves_after (texts : List String) :
    (shared.after first).serves second texts = shared.serves (first + second) texts := by
  simp [serves]

end

theorem Atomic.after {shared : Shared} (atomic : shared.Atomic) (accesses : Nat) :
    (shared.after accesses).Atomic := atomic

theorem atomic_empty : empty.Atomic := by
  intro tick unacknowledged
  cases unacknowledged

/-- A statement runs when Postgres executes it, and else fails and changes
nothing. -/
theorem onPostgres_apply (atomic : shared.Atomic) (texts : List String)
    (body : Unit → Effect Postgres α) :
    ∃ message, onPostgres (bindTexts texts >>= body) shared =
      if shared.serves 0 texts then
        ((body () shared.postgres).1,
          { shared with postgres := (body () shared.postgres).2, tick := shared.tick + 1 })
      else (.error message, shared.after 1) := by
  have sameMoment : shared.later 0 = shared.moment := rfl
  rw [serves, sameMoment]
  cases outcome : shared.moment.outcome with
  | unacknowledged => exact absurd outcome (atomic shared.tick)
  | failed => exact ⟨_, onPostgres_of_failed _ outcome⟩
  | completed =>
    rw [onPostgres_of_completed _ outcome]
    by_cases storable : Storable texts
    · rw [Effect.bind_of_ok (bindTexts_of_storable storable _)]
      exact ⟨"", by simp [storable]⟩
    · rw [bindTexts_of_not_storable storable]
      exact ⟨_, by simp [storable, after]; rfl⟩

/-- A statement that only reads changes nothing, whatever becomes of it. -/
theorem onPostgres_read (shared : Shared) (texts : List String) (body : Unit → Effect Postgres α)
    (reads : ∀ postgres, (body () postgres).2 = postgres) :
    ∃ message, onPostgres (bindTexts texts >>= body) shared =
      (if shared.serves 0 texts then (body () shared.postgres).1 else .error message,
        shared.after 1) := by
  have sameMoment : shared.later 0 = shared.moment := rfl
  rw [serves, sameMoment, onPostgres]
  by_cases storable : Storable texts
  · rw [Effect.bind_of_ok (bindTexts_of_storable storable _), reads]
    cases outcome : shared.moment.outcome with
    | completed => exact ⟨"", by simp [storable, after]⟩
    | failed => exact ⟨_, rfl⟩
    | unacknowledged => exact ⟨_, rfl⟩
  · rw [bindTexts_of_not_storable storable]
    cases outcome : shared.moment.outcome with
    | completed => exact ⟨_, by simp [storable, after]; rfl⟩
    | failed => exact ⟨_, rfl⟩
    | unacknowledged => exact ⟨_, rfl⟩

section Rows

variable {before after : Shared} {start key : String} {place : Place}

variable {record : KnowledgeRecord}

theorem key_of_row (found : before.row key place = some record) :
    record.key = key := by
  cases place with
  | repository => exact before.repo.knowledge.key_of_get found
  | postgres => exact before.postgres.kvRecords.key_of_get found

theorem mem_rows_iff :
    record ∈ before.rows start place ↔
      before.row record.key place = some record ∧ place.sees start record.key = true := by
  cases place with
  | repository => exact mem_select_iff
  | postgres => exact mem_select_iff

theorem increasing_rows (before : Shared) (start : String) (place : Place) :
    (before.rows start place).Pairwise fun first second => first.key < second.key := by
  cases place with
  | repository => exact before.repo.knowledge.increasing_select _
  | postgres => exact before.postgres.kvRecords.increasing_select _

theorem rows_eq_of_row
    (same : ∀ key, place.sees start key = true → after.row key place = before.row key place) :
    after.rows start place = before.rows start place := by
  cases place with
  | repository => exact select_eq_of_get same
  | postgres => exact select_eq_of_get same

theorem rows_perm_cons (fresh : before.row record.key place = none)
    (stored : after.row record.key place = some record)
    (seen : place.sees start record.key = true)
    (same : ∀ key, place.sees start key = true → key ≠ record.key →
      after.row key place = before.row key place) :
    (after.rows start place).Perm (record :: before.rows start place) := by
  cases place with
  | repository => exact select_perm_cons fresh stored seen same
  | postgres => exact select_perm_cons fresh stored seen same

end Rows

/-- The host is the same, time may have passed, and at most some rows differ. -/
structure ChangesOnly (changed : String → Place → Prop) (before after : Shared) : Prop where
  host : after.host = before.host
  elapsed : before.tick ≤ after.tick
  rows : ∀ key place, ¬changed key place → after.row key place = before.row key place

namespace ChangesOnly

variable {changed other : String → Place → Prop} {before middle after : Shared}

theorem of_after (before : Shared) (accesses : Nat) :
    ChangesOnly changed before (before.after accesses) :=
  ⟨rfl, Nat.le_add_right _ _, fun key place _ => by rw [row_after]⟩

theorem trans (first : ChangesOnly changed before middle)
    (second : ChangesOnly changed middle after) : ChangesOnly changed before after where
  host := second.host.trans first.host
  elapsed := first.elapsed.trans second.elapsed
  rows := fun key place unchanged =>
    (second.rows key place unchanged).trans (first.rows key place unchanged)

theorem mono (widen : ∀ key place, changed key place → other key place)
    (changes : ChangesOnly changed before after) : ChangesOnly other before after :=
  ⟨changes.host, changes.elapsed, fun key place unchanged =>
    changes.rows key place fun inChanged => unchanged (widen key place inChanged)⟩

theorem atomic (changes : ChangesOnly changed before after) (atomic : before.Atomic) :
    after.Atomic := by
  rw [Atomic, changes.host]
  exact atomic

end ChangesOnly

end Shared

end AutoLoop.StateAdapter
