import AutoLoop.StateAdapter.StoreRuns

/-!
# Reads after completed writes

A write of the store lands in one of the two backends and a read is answered by
one of them, each by rules of its own.  A read sees the last completed write of a
key when it is answered by the backend in which that write landed.
-/

namespace AutoLoop.StateAdapter

/-! ## Sessions of one store -/

open StateStore

inductive KnowledgeOp where
  | upsert (key value source : String)
  | upsertJson (key : String) (value : Except String String) (source : String)
  | get (key : String)
  | list (start : String)
  deriving DecidableEq

inductive KnowledgeAnswer where
  | written (answer : Except String KnowledgeRecord)
  | got (answer : Except String (Option KnowledgeRecord))
  | listed (answer : Except String (List KnowledgeRecord))

/-- The shared state with what is known of earlier writes. -/
structure KnowledgeSession where
  shared : Shared
  /-- The value of the last write of a key, when that write succeeded. -/
  completed : String → Option String
  /-- Where the last successful write of a key landed. -/
  place : String → Place

namespace KnowledgeSession

/-- Before any write. -/
def start (shared : Shared) : KnowledgeSession where
  shared
  completed := fun _ => none
  place := fun _ => .repository

def afterWrite (store : StateStore) (session : KnowledgeSession) (key value source : String)
    (ran : Except String KnowledgeRecord × Shared) : KnowledgeSession where
  shared := ran.2
  completed := Function.update session.completed key (ran.1.toOption.map fun _ => value)
  place := Function.update session.place key
    ((store.landing key value source session.shared).getD (session.place key))

/-- A read that succeeds sees the completed writes. -/
def Consistent (session : KnowledgeSession) : KnowledgeOp → KnowledgeAnswer → Prop
  | .get key, .got (.ok found) =>
    ∀ value, session.completed key = some value → found.map (·.value) = some value
  | .list start, .listed (.ok records) =>
    ∀ key value, session.completed key = some value → Text.startsWith key start = true →
      ∃ record, records.filter (·.key = key) = [record] ∧ record.value = value
  | _, _ => True

end KnowledgeSession

/-- A store as a component whose operations run one after another. -/
def StateStore.sessions (store : StateStore) (shared : Shared) :
    Component KnowledgeSession KnowledgeOp KnowledgeAnswer where
  initial := KnowledgeSession.start shared
  step := fun session op =>
    match op with
    | .upsert key value source =>
      let ran := (store.upsertKnowledge key value source).run session.shared
      (.written ran.1, session.afterWrite store key value source ran)
    | .upsertJson key value source =>
      let ran := (store.upsertJsonKnowledge key value source).run session.shared
      (.written ran.1,
        match value with
        | .ok text => session.afterWrite store key text source ran
        -- Without a text form nothing is written.
        | .error _ => { session with shared := ran.2 })
    | .get key =>
      let ran := (store.getKnowledge key).run session.shared
      (.got ran.1, { session with shared := ran.2 })
    | .list start =>
      let ran := (store.listKnowledgeByPrefix start).run session.shared
      (.listed ran.1, { session with shared := ran.2 })

namespace KnowledgeSession

section
variable (store : StateStore) (session : KnowledgeSession)

/-- The audit record of a write does not replace a completed write. -/
def Spared (key value source : String) :
    Prop :=
  ∀ audit, store.auditKey key value source session.shared = some audit →
    session.completed audit ≠ none → session.place audit = .postgres

/-- A read goes to the place where the last successful write of the key landed, and
a prefix that goes to Postgres matches the keys that start with it. -/
def Aligned : KnowledgeOp → Prop
  | .upsert key value source => session.Spared store key value source
  | .upsertJson key value source =>
    ∀ text, value = .ok text → session.Spared store key text source
  | .get key => ∀ place, store.answering key session.shared = some place →
      session.completed key ≠ none → session.place key = place
  | .list start => ∀ place, store.listing start session.shared = some place →
      ∀ key, session.completed key ≠ none → Text.startsWith key start = true →
        session.place key = place ∧
          (place = .postgres → Sql.like key (start ++ "%") = true)

end

structure Holds (session : KnowledgeSession) : Prop where
  atomic : session.shared.Atomic
  rows : ∀ key value, session.completed key = some value →
    (session.shared.row key (session.place key)).map (·.value) = some value

theorem holds_start {shared : Shared} (atomic : shared.Atomic) : (start shared).Holds where
  atomic := atomic
  rows := by
    intro key value written
    cases written

variable {session : KnowledgeSession}

theorem Holds.of_changes (holds : session.Holds) {changed : String → Place → Prop}
    {final : Shared} (changes : session.shared.ChangesOnly changed final)
    (spared : ∀ key, session.completed key ≠ none → ¬changed key (session.place key)) :
    { session with shared := final }.Holds where
  atomic := changes.atomic holds.atomic
  rows := by
    intro key value written
    simp only at written ⊢
    rw [changes.rows key (session.place key) (spared key (by simp [written]))]
    exact holds.rows key value written

theorem Holds.of_after (holds : session.Holds) (accesses : Nat) :
    { session with shared := session.shared.after accesses }.Holds := by
  have changes : session.shared.ChangesOnly (fun _ _ => False) (session.shared.after accesses) :=
    .of_after session.shared accesses
  exact holds.of_changes changes fun _ _ => id

theorem Holds.afterWrite {store : StateStore} (holds : session.Holds)
    {key value source : String} (spared : session.Spared store key value source) :
    (session.afterWrite store key value source
      ((store.upsertKnowledge key value source).run session.shared)).Holds := by
  obtain ⟨answer, final, ran, succeeds, lands, changes⟩ :=
    run_upsertKnowledge store holds.atomic key value source
  rw [ran]
  refine ⟨changes.atomic holds.atomic, ?_⟩
  intro other held written
  simp only [KnowledgeSession.afterWrite] at written ⊢
  by_cases same : other = key
  · subst same
    rw [Function.update_self] at written ⊢
    cases answer with
    | error message => cases written
    | ok record =>
      cases written
      obtain ⟨place, landed⟩ := Option.isSome_iff_exists.mp succeeds.symm
      rw [landed]
      exact lands place landed
  · rw [Function.update_of_ne same] at written ⊢
    rw [changes.rows other (session.place other)]
    · exact holds.rows other held written
    · rintro (⟨own, -⟩ | ⟨audit, inRepository⟩)
      · exact same own
      · have inPostgres := spared other audit (by simp [written])
        rw [inRepository] at inPostgres
        cases inPostgres

/-- An aligned operation answers from the completed writes and keeps them in place. -/
theorem Holds.step {store : StateStore} {shared : Shared} (holds : session.Holds)
    {op : KnowledgeOp} (aligned : session.Aligned store op) :
    session.Consistent op ((store.sessions shared).step session op).1 ∧
      ((store.sessions shared).step session op).2.Holds := by
  cases op with
  | upsert key value source => exact ⟨trivial, holds.afterWrite aligned⟩
  | upsertJson key value source =>
    cases value with
    | ok text => exact ⟨trivial, holds.afterWrite (aligned text rfl)⟩
    | error message => exact ⟨trivial, holds⟩
  | get key =>
    obtain ⟨answer, accesses, ran, finds⟩ := run_getKnowledge store key session.shared
    simp only [StateStore.sessions, ran]
    refine ⟨?_, holds.of_after accesses⟩
    cases answer with
    | error message => trivial
    | ok found =>
      intro value written
      obtain ⟨place, answered, rfl⟩ := finds found rfl
      rw [← aligned place answered (by simp [written])]
      exact holds.rows key value written
  | list start =>
    obtain ⟨answer, ran, lists⟩ := run_listKnowledgeByPrefix store start session.shared
    simp only [StateStore.sessions, ran]
    refine ⟨?_, holds.of_after _⟩
    cases answer with
    | error message => trivial
    | ok records =>
      intro key value written starts
      obtain ⟨place, answered, rfl⟩ := (lists records).mp rfl
      obtain ⟨samePlace, matched⟩ := aligned place answered key (by simp [written]) starts
      have inPlace := holds.rows key value written
      rw [samePlace] at inPlace
      obtain ⟨record, found, isValue⟩ := Option.map_eq_some_iff.mp inPlace
      refine ⟨record, ?_, isValue⟩
      cases place with
      | repository => exact Knowledge.filter_select found starts
      | postgres => exact Knowledge.filter_select found (matched rfl)

end KnowledgeSession

/-- In a session of aligned operations, reads see the completed writes: whatever the
mirror, the rollback window and the failures of Postgres. -/
theorem reads_see_completed_writes (store : StateStore) (shared : Shared)
    (atomic : shared.Atomic) (ops : List KnowledgeOp)
    (aligned : (store.sessions shared).EachStep (fun session op => session.Aligned store op)
      (.start shared) ops) :
    (store.sessions shared).EachStep
      (fun session op => session.Consistent op ((store.sessions shared).step session op).1)
      (.start shared) ops := by
  apply aligned.of_invariant (KnowledgeSession.holds_start atomic)
  intro session op holds aligned
  exact holds.step aligned

/-- A store whose reads and writes both go to Postgres. -/
def mirroredStore : StateStore :=
  ⟨some ⟨.enforced, .postgres, 0⟩, fun _ => 0⟩

/-- A store that writes to Postgres and reads from the repository. -/
def shadowedStore : StateStore :=
  ⟨some ⟨.shadow, .primaryStore, 0⟩, fun _ => 0⟩

theorem mirroredStore_sees_completed_writes :
    (mirroredStore.sessions .empty).EachStep
      (fun session op => session.Consistent op ((mirroredStore.sessions .empty).step session op).1)
      (.start .empty) [.upsert "k" "v" "s", .get "k", .list ""] := by
  apply reads_see_completed_writes mirroredStore Shared.empty Shared.atomic_empty
  refine ⟨?_, ?_, ?_, trivial⟩
  · intro audit leaves
    cases leaves
  · intro place answered written
    cases answered
    rfl
  · intro place listed key written starts
    cases listed
    by_cases same : key = "k"
    · subst same
      exact ⟨rfl, fun _ => by decide⟩
    · exact absurd (Function.update_of_ne same _ _) written

/-- A completed write is not seen when it went to Postgres and the read goes to the
repository. -/
theorem shadowedStore_misses_completed_write :
    ¬ ∀ (store : StateStore) (shared : Shared), shared.Atomic → ∀ ops : List KnowledgeOp,
      (store.sessions shared).EachStep
        (fun session op => session.Consistent op ((store.sessions shared).step session op).1)
        (.start shared) ops := by
  intro always
  have each := always shadowedStore Shared.empty Shared.atomic_empty
    [.upsert "k" "v" "s", .get "k"]
  have found : (none : Option KnowledgeRecord).map (·.value) = some "v" := each.2.1 "v" rfl
  cases found

end AutoLoop.StateAdapter
