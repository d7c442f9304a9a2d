import AutoLoop.Foundation.Json
import AutoLoop.StateAdapter.Shared

/-!
# The state store

`StateStore` over the in-memory repository and an optional Postgres mirror.  Every
method is an asynchronous computation whose accesses to the backends, the clock
and the environment are the points where other calls can run.
-/

namespace AutoLoop.StateAdapter

open Future Future Shared Json

inductive KnowledgeMirrorMode where
  | shadow
  | direct
  | enforced
  deriving DecidableEq, Repr

inductive KnowledgeReadPreference where
  | primaryStore
  | postgres
  deriving DecidableEq, Repr

structure KnowledgeMirrorConfig where
  mode : KnowledgeMirrorMode
  readPreference : KnowledgeReadPreference
  shadowReadRolloutPercent : Nat
  deriving DecidableEq, Repr

/-- The configuration of a store: its mirror, when it has one, and the hash of a
string under `DefaultHasher`, whose algorithm the standard library leaves open. -/
structure StateStore where
  mirror : Option KnowledgeMirrorConfig
  defaultHash : String → UInt64

structure ControlledRollbackWindow where
  untilMs : Nat
  ticket : String
  reason : String
  deriving DecidableEq, Repr

/-- A method of the store. -/
abbrev StoreCall (α : Type) : Type := Future Shared StoreAccess α

namespace StateStore

variable {α : Type}

/-! ## Accesses -/

/-- `shadow_now_ms`, and `current_time_ms` of the ledger. -/
def nowMs : StoreCall UInt64 :=
  call (fun shared => .clock shared.moment.nowMs) (onHost (·.nowMs))

def repoGet (key : String) : StoreCall (Option KnowledgeRecord) :=
  call (fun _ => .repoGet key) (onRepo (InMemory.getKnowledge key))

def repoList (start : String) : StoreCall (List KnowledgeRecord) :=
  call (fun _ => .repoList start) (onRepo (InMemory.listKnowledgeByPrefix start))

def repoUpsert (key value source : String) : StoreCall KnowledgeRecord :=
  call (fun _ => .repoUpsert key)
    (onRepo (InMemory.upsertKnowledge key value source))

def postgresGet (key : String) : StoreCall (Option KnowledgeRecord) :=
  call (fun shared => .postgresGet key shared.moment.outcome)
    (onPostgres (Postgres.getKnowledge key))

def postgresList (start : String) : StoreCall (List KnowledgeRecord) :=
  call (fun shared => .postgresList start shared.moment.outcome)
    (onPostgres (Postgres.listKnowledgeByPrefix start))

def postgresUpsert (key value source : String) : StoreCall KnowledgeRecord :=
  call (fun shared => .postgresUpsert key shared.moment.outcome)
    (onPostgres (Postgres.upsertKnowledge key value source))

/-- A request to one of the identity and billing tables. -/
def postgresTyped (table : String) (request : Effect Postgres α) : StoreCall α :=
  call (fun shared => .postgresTyped table shared.moment.outcome)
    (onPostgres request)

/-! ## The rollback window -/

def rollbackWindow (moment : Moment) : Option ControlledRollbackWindow := do
  let text ← moment.rollbackUntilMs
  let untilMs ← Text.parseUnsigned (2 ^ 64) text
  if moment.nowMs.toNat ≥ untilMs then none
  else
    some {
      untilMs
      ticket := moment.rollbackTicket.getD "manual-rollback-ticket-missing"
      reason := moment.rollbackReason.getD "temporary controlled rollback" }

def parseControlledRollbackWindow : StoreCall (Option ControlledRollbackWindow) :=
  call (fun _ => .rollbackWindow) (onHost rollbackWindow)

/-- The key of the audit record of a fallback write. -/
def rollbackEventKey (domain operation target : String) (atMs : UInt64) : String :=
  "storage:rollback:event:" ++ domain ++ ":" ++ operation ++ ":" ++ target ++ ":" ++
    atMs.toNat.repr

section
variable (domain operation target error : String)

def rollbackEventPayload (window : ControlledRollbackWindow) (atMs : UInt64) : String :=
  object [("at_ms", atMs.toNat.repr), ("domain", quote domain),
    ("error", quote error), ("operation", quote operation),
    ("reason", quote window.reason), ("target", quote target),
    ("ticket", quote window.ticket), ("until_ms", window.untilMs.repr)]

def recordControlledRollbackEvent :
    StoreCall Unit := do
  match ← parseControlledRollbackWindow with
  | none => return ()
  | some window =>
    let atMs ← nowMs
    let _ ← attempt (repoUpsert (rollbackEventKey domain operation target atMs)
      (rollbackEventPayload domain operation target error window atMs) "storage-rollback")
    return ()

/-- What a write does with an error of the mirror: outside a rollback window it
fails, inside it records the fallback and goes on. -/
def fallBack : StoreCall Unit := do
  if (← parseControlledRollbackWindow).isNone then
    fail error
  else
    recordControlledRollbackEvent domain operation target error

end

/-! ## Writing -/

/-- Whether a key is under the write-once rule. -/
def isEvidence (key : String) : Bool := Text.startsWith key "evidence:"

/-- The audit record of a fallback is not under the rule. -/
theorem isEvidence_rollbackEventKey (domain operation target : String) (atMs : UInt64) :
    isEvidence (rollbackEventKey domain operation target atMs) = false := by
  have storage : "storage:rollback:event:".toList = 's' :: "torage:rollback:event:".toList := by
    decide
  have evidence : "evidence:".toList = 'e' :: "vidence:".toList := by
    decide
  rw [Bool.eq_false_iff, ne_eq, isEvidence, Text.startsWith_iff]
  unfold rollbackEventKey
  simp only [String.toList_append, storage, evidence, List.cons_append, List.cons_prefix_cons]
  rintro ⟨isE, -⟩
  exact absurd isE (by decide)

def wormViolation (existing value key : String) (origin : String) : String :=
  "evidence WORM violation: " ++ origin ++
    (if existing ≠ value then "update attempt on existing key '"
      else "replay/duplicate write on key '") ++ key ++ "'"

section
variable (store : StateStore)

def enforceEvidenceWormWrite (key value : String) : StoreCall Unit := do
  if !isEvidence key then
    return ()
  match ← repoGet key with
  | some existing => fail (wormViolation existing.value value key "")
  | none =>
    match store.mirror with
    | none => return ()
    | some _ =>
      -- An error of the probe counts as an absent record.
      match ← attempt (postgresGet key) with
      | .ok (some existing) =>
        fail (wormViolation existing.value value key "mirror ")
      | _ => return ()

/-- What follows the check of a write. -/
def writeKnowledge (key value source : String) :
    StoreCall KnowledgeRecord :=
  match store.mirror with
  | none => repoUpsert key value source
  | some _ => do
      match ← attempt (postgresUpsert key value source) with
      | .ok written => return written
      | .error error =>
        fallBack "knowledge" "upsert_knowledge" key error
        repoUpsert key value source

def upsertKnowledge (key value source : String) :
    StoreCall KnowledgeRecord := do
  enforceEvidenceWormWrite store key value
  writeKnowledge store key value source

/-- `upsert_json_knowledge` of a value with a text form, or without one. -/
def upsertJsonKnowledge (key : String)
    (value : Except String String) (source : String) : StoreCall KnowledgeRecord :=
  match value with
  | .ok text => upsertKnowledge store key text source
  | .error message => fail message

/-! ## Reading -/

def stablePercentBucket (value : String) : Nat :=
  (store.defaultHash value).toNat % 100

def effectiveShadowReadPreference (mirror : KnowledgeMirrorConfig)
    (target : String) : KnowledgeReadPreference :=
  if mirror.mode ≠ .shadow then mirror.readPreference
  else if mirror.readPreference ≠ .primaryStore then mirror.readPreference
  else if mirror.shadowReadRolloutPercent = 0 then .primaryStore
  else if store.stablePercentBucket target < mirror.shadowReadRolloutPercent then .postgres
  else .primaryStore

def getKnowledge (key : String) :
    StoreCall (Option KnowledgeRecord) := do
  let primary ← repoGet key
  match store.mirror with
  | none => return primary
  | some mirror =>
    match store.effectiveShadowReadPreference mirror key with
    | .primaryStore => return primary
    | .postgres =>
      match ← attempt (postgresGet key) with
      | .ok (some record) => return some record
      | .ok none => return if mirror.mode = .enforced then none else primary
      | .error error =>
        if mirror.mode = .shadow then return primary else fail error

def listKnowledgeByPrefix (start : String) :
    StoreCall (List KnowledgeRecord) := do
  let primary ← repoList start
  match store.mirror with
  | none => return primary
  | some mirror =>
    match store.effectiveShadowReadPreference mirror start with
    | .primaryStore => return primary
    | .postgres =>
      match ← attempt (postgresList start) with
      | .ok records => return records
      | .error error =>
        if mirror.mode = .shadow then return primary else fail error

end

/-! ## Without a mirror -/

section Unmirrored

variable {store : StateStore} (unmirrored : store.mirror = none)
include unmirrored

/-- A write to a key outside the write-once rule succeeds and puts the record in
the repository. -/
theorem run_upsertKnowledge_plain {key : String} (plain : isEvidence key = false)
    (value source : String) (shared : Shared) :
    ∃ id nextId, (store.upsertKnowledge key value source).run shared =
      (.ok ⟨id, key, value, source⟩, { shared with
          repo := { shared.repo with
            knowledge := shared.repo.knowledge.put ⟨id, key, value, source⟩, nextId }
          tick := shared.tick + 1 }) := by
  obtain ⟨id, nextId, ran, -⟩ := InMemory.upsertKnowledge_apply key value source shared.repo
  refine ⟨id, nextId, ?_⟩
  simp [upsertKnowledge, enforceEvidenceWormWrite, writeKnowledge, unmirrored, plain,
    repoUpsert, ran, Effect.bind_apply]

theorem run_upsertJsonKnowledge_plain {key : String} (plain : isEvidence key = false)
    (text source : String) (shared : Shared) :
    ∃ id later, (store.upsertJsonKnowledge key (.ok text) source).run shared =
        (.ok ⟨id, key, text, source⟩, later) ∧
      later.repo.knowledge = shared.repo.knowledge.put ⟨id, key, text, source⟩ ∧
      later.host = shared.host ∧ later.tick = shared.tick + 1 := by
  obtain ⟨id, nextId, ran⟩ := run_upsertKnowledge_plain unmirrored plain text source shared
  exact ⟨id, _, ran, rfl, rfl, rfl⟩

theorem run_getKnowledge_unmirrored (key : String) (shared : Shared) :
    (store.getKnowledge key).run shared =
      (.ok (shared.repo.knowledge.get key), { shared with tick := shared.tick + 1 }) := by
  simp [getKnowledge, unmirrored, repoGet, Effect.bind_apply]

theorem run_listKnowledgeByPrefix_unmirrored (start : String) (shared : Shared) :
    (store.listKnowledgeByPrefix start).run shared =
      (.ok (shared.repo.knowledge.select (Text.startsWith · start)),
        { shared with tick := shared.tick + 1 }) := by
  simp [listKnowledgeByPrefix, unmirrored, repoList, Effect.bind_apply]

end Unmirrored

end StateStore

end AutoLoop.StateAdapter
