import AutoLoop.Foundation.Effect
import AutoLoop.Foundation.HashMap
import AutoLoop.Foundation.SqlLike
import AutoLoop.StateAdapter.Records

/-!
# The Postgres adapter

The tables behind `PostgresDb` and the statements that its methods run on them,
each in a transaction of its own.  A statement with a parameter that the `text`
type cannot hold is rejected by the server, and the transaction has no effect.
The event log and the evidence references are left out: no modelled method reads
them.
-/

namespace AutoLoop.StateAdapter

structure Postgres where
  kvRecords : Knowledge
  permissionGrants : HashMap String (List String)
  /-- The rows of `schedule_events` in the order of their identifiers. -/
  scheduleEvents : List ScheduleEvent
  /-- The next value of the sequence behind the `BIGSERIAL` column. -/
  nextEventId : Nat
  agentStates : HashMap String (String × Option String)
  /-- The rows of the identity and billing tables in the order of their creation:
  table, key columns and payload. -/
  typedRecords : List (String × List String × String)

/-- `format!("{p:?}").to_lowercase()`. -/
def PermissionAction.encoded : PermissionAction → String
  | .read => "read"
  | .write => "write"
  | .dispatch => "dispatch"
  | .admin => "admin"

theorem PermissionAction.encoded_injective : Function.Injective PermissionAction.encoded := by
  intro first second same
  cases first <;> cases second <;> first | rfl | exact absurd same (by decide)

namespace Postgres

def new : Postgres :=
  ⟨Knowledge.empty, HashMap.empty, [], 1, HashMap.empty, []⟩

/-- The `text` type holds every character but the null character. -/
def Storable (texts : List String) : Prop :=
  ∀ text ∈ texts, '\x00' ∉ text.toList

instance (texts : List String) : Decidable (Storable texts) :=
  inferInstanceAs (Decidable (∀ text ∈ texts, _))

/-- Bind the text parameters of a statement. -/
def bindTexts (texts : List String) : Effect Postgres Unit :=
  if Storable texts then pure ()
  else Effect.fail "invalid byte sequence for encoding \"UTF8\": 0x00"

/-- `INSERT … ON CONFLICT (key) DO UPDATE … RETURNING key, value, source`. -/
def upsertKnowledge (key value source : String) : Effect Postgres KnowledgeRecord := do
  bindTexts [key, value, source]
  let record : KnowledgeRecord := { id := 0, key, value, source }
  Effect.modify fun postgres => { postgres with kvRecords := postgres.kvRecords.put record }
  return record

/-- `SELECT key, value, source … WHERE key = $1`. -/
def getKnowledge (key : String) : Effect Postgres (Option KnowledgeRecord) := do
  bindTexts [key]
  fun postgres => (.ok (postgres.kvRecords.get key), postgres)

/-- `SELECT key, value, source … WHERE key LIKE ($1 || '%') ORDER BY key`. -/
def listKnowledgeByPrefix (start : String) : Effect Postgres (List KnowledgeRecord) := do
  bindTexts [start]
  fun postgres => (.ok (postgres.kvRecords.select (Sql.like · (start ++ "%"))), postgres)

/-- `INSERT … ON CONFLICT(actor_id) DO UPDATE SET permissions = EXCLUDED.permissions`. -/
def grantPermissions (actorId : String) (permissions : List PermissionAction) :
    Effect Postgres PermissionGrant := do
  bindTexts [actorId]
  Effect.modify fun postgres => { postgres with
    permissionGrants := postgres.permissionGrants.insert actorId
      (permissions.map PermissionAction.encoded) }
  return { actorId, permissions }

def hasPermission (actorId : String) (action : PermissionAction) : Effect Postgres Bool := do
  bindTexts [actorId]
  fun postgres =>
    (.ok ((postgres.permissionGrants.get actorId).any (·.contains action.encoded)), postgres)

/-- `nextval` of the sequence, which ends at the largest `bigint`. -/
def nextval : Effect Postgres UInt64 := fun postgres =>
  if postgres.nextEventId < 2 ^ 63 then
    (.ok (UInt64.ofNat postgres.nextEventId),
      { postgres with nextEventId := postgres.nextEventId + 1 })
  else
    (.error "nextval: reached maximum value of sequence", postgres)

def createScheduleEvent (sessionId topic toolName payload actorId : String) :
    Effect Postgres ScheduleEvent := do
  bindTexts [sessionId, topic, toolName, payload, actorId]
  let id ← nextval
  let event : ScheduleEvent := {
    id, sessionId, topic, toolName, payload, actorId, status := "queued" }
  Effect.modify fun postgres => { postgres with
    scheduleEvents := postgres.scheduleEvents ++ [event] }
  return event

/-- `UPDATE … SET status = $1 WHERE id = $3`, rolled back unless one row was
updated. -/
def updateScheduleStatus (eventId : UInt64) (status : String) : Effect Postgres Unit := do
  bindTexts [status]
  fun postgres =>
    if (postgres.scheduleEvents.filter (·.id = eventId)).length ≠ 1 then
      (.error ("schedule event " ++ eventId.toNat.repr ++ " not found"), postgres)
    else
      (.ok (), { postgres with
        scheduleEvents := postgres.scheduleEvents.map fun event =>
          if event.id = eventId then { event with status } else event })

/-- `SELECT … WHERE session_id = $1 ORDER BY id`. -/
def listScheduleEvents (sessionId : String) : Effect Postgres (List ScheduleEvent) := do
  bindTexts [sessionId]
  fun postgres => (.ok (postgres.scheduleEvents.filter (·.sessionId = sessionId)), postgres)

def upsertAgentState (sessionId lastUserMessage : String)
    (lastAssistantMessage : Option String) : Effect Postgres AgentState := do
  bindTexts (sessionId :: lastUserMessage :: lastAssistantMessage.toList)
  Effect.modify fun postgres => { postgres with
    agentStates := postgres.agentStates.insert sessionId
      (lastUserMessage, lastAssistantMessage) }
  return { id := 0, sessionId, lastUserMessage, lastAssistantMessage }

def getAgentState (sessionId : String) : Effect Postgres (Option AgentState) := do
  bindTexts [sessionId]
  fun postgres =>
    (.ok ((postgres.agentStates.get sessionId).map fun row =>
      { id := 0, sessionId, lastUserMessage := row.1, lastAssistantMessage := row.2 }),
      postgres)

def typedRow (postgres : Postgres) (table : String) (columns : List String) :
    Option (String × List String × String) :=
  postgres.typedRecords.find? fun row => row.1 = table && row.2.1 = columns

section
variable (table : String) (columns : List String)

/-- `INSERT … ON CONFLICT(…) DO UPDATE SET payload = EXCLUDED.payload` on one of
the identity and billing tables. -/
def upsertTyped (payload : String) :
    Effect Postgres Unit := do
  bindTexts (payload :: columns)
  Effect.modify fun postgres => { postgres with
    typedRecords :=
      if (postgres.typedRow table columns).isSome then
        postgres.typedRecords.map fun row =>
          if row.1 = table && row.2.1 = columns then (table, columns, payload) else row
      else postgres.typedRecords ++ [(table, columns, payload)] }

/-- `INSERT … ON CONFLICT DO NOTHING`, with an error when no row was inserted. -/
def insertTyped (payload conflict : String) :
    Effect Postgres Unit := do
  bindTexts (payload :: columns)
  fun postgres =>
    if (postgres.typedRow table columns).isSome then (.error conflict, postgres)
    else (.ok (), { postgres with
      typedRecords := postgres.typedRecords ++ [(table, columns, payload)] })

def getTyped : Effect Postgres (Option String) := do
  bindTexts columns
  fun postgres => (.ok ((postgres.typedRow table columns).map (·.2.2)), postgres)

/-- The payloads of the rows whose first key columns are given, in the order of
creation. -/
def listTyped : Effect Postgres (List String) := do
  bindTexts columns
  fun postgres =>
    (.ok ((postgres.typedRecords.filter fun row =>
      row.1 = table && columns.isPrefixOf row.2.1).map (·.2.2)), postgres)

end

/-! ## What a statement does -/

@[simp] theorem bindTexts_of_storable {texts : List String} (storable : Storable texts)
    (postgres : Postgres) : bindTexts texts postgres = (.ok (), postgres) := by
  rw [bindTexts, if_pos storable]
  rfl

/-- A statement with a parameter outside the `text` type is rejected and changes
nothing. -/
theorem bindTexts_of_not_storable {α : Type} {texts : List String}
    (notStorable : ¬Storable texts) (next : Unit → Effect Postgres α) (postgres : Postgres) :
    (bindTexts texts >>= next) postgres =
      (.error "invalid byte sequence for encoding \"UTF8\": 0x00", postgres) := by
  rw [bindTexts, if_neg notStorable]
  rfl

theorem getKnowledge_of_storable {key : String} (storable : Storable [key]) (postgres : Postgres) :
    getKnowledge key postgres = (.ok (postgres.kvRecords.get key), postgres) :=
  Effect.bind_of_ok (bindTexts_of_storable storable postgres)

theorem nextval_of_lt {postgres : Postgres} (inRange : postgres.nextEventId < 2 ^ 63) :
    nextval postgres = (.ok (UInt64.ofNat postgres.nextEventId),
      { postgres with nextEventId := postgres.nextEventId + 1 }) :=
  if_pos inRange

theorem nextval_of_not_lt {postgres : Postgres} (ended : ¬postgres.nextEventId < 2 ^ 63) :
    nextval postgres = (.error "nextval: reached maximum value of sequence", postgres) :=
  if_neg ended

end Postgres

end AutoLoop.StateAdapter
