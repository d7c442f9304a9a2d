import AutoLoop.Foundation.Effect
import AutoLoop.Foundation.HashMap
import AutoLoop.StateAdapter.Records

/-!
# The in-memory repository

`InMemorySpacetimeRepository`: maps behind one lock and one counter that hands
out the identifiers of all kinds of records.
-/

namespace AutoLoop.StateAdapter

/-- `InMemoryState` together with the counter beside it. -/
structure InMemory where
  knowledge : Knowledge
  permissions : HashMap String (Finset PermissionAction)
  events : HashMap UInt64 ScheduleEvent
  eventsBySession : HashMap String (List UInt64)
  agentState : HashMap String AgentState
  nextId : UInt64

namespace InMemory

def default : InMemory :=
  ⟨Knowledge.empty, HashMap.empty, HashMap.empty, HashMap.empty, HashMap.empty, 0⟩

/-- `fetch_add(1) + 1` on the counter, which wraps around. -/
def allocId : Effect InMemory UInt64 := fun memory =>
  (.ok (memory.nextId + 1), { memory with nextId := memory.nextId + 1 })

def createScheduleEvent (sessionId topic toolName payload actorId : String) :
    Effect InMemory ScheduleEvent := do
  let id ← allocId
  let event : ScheduleEvent := {
    id, sessionId, topic, toolName, payload, actorId, status := "queued" }
  Effect.modify fun memory => { memory with
    events := memory.events.insert id event
    eventsBySession := memory.eventsBySession.insert sessionId
      ((memory.eventsBySession.get sessionId).getD [] ++ [id]) }
  return event

def updateScheduleStatus (eventId : UInt64) (status : String) : Effect InMemory Unit :=
  fun memory =>
    match memory.events.get eventId with
    | none => (.error ("event " ++ eventId.toNat.repr ++ " not found"), memory)
    | some event =>
      (.ok (), { memory with events := memory.events.insert eventId { event with status } })

def listScheduleEvents (sessionId : String) : Effect InMemory (List ScheduleEvent) :=
  fun memory =>
    (.ok (((memory.eventsBySession.get sessionId).getD []).filterMap memory.events.get), memory)

/-- The identifier of an existing record, or else a new one. -/
def idOr (held : Option UInt64) : Effect InMemory UInt64 :=
  match held with
  | some id => pure id
  | none => allocId

def upsertAgentState (sessionId lastUserMessage : String)
    (lastAssistantMessage : Option String) : Effect InMemory AgentState := fun memory =>
  (do
    let id ← idOr ((memory.agentState.get sessionId).map (·.id))
    let snapshot : AgentState := { id, sessionId, lastUserMessage, lastAssistantMessage }
    Effect.modify fun memory => { memory with
      agentState := memory.agentState.insert sessionId snapshot }
    return snapshot : Effect InMemory AgentState) memory

def getAgentState (sessionId : String) : Effect InMemory (Option AgentState) :=
  fun memory => (.ok (memory.agentState.get sessionId), memory)

def upsertKnowledge (key value source : String) : Effect InMemory KnowledgeRecord :=
  fun memory =>
    (do
      let id ← idOr ((memory.knowledge.get key).map (·.id))
      let record : KnowledgeRecord := { id, key, value, source }
      Effect.modify fun memory => { memory with knowledge := memory.knowledge.put record }
      return record : Effect InMemory KnowledgeRecord) memory

def getKnowledge (key : String) : Effect InMemory (Option KnowledgeRecord) :=
  fun memory => (.ok (memory.knowledge.get key), memory)

/-- The records whose keys start with the text, sorted by key: the rows of the
table stand in key order already. -/
def listKnowledgeByPrefix (start : String) : Effect InMemory (List KnowledgeRecord) :=
  fun memory => (.ok (memory.knowledge.select (Text.startsWith · start)), memory)

def grantPermissions (actorId : String) (permissions : List PermissionAction) :
    Effect InMemory PermissionGrant := fun memory =>
  let entry := permissions.foldl (fun entry permission => insert permission entry)
    ((memory.permissions.get actorId).getD ∅)
  (.ok { actorId, permissions := entry.val },
    { memory with permissions := memory.permissions.insert actorId entry })

def hasPermission (actorId : String) (action : PermissionAction) : Effect InMemory Bool :=
  fun memory =>
    (.ok ((memory.permissions.get actorId).any fun grants =>
      action ∈ grants || .admin ∈ grants), memory)

/-! ## What an operation does -/

variable {memory : InMemory}

/-- Writing a record never fails: it stands under its key afterwards, with the
identifier that the key had or a new one, and everything else is unchanged. -/
theorem upsertKnowledge_apply (key value source : String) (memory : InMemory) :
    ∃ id nextId, upsertKnowledge key value source memory =
        (.ok ⟨id, key, value, source⟩, { memory with
            knowledge := memory.knowledge.put ⟨id, key, value, source⟩, nextId }) ∧
      (nextId = memory.nextId ∨ nextId = memory.nextId + 1) := by
  cases found : memory.knowledge.get key with
  | none =>
    refine ⟨memory.nextId + 1, memory.nextId + 1, ?_, Or.inr rfl⟩
    simp [upsertKnowledge, found, idOr, allocId, Effect.bind_apply]
  | some record =>
    refine ⟨record.id, memory.nextId, ?_, Or.inl rfl⟩
    simp [upsertKnowledge, found, idOr, Effect.bind_apply]

theorem upsertAgentState_apply (sessionId lastUserMessage : String)
    (lastAssistantMessage : Option String) (memory : InMemory) :
    ∃ id nextId, upsertAgentState sessionId lastUserMessage lastAssistantMessage memory =
        (.ok ⟨id, sessionId, lastUserMessage, lastAssistantMessage⟩, { memory with
            agentState := memory.agentState.insert sessionId
              ⟨id, sessionId, lastUserMessage, lastAssistantMessage⟩, nextId }) ∧
      (nextId = memory.nextId ∨ nextId = memory.nextId + 1) := by
  cases found : memory.agentState.get sessionId with
  | none =>
    refine ⟨memory.nextId + 1, memory.nextId + 1, ?_, Or.inr rfl⟩
    simp [upsertAgentState, found, idOr, allocId, Effect.bind_apply]
  | some state =>
    refine ⟨state.id, memory.nextId, ?_, Or.inl rfl⟩
    simp [upsertAgentState, found, idOr, Effect.bind_apply]

@[simp] theorem getKnowledge_apply (key : String) (memory : InMemory) :
    getKnowledge key memory = (.ok (memory.knowledge.get key), memory) := rfl

@[simp] theorem listKnowledgeByPrefix_apply (start : String) (memory : InMemory) :
    listKnowledgeByPrefix start memory =
      (.ok (memory.knowledge.select (Text.startsWith · start)), memory) := rfl

theorem foldl_insert (permissions : List PermissionAction) (entry : Finset PermissionAction) :
    permissions.foldl (fun entry permission => insert permission entry) entry =
      entry ∪ permissions.toFinset := by
  induction permissions generalizing entry with
  | nil => simp
  | cons permission rest ih =>
    rw [List.foldl_cons, ih, List.toFinset_cons]
    ext action
    simp only [Finset.mem_union, Finset.mem_insert]
    tauto

end InMemory

end AutoLoop.StateAdapter
