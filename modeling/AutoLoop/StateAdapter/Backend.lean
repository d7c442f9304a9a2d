import AutoLoop.Foundation.Component
import AutoLoop.StateAdapter.InMemory
import AutoLoop.StateAdapter.Postgres

/-!
# State backends and their clients

The methods that the in-memory repository and the Postgres adapter have in
common, and a client that calls them.  The client names a schedule event by the
call that created it, and never looks at the identifier of any other record, so
two backends that hand out different identifiers can give it the same answers.
-/

namespace AutoLoop.StateAdapter

structure Backend (State : Type) where
  initial : State
  upsertKnowledge : String → String → String → Effect State KnowledgeRecord
  getKnowledge : String → Effect State (Option KnowledgeRecord)
  listKnowledgeByPrefix : String → Effect State (List KnowledgeRecord)
  grantPermissions : String → List PermissionAction → Effect State PermissionGrant
  hasPermission : String → PermissionAction → Effect State Bool
  createScheduleEvent :
    String → String → String → String → String → Effect State ScheduleEvent
  updateScheduleStatus : UInt64 → String → Effect State Unit
  listScheduleEvents : String → Effect State (List ScheduleEvent)
  upsertAgentState : String → String → Option String → Effect State AgentState
  getAgentState : String → Effect State (Option AgentState)

def inMemory : Backend InMemory where
  initial := InMemory.default
  upsertKnowledge := InMemory.upsertKnowledge
  getKnowledge := InMemory.getKnowledge
  listKnowledgeByPrefix := InMemory.listKnowledgeByPrefix
  grantPermissions := InMemory.grantPermissions
  hasPermission := InMemory.hasPermission
  createScheduleEvent := InMemory.createScheduleEvent
  updateScheduleStatus := InMemory.updateScheduleStatus
  listScheduleEvents := InMemory.listScheduleEvents
  upsertAgentState := InMemory.upsertAgentState
  getAgentState := InMemory.getAgentState

def postgresDb : Backend Postgres where
  initial := Postgres.new
  upsertKnowledge := Postgres.upsertKnowledge
  getKnowledge := Postgres.getKnowledge
  listKnowledgeByPrefix := Postgres.listKnowledgeByPrefix
  grantPermissions := Postgres.grantPermissions
  hasPermission := Postgres.hasPermission
  createScheduleEvent := Postgres.createScheduleEvent
  updateScheduleStatus := Postgres.updateScheduleStatus
  listScheduleEvents := Postgres.listScheduleEvents
  upsertAgentState := Postgres.upsertAgentState
  getAgentState := Postgres.getAgentState

inductive EventName where
  | created (position : Nat)
  | number (id : UInt64)
  deriving DecidableEq, Repr

inductive BackendCall where
  | upsertKnowledge (key value source : String)
  | getKnowledge (key : String)
  | listKnowledgeByPrefix (start : String)
  | grantPermissions (actorId : String) (permissions : List PermissionAction)
  | hasPermission (actorId : String) (action : PermissionAction)
  | createScheduleEvent (sessionId topic toolName payload actorId : String)
  | updateScheduleStatus (event : EventName) (status : String)
  | listScheduleEvents (sessionId : String)
  | upsertAgentState (sessionId lastUserMessage : String)
      (lastAssistantMessage : Option String)
  | getAgentState (sessionId : String)
  deriving DecidableEq, Repr

/-- The fields of a knowledge record apart from its identifier. -/
abbrev KnowledgeContent : Type := String × String × String

def KnowledgeRecord.content (record : KnowledgeRecord) : KnowledgeContent :=
  (record.key, record.value, record.source)

abbrev AgentContent : Type := String × String × Option String

def AgentState.content (state : AgentState) : AgentContent :=
  (state.sessionId, state.lastUserMessage, state.lastAssistantMessage)

/-- An event without its identifier. -/
def ScheduleEvent.anonymous (event : ScheduleEvent) : ScheduleEvent :=
  { event with id := 0 }

/-- An event as a client sees it: named by the position of its creation. -/
abbrev NamedEvent : Type := Nat × ScheduleEvent

def ScheduleEvent.named (issued : List UInt64) (event : ScheduleEvent) : NamedEvent :=
  (issued.idxOf event.id, event.anonymous)

/-- What a client observes of the answer to a call. -/
inductive Observation where
  | refused
  | knowledge (found : Option KnowledgeContent)
  | knowledgeListed (listed : List KnowledgeContent)
  | granted (grant : PermissionGrant)
  | allowed (allowed : Bool)
  | event (event : NamedEvent)
  | updated
  | eventsListed (events : List NamedEvent)
  | agentState (found : Option AgentContent)
  deriving DecidableEq

namespace Backend

variable {State α : Type}

/-- A backend together with the event identifiers it has returned. -/
structure Session (State : Type) where
  state : State
  issued : List UInt64

def EventName.resolve (issued : List UInt64) : EventName → UInt64
  | .created position => issued.getD position 0
  | .number id => id

/-- Run a method that creates no event. -/
def observe (action : Effect State α) (view : α → Observation) (session : Session State) :
    Observation × Session State :=
  match action session.state with
  | (.ok value, state) => (view value, { session with state })
  | (.error _, state) => (.refused, { session with state })

def answer (backend : Backend State) (session : Session State) :
    BackendCall → Observation × Session State
  | .upsertKnowledge key value source =>
    observe (backend.upsertKnowledge key value source)
      (fun record => .knowledge (some record.content)) session
  | .getKnowledge key =>
    observe (backend.getKnowledge key)
      (fun found => .knowledge (found.map KnowledgeRecord.content)) session
  | .listKnowledgeByPrefix start =>
    observe (backend.listKnowledgeByPrefix start)
      (fun listed => .knowledgeListed (listed.map KnowledgeRecord.content)) session
  | .grantPermissions actorId permissions =>
    observe (backend.grantPermissions actorId permissions) .granted session
  | .hasPermission actorId action =>
    observe (backend.hasPermission actorId action) .allowed session
  | .createScheduleEvent sessionId topic toolName payload actorId =>
    match backend.createScheduleEvent sessionId topic toolName payload actorId
      session.state with
    | (.ok event, state) =>
      let issued := session.issued ++ [event.id]
      (.event (event.named issued), ⟨state, issued⟩)
    | (.error _, state) => (.refused, { session with state })
  | .updateScheduleStatus event status =>
    observe (backend.updateScheduleStatus (EventName.resolve session.issued event) status)
      (fun _ => .updated) session
  | .listScheduleEvents sessionId =>
    observe (backend.listScheduleEvents sessionId)
      (fun events => .eventsListed (events.map (ScheduleEvent.named session.issued))) session
  | .upsertAgentState sessionId lastUserMessage lastAssistantMessage =>
    observe (backend.upsertAgentState sessionId lastUserMessage lastAssistantMessage)
      (fun state => .agentState (some state.content)) session
  | .getAgentState sessionId =>
    observe (backend.getAgentState sessionId)
      (fun found => .agentState (found.map AgentState.content)) session

/-- The backend as a client meets it, from empty. -/
def component (backend : Backend State) :
    Component (Session State) BackendCall Observation where
  initial := ⟨backend.initial, []⟩
  step := backend.answer

end Backend

end AutoLoop.StateAdapter
