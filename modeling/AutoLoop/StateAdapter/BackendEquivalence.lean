import AutoLoop.StateAdapter.Backend
import Mathlib.Data.List.GetD

/-!
# When the two backends give the same answers

The in-memory repository and the Postgres adapter are run side by side on the
same calls.  The tables of one are related to the tables of the other, and a call
is answered alike exactly when it avoids what the two express differently: the
wildcards of LIKE, granting by replacement, the override of `Admin`, the null
character, and the range of the identifier column.
-/

namespace AutoLoop.StateAdapter

open Backend Postgres EventName Knowledge List HashMap

def InMemory.granted (memory : InMemory) (actorId : String) : Finset PermissionAction :=
  (memory.permissions.get actorId).getD ∅

/-- The encoded permissions that Postgres holds for an actor. -/
def Postgres.granted (postgres : Postgres) (actorId : String) : List String :=
  (postgres.permissionGrants.get actorId).getD []

/-- The schedule events of the two backends: the same events in the order of
their creation, each with the identifiers it got. -/
structure SameEvents (memory : Session InMemory) (postgres : Session Postgres)
    (events : List (UInt64 × ScheduleEvent)) : Prop where
  rows : postgres.state.scheduleEvents = events.map (·.2)
  issuedHere : memory.issued = events.map (·.1)
  issuedThere : postgres.issued = events.map (·.2.id)
  stored : ∀ id, memory.state.events.get id =
    (events.find? (·.1 = id)).map fun pair => { pair.2 with id := pair.1 }
  bySession : ∀ sessionId, (memory.state.eventsBySession.get sessionId).getD [] =
    (events.filter (·.2.sessionId = sessionId)).map (·.1)
  distinctHere : (events.map (·.1)).Nodup
  distinctThere : (events.map (·.2.id)).Nodup
  boundHere : ∀ pair ∈ events, 0 < pair.1.toNat ∧ pair.1.toNat ≤ memory.state.nextId.toNat
  boundThere : ∀ pair ∈ events, 0 < pair.2.id.toNat ∧ pair.2.id.toNat < postgres.state.nextEventId
  started : 0 < postgres.state.nextEventId

/-- The two backends hold the same data. -/
structure SameData (memory : Session InMemory) (postgres : Session Postgres) : Prop where
  knowledge : ∀ key, (memory.state.knowledge.get key).map KnowledgeRecord.content =
    (postgres.state.kvRecords.get key).map KnowledgeRecord.content
  permissions : ∀ actorId action, action ∈ memory.state.granted actorId ↔
    action.encoded ∈ postgres.state.granted actorId
  events : ∃ events, SameEvents memory postgres events
  agents : ∀ sessionId, (memory.state.agentState.get sessionId).map AgentState.content =
    (postgres.state.agentStates.get sessionId).map fun row => (sessionId, row.1, row.2)

/-- The call names events by identifiers that mean the same to both backends, and
the counter of the in-memory repository has not run out. -/
def Nameable (pair : Session InMemory × Session Postgres) (call : BackendCall) : Prop :=
  pair.1.state.nextId.toNat + 1 < 2 ^ 64 ∧
    match call with
    | .updateScheduleStatus (.number id) _ => id ∉ pair.1.issued ∧ id ∉ pair.2.issued
    | _ => True

/-- What a call has to avoid to be answered alike: text that Postgres cannot
store, a prefix whose LIKE pattern selects other stored keys than the prefix
itself, a grant that repeats or drops a permission, a question that only the
override of `Admin` answers, and the end of the identifier column. -/
def AnsweredAlike (pair : Session InMemory × Session Postgres) : BackendCall → Prop
  | .upsertKnowledge key value source => Storable [key, value, source]
  | .getKnowledge key => Storable [key]
  | .listKnowledgeByPrefix start =>
    Storable [start] ∧
      ∀ record, pair.2.state.kvRecords.get record.key = some record →
        Sql.like record.key (start ++ "%") = Text.startsWith record.key start
  | .grantPermissions actorId permissions =>
    Storable [actorId] ∧ permissions.Nodup ∧
      ∀ action ∈ pair.1.state.granted actorId, action ∈ permissions
  | .hasPermission actorId action =>
    Storable [actorId] ∧
      (.admin ∈ pair.1.state.granted actorId → action ∈ pair.1.state.granted actorId)
  | .createScheduleEvent sessionId topic toolName payload actorId =>
    Storable [sessionId, topic, toolName, payload, actorId] ∧
      pair.2.state.nextEventId < 2 ^ 63
  | .updateScheduleStatus event status =>
    resolve pair.1.issued event ∈ pair.1.issued → Storable [status]
  | .listScheduleEvents sessionId => Storable [sessionId]
  | .upsertAgentState sessionId lastUserMessage lastAssistantMessage =>
    Storable (sessionId :: lastUserMessage :: lastAssistantMessage.toList)
  | .getAgentState sessionId => Storable [sessionId]

/-! ## Knowledge -/

section Knowledge

variable {first second : Knowledge}

theorem content_select (same : ∀ key, (first.get key).map KnowledgeRecord.content =
      (second.get key).map KnowledgeRecord.content) (keep : String → Bool) :
    (first.select keep).map KnowledgeRecord.content =
      (second.select keep).map KnowledgeRecord.content := by
  have sorted : ∀ knowledge : Knowledge,
      ((knowledge.select keep).map KnowledgeRecord.content).Pairwise
        fun row later => row.1 < later.1 := by
    intro knowledge
    exact pairwise_map.mpr (knowledge.increasing_select keep)
  have includes : ∀ left right : Knowledge, (∀ key, (left.get key).map KnowledgeRecord.content =
        (right.get key).map KnowledgeRecord.content) →
      ∀ row ∈ (left.select keep).map KnowledgeRecord.content,
        row ∈ (right.select keep).map KnowledgeRecord.content := by
    intro left right agree row membership
    obtain ⟨record, selected, rfl⟩ := mem_map.mp membership
    obtain ⟨found, kept⟩ := mem_select_iff.mp selected
    have held := agree record.key
    rw [found, Option.map_some] at held
    obtain ⟨other, otherFound, sameContent⟩ := Option.map_eq_some_iff.mp held.symm
    have otherKey := key_of_get otherFound
    apply mem_map.mpr ⟨other, ?_, sameContent⟩
    apply mem_select_iff.mpr
    rw [otherKey]
    exact ⟨otherFound, kept⟩
  apply Table.eq_of_increasing (sorted first) (sorted second)
  intro row
  exact ⟨includes first second same row, includes second first (fun key => (same key).symm) row⟩

theorem content_select_eq_iff (knowledge : Knowledge) (keep other : String → Bool) :
    (knowledge.select keep).map KnowledgeRecord.content =
        (knowledge.select other).map KnowledgeRecord.content ↔
      ∀ record, knowledge.get record.key = some record →
        keep record.key = other record.key := by
  constructor
  · intro same record found
    have keys : ∀ test : String → Bool, test record.key = true ↔
          record.key ∈ ((knowledge.select test).map KnowledgeRecord.content).map (·.1) := by
      intro test
      rw [map_map, mem_map]
      constructor
      · intro kept
        exact ⟨record, mem_select_iff.mpr ⟨found, kept⟩, rfl⟩
      · rintro ⟨held, selected, sameKey⟩
        have kept := (mem_select_iff.mp selected).2
        have isKey : held.key = record.key := sameKey
        rwa [isKey] at kept
    rw [Bool.eq_iff_iff, keys keep, keys other, same]
  · intro agree
    rw [select_congr agree]

theorem content_put {first second : Knowledge} {record other : KnowledgeRecord}
    (same : ∀ key, (first.get key).map KnowledgeRecord.content =
      (second.get key).map KnowledgeRecord.content)
    (sameContent : record.content = other.content) (key : String) :
    ((first.put record).get key).map KnowledgeRecord.content =
      ((second.put other).get key).map KnowledgeRecord.content := by
  have sameKey : record.key = other.key := congrArg (·.1) sameContent
  rw [get_put, get_put, sameKey]
  split
  · rw [Option.map_some, Option.map_some, sameContent]
  · exact same key

end Knowledge

/-! ## One call -/

variable {memory : Session InMemory} {postgres : Session Postgres}

def Exact (memory : Session InMemory) (postgres : Session Postgres) (call : BackendCall) : Prop :=
  ((inMemory.answer memory call).1 = (postgresDb.answer postgres call).1 ↔
      AnsweredAlike (memory, postgres) call) ∧
    (AnsweredAlike (memory, postgres) call →
      SameData (inMemory.answer memory call).2 (postgresDb.answer postgres call).2)

section
variable {State α : Type} {action : Effect State α} {session : Session State}

theorem observe_of_ok {value : α} {state : State} (ran : action session.state = (.ok value, state))
    (view : α → Observation) :
    observe action view session = (view value, { session with state }) := by
  rw [observe, ran]

theorem observe_of_error {message : String} {state : State}
    (ran : action session.state = (.error message, state)) (view : α → Observation) :
    observe action view session = (.refused, { session with state }) := by
  rw [observe, ran]

end

/-- A statement with a parameter that cannot be stored is refused. -/
theorem observe_of_not_storable {α : Type} {texts : List String} (notStorable : ¬Storable texts)
    (next : Unit → Effect Postgres α) (view : α → Observation) (postgres : Session Postgres) :
    observe (bindTexts texts >>= next) view postgres = (.refused, postgres) :=
  observe_of_error (bindTexts_of_not_storable notStorable next _) view

theorem exact_of_refused {call : BackendCall}
    (answered : (inMemory.answer memory call).1 ≠ .refused)
    (refused : (postgresDb.answer postgres call).1 = .refused)
    (excluded : ¬AnsweredAlike (memory, postgres) call) : Exact memory postgres call := by
  constructor
  · rw [refused]
    exact iff_of_false answered excluded
  · intro alike
    exact absurd alike excluded

theorem SameEvents.of_unchanged {events : List (UInt64 × ScheduleEvent)}
    (same : SameEvents memory postgres events) {state : InMemory} {other : Postgres}
    (sameEvents : state.events = memory.state.events)
    (sameSessions : state.eventsBySession = memory.state.eventsBySession)
    (grown : memory.state.nextId.toNat ≤ state.nextId.toNat)
    (sameRows : other.scheduleEvents = postgres.state.scheduleEvents)
    (sameNext : other.nextEventId = postgres.state.nextEventId) :
    SameEvents ⟨state, memory.issued⟩ ⟨other, postgres.issued⟩ events where
  rows := sameRows.trans same.rows
  issuedHere := same.issuedHere
  issuedThere := same.issuedThere
  stored := by
    intro id
    rw [sameEvents]
    exact same.stored id
  bySession := by
    intro sessionId
    rw [sameSessions]
    exact same.bySession sessionId
  distinctHere := same.distinctHere
  distinctThere := same.distinctThere
  boundHere := fun pair membership =>
    ⟨(same.boundHere pair membership).1, (same.boundHere pair membership).2.trans grown⟩
  boundThere := by
    intro pair membership
    rw [sameNext]
    exact same.boundThere pair membership
  started := by
    rw [sameNext]
    exact same.started

/-- The counter does not wrap around while it has not run out. -/
theorem le_nextId {nextId previous : UInt64} (room : previous.toNat + 1 < 2 ^ 64)
    (step : nextId = previous ∨ nextId = previous + 1) :
    previous.toNat ≤ nextId.toNat := by
  rcases step with rfl | rfl
  · exact Nat.le_refl _
  · rw [UInt64.toNat_add, UInt64.toNat_one, Nat.mod_eq_of_lt room]
    exact Nat.le_succ _

theorem exact_call {call : BackendCall} {α β : Type} {action : Effect InMemory α}
    {view : α → Observation} {result : α} {after : InMemory}
    {texts : List String} {next : Unit → Effect Postgres β} {seen : β → Observation}
    {value : β} {state : Postgres}
    (callHere : inMemory.answer memory call = observe action view memory)
    (ranHere : action memory.state = (.ok result, after))
    (callThere : postgresDb.answer postgres call = observe (bindTexts texts >>= next) seen postgres)
    (ranThere : next () postgres.state = (.ok value, state))
    (answered : view result ≠ .refused)
    (condition : AnsweredAlike (memory, postgres) call ↔ Storable texts ∧ view result = seen value)
    (kept : AnsweredAlike (memory, postgres) call →
      SameData { memory with state := after } { postgres with state }) :
    Exact memory postgres call := by
  have here := callHere.trans (observe_of_ok ranHere view)
  by_cases storable : Storable texts
  · have there : postgresDb.answer postgres call = (seen value, { postgres with state }) := by
      rw [callThere, observe, Effect.bind_of_ok (bindTexts_of_storable storable _), ranThere]
    rw [Exact, here, there, condition]
    exact ⟨(and_iff_right storable).symm, fun alike => kept (condition.mpr alike)⟩
  · apply exact_of_refused
    · rw [here]
      exact answered
    · rw [callThere, observe_of_not_storable storable]
    · rw [condition]
      exact fun alike => storable alike.1

section
variable (same : SameData memory postgres)
include same

theorem exact_upsertKnowledge
    (room : memory.state.nextId.toNat + 1 < 2 ^ 64) (key value source : String) :
    Exact memory postgres (.upsertKnowledge key value source) := by
  obtain ⟨id, nextId, ran, grown⟩ :=
    InMemory.upsertKnowledge_apply key value source memory.state
  obtain ⟨events, sameEvents⟩ := same.events
  refine exact_call rfl ran rfl rfl (by simp) ?_ ?_
  · exact (and_iff_left rfl).symm
  · intro _
    exact {
      knowledge := content_put same.knowledge rfl
      permissions := same.permissions
      events := ⟨events, sameEvents.of_unchanged rfl rfl (le_nextId room grown) rfl rfl⟩
      agents := same.agents }

theorem exact_upsertAgentState (room : memory.state.nextId.toNat + 1 < 2 ^ 64)
    (sessionId lastUserMessage : String) (lastAssistantMessage : Option String) :
    Exact memory postgres
      (.upsertAgentState sessionId lastUserMessage lastAssistantMessage) := by
  obtain ⟨id, nextId, ran, grown⟩ := InMemory.upsertAgentState_apply sessionId
    lastUserMessage lastAssistantMessage memory.state
  obtain ⟨events, sameEvents⟩ := same.events
  refine exact_call rfl ran rfl rfl (by simp) ?_ ?_
  · exact (and_iff_left rfl).symm
  · intro _
    exact {
      knowledge := same.knowledge
      permissions := same.permissions
      events := ⟨events, sameEvents.of_unchanged rfl rfl (le_nextId room grown) rfl rfl⟩
      agents := by
        intro other
        rw [get_insert, get_insert]
        split
        · next isSession => rw [isSession]; rfl
        · exact same.agents other }

theorem exact_getKnowledge (key : String) :
    Exact memory postgres (.getKnowledge key) := by
  have callHere : inMemory.answer memory (.getKnowledge key) =
      observe (InMemory.getKnowledge key)
        (fun found => .knowledge (found.map KnowledgeRecord.content)) memory := rfl
  refine exact_call callHere (InMemory.getKnowledge_apply key _) rfl rfl (by simp) ?_ ?_
  · rw [AnsweredAlike, same.knowledge key]
    exact (and_iff_left rfl).symm
  · exact fun _ => same

theorem exact_listKnowledgeByPrefix (start : String) :
    Exact memory postgres (.listKnowledgeByPrefix start) := by
  have callHere : inMemory.answer memory (.listKnowledgeByPrefix start) =
      observe (InMemory.listKnowledgeByPrefix start)
        (fun listed => .knowledgeListed (listed.map KnowledgeRecord.content)) memory := rfl
  refine exact_call callHere (InMemory.listKnowledgeByPrefix_apply start _) rfl rfl
    (by simp) ?_ ?_
  · rw [AnsweredAlike, content_select same.knowledge, Observation.knowledgeListed.injEq,
      content_select_eq_iff]
    simp only [eq_comm]
  · exact fun _ => same

theorem exact_getAgentState (sessionId : String) :
    Exact memory postgres (.getAgentState sessionId) := by
  have ran : InMemory.getAgentState sessionId memory.state =
      (.ok (memory.state.agentState.get sessionId), memory.state) := rfl
  have callHere : inMemory.answer memory (.getAgentState sessionId) =
      observe (InMemory.getAgentState sessionId)
        (fun found => .agentState (found.map AgentState.content)) memory := rfl
  refine exact_call callHere ran rfl rfl (by simp) ?_ ?_
  · rw [AnsweredAlike, same.agents sessionId, Option.map_map]
    exact (and_iff_left rfl).symm
  · exact fun _ => same

theorem exact_hasPermission (actorId : String) (action : PermissionAction) :
    Exact memory postgres (.hasPermission actorId action) := by
  have ran : InMemory.hasPermission actorId action memory.state =
      (.ok ((memory.state.permissions.get actorId).any fun grants =>
        action ∈ grants || .admin ∈ grants), memory.state) := rfl
  refine exact_call rfl ran rfl rfl (by simp) ?_ ?_
  · have here : ((memory.state.permissions.get actorId).any
        fun grants => action ∈ grants || .admin ∈ grants) = true ↔
        action ∈ memory.state.granted actorId ∨ .admin ∈ memory.state.granted actorId := by
      cases found : memory.state.permissions.get actorId with
      | none => simp [InMemory.granted, found]
      | some grants => simp [InMemory.granted, found]
    have there : ((postgres.state.permissionGrants.get actorId).any
        (·.contains action.encoded)) = true ↔ action ∈ memory.state.granted actorId := by
      rw [same.permissions]
      cases found : postgres.state.permissionGrants.get actorId with
      | none => simp [Postgres.granted, found]
      | some encoded => simp [Postgres.granted, found]
    rw [AnsweredAlike, Observation.allowed.injEq, Bool.eq_iff_iff, here, there]
    apply and_congr_right
    intro _
    constructor
    · intro override
      exact ⟨fun either => either.elim id override, Or.inl⟩
    · intro agree isAdmin
      exact agree.mp (Or.inr isAdmin)
  · exact fun _ => same

end

theorem union_toFinset_val_eq_iff {granted : Finset PermissionAction}
    {permissions : List PermissionAction} :
    (granted ∪ permissions.toFinset).val = (permissions : Multiset PermissionAction) ↔
      permissions.Nodup ∧ ∀ action ∈ granted, action ∈ permissions := by
  constructor
  · intro same
    constructor
    · have nodup := (granted ∪ permissions.toFinset).nodup
      rw [same] at nodup
      exact Multiset.coe_nodup.mp nodup
    · intro action wasGranted
      have inUnion : action ∈ (granted ∪ permissions.toFinset).val :=
        Finset.mem_union_left _ wasGranted
      rw [same] at inUnion
      exact Multiset.mem_coe.mp inUnion
  · rintro ⟨nodup, covers⟩
    have union : granted ∪ permissions.toFinset = permissions.toFinset := by
      apply Finset.union_eq_right.mpr
      intro action wasGranted
      exact mem_toFinset.mpr (covers action wasGranted)
    rw [union, toFinset_val, nodup.dedup]

theorem exact_grantPermissions (same : SameData memory postgres) (actorId : String)
    (permissions : List PermissionAction) :
    Exact memory postgres (.grantPermissions actorId permissions) := by
  have ran : InMemory.grantPermissions actorId permissions memory.state =
      (.ok ⟨actorId, (memory.state.granted actorId ∪ permissions.toFinset).val⟩, { memory.state with
          permissions := memory.state.permissions.insert actorId
            (memory.state.granted actorId ∪ permissions.toFinset) }) := by
    rw [InMemory.grantPermissions, InMemory.foldl_insert]
    rfl
  refine exact_call rfl ran rfl rfl (by simp) ?_ ?_
  · rw [AnsweredAlike, Observation.granted.injEq, PermissionGrant.mk.injEq,
      union_toFinset_val_eq_iff]
    simp
  · rintro ⟨-, -, covers⟩
    obtain ⟨events, sameEvents⟩ := same.events
    exact {
      knowledge := same.knowledge
      permissions := by
        intro other action
        rw [InMemory.granted, Postgres.granted, get_insert, get_insert]
        split
        · rw [Option.getD_some, Option.getD_some, Finset.mem_union, mem_toFinset,
            mem_map_of_injective PermissionAction.encoded_injective]
          exact ⟨fun either => either.elim (covers action) id, Or.inr⟩
        · exact same.permissions other action
      events := ⟨events, sameEvents.of_unchanged rfl rfl (Nat.le_refl _) rfl rfl⟩
      agents := same.agents }

/-! ## Schedule events -/

section Events

variable {events : List (UInt64 × ScheduleEvent)} {pair other : UInt64 × ScheduleEvent}

/-- An event of the in-memory repository: its row under its own identifier. -/
def eventHere (pair : UInt64 × ScheduleEvent) : ScheduleEvent :=
  { pair.2 with id := pair.1 }

theorem anonymous_eventHere (pair : UInt64 × ScheduleEvent) :
    (eventHere pair).anonymous = pair.2.anonymous := rfl

theorem idxOf_map_eq {α β γ : Type} [DecidableEq β] [DecidableEq γ] {items : List α}
    {first : α → β} {second : α → γ} (firstDistinct : (items.map first).Nodup)
    (secondDistinct : (items.map second).Nodup) {item : α} (membership : item ∈ items) :
    (items.map first).idxOf (first item) = (items.map second).idxOf (second item) := by
  induction items with
  | nil => cases membership
  | cons head rest ih =>
    rw [map_cons, nodup_cons] at firstDistinct secondDistinct
    rw [map_cons, map_cons]
    rcases mem_cons.mp membership with rfl | inRest
    · rw [idxOf_cons_self, idxOf_cons_self]
    · have notFirst : first head ≠ first item := by
        intro same
        exact firstDistinct.1 (same ▸ mem_map_of_mem inRest)
      have notSecond : second head ≠ second item := by
        intro same
        exact secondDistinct.1 (same ▸ mem_map_of_mem inRest)
      rw [idxOf_cons_ne _ notFirst, idxOf_cons_ne _ notSecond,
        ih firstDistinct.2 secondDistinct.2 inRest]

namespace SameEvents

variable (same : SameEvents memory postgres events)
include same

theorem sameName (membership : pair ∈ events) (otherMembership : other ∈ events) :
    other.1 = pair.1 ↔ other.2.id = pair.2.id := by
  constructor
  · intro sameId
    rw [inj_on_of_nodup_map same.distinctHere otherMembership membership sameId]
  · intro sameId
    rw [inj_on_of_nodup_map same.distinctThere otherMembership membership sameId]

theorem get_of_mem (membership : pair ∈ events) :
    memory.state.events.get pair.1 = some (eventHere pair) := by
  have found : events.find? (·.1 = pair.1) = some pair := by
    have isSome : (events.find? (·.1 = pair.1)).isSome := by
      rw [find?_isSome]
      exact ⟨pair, membership, by simp⟩
    obtain ⟨held, isHeld⟩ := Option.isSome_iff_exists.mp isSome
    have sameId : held.1 = pair.1 := by simpa using find?_some isHeld
    rw [isHeld, inj_on_of_nodup_map same.distinctHere (mem_of_find?_eq_some isHeld)
      membership sameId]
  rw [same.stored, found]
  rfl

theorem get_of_not_mem {id : UInt64} (unissued : id ∉ memory.issued) :
    memory.state.events.get id = none := by
  have notFound : events.find? (·.1 = id) = none := by
    apply find?_eq_none.mpr
    intro pair membership isId
    apply unissued
    rw [same.issuedHere]
    exact mem_map.mpr ⟨pair, membership, by simpa using isId⟩
  rw [same.stored, notFound]
  rfl

theorem named_eq (membership : pair ∈ events) :
    (eventHere pair).named memory.issued = pair.2.named postgres.issued := by
  rw [ScheduleEvent.named, ScheduleEvent.named, anonymous_eventHere, same.issuedHere,
    same.issuedThere]
  congr 1
  exact idxOf_map_eq same.distinctHere same.distinctThere membership

theorem resolve_cases {event : EventName}
    (nameable : ∀ id, event = .number id → id ∉ memory.issued ∧ id ∉ postgres.issued) :
    (∃ pair ∈ events, resolve memory.issued event = pair.1 ∧
        resolve postgres.issued event = pair.2.id) ∨
      (resolve memory.issued event ∉ memory.issued ∧
        resolve postgres.issued event ∉ postgres.issued) := by
  cases event with
  | number id => exact Or.inr (nameable id rfl)
  | created position =>
    simp only [resolve, same.issuedHere, same.issuedThere]
    by_cases inRange : position < events.length
    · left
      refine ⟨events[position], getElem_mem inRange, ?_, ?_⟩
      · rw [getD_eq_getElem _ _ (by simpa using inRange), getElem_map]
      · rw [getD_eq_getElem _ _ (by simpa using inRange), getElem_map]
    · right
      rw [getD_eq_default _ _ (by simpa using inRange),
        getD_eq_default _ _ (by simpa using inRange)]
      constructor
      · intro issued
        obtain ⟨pair, membership, isZero⟩ := mem_map.mp issued
        have positive := (same.boundHere pair membership).1
        rw [isZero] at positive
        exact absurd positive (by decide)
      · intro issued
        obtain ⟨pair, membership, isZero⟩ := mem_map.mp issued
        have positive := (same.boundThere pair membership).1
        rw [isZero] at positive
        exact absurd positive (by decide)

end SameEvents

theorem exact_listScheduleEvents (same : SameData memory postgres) (sessionId : String) :
    Exact memory postgres (.listScheduleEvents sessionId) := by
  obtain ⟨events, sameEvents⟩ := same.events
  have listed : ((memory.state.eventsBySession.get sessionId).getD []).filterMap
      memory.state.events.get =
      (events.filter (·.2.sessionId = sessionId)).map eventHere := by
    rw [sameEvents.bySession, filterMap_map]
    apply filterMap_eq_map_iff_forall_eq_some.mpr
    intro pair membership
    exact sameEvents.get_of_mem (mem_of_mem_filter membership)
  have ran : InMemory.listScheduleEvents sessionId memory.state =
      (.ok ((events.filter (·.2.sessionId = sessionId)).map eventHere), memory.state) := by
    rw [InMemory.listScheduleEvents, listed]
  have callHere : inMemory.answer memory (.listScheduleEvents sessionId) =
      observe (InMemory.listScheduleEvents sessionId) (fun events =>
        .eventsListed (events.map (ScheduleEvent.named memory.issued))) memory := rfl
  refine exact_call callHere ran rfl rfl (by simp) ?_ ?_
  · have rows : (postgres.state.scheduleEvents.filter (·.sessionId = sessionId)).map
        (ScheduleEvent.named postgres.issued) =
        ((events.filter (·.2.sessionId = sessionId)).map eventHere).map
          (ScheduleEvent.named memory.issued) := by
      rw [sameEvents.rows, filter_map, map_map, map_map]
      apply map_congr_left
      intro pair membership
      exact (sameEvents.named_eq (mem_of_mem_filter membership)).symm
    rw [AnsweredAlike, rows]
    exact (and_iff_left rfl).symm
  · exact fun _ => same

/-! ### Creating an event -/

theorem SameEvents.fresh_here (same : SameEvents memory postgres events)
    (room : memory.state.nextId.toNat + 1 < 2 ^ 64) :
    memory.state.nextId + 1 ∉ memory.issued := by
  intro issued
  rw [same.issuedHere] at issued
  obtain ⟨pair, membership, isNew⟩ := mem_map.mp issued
  have bound := (same.boundHere pair membership).2
  rw [isNew, UInt64.toNat_add, UInt64.toNat_one, Nat.mod_eq_of_lt room] at bound
  omega

theorem toNat_nextEventId {next : Nat} (inRange : next < 2 ^ 63) :
    (UInt64.ofNat next).toNat = next := by
  rw [UInt64.toNat_ofNat', Nat.mod_eq_of_lt (by omega)]

section
variable (same : SameEvents memory postgres events)
include same

theorem SameEvents.fresh_there (inRange : postgres.state.nextEventId < 2 ^ 63) :
    UInt64.ofNat postgres.state.nextEventId ∉ postgres.issued := by
  intro issued
  rw [same.issuedThere] at issued
  obtain ⟨pair, membership, isNew⟩ := mem_map.mp issued
  have bound := (same.boundThere pair membership).2
  rw [isNew, toNat_nextEventId inRange] at bound
  omega

theorem SameEvents.named_new (room : memory.state.nextId.toNat + 1 < 2 ^ 64)
    (inRange : postgres.state.nextEventId < 2 ^ 63) :
    (memory.issued ++ [memory.state.nextId + 1]).idxOf (memory.state.nextId + 1) =
      (postgres.issued ++ [UInt64.ofNat postgres.state.nextEventId]).idxOf
        (UInt64.ofNat postgres.state.nextEventId) := by
  rw [idxOf_append, idxOf_append, if_neg (same.fresh_here room),
    if_neg (same.fresh_there inRange), idxOf_cons_self, idxOf_cons_self,
    same.issuedHere, same.issuedThere, length_map, length_map]

/-- A new event joins both tables at the end. -/
theorem SameEvents.created {row : ScheduleEvent}
    {state : InMemory} {other : Postgres}
    (room : memory.state.nextId.toNat + 1 < 2 ^ 64)
    (inRange : postgres.state.nextEventId < 2 ^ 63)
    (nextId : state.nextId = memory.state.nextId + 1)
    (nextEventId : other.nextEventId = postgres.state.nextEventId + 1)
    (rowId : row.id = UInt64.ofNat postgres.state.nextEventId)
    (insertedHere : state.events = memory.state.events.insert (memory.state.nextId + 1)
      (eventHere (memory.state.nextId + 1, row)))
    (insertedSession : state.eventsBySession = memory.state.eventsBySession.insert row.sessionId
      ((memory.state.eventsBySession.get row.sessionId).getD [] ++ [memory.state.nextId + 1]))
    (insertedThere : other.scheduleEvents = postgres.state.scheduleEvents ++ [row]) :
    SameEvents ⟨state, memory.issued ++ [memory.state.nextId + 1]⟩
      ⟨other, postgres.issued ++ [row.id]⟩
      (events ++ [(memory.state.nextId + 1, row)]) := by
  have newId : (memory.state.nextId + 1).toNat = memory.state.nextId.toNat + 1 := by
    rw [UInt64.toNat_add, UInt64.toNat_one, Nat.mod_eq_of_lt room]
  have rowNumber : row.id.toNat = postgres.state.nextEventId := by
    rw [rowId, toNat_nextEventId inRange]
  have freshHere : memory.state.nextId + 1 ∉ events.map (·.1) :=
    same.issuedHere ▸ same.fresh_here room
  have freshThere : row.id ∉ events.map (·.2.id) := by
    rw [rowId]
    exact same.issuedThere ▸ same.fresh_there inRange
  exact {
    rows := by rw [insertedThere, same.rows, map_append]; rfl
    issuedHere := by rw [same.issuedHere, map_append]; rfl
    issuedThere := by rw [same.issuedThere, map_append]; rfl
    stored := by
      intro id
      rw [insertedHere, get_insert, same.stored, find?_append]
      by_cases isNew : id = memory.state.nextId + 1
      · have notFound : events.find? (·.1 = memory.state.nextId + 1) = none := by
          apply find?_eq_none.mpr
          intro pair membership isId
          exact freshHere (mem_map.mpr ⟨pair, membership, by simpa using isId⟩)
        rw [if_pos isNew, isNew, notFound]
        simp [eventHere]
      · rw [if_neg isNew]
        simp [Ne.symm isNew]
    bySession := by
      intro sessionId
      rw [insertedSession, get_insert, filter_append, map_append, ← same.bySession sessionId]
      by_cases isSession : sessionId = row.sessionId
      · rw [if_pos isSession, isSession]
        simp
      · rw [if_neg isSession]
        simp [Ne.symm isSession]
    distinctHere := by
      rw [map_append]
      exact nodup_append_comm.mp (nodup_cons.mpr ⟨freshHere, same.distinctHere⟩)
    distinctThere := by
      rw [map_append]
      exact nodup_append_comm.mp (nodup_cons.mpr ⟨freshThere, same.distinctThere⟩)
    boundHere := by
      intro pair membership
      rw [nextId, newId]
      rcases mem_append.mp membership with old | new
      · have bound := same.boundHere pair old
        omega
      · rw [mem_singleton.mp new, newId]
        omega
    boundThere := by
      intro pair membership
      rw [nextEventId]
      rcases mem_append.mp membership with old | new
      · have bound := same.boundThere pair old
        omega
      · have started := same.started
        rw [mem_singleton.mp new, rowNumber]
        omega
    started := by
      rw [nextEventId]
      omega }

end

theorem createScheduleEvent_here (memory : Session InMemory)
    (sessionId topic toolName payload actorId : String) :
    let event : ScheduleEvent :=
      ⟨memory.state.nextId + 1, sessionId, topic, toolName, payload, actorId, "queued"⟩
    inMemory.answer memory (.createScheduleEvent sessionId topic toolName payload actorId) =
      (.event (event.named (memory.issued ++ [event.id])), ⟨{ memory.state with
          nextId := memory.state.nextId + 1
          events := memory.state.events.insert event.id event
          eventsBySession := memory.state.eventsBySession.insert sessionId
            ((memory.state.eventsBySession.get sessionId).getD [] ++ [event.id]) },
          memory.issued ++ [event.id]⟩) := rfl

section
variable {postgres : Session Postgres} {sessionId topic toolName payload actorId : String}

theorem createScheduleEvent_there
    (storable : Storable [sessionId, topic, toolName, payload, actorId])
    (inRange : postgres.state.nextEventId < 2 ^ 63) :
    let event : ScheduleEvent := ⟨UInt64.ofNat postgres.state.nextEventId, sessionId, topic,
      toolName, payload, actorId, "queued"⟩
    postgresDb.answer postgres (.createScheduleEvent sessionId topic toolName payload actorId) =
      (.event (event.named (postgres.issued ++ [event.id])), ⟨{ postgres.state with
          nextEventId := postgres.state.nextEventId + 1
          scheduleEvents := postgres.state.scheduleEvents ++ [event] },
          postgres.issued ++ [event.id]⟩) := by
  have drawn := nextval_of_lt inRange
  simp [Backend.answer, postgresDb, Postgres.createScheduleEvent, Effect.bind_apply,
    storable, drawn]

theorem createScheduleEvent_refused
    (excluded : ¬(Storable [sessionId, topic, toolName, payload, actorId] ∧
      postgres.state.nextEventId < 2 ^ 63)) :
    (postgresDb.answer postgres
      (.createScheduleEvent sessionId topic toolName payload actorId)).1 = .refused := by
  by_cases storable : Storable [sessionId, topic, toolName, payload, actorId]
  · have ended := nextval_of_not_lt fun inRange => excluded ⟨storable, inRange⟩
    simp [Backend.answer, postgresDb, Postgres.createScheduleEvent, Effect.bind_apply,
      storable, ended]
  · simp [Backend.answer, postgresDb, Postgres.createScheduleEvent,
      bindTexts_of_not_storable storable]

end

theorem exact_createScheduleEvent (same : SameData memory postgres)
    (room : memory.state.nextId.toNat + 1 < 2 ^ 64)
    (sessionId topic toolName payload actorId : String) :
    Exact memory postgres
      (.createScheduleEvent sessionId topic toolName payload actorId) := by
  obtain ⟨events, sameEvents⟩ := same.events
  have here := createScheduleEvent_here memory sessionId topic toolName payload actorId
  by_cases accepted : Storable [sessionId, topic, toolName, payload, actorId] ∧
      postgres.state.nextEventId < 2 ^ 63
  · obtain ⟨storable, inRange⟩ := accepted
    have there := createScheduleEvent_there storable inRange
    rw [Exact, here, there]
    refine ⟨iff_of_true ?_ ⟨storable, inRange⟩, fun _ => ?_⟩
    · rw [Observation.event.injEq, ScheduleEvent.named, ScheduleEvent.named,
        sameEvents.named_new room inRange]
      rfl
    · exact {
        knowledge := same.knowledge
        permissions := same.permissions
        events := ⟨_, sameEvents.created room inRange rfl rfl rfl rfl rfl rfl⟩
        agents := same.agents }
  · apply exact_of_refused
    · rw [here]
      simp
    · exact createScheduleEvent_refused accepted
    · exact accepted

/-! ### Updating an event -/

def withStatus (id : UInt64) (status : String) (pair : UInt64 × ScheduleEvent) :
    UInt64 × ScheduleEvent :=
  if pair.1 = id then (pair.1, { pair.2 with status }) else pair

section
variable (id : UInt64) (status : String) (pair : UInt64 × ScheduleEvent)

theorem withStatus_fst :
    (withStatus id status pair).1 = pair.1 := by
  rw [withStatus]
  split <;> rfl

theorem withStatus_id :
    (withStatus id status pair).2.id = pair.2.id := by
  rw [withStatus]
  split <;> rfl

theorem withStatus_sessionId :
    (withStatus id status pair).2.sessionId = pair.2.sessionId := by
  rw [withStatus]
  split <;> rfl

end

theorem SameEvents.updated (same : SameEvents memory postgres events)
    (membership : pair ∈ events) (status : String) :
    SameEvents
      ⟨{ memory.state with
        events := memory.state.events.insert pair.1 { eventHere pair with status } },
        memory.issued⟩
      ⟨{ postgres.state with
        scheduleEvents := postgres.state.scheduleEvents.map fun event =>
          if event.id = pair.2.id then { event with status } else event }, postgres.issued⟩
      (events.map (withStatus pair.1 status)) := by
  have firsts : (events.map (withStatus pair.1 status)).map (·.1) = events.map (·.1) := by
    rw [map_map]
    exact map_congr_left fun other _ => withStatus_fst _ _ other
  have seconds : (events.map (withStatus pair.1 status)).map (·.2.id) =
      events.map (·.2.id) := by
    rw [map_map]
    exact map_congr_left fun other _ => withStatus_id _ _ other
  exact {
    rows := by
      simp only [same.rows, map_map]
      apply map_congr_left
      intro other otherMembership
      have sameName := same.sameName membership otherMembership
      simp only [Function.comp_apply, withStatus, sameName]
      split <;> rfl
    issuedHere := by rw [firsts]; exact same.issuedHere
    issuedThere := by rw [seconds]; exact same.issuedThere
    stored := by
      intro id
      rw [get_insert, find?_map]
      have sameTest : ((fun other : UInt64 × ScheduleEvent => decide (other.1 = id)) ∘
          withStatus pair.1 status) = fun other => decide (other.1 = id) := by
        funext other
        rw [Function.comp_apply, withStatus_fst]
      rw [sameTest]
      by_cases isPair : id = pair.1
      · have found := same.get_of_mem membership
        rw [same.stored] at found
        rw [if_pos isPair, isPair]
        cases held : events.find? (·.1 = pair.1) with
        | none =>
          rw [held] at found
          cases found
        | some other =>
          have sameId : other.1 = pair.1 := by simpa using find?_some held
          have isOther := inj_on_of_nodup_map same.distinctHere
            (mem_of_find?_eq_some held) membership sameId
          rw [isOther, Option.map_some, Option.map_some, withStatus, if_pos rfl]
          rfl
      · rw [if_neg isPair, same.stored]
        cases held : events.find? (·.1 = id) with
        | none => rfl
        | some other =>
          have sameId : other.1 = id := by simpa using find?_some held
          rw [Option.map_some, Option.map_some, Option.map_some, withStatus,
            if_neg (by rw [sameId]; exact isPair)]
    bySession := by
      intro sessionId
      rw [filter_map, map_map]
      have sameTest : ((fun other : UInt64 × ScheduleEvent =>
          decide (other.2.sessionId = sessionId)) ∘ withStatus pair.1 status) =
          fun other => decide (other.2.sessionId = sessionId) := by
        funext other
        rw [Function.comp_apply, withStatus_sessionId]
      rw [sameTest, same.bySession]
      exact (map_congr_left fun other _ => withStatus_fst _ _ other).symm
    distinctHere := by rw [firsts]; exact same.distinctHere
    distinctThere := by rw [seconds]; exact same.distinctThere
    boundHere := by
      intro other otherMembership
      obtain ⟨held, heldMembership, rfl⟩ := mem_map.mp otherMembership
      rw [withStatus_fst]
      exact same.boundHere held heldMembership
    boundThere := by
      intro other otherMembership
      obtain ⟨held, heldMembership, rfl⟩ := mem_map.mp otherMembership
      rw [withStatus_id]
      exact same.boundThere held heldMembership
    started := same.started }

/-- How many rows an update of one identifier touches. -/
theorem SameEvents.length_filter (same : SameEvents memory postgres events) (id : UInt64) :
    (postgres.state.scheduleEvents.filter (·.id = id)).length = postgres.issued.count id := by
  rw [same.rows, same.issuedThere, filter_map, length_map, count_eq_countP,
    countP_map, countP_eq_length_filter]
  congr 2

theorem exact_updateScheduleStatus (same : SameData memory postgres) {event : EventName}
    (nameable : ∀ id, event = .number id → id ∉ memory.issued ∧ id ∉ postgres.issued)
    (status : String) : Exact memory postgres (.updateScheduleStatus event status) := by
  obtain ⟨events, sameEvents⟩ := same.events
  rcases sameEvents.resolve_cases nameable with
    ⟨pair, membership, here, there⟩ | ⟨unissuedHere, unissuedThere⟩
  · have issuedHere : pair.1 ∈ memory.issued := by
      rw [sameEvents.issuedHere]
      exact mem_map_of_mem membership
    have issuedThere : pair.2.id ∈ postgres.issued := by
      rw [sameEvents.issuedThere]
      exact mem_map_of_mem membership
    have oneRow : (postgres.state.scheduleEvents.filter (·.id = pair.2.id)).length = 1 := by
      rw [sameEvents.length_filter]
      apply count_eq_one_of_mem ?_ issuedThere
      rw [sameEvents.issuedThere]
      exact sameEvents.distinctThere
    have callHere : inMemory.answer memory (.updateScheduleStatus event status) =
        observe (InMemory.updateScheduleStatus pair.1 status) (fun _ => .updated) memory := by
      rw [← here]
      rfl
    have ranHere : InMemory.updateScheduleStatus pair.1 status memory.state =
        (.ok (), { memory.state with
          events := memory.state.events.insert pair.1 { eventHere pair with status } }) := by
      rw [InMemory.updateScheduleStatus, sameEvents.get_of_mem membership]
    have callThere : postgresDb.answer postgres (.updateScheduleStatus event status) =
        observe (Postgres.updateScheduleStatus pair.2.id status) (fun _ => .updated)
          postgres := by
      rw [← there]
      rfl
    refine exact_call callHere ranHere callThere (if_neg (not_not_intro oneRow)) (by simp) ?_ ?_
    · rw [AnsweredAlike, here]
      exact ⟨fun alike => ⟨alike issuedHere, rfl⟩, fun alike _ => alike.1⟩
    · intro _
      exact {
        knowledge := same.knowledge
        permissions := same.permissions
        events := ⟨_, sameEvents.updated membership status⟩
        agents := same.agents }
  · have here : inMemory.answer memory (.updateScheduleStatus event status) =
        (.refused, memory) := by
      have ran : InMemory.updateScheduleStatus (resolve memory.issued event) status
          memory.state = (.error ("event " ++
            (resolve memory.issued event).toNat.repr ++ " not found"),
            memory.state) := by
        rw [InMemory.updateScheduleStatus, sameEvents.get_of_not_mem unissuedHere]
      exact observe_of_error ran _
    have there : postgresDb.answer postgres (.updateScheduleStatus event status) =
        (.refused, postgres) := by
      have noRow : (postgres.state.scheduleEvents.filter
          (·.id = resolve postgres.issued event)).length ≠ 1 := by
        rw [sameEvents.length_filter, count_eq_zero_of_not_mem unissuedThere]
        decide
      by_cases storable : Storable [status]
      · exact observe_of_error ((Effect.bind_of_ok
          (bindTexts_of_storable storable _)).trans (if_pos noRow)) _
      · exact observe_of_not_storable storable _ _ postgres
    rw [Exact, here, there]
    refine ⟨iff_of_true rfl ?_, fun _ => same⟩
    intro issued
    exact absurd issued unissuedHere

end Events

/-! ## All runs -/

theorem exact_answer (same : SameData memory postgres) {call : BackendCall}
    (nameable : Nameable (memory, postgres) call) : Exact memory postgres call := by
  obtain ⟨room, named⟩ := nameable
  cases call with
  | upsertKnowledge key value source => exact exact_upsertKnowledge same room key value source
  | getKnowledge key => exact exact_getKnowledge same key
  | listKnowledgeByPrefix start => exact exact_listKnowledgeByPrefix same start
  | grantPermissions actorId permissions =>
    exact exact_grantPermissions same actorId permissions
  | hasPermission actorId action => exact exact_hasPermission same actorId action
  | createScheduleEvent sessionId topic toolName payload actorId =>
    exact exact_createScheduleEvent same room sessionId topic toolName payload actorId
  | updateScheduleStatus event status =>
    apply exact_updateScheduleStatus same
    rintro id rfl
    exact named
  | listScheduleEvents sessionId => exact exact_listScheduleEvents same sessionId
  | upsertAgentState sessionId lastUserMessage lastAssistantMessage =>
    exact exact_upsertAgentState same room sessionId lastUserMessage lastAssistantMessage
  | getAgentState sessionId => exact exact_getAgentState same sessionId

/-- Both backends start empty. -/
theorem sameData_initial :
    SameData inMemory.component.initial postgresDb.component.initial where
  knowledge := fun _ => rfl
  permissions := by
    intro actorId action
    simp [InMemory.granted, Postgres.granted, Backend.component, inMemory, postgresDb,
      InMemory.default, Postgres.new]
  events := ⟨[], {
    rows := rfl
    issuedHere := rfl
    issuedThere := rfl
    stored := fun _ => rfl
    bySession := fun _ => rfl
    distinctHere := nodup_nil
    distinctThere := nodup_nil
    boundHere := fun _ membership => nomatch membership
    boundThere := fun _ membership => nomatch membership
    started := Nat.one_pos }⟩
  agents := fun _ => rfl

/-- From empty, the two backends give a client the same answers to a sequence of
calls exactly when every call avoids what they express differently. -/
theorem same_answers_iff (calls : List BackendCall)
    (nameable : (inMemory.component.beside postgresDb.component).EachStep Nameable
      (inMemory.component.initial, postgresDb.component.initial) calls) :
    (inMemory.component.run inMemory.component.initial calls).1 =
        (postgresDb.component.run postgresDb.component.initial calls).1 ↔
      (inMemory.component.beside postgresDb.component).EachStep AnsweredAlike
        (inMemory.component.initial, postgresDb.component.initial) calls := by
  refine Component.same_answers_iff_eachStep ?_ ?_ sameData_initial nameable
  · intro memory postgres call same named
    exact (exact_answer same named).1
  · intro memory postgres call same named alike
    exact (exact_answer same named).2 alike

/-- A grant, an event that is updated and a listing by a literal prefix are
answered alike. -/
theorem literal_session_same_answers :
    (inMemory.component.run inMemory.component.initial
        [.grantPermissions "ann" [.write], .createScheduleEvent "s" "t" "tool" "p" "ann",
          .updateScheduleStatus (.created 0) "done", .listKnowledgeByPrefix "a:"]).1 =
      (postgresDb.component.run postgresDb.component.initial
        [.grantPermissions "ann" [.write], .createScheduleEvent "s" "t" "tool" "p" "ann",
          .updateScheduleStatus (.created 0) "done", .listKnowledgeByPrefix "a:"]).1 :=
  (same_answers_iff
    [.grantPermissions "ann" [.write], .createScheduleEvent "s" "t" "tool" "p" "ann",
      .updateScheduleStatus (.created 0) "done", .listKnowledgeByPrefix "a:"]
    ⟨⟨by decide, trivial⟩, ⟨by decide, trivial⟩, ⟨by decide, trivial⟩,
      ⟨by decide, trivial⟩, trivial⟩).mpr
    ⟨⟨by decide, by decide, by decide⟩, ⟨by decide, by decide⟩, fun _ => by decide,
      ⟨by decide, fun record _ => Sql.like_literal (by decide) record.key⟩, trivial⟩

/-- A record under `"ab:1"` is listed under the prefix `"a_"` by Postgres only. -/
theorem underscore_distinguishes :
    ¬∀ calls : List BackendCall, (inMemory.component.beside postgresDb.component).EachStep Nameable
          (inMemory.component.initial, postgresDb.component.initial) calls →
        (inMemory.component.run inMemory.component.initial calls).1 =
          (postgresDb.component.run postgresDb.component.initial calls).1 := by
  intro interchangeable
  have same := interchangeable
    [.upsertKnowledge "ab:1" "v" "s", .listKnowledgeByPrefix "a_"]
    ⟨⟨by decide, trivial⟩, ⟨by decide, trivial⟩, trivial⟩
  revert same
  decide

end AutoLoop.StateAdapter
