import AutoLoop.Session.HistoryRuns

/-!
# Concurrent appends

Appends to one session that run side by side.  Each of them clones the session when it
pushes its message, and writes the clone to the checkpoint when it comes to its second
part, so that the checkpoint has what the append wrote that came to it last.
-/

namespace AutoLoop.Session

open QueryEngine (ChatMessage)
open List

/-! ## The last entries of a list -/

section LastOf

variable {α β : Type}

/-- So many entries at the end. -/
def lastOf (count : Nat) (entries : List α) : List α := entries.drop (entries.length - count)

theorem lastOf_map (count : Nat) (view : α → β) (entries : List α) :
    lastOf count (entries.map view) = (lastOf count entries).map view := by
  rw [lastOf, lastOf, length_map, map_drop]

theorem lastOf_snoc (count : Nat) (entries : List α) (entry : α) :
    lastOf count (lastOf count entries ++ [entry]) = lastOf count (entries ++ [entry]) := by
  have start : entries.length - count ≤ entries.length := Nat.sub_le _ _
  rw [lastOf, lastOf, lastOf, ← drop_append_of_le_length start, drop_drop]
  congr 1
  simp only [length_drop, length_append, length_singleton]
  omega

theorem getLast?_lastOf {count : Nat} (positive : 0 < count) (entries : List α) :
    (lastOf count entries).getLast? = entries.getLast? := by
  rw [lastOf, getLast?_drop]
  split
  · next none =>
    have isEmpty : entries.length = 0 := by omega
    rw [length_eq_zero_iff.mp isEmpty]
    rfl
  · rfl

end LastOf

/-! ## Runs -/

inductive AppendPhase where
  | pushed
  | identified (identity : Option SessionIdentity)
  | recorded
  deriving DecidableEq, Repr

/-- A call of `append_message` under way: its message, and the session that it cloned. -/
structure AppendCall where
  role : String
  content : String
  session : Session
  phase : AppendPhase
  deriving DecidableEq, Repr

def AppendCall.message (call : AppendCall) : ChatMessage := ⟨call.role, call.content, none, none⟩

/-- What happens next: a call pushes its message, or a call under way goes on. -/
inductive AppendEvent where
  | begin (role content : String)
  | identify (call : Nat)
  | record (call : Nat) (times : UInt64 × UInt64)
  deriving DecidableEq, Repr

def AppendEvent.message : AppendEvent → Option ChatMessage
  | .begin role content => some ⟨role, content, none, none⟩
  | _ => none

/-- The world, the calls in the order in which they pushed their messages, and the calls
that stored their items, in that order. -/
structure AppendRun where
  world : SessionWorld
  calls : List AppendCall
  order : List Nat

def AppendRun.messages (run : AppendRun) : List ChatMessage := run.calls.map (·.message)

def AppendRun.Finished (run : AppendRun) : Prop := ∀ call ∈ run.calls, call.phase = .recorded

namespace SessionStore

variable (store : SessionStore) (sessionId : String)

section
variable (run : AppendRun) (index : Nat) (call : AppendCall)

/-- A call reads the identity. -/
def identifyCall : AppendRun :=
  match call.phase with
  | .pushed =>
    { run with calls := run.calls.set index { call with
        phase := .identified (run.world.memory.identities sessionId) } }
  | _ => run

/-- A call stores its item and writes the checkpoint. -/
def recordCall (times : UInt64 × UInt64) : AppendRun :=
  match call.phase with
  | .identified identity =>
    { world := store.recordMessage times sessionId call.role call.content call.session
        identity run.world
      calls := run.calls.set index { call with phase := .recorded }
      order := run.order ++ [index] }
  | _ => run

end

def appendStep (run : AppendRun) : AppendEvent → AppendRun
  | .begin role content =>
    let (session, world) := store.pushMessage sessionId role content run.world
    { run with world, calls := run.calls ++ [⟨role, content, session, .pushed⟩] }
  | .identify index =>
    match run.calls[index]? with
    | some call => identifyCall sessionId run index call
    | none => run
  | .record index times =>
    match run.calls[index]? with
    | some call => store.recordCall sessionId run index call times
    | none => run

/-- Appends of one session in any order, by a process that may know the identity of the
session, over empty directories. -/
def concurrentAppends (identity : Option SessionIdentity) :
    Component AppendRun AppendEvent Unit where
  initial := ⟨{ SessionWorld.empty with
    memory := { SessionMemory.empty with identities := fun _ => identity } }, [], []⟩
  step run event := ((), store.appendStep sessionId run event)

def memoryHistory (world : SessionWorld) : List ChatMessage :=
  ((world.memory.inner sessionId).map (·.history)).getD []

def storedItems (world : SessionWorld) : List ContextItem :=
  match store.checkpoints.load sessionId world.disk with
  | .ok (some checkpoint) => checkpoint.contextItems
  | _ => []

def itemOf (identity : Option SessionIdentity) (messages : List ChatMessage) (index : Nat) :
    ContextItem :=
  let message := messages[index]?
  buildContextItem sessionId ((message.map (·.role)).getD "") ((message.map (·.content)).getD "")
    index identity

structure Preserved (identity : Option SessionIdentity) (run : AppendRun) : Prop where
  history : store.storedHistory sessionId run.world = memoryHistory sessionId run.world
  items : store.storedItems sessionId run.world =
    store.keepItems ((List.range run.calls.length).map (itemOf sessionId identity run.messages))

/-- As many calls as the session keeps items stored theirs last, in the order in which
they pushed their messages. -/
def LastInTurn (run : AppendRun) : Prop :=
  lastOf store.maxItems run.order = lastOf store.maxItems (List.range run.calls.length)

instance (run : AppendRun) : Decidable (store.LastInTurn run) :=
  inferInstanceAs (Decidable (_ = _))

/-- What the calls under way, the memory and the checkpoint have. -/
structure Interleaved (identity : Option SessionIdentity) (run : AppendRun) : Prop where
  identities : run.world.memory.identities sessionId = identity
  identified : ∀ call ∈ run.calls, ∀ known, call.phase = .identified known → known = identity
  memory : memoryHistory sessionId run.world = run.messages
  held : (run.world.memory.inner sessionId).getD
    ⟨sessionId, store.savedHistory sessionId run.world⟩ = ⟨sessionId, run.messages⟩
  cloned : run.calls.map (·.session) =
    (List.range run.calls.length).map (fun index => ⟨sessionId, run.messages.take (index + 1)⟩)
  bounded : ∀ index ∈ run.order, index < run.calls.length
  items : (run.world.memory.contextItems sessionId).getD [] =
    store.keepItems (run.order.map (itemOf sessionId identity run.messages))
  storedHistory : store.storedHistory sessionId run.world =
    run.messages.take (run.order.getLast?.elim 0 (· + 1))
  storedItems : store.storedItems sessionId run.world =
    store.keepItems (run.order.map (itemOf sessionId identity run.messages))

variable {store sessionId} {identity : Option SessionIdentity} {run : AppendRun}

theorem maxItems_pos : 0 < store.maxItems := by
  rw [maxItems]
  omega

theorem keepItems_eq (items : List ContextItem) :
    store.keepItems items = lastOf store.maxItems items := rfl

/-! ## Items -/

theorem itemOf_injective (messages : List ChatMessage) :
    Function.Injective (itemOf sessionId identity messages) := by
  intro first second same
  have sameMetadata := congrArg (fun item => item.metadata[1]?) same
  have sameText : first.repr = second.repr := by
    cases identity with
    | none => simpa [itemOf, buildContextItem, itemMetadata] using sameMetadata
    | some known => simpa [itemOf, buildContextItem, itemMetadata] using sameMetadata
  have parsed := Text.parseUnsigned_repr (Nat.lt_succ_of_le (le_max_left first second))
  rw [sameText, Text.parseUnsigned_repr (Nat.lt_succ_of_le (le_max_right first second))] at parsed
  exact (Option.some.inj parsed).symm

theorem map_itemOf_snoc {messages : List ChatMessage} {order : List Nat}
    (bounded : ∀ index ∈ order, index < messages.length) (message : ChatMessage) :
    order.map (itemOf sessionId identity (messages ++ [message])) =
      order.map (itemOf sessionId identity messages) := by
  apply map_congr_left
  intro index inOrder
  rw [itemOf, itemOf, getElem?_append_left (bounded index inOrder)]

/-! ## Steps -/

theorem messages_length : run.messages.length = run.calls.length := length_map _

theorem map_set_of_same {α β : Type} (view : α → β) (entry : α) {entries : List α} {index : Nat}
    {replaced : α} (found : entries[index]? = some replaced) (same : view entry = view replaced) :
    (entries.set index entry).map view = entries.map view := by
  rw [map_set, same]
  apply ext_getElem?
  intro other
  rw [getElem?_set]
  split
  · next isIndex =>
    subst isIndex
    rw [length_map, getElem?_map, found]
    simp [(List.getElem?_eq_some_iff.mp found).1]
  · rfl

theorem Interleaved.last_le (interleaved : store.Interleaved sessionId identity run) :
    run.order.getLast?.elim 0 (· + 1) ≤ run.messages.length := by
  rw [messages_length]
  cases last : run.order.getLast? with
  | none => exact Nat.zero_le _
  | some index => exact interleaved.bounded index (mem_of_getLast? last)

theorem Interleaved.begin (interleaved : store.Interleaved sessionId identity run)
    (role content : String) :
    store.Interleaved sessionId identity (store.appendStep sessionId run (.begin role content)) := by
  have isBounded : ∀ index ∈ run.order, index < run.messages.length := by
    simpa only [messages_length] using interleaved.bounded
  have pushed : (store.pushMessage sessionId role content run.world).1 =
      ⟨sessionId, run.messages ++ [⟨role, content, none, none⟩]⟩ := by
    simp only [pushMessage, interleaved.held]
  have messages : (store.appendStep sessionId run (.begin role content)).messages =
      run.messages ++ [⟨role, content, none, none⟩] := map_append
  have inner : (store.appendStep sessionId run (.begin role content)).world.memory.inner
      sessionId = some ⟨sessionId, run.messages ++ [⟨role, content, none, none⟩]⟩ :=
    (setAt_self _ _ _).trans (congrArg some pushed)
  constructor
  · exact interleaved.identities
  · intro call inCalls known isIdentified
    rcases mem_append.mp inCalls with before | new
    · exact interleaved.identified call before known isIdentified
    · rw [mem_singleton.mp new] at isIdentified
      cases isIdentified
  · rw [memoryHistory, inner, messages]
    rfl
  · rw [inner, messages]
    rfl
  · rw [messages]
    simp only [appendStep, map_append, map_cons, map_nil, length_append,
      length_singleton, range_succ, pushed, interleaved.cloned]
    congr 1
    · apply map_congr_left
      intro index inRange
      rw [take_append_of_le_length]
      rw [messages_length]
      exact mem_range.mp inRange
    · rw [take_of_length_le]
      simp [messages_length]
  · intro index inOrder
    simp only [appendStep, length_append]
    exact Nat.lt_add_right _ (interleaved.bounded index inOrder)
  · rw [messages]
    exact interleaved.items.trans (congrArg _ (map_itemOf_snoc isBounded _).symm)
  · rw [messages]
    exact interleaved.storedHistory.trans
      (take_append_of_le_length interleaved.last_le).symm
  · rw [messages]
    exact interleaved.storedItems.trans (congrArg _ (map_itemOf_snoc isBounded _).symm)

theorem messages_set {world : SessionWorld} {order : List Nat} {index : Nat} {call : AppendCall}
    (found : run.calls[index]? = some call) (phase : AppendPhase) :
    AppendRun.messages ⟨world, run.calls.set index { call with phase }, order⟩ = run.messages :=
  map_set_of_same AppendCall.message { call with phase } found rfl

section
variable (interleaved : store.Interleaved sessionId identity run) {index : Nat} {call : AppendCall}
  (found : run.calls[index]? = some call)
include interleaved found

theorem Interleaved.cloned_set (phase : AppendPhase) :
    (run.calls.set index { call with phase }).map (·.session) =
      (List.range (run.calls.set index { call with phase }).length).map
        (fun index => ⟨sessionId, run.messages.take (index + 1)⟩) := by
  rw [length_set]
  have sessions := map_set_of_same AppendCall.session { call with phase } found rfl
  exact sessions.trans interleaved.cloned

theorem Interleaved.identifyCall :
    store.Interleaved sessionId identity (SessionStore.identifyCall sessionId run index call) := by
  rw [SessionStore.identifyCall]
  split
  · constructor
    · exact interleaved.identities
    · intro other inCalls known isIdentified
      rcases mem_or_eq_of_mem_set inCalls with before | rfl
      · exact interleaved.identified other before known isIdentified
      · cases isIdentified
        exact interleaved.identities
    · rw [messages_set found]
      exact interleaved.memory
    · rw [messages_set found]
      exact interleaved.held
    · rw [messages_set found]
      exact interleaved.cloned_set found _
    · simpa only [length_set] using interleaved.bounded
    · rw [messages_set found]
      exact interleaved.items
    · rw [messages_set found]
      exact interleaved.storedHistory
    · rw [messages_set found]
      exact interleaved.storedItems
  · exact interleaved

end

/-- The checkpoint after a call has what the call read. -/
theorem recordMessage_stored (times : UInt64 × UInt64) (role content : String)
    {session : Session} (isKey : session.key = sessionId) (world : SessionWorld) :
    let item := buildContextItem sessionId role content (session.history.length - 1) identity
    let after := store.recordMessage times sessionId role content session identity world
    store.storedHistory sessionId after = session.history ∧
      store.storedItems sessionId after =
        store.keepItems (((world.memory.contextItems sessionId).getD []) ++ [item]) := by
  intro item after
  obtain ⟨checkpoint, loads, -, isHistory, areItems⟩ :=
    @SessionCheckpointStore.load_updateHistory_calm _ store.checkpoints world.disk times
      session.key session.history store.memoryWindow
      (store.keepItems (((world.memory.contextItems sessionId).getD []) ++ [item]))
  have loadsAfter : store.checkpoints.load sessionId after.disk = .ok (some checkpoint) := by
    rw [isKey] at loads
    simpa only [after, recordMessage, isKey] using loads
  constructor
  · exact (stored_of_load loadsAfter).trans isHistory
  · rw [storedItems, loadsAfter]
    exact areItems

section
variable (interleaved : store.Interleaved sessionId identity run) {index : Nat} {call : AppendCall}
  (found : run.calls[index]? = some call)
include interleaved found

theorem Interleaved.session_eq :
    call.session = ⟨sessionId, run.messages.take (index + 1)⟩ := by
  have inside : index < run.calls.length := (List.getElem?_eq_some_iff.mp found).1
  have sessions := congrArg (·[index]?) interleaved.cloned
  simpa [found, getElem?_range inside] using sessions

theorem Interleaved.recordCall (times : UInt64 × UInt64) :
    store.Interleaved sessionId identity (store.recordCall sessionId run index call times) := by
  rw [SessionStore.recordCall]
  split
  · next known isIdentified =>
    have inside : index < run.calls.length := (List.getElem?_eq_some_iff.mp found).1
    have isKnown : known = identity :=
      interleaved.identified call (mem_of_getElem? found) known isIdentified
    have isMessage : run.messages[index]? = some call.message := by
      rw [AppendRun.messages, getElem?_map, found, Option.map_some]
    have isIndex : call.session.history.length - 1 = index := by
      rw [interleaved.session_eq found]
      simp only [length_take, messages_length]
      omega
    have isItem : buildContextItem sessionId call.role call.content
        (call.session.history.length - 1) known =
          itemOf sessionId identity run.messages index := by
      rw [itemOf, isMessage, isIndex, isKnown]
      rfl
    have kept : store.keepItems ((run.world.memory.contextItems sessionId).getD [] ++
        [buildContextItem sessionId call.role call.content
          (call.session.history.length - 1) known]) =
          store.keepItems ((run.order ++ [index]).map
            (itemOf sessionId identity run.messages)) := by
      rw [interleaved.items, isItem, keepItems_eq, keepItems_eq, keepItems_eq,
        lastOf_snoc, map_append, map_singleton]
    have isKey : call.session.key = sessionId := by
      rw [interleaved.session_eq found]
    obtain ⟨isHistory, areItems⟩ := @recordMessage_stored store sessionId known times call.role
      call.content call.session isKey run.world
    constructor
    · exact interleaved.identities
    · intro other inCalls otherKnown otherIdentified
      rcases mem_or_eq_of_mem_set inCalls with before | rfl
      · exact interleaved.identified other before otherKnown otherIdentified
      · cases otherIdentified
    · rw [messages_set found]
      exact interleaved.memory
    · rw [messages_set found]
      exact interleaved.held
    · rw [messages_set found]
      exact interleaved.cloned_set found _
    · intro other inOrder
      rw [length_set]
      rcases mem_append.mp inOrder with before | new
      · exact interleaved.bounded other before
      · rw [mem_singleton.mp new]
        exact inside
    · rw [messages_set found, ← kept]
      exact congrArg (Option.getD · []) (setAt_self _ _ _)
    · rw [messages_set found, getLast?_concat, isHistory, interleaved.session_eq found]
      rfl
    · rw [messages_set found, ← kept]
      exact areItems
  · exact interleaved

end

theorem interleaved_initial :
    store.Interleaved sessionId identity (store.concurrentAppends sessionId identity).initial := by
  constructor
  · rfl
  · nofun
  · rfl
  · rfl
  · rfl
  · nofun
  · exact drop_nil.symm
  · rfl
  · exact drop_nil.symm

theorem interleaved_step (run : AppendRun) (event : AppendEvent)
    (interleaved : store.Interleaved sessionId identity run) :
    store.Interleaved sessionId identity
      ((store.concurrentAppends sessionId identity).step run event).2 := by
  change store.Interleaved sessionId identity (store.appendStep sessionId run event)
  cases event with
  | begin role content => exact interleaved.begin role content
  | identify index =>
    rw [appendStep]
    split
    · next call found => exact interleaved.identifyCall found
    · exact interleaved
  | record index times =>
    rw [appendStep]
    split
    · next call found => exact interleaved.recordCall found times
    · exact interleaved

/-! ## Results -/

theorem getLast?_of_lastInTurn (lastInTurn : store.LastInTurn run) :
    run.order.getLast?.elim 0 (· + 1) = run.calls.length := by
  have lasts := congrArg List.getLast? lastInTurn
  rw [getLast?_lastOf maxItems_pos, getLast?_lastOf maxItems_pos] at lasts
  rw [lasts, getLast?_range]
  split
  · next isZero => rw [isZero]; rfl
  · next notZero => exact Nat.succ_pred_eq_of_pos (Nat.pos_of_ne_zero notZero)

theorem Interleaved.preserved_iff (interleaved : store.Interleaved sessionId identity run) :
    store.Preserved sessionId identity run ↔ store.LastInTurn run := by
  have items : store.storedItems sessionId run.world =
      store.keepItems ((List.range run.calls.length).map
        (itemOf sessionId identity run.messages)) ↔ store.LastInTurn run := by
    rw [interleaved.storedItems, keepItems_eq, keepItems_eq, lastOf_map, lastOf_map,
      (map_injective_iff.mpr (itemOf_injective run.messages)).eq_iff]
    exact Iff.rfl
  constructor
  · intro preserved
    exact items.mp preserved.items
  · intro lastInTurn
    constructor
    · rw [interleaved.storedHistory, interleaved.memory, getLast?_of_lastInTurn lastInTurn,
        ← messages_length, take_length]
    · exact items.mpr lastInTurn

theorem messages_step (run : AppendRun) (event : AppendEvent) :
    (store.appendStep sessionId run event).messages = run.messages ++ event.message.toList := by
  cases event with
  | begin role content => exact map_append
  | identify index =>
    refine Eq.trans ?_ (append_nil _).symm
    rw [appendStep]
    split
    · next call found =>
      rw [SessionStore.identifyCall]
      split
      · exact messages_set found _
      · rfl
    · rfl
  | record index times =>
    refine Eq.trans ?_ (append_nil _).symm
    rw [appendStep]
    split
    · next call found =>
      rw [SessionStore.recordCall]
      split
      · exact messages_set found _
      · rfl
    · rfl

theorem messages_run (run : AppendRun) (events : List AppendEvent) :
    ((store.concurrentAppends sessionId identity).run run events).2.messages =
      run.messages ++ events.filterMap AppendEvent.message := by
  induction events generalizing run with
  | nil => exact (append_nil _).symm
  | cons event rest ih =>
    rw [Component.run_cons, ih, concurrentAppends, messages_step, append_assoc, filterMap_cons]
    cases event.message <;> rfl

theorem interleaved_run (interleaved : store.Interleaved sessionId identity run)
    (events : List AppendEvent) :
    store.Interleaved sessionId identity
      ((store.concurrentAppends sessionId identity).run run events).2 := by
  induction events generalizing run with
  | nil => exact interleaved
  | cons event rest ih => exact ih (interleaved_step run event interleaved)

/-- However appends of one session run side by side, the session in memory has each
message once, in the order in which they were pushed; and the checkpoint has this session,
with the items of its last messages, exactly when as many appends as the session keeps
items came to their second part last and in that order. -/
theorem appends_preserved_iff (store : SessionStore) (sessionId : String)
    (identity : Option SessionIdentity) (events : List AppendEvent) :
    let run := ((store.concurrentAppends sessionId identity).run
      (store.concurrentAppends sessionId identity).initial events).2
    memoryHistory sessionId run.world = events.filterMap AppendEvent.message ∧
      (store.Preserved sessionId identity run ↔ store.LastInTurn run) := by
  intro run
  have interleaved : store.Interleaved sessionId identity run :=
    interleaved_run interleaved_initial events
  constructor
  · rw [interleaved.memory, messages_run]
    rfl
  · exact interleaved.preserved_iff

/-- Two appends of which the first comes last to its second part. -/
def crossedAppends : AppendRun :=
  ((plainStore.concurrentAppends "s" none).run (plainStore.concurrentAppends "s" none).initial
    [.begin "user" "first", .begin "user" "second", .identify 0, .identify 1,
      .record 1 (1, 1), .record 0 (2, 2)]).2

/-- Both appends are finished, and the checkpoint does not have the second message. -/
theorem slower_append_overwrites :
    crossedAppends.Finished ∧ ¬plainStore.Preserved "s" none crossedAppends := by
  have interleaved : plainStore.Interleaved "s" none crossedAppends :=
    interleaved_run interleaved_initial _
  constructor
  · intro call inCalls
    have phases : crossedAppends.calls.map (·.phase) = [.recorded, .recorded] := rfl
    have isPhase : call.phase ∈ crossedAppends.calls.map (·.phase) :=
      mem_map_of_mem inCalls
    rw [phases] at isPhase
    simpa using isPhase
  · rw [interleaved.preserved_iff]
    decide

end SessionStore

end AutoLoop.Session
