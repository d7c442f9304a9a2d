import AutoLoop.Session.SessionNames

/-!
# The session store

`SessionStore`: the sessions in memory, over a file of the clean history of each session
and the checkpoint store.  The append of a message comes in two parts between which other
appends can run: the message joins the session, and then its context item is stored and
the checkpoint written.
-/

namespace AutoLoop.Session

open QueryEngine (ChatMessage)
open StateAdapter (JsonForm)

/-! ## Context items -/

structure SessionIdentity where
  tenantId : String
  principalId : String
  policyId : String
  leaseToken : String
  expiresAtMs : UInt64
  deriving DecidableEq, Repr

structure ContextItem where
  sessionId : String
  itemId : String
  kind : String
  sourceRef : String
  permissionScope : String
  /-- The `f32` constant, in hundredths. -/
  priority : Nat
  budgetMicros : UInt64
  metadata : List (String × String)
  deriving DecidableEq, Repr

def derivePermissionScope (identity : Option SessionIdentity) (isTool : Bool) : String :=
  let lane := if isTool then "tool_state" else "session"
  match identity with
  | some identity =>
    s!"tenant:{identity.tenantId}:principal:{identity.principalId}:policy:{identity.policyId}:{lane}"
  | none => s!"tenant:default:principal:unknown:policy:default:{lane}"

/-- The entries of a `BTreeMap`, in order of their keys. -/
def itemMetadata (role content : String) (messageIndex : Nat)
    (identity : Option SessionIdentity) : List (String × String) :=
  match identity with
  | none =>
    [("content_chars", content.length.repr), ("message_index", messageIndex.repr),
      ("role", role), ("source_layer", "session-store")]
  | some identity =>
    [("content_chars", content.length.repr), ("message_index", messageIndex.repr),
      ("policy_id", identity.policyId), ("principal_id", identity.principalId),
      ("role", role), ("source_layer", "session-store"), ("tenant_id", identity.tenantId)]

def buildContextItem (sessionId role content : String) (messageIndex : Nat)
    (identity : Option SessionIdentity) : ContextItem :=
  let lowered := Text.toAsciiLowercase role
  let isTool := lowered == "tool"
  { sessionId
    itemId := s!"{sessionId}:{role}:{messageIndex}"
    kind := if isTool then "tool_state" else "session"
    sourceRef :=
      if isTool then s!"tool-state:{sessionId}:message:{messageIndex}"
      else s!"session:{sessionId}:message:{messageIndex}"
    permissionScope := derivePermissionScope identity isTool
    priority :=
      if isTool then 95 else if lowered = "user" then 90
      else if lowered = "assistant" then 78 else 70
    budgetMicros := UInt64.ofNat (min (content.length * 120 + 1000) 2000000)
    metadata := itemMetadata role content messageIndex identity }

/-! ## The store -/

/-- What a process holds. -/
structure SessionMemory where
  inner : String → Option Session
  identities : String → Option SessionIdentity
  contextItems : String → Option (List ContextItem)

def SessionMemory.empty : SessionMemory := ⟨fun _ => none, fun _ => none, fun _ => none⟩

/-- The memory, the texts of the files in `.ontoloop-sessions`, and the checkpoints. -/
structure SessionWorld where
  memory : SessionMemory
  sessionFiles : String → Option String
  disk : CheckpointDisk

def SessionWorld.empty : SessionWorld := ⟨.empty, fun _ => none, .empty⟩

structure SessionStore where
  checkpoints : SessionCheckpointStore ContextItem
  historyForm : JsonForm (List ChatMessage)
  memoryWindow : Nat

def setAt {α : Type} (map : String → α) (key : String) (value : α) : String → α :=
  fun other => if other = key then value else map other

@[simp] theorem setAt_self {α : Type} (map : String → α) (key : String) (value : α) :
    setAt map key value key = value := if_pos rfl

/-- What the file for another process keeps: no messages of tools. -/
def isClean (message : ChatMessage) : Bool :=
  message.role == "user" || (message.role == "assistant" && message.toolCalls.isNone)

def Session.recentHistory (session : Session) (maxMessages : Nat) : List ChatMessage :=
  session.history.drop (session.history.length - maxMessages)

/-- What becomes of the writes of a call at these times, without errors. -/
def calm (times : UInt64 × UInt64) : SaveHost := ⟨times.1, times.2, .done, .done⟩

namespace SessionStore

variable (store : SessionStore)

def savedHistory (sessionId : String) (world : SessionWorld) : List ChatMessage :=
  ((world.sessionFiles sessionId).bind store.historyForm.decode).getD []

/-- The first part of `append_message`: the session with its new message, and the file
for other processes. -/
def pushMessage (sessionId role content : String) (world : SessionWorld) :
    Session × SessionWorld :=
  let held := (world.memory.inner sessionId).getD
    ⟨sessionId, store.savedHistory sessionId world⟩
  let session : Session :=
    { held with history := held.history ++ [⟨role, content, none, none⟩] }
  let cleanHistory := session.history.filter isClean
  (session, { world with
    memory := { world.memory with
      inner := setAt world.memory.inner sessionId (some session) }
    sessionFiles :=
      if cleanHistory = [] then world.sessionFiles
      else setAt world.sessionFiles sessionId (some (store.historyForm.encode cleanHistory)) })

/-- How many context items a session keeps. -/
def maxItems : Nat := max (min (store.memoryWindow * 12) (2 ^ 64 - 1)) 64

/-- The items after one more. -/
def keepItems (items : List ContextItem) : List ContextItem :=
  items.drop (items.length - store.maxItems)

section
variable (times : UInt64 × UInt64)

/-- The second part of `append_message`: the context item of the message, and the
checkpoint of the session as it was after the first part. -/
def recordMessage (sessionId role content : String)
    (session : Session) (identity : Option SessionIdentity) (world : SessionWorld) :
    SessionWorld :=
  let item := buildContextItem sessionId role content (session.history.length - 1) identity
  let items := store.keepItems (((world.memory.contextItems sessionId).getD []) ++ [item])
  { world with
    memory := { world.memory with
      contextItems := setAt world.memory.contextItems sessionId (some items) }
    disk := (store.checkpoints.updateHistory (calm times) session.key session.history
      store.memoryWindow items world.disk).2 }

/-- `append_message` while nothing else runs. -/
def appendMessage (sessionId role content : String)
    (world : SessionWorld) : SessionWorld :=
  let (session, pushed) := store.pushMessage sessionId role content world
  store.recordMessage times sessionId role content session (pushed.memory.identities sessionId)
    pushed

def appendUserMessage (sessionId content : String) :=
  store.appendMessage times sessionId "user" content

def appendAssistantMessage (sessionId content : String) :=
  store.appendMessage times sessionId "assistant" content

def appendToolMessage (sessionId toolName content : String) :=
  store.appendMessage times sessionId "tool" (toolName ++ ": " ++ content)

end

/-- `hydrate_context_items_from_checkpoint`. -/
def hydrateContextItems (sessionId : String) (world : SessionWorld) : SessionWorld :=
  match store.checkpoints.load sessionId world.disk with
  | .ok (some checkpoint) =>
    { world with
      memory := { world.memory with
        contextItems := setAt world.memory.contextItems sessionId
          (some checkpoint.contextItems) } }
  | _ => world

def history (sessionId : String) (world : SessionWorld) : List ChatMessage × SessionWorld :=
  match world.memory.inner sessionId with
  | some session => (session.recentHistory store.memoryWindow, world)
  | none =>
    match store.checkpoints.restoreSession sessionId world.disk with
    | .ok (some restored) =>
      (restored.recentHistory store.memoryWindow, store.hydrateContextItems sessionId { world with
          memory := { world.memory with
            inner := setAt world.memory.inner sessionId (some restored) } })
    | _ => ([], world)

/-- A fresh store over the same directories. -/
def restart (world : SessionWorld) : SessionWorld := { world with memory := .empty }

end SessionStore

end AutoLoop.Session

/-!
## Session history over restarts

Appends and reads of one session over several processes.  The file for other processes
leaves out the messages of tools, and a process that appends before it reads takes it for
the whole history.
-/

namespace AutoLoop.Session

open QueryEngine (ChatMessage)
open SessionCheckpointStore

/-! ## Checkpoints that are written -/

namespace SessionCheckpointStore

variable {Item : Type} {store : SessionCheckpointStore Item} {disk : CheckpointDisk}

theorem save_of_done {host : SaveHost} (checkpointDone : host.checkpointWrite = .done)
    (evidenceDone : host.evidenceWrite = .done) (checkpoint : SessionCheckpoint Item) :
    (store.save host checkpoint disk).1 = .ok () := by
  cases isRef : checkpoint.evidenceRef with
  | none => simp [save, writeFile, checkpointDone, isRef, Effect.bind_apply]
  | some evidenceRef =>
    simp [save, persistEvidenceRecord, writeFile, checkpointDone, evidenceDone, isRef,
      Effect.bind_apply]

theorem load_updateHistory_calm (times : UInt64 × UInt64) (sessionId : String)
    (history : List ChatMessage) (memoryWindow : Nat) (contextItems : List Item) :
    ∃ checkpoint, store.load sessionId (store.updateHistory (calm times) sessionId history
        memoryWindow contextItems disk).2 = .ok (some checkpoint) ∧
      checkpoint.sessionId = sessionId ∧ checkpoint.history = history ∧
      checkpoint.contextItems = contextItems := by
  let checkpoint := store.updated (calm times) sessionId history memoryWindow contextItems
    ((store.load sessionId disk).toOption).join
  have wrote : (store.updateHistory (calm times) sessionId history memoryWindow contextItems
      disk).2 = (store.save (calm times) checkpoint disk).2 := by
    simp only [updateHistory, Effect.bind_pure_apply]
    rfl
  have whole : store.Whole (calm times) checkpoint disk := whole_of_done rfl rfl
  rcases save_cases whole with ⟨failed, -⟩ | stands
  · rw [save_of_done rfl rfl] at failed
    cases failed
  · rw [wrote]
    exact ⟨checkpoint, stands.load rfl, rfl, rfl, rfl⟩

end SessionCheckpointStore

/-! ## Runs -/

inductive HistoryOp where
  | appendUserMessage (times : UInt64 × UInt64) (content : String)
  | appendAssistantMessage (times : UInt64 × UInt64) (content : String)
  | appendToolMessage (times : UInt64 × UInt64) (toolName content : String)
  | history
  | restart
  deriving DecidableEq, Repr

def HistoryOp.message : HistoryOp → Option ChatMessage
  | .appendUserMessage _ content => some ⟨"user", content, none, none⟩
  | .appendAssistantMessage _ content => some ⟨"assistant", content, none, none⟩
  | .appendToolMessage _ toolName content => some ⟨"tool", toolName ++ ": " ++ content, none, none⟩
  | .history => none
  | .restart => none

structure HistoryRun where
  world : SessionWorld
  appended : List ChatMessage

namespace SessionStore

variable (store : SessionStore) (sessionId : String)

/-- What an operation leaves. -/
def historyStep (world : SessionWorld) : HistoryOp → SessionWorld
  | .appendUserMessage times content => store.appendUserMessage times sessionId content world
  | .appendAssistantMessage times content =>
    store.appendAssistantMessage times sessionId content world
  | .appendToolMessage times toolName content =>
    store.appendToolMessage times sessionId toolName content world
  | .history => (store.history sessionId world).2
  | .restart => restart world

/-- Operations on one session, from empty directories on. -/
def histories : Component HistoryRun HistoryOp Unit where
  initial := ⟨.empty, []⟩
  step run op := ((), ⟨store.historyStep sessionId run.world op, run.appended ++ op.message.toList⟩)

def storedHistory (world : SessionWorld) : List ChatMessage :=
  match store.checkpoints.load sessionId world.disk with
  | .ok (some checkpoint) => checkpoint.history
  | _ => []

/-- The stored checkpoint has all messages in order. -/
def Survives (run : HistoryRun) : Prop :=
  store.storedHistory sessionId run.world = run.appended

def ReadBefore (run : HistoryRun) (op : HistoryOp) : Prop :=
  op.message ≠ none →
    run.world.memory.inner sessionId ≠ none ∨ ∀ message ∈ run.appended, isClean message = true

/-- All three copies have the history as far as they keep it. -/
structure Faithful (run : HistoryRun) : Prop where
  stored : store.storedHistory sessionId run.world = run.appended
  named : ∀ checkpoint, store.checkpoints.load sessionId run.world.disk = .ok (some checkpoint) →
    checkpoint.sessionId = sessionId
  memory : ∀ session, run.world.memory.inner sessionId = some session →
    session = ⟨sessionId, run.appended⟩
  file : store.savedHistory sessionId run.world = run.appended.filter isClean

variable {store sessionId} {run : HistoryRun}

/-! ## Appends -/

theorem appendMessage_parts {held : Session} (times : UInt64 × UInt64) (role content : String)
    (world : SessionWorld)
    (isHeld : (world.memory.inner sessionId).getD
      ⟨sessionId, store.savedHistory sessionId world⟩ = held) :
    let history := held.history ++ [⟨role, content, none, none⟩]
    let after := store.appendMessage times sessionId role content world
    (∃ contextItems, after.disk = (store.checkpoints.updateHistory (calm times) held.key history
        store.memoryWindow contextItems world.disk).2) ∧
      after.memory.inner sessionId = some { held with history } ∧
      after.sessionFiles = if history.filter isClean = [] then world.sessionFiles
        else setAt world.sessionFiles sessionId
          (some (store.historyForm.encode (history.filter isClean))) := by
  subst isHeld
  exact ⟨⟨_, rfl⟩, setAt_self _ _ _, rfl⟩

theorem stored_of_load {world : SessionWorld} {checkpoint : SessionCheckpoint ContextItem}
    (loads : store.checkpoints.load sessionId world.disk = .ok (some checkpoint)) :
    store.storedHistory sessionId world = checkpoint.history := by
  rw [storedHistory, loads]

theorem appendMessage_faithful {world : SessionWorld} {history : List ChatMessage}
    (times : UInt64 × UInt64) (role content : String)
    (isHeld : (world.memory.inner sessionId).getD
      ⟨sessionId, store.savedHistory sessionId world⟩ = ⟨sessionId, history⟩)
    (file : history.filter isClean = [] → store.savedHistory sessionId world = []) :
    store.Faithful sessionId
      ⟨store.appendMessage times sessionId role content world,
        history ++ [⟨role, content, none, none⟩]⟩ := by
  obtain ⟨⟨contextItems, isDisk⟩, isMemory, isFile⟩ :=
    appendMessage_parts times role content world isHeld
  obtain ⟨checkpoint, loads, isNamed, isHistory, -⟩ :=
    store.checkpoints.load_updateHistory_calm times sessionId
      (history ++ [⟨role, content, none, none⟩]) store.memoryWindow contextItems
  rw [← isDisk] at loads
  constructor
  · exact (stored_of_load loads).trans isHistory
  · intro other loadsOther
    rw [loads] at loadsOther
    cases loadsOther
    exact isNamed
  · intro session inMemory
    rw [isMemory] at inMemory
    cases inMemory
    rfl
  · simp only [savedHistory]
    rw [isFile]
    split
    · next noneClean =>
      have before : history.filter isClean = [] := by
        rw [List.filter_append] at noneClean
        exact (List.append_eq_nil_iff.mp noneClean).1
      rw [noneClean]
      exact file before
    · rw [setAt_self, Option.bind_some, store.historyForm.decode_encode]
      rfl

section
variable (faithful : store.Faithful sessionId run)
include faithful

section
variable (times : UInt64 × UInt64) (role content : String)

theorem Faithful.append (readBefore : run.world.memory.inner sessionId ≠ none ∨
      ∀ message ∈ run.appended, isClean message = true) :
    store.Faithful sessionId
      ⟨store.appendMessage times sessionId role content run.world,
        run.appended ++ [⟨role, content, none, none⟩]⟩ := by
  apply appendMessage_faithful
  · cases inMemory : run.world.memory.inner sessionId with
    | some session => exact faithful.memory session inMemory
    | none =>
      rcases readBefore with notNone | allClean
      · exact absurd inMemory notNone
      · rw [Option.getD_none, faithful.file, List.filter_eq_self.mpr allClean]
  · intro noneClean
    rw [faithful.file, noneClean]

theorem Faithful.readBefore_of_append (survives : store.storedHistory sessionId
        (store.appendMessage times sessionId role content run.world) =
      run.appended ++ [⟨role, content, none, none⟩]) :
    run.world.memory.inner sessionId ≠ none ∨
      ∀ message ∈ run.appended, isClean message = true := by
  cases inMemory : run.world.memory.inner sessionId with
  | some session => exact Or.inl (Option.some_ne_none session)
  | none =>
    right
    have isHeld : (run.world.memory.inner sessionId).getD
        ⟨sessionId, store.savedHistory sessionId run.world⟩ =
          ⟨sessionId, run.appended.filter isClean⟩ := by
      rw [inMemory, Option.getD_none, faithful.file]
    have after := (appendMessage_faithful times role content isHeld (by
      intro noneClean
      simpa [faithful.file] using noneClean)).stored
    rw [survives] at after
    exact List.filter_eq_self.mp (List.append_cancel_right after).symm

end

/-! ## Reads and restarts -/

theorem Faithful.restart :
    store.Faithful sessionId ⟨SessionStore.restart run.world, run.appended⟩ where
  stored := faithful.stored
  named := faithful.named
  memory := nofun
  file := faithful.file

theorem Faithful.read :
    store.Faithful sessionId ⟨(store.history sessionId run.world).2, run.appended⟩ := by
  rw [history]
  cases inMemory : run.world.memory.inner sessionId with
  | some session => exact faithful
  | none =>
    cases loads : store.checkpoints.load sessionId run.world.disk with
    | error message =>
      simp only [restoreSession, loads]
      exact faithful
    | ok found =>
      cases found with
      | none =>
        simp only [restoreSession, loads]
        exact faithful
      | some checkpoint =>
        have isHistory : checkpoint.history = run.appended :=
          (stored_of_load loads).symm.trans faithful.stored
        have restored : store.checkpoints.restoreSession sessionId run.world.disk =
            .ok (some ⟨sessionId, run.appended⟩) := by
          rw [restoreSession, loads]
          exact congrArg Except.ok (congrArg some
            (congrArg₂ Session.mk (faithful.named checkpoint loads) isHistory))
        rw [restored]
        simp only [hydrateContextItems, loads]
        constructor
        · exact faithful.stored
        · exact faithful.named
        · intro session nowInMemory
          simp only [setAt_self] at nowInMemory
          cases nowInMemory
          rfl
        · exact faithful.file

end

/-! ## Runs -/

section
variable (run : HistoryRun) (op : HistoryOp) (faithful : store.Faithful sessionId run)
include faithful

theorem faithful_step (readBefore : ReadBefore sessionId run op) :
    store.Faithful sessionId ((store.histories sessionId).step run op).2 := by
  cases op with
  | appendUserMessage times content =>
    exact faithful.append times "user" content (readBefore (Option.some_ne_none _))
  | appendAssistantMessage times content =>
    exact faithful.append times "assistant" content (readBefore (Option.some_ne_none _))
  | appendToolMessage times toolName content =>
    exact faithful.append times "tool" (toolName ++ ": " ++ content)
      (readBefore (Option.some_ne_none _))
  | history =>
    have read := faithful.read
    simpa [histories, historyStep, HistoryOp.message] using read
  | restart =>
    have restarted := faithful.restart
    simpa [histories, historyStep, HistoryOp.message] using restarted

theorem readBefore_of_survives
    (survives : store.Survives sessionId ((store.histories sessionId).step run op).2) :
    ReadBefore sessionId run op := by
  intro appends
  cases op with
  | appendUserMessage times content =>
    exact faithful.readBefore_of_append times "user" content survives
  | appendAssistantMessage times content =>
    exact faithful.readBefore_of_append times "assistant" content survives
  | appendToolMessage times toolName content =>
    exact faithful.readBefore_of_append times "tool" (toolName ++ ": " ++ content) survives
  | history => exact absurd rfl appends
  | restart => exact absurd rfl appends

end

theorem faithful_initial : store.Faithful sessionId (store.histories sessionId).initial where
  stored := rfl
  named := nofun
  memory := nofun
  file := rfl

/-- The stored checkpoint has the whole history after each operation exactly when no
process appends to a history with messages of tools before it read it. -/
theorem history_survives_iff (store : SessionStore) (sessionId : String) (ops : List HistoryOp) :
    (store.histories sessionId).Always (store.Survives sessionId)
        (store.histories sessionId).initial ops ↔
      (store.histories sessionId).EachStep (ReadBefore sessionId)
        (store.histories sessionId).initial ops := by
  have holds : ∀ run, store.Faithful sessionId run → store.Survives sessionId run :=
    fun _ faithful => faithful.stored
  exact Component.always_iff_of_invariant holds faithful_step readBefore_of_survives
    faithful_initial

deriving instance Encodable for ContextItem

def plainStore : SessionStore where
  checkpoints := {
    checkpointForm := ⟨numberText, ofNumberText, ofNumberText_numberText⟩
    evidenceForm := ⟨numberText, ofNumberText, ofNumberText_numberText⟩
    digestMessages := fun _ => "digest"
    redactMessages := fun messages => (messages, ⟨0, []⟩) }
  historyForm := ⟨numberText, ofNumberText, ofNumberText_numberText⟩
  memoryWindow := 8

/-- A process that appends first loses the message of a tool. -/
theorem append_after_restart_loses_tool_message :
    ¬(plainStore.histories "s").Always (plainStore.Survives "s")
      (plainStore.histories "s").initial
      [.appendToolMessage (1, 1) "shell" "done", .restart, .appendUserMessage (2, 2) "next"] := by
  intro always
  have first : plainStore.Faithful "s" ((plainStore.histories "s").step
      (plainStore.histories "s").initial (.appendToolMessage (1, 1) "shell" "done")).2 :=
    faithful_step _ _ faithful_initial fun _ => Or.inr nofun
  have second := faithful_step _ .restart first fun appends => absurd rfl appends
  have readBefore := readBefore_of_survives _ _ second always.2.2.2 (Option.some_ne_none _)
  rcases readBefore with inMemory | allClean
  · exact inMemory rfl
  · have clean := allClean ⟨"tool", "shell: done", none, none⟩ (List.mem_singleton_self _)
    cases clean

end SessionStore

end AutoLoop.Session
