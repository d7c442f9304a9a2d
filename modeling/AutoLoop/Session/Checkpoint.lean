import AutoLoop.QueryEngine.QueryLoop
import AutoLoop.StateAdapter.TypedTables

/-!
# Session checkpoints

`SessionCheckpointStore` over two files for each session: the checkpoint, and the
evidence record that it is checked against.  They are written one after the other, and
each write can be done, not happen, or stop with something else in the file.
-/

namespace AutoLoop.Session

open QueryEngine (ChatMessage)
open StateAdapter (JsonForm)

/-! ## Files -/

inductive StoredFile where
  | missing
  | text (content : String)
  /-- Not UTF-8. -/
  | unreadable
  deriving DecidableEq, Repr

/-- What becomes of a write.  A process that stops in it leaves the file as a write
that fails does. -/
inductive WriteOutcome where
  | done
  | untouched
  | torn (left : StoredFile)
  deriving DecidableEq, Repr

structure SessionFiles where
  checkpoint : StoredFile
  evidence : StoredFile
  deriving DecidableEq, Repr

/-- The files by the sanitized session id in their names. -/
structure CheckpointDisk where
  files : String → SessionFiles

namespace CheckpointDisk

def empty : CheckpointDisk := ⟨fun _ => ⟨.missing, .missing⟩⟩

section
variable (disk : CheckpointDisk) (name : String) (files : SessionFiles)

def put : CheckpointDisk :=
  ⟨fun other => if other = name then files else disk.files other⟩

@[simp] theorem files_put_self :
    (disk.put name files).files name = files := if_pos rfl

end

theorem files_put_of_ne {disk : CheckpointDisk} {name other : String} {files : SessionFiles}
    (different : other ≠ name) : (disk.put name files).files other = disk.files other :=
  if_neg different

end CheckpointDisk

/-- `fs::write` of one of the files of a session. -/
def writeFile (set : SessionFiles → StoredFile → SessionFiles) (name content : String)
    (outcome : WriteOutcome) : Effect CheckpointDisk Unit := fun disk =>
  match outcome with
  | .done => (.ok (), disk.put name (set (disk.files name) (.text content)))
  | .untouched => (.error "write failed", disk)
  | .torn left => (.error "write failed", disk.put name (set (disk.files name) left))

/-! ## Records -/

structure SessionHistoryCompaction where
  windowSize : Nat
  compactedHistory : List ChatMessage
  digest : String
  deriving DecidableEq, Repr

structure SessionRedactionSummary where
  redactedFields : UInt32
  redactionRules : List String
  deriving DecidableEq, Repr

structure SessionCheckpoint (ContextItem : Type) where
  sessionId : String
  history : List ChatMessage
  compaction : SessionHistoryCompaction
  updatedAtMs : UInt64
  continuationTurnId : Option String
  continuationCheckpointToken : Option String
  contextItems : List ContextItem
  evidenceRef : Option String
  redactedCompactedHistory : List ChatMessage
  redactionSummary : SessionRedactionSummary
  deriving DecidableEq

structure SessionCheckpointEvidenceRecord where
  evidenceRef : String
  sessionId : String
  updatedAtMs : UInt64
  checkpointDigest : String
  historyLen : Nat
  redactedFields : UInt32
  generatedAtMs : UInt64
  deriving DecidableEq, Repr

/-- The store, with the functions it is built on. -/
structure SessionCheckpointStore (ContextItem : Type) where
  checkpointForm : JsonForm (SessionCheckpoint ContextItem)
  evidenceForm : JsonForm SessionCheckpointEvidenceRecord
  digestMessages : List ChatMessage → String
  redactMessages : List ChatMessage → List ChatMessage × SessionRedactionSummary

/-- What one call finds: the clock at its two reads, and what becomes of its writes. -/
structure SaveHost where
  updatedAtMs : UInt64
  generatedAtMs : UInt64
  checkpointWrite : WriteOutcome
  evidenceWrite : WriteOutcome
  deriving DecidableEq, Repr

def sanitizeSessionId (sessionId : String) : String :=
  let cleaned := String.ofList (sessionId.toList.filter fun char =>
    char.isAlphanum || char = '-' || char = '_')
  if cleaned = "" then "session" else cleaned

def compactHistory (history : List ChatMessage) (memoryWindow : Nat) : List ChatMessage :=
  history.drop (history.length - max memoryWindow 1)

namespace SessionCheckpointStore

variable {ContextItem : Type} (store : SessionCheckpointStore ContextItem)

/-! ## Loading -/

def verifyCheckpointEvidence (checkpoint : SessionCheckpoint ContextItem)
    (disk : CheckpointDisk) : Except String Unit :=
  match checkpoint.evidenceRef with
  | none => .ok ()
  | some evidenceRef =>
    match (disk.files (sanitizeSessionId checkpoint.sessionId)).evidence with
    | .missing => .error ("checkpoint evidence missing for session '" ++ checkpoint.sessionId ++
        "' (ref=" ++ evidenceRef ++ ")")
    | .unreadable => .error "stream did not contain valid UTF-8"
    | .text raw =>
      match store.evidenceForm.decode raw with
      | none => .error "invalid evidence record"
      | some evidence =>
        if evidence.evidenceRef ≠ evidenceRef then
          .error ("checkpoint evidence_ref mismatch for session '" ++ checkpoint.sessionId ++ "'")
        else if evidence.checkpointDigest ≠ checkpoint.compaction.digest then
          .error ("checkpoint digest mismatch for session '" ++ checkpoint.sessionId ++ "'")
        else .ok ()

def load (sessionId : String) (disk : CheckpointDisk) :
    Except String (Option (SessionCheckpoint ContextItem)) :=
  match (disk.files (sanitizeSessionId sessionId)).checkpoint with
  | .missing => .ok none
  | .unreadable => .error "stream did not contain valid UTF-8"
  | .text raw =>
    match store.checkpointForm.decode raw with
    | none => .error "invalid checkpoint"
    | some checkpoint => do
        store.verifyCheckpointEvidence checkpoint disk
        return some checkpoint

/-! ## Saving -/

section
variable (host : SaveHost) (checkpoint : SessionCheckpoint ContextItem)

def persistEvidenceRecord (evidenceRef : String) : Effect CheckpointDisk Unit :=
  writeFile (fun files evidence => { files with evidence })
    (sanitizeSessionId checkpoint.sessionId)
    (store.evidenceForm.encode {
      evidenceRef
      sessionId := checkpoint.sessionId
      updatedAtMs := checkpoint.updatedAtMs
      checkpointDigest := checkpoint.compaction.digest
      historyLen := checkpoint.history.length
      redactedFields := checkpoint.redactionSummary.redactedFields
      generatedAtMs := host.generatedAtMs })
    host.evidenceWrite

def save :
    Effect CheckpointDisk Unit := do
  writeFile (fun files written => { files with checkpoint := written })
    (sanitizeSessionId checkpoint.sessionId) (store.checkpointForm.encode checkpoint)
    host.checkpointWrite
  match checkpoint.evidenceRef with
  | none => return ()
  | some evidenceRef => store.persistEvidenceRecord host checkpoint evidenceRef

end

def annotated (checkpoint : SessionCheckpoint ContextItem) (host : SaveHost)
    (turnId checkpointToken : String) : SessionCheckpoint ContextItem :=
  { checkpoint with
    continuationTurnId := some turnId
    continuationCheckpointToken := some checkpointToken
    updatedAtMs := host.updatedAtMs }

def annotateContinuation (host : SaveHost) (sessionId turnId checkpointToken : String) :
    Effect CheckpointDisk (Option (SessionCheckpoint ContextItem)) := fun disk =>
  match store.load sessionId disk with
  | .error message => (.error message, disk)
  | .ok none => (.ok none, disk)
  | .ok (some loaded) =>
    (do
      store.save host (annotated loaded host turnId checkpointToken)
      return some (annotated loaded host turnId checkpointToken) :
      Effect CheckpointDisk (Option (SessionCheckpoint ContextItem))) disk

section
variable (host : SaveHost) (sessionId : String) (history : List ChatMessage) (memoryWindow : Nat)
  (contextItems : List ContextItem)

/-- The checkpoint that an update saves, after the one it could load. -/
def updated (previous : Option (SessionCheckpoint ContextItem)) : SessionCheckpoint ContextItem :=
  let compactedHistory := compactHistory history memoryWindow
  let digest := store.digestMessages compactedHistory
  { sessionId
    history
    compaction := ⟨memoryWindow, compactedHistory, digest⟩
    updatedAtMs := host.updatedAtMs
    continuationTurnId := previous.bind (·.continuationTurnId)
    continuationCheckpointToken := previous.bind (·.continuationCheckpointToken)
    contextItems
    evidenceRef := some ("session-evidence:" ++ sanitizeSessionId sessionId ++ ":" ++
      host.updatedAtMs.toNat.repr ++ ":" ++ digest)
    redactedCompactedHistory := (store.redactMessages compactedHistory).1
    redactionSummary := (store.redactMessages compactedHistory).2 }

def updateHistory :
    Effect CheckpointDisk (SessionCheckpoint ContextItem) := fun disk =>
  -- An error of the load counts as an absent checkpoint.
  let previous := ((store.load sessionId disk).toOption).join
  let checkpoint := store.updated host sessionId history memoryWindow contextItems previous
  (do
    store.save host checkpoint
    return checkpoint : Effect CheckpointDisk (SessionCheckpoint ContextItem)) disk

end

end SessionCheckpointStore

end AutoLoop.Session
