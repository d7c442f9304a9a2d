import AutoLoop.Foundation.FileSystem
import AutoLoop.Runtime.EvidenceLedger
import AutoLoop.StateAdapter.RecordForms

/-!
# The patch engine

A patch is a list of operations on the files of a workspace.  The engine refuses lists
with conflicts, applies the operations one by one, keeps an undo action and a stored
snapshot for each of them, and undoes what it has applied when one of them fails.  A
committed patch is reverted from its snapshots.
-/

namespace AutoLoop.QueryEngine

open AutoLoop.Runtime StateAdapter Json Effect

/-! ## Operations -/

inductive PatchOpKind where
  | createFile
  | updateFile
  | deleteFile
  | moveFile
  | revert
  deriving DecidableEq, Repr

/-- `{:?}` in lower case. -/
def PatchOpKind.text : PatchOpKind → String
  | createFile => "createfile"
  | updateFile => "updatefile"
  | deleteFile => "deletefile"
  | moveFile => "movefile"
  | revert => "revert"

structure PatchOp where
  opId : String
  kind : PatchOpKind
  path : String
  fromPath : Option String := none
  patch : Option String := none
  expectedHash : Option String := none
  /-- In order of the keys. -/
  metadata : List (String × String) := []
  deriving DecidableEq, Repr

inductive PatchStepStatus where
  | applied
  | reverted
  | failed
  deriving DecidableEq, Repr

/-- The JSON form, in snake case. -/
def PatchStepStatus.json : PatchStepStatus → String
  | applied => quote "applied"
  | reverted => quote "reverted"
  | failed => quote "failed"

structure PatchStepRecord where
  opId : String
  kind : String
  path : String
  status : PatchStepStatus
  beforeHash : Option String := none
  afterHash : Option String := none
  diffRef : Option String := none
  error : Option String := none
  deriving DecidableEq, Repr

structure PatchExecutionReport where
  sessionId : String
  traceId : String
  success : Bool
  transactionCommitted : Bool
  rollbackPerformed : Bool
  rollbackSuccessful : Bool
  steps : List PatchStepRecord
  evidenceRef : Option String
  replayFp : Option String
  message : Option String
  deriving DecidableEq, Repr

abbrev Content : Type := List UInt8

structure PatchSnapshotRecord where
  opId : String
  path : String
  existedBefore : Bool
  contentBefore : Option Content
  createdAtMs : UInt64
  deriving DecidableEq, Repr

inductive UndoAction where
  | deleteCreated (path : Path)
  | restoreFile (path : Path) (content : Content)
  | restoreDeleted (path : Path) (content : Content)
  | moveBack (source target : Path)
  deriving DecidableEq, Repr

structure PatchConflict where
  opId : String
  path : String
  reason : String
  deriving DecidableEq, Repr

structure DiffPatchEngine where
  /-- An absolute path. -/
  workspaceRoot : String
  /-- `hash_bytes`. -/
  hashBytes : Content → String
  snapshotForm : JsonForm PatchSnapshotRecord
  /-- The evidence ledger over the store that the engine is called with. -/
  ledger : EvidenceLedgerWriter String

/-- The files beside the store. -/
structure PatchWorld where
  files : FileSystem Content
  shared : Shared

section
variable {α : Type}

def onFiles (action : Effect (FileSystem Content) α) : Effect PatchWorld α :=
  zoom (·.files) (fun files world => { world with files }) action

def reading (view : FileSystem Content → α) : Effect (FileSystem Content) α :=
  fun files => (.ok (view files), files)

/-- Look at the files. -/
def inspect (view : FileSystem Content → Except String α) : Effect PatchWorld α :=
  fun world => (view world.files, world)

@[simp] theorem onFiles_apply (action : Effect (FileSystem Content) α)
    (world : PatchWorld) :
    onFiles action world = ((action world.files).1,
      { world with files := (action world.files).2 }) := rfl

@[simp] theorem inspect_apply (view : FileSystem Content → Except String α)
    (world : PatchWorld) : inspect view world = (view world.files, world) := rfl

def onStore (call : StoreCall α) : Effect PatchWorld α :=
  zoom (·.shared) (fun shared world => { world with shared }) call.run

@[simp] theorem onStore_apply (call : StoreCall α) (world : PatchWorld) :
    onStore call world = ((call.run world.shared).1,
      { world with shared := (call.run world.shared).2 }) := rfl

end

/-! ## Texts -/

def normalizeOpId (op : PatchOp) (idx : Nat) : String :=
  if (Text.trim op.opId).isEmpty then "op-" ++ idx.repr else op.opId

/-- `Path::display` of a normalized path. -/
def display (path : Path) : String := "/" ++ String.intercalate "/" path

/-- `replace('\\', "/")`. -/
def forwardSlashes (text : String) : String :=
  String.ofList (text.toList.map fun char => if char = '\\' then '/' else char)

def jsonOption : Option String → String
  | some text => quote text
  | none => "null"

def jsonArray (items : List String) : String := "[" ++ Text.joinWith ',' items ++ "]"

def PatchStepRecord.json (step : PatchStepRecord) : String :=
  object [("after_hash", jsonOption step.afterHash), ("before_hash", jsonOption step.beforeHash),
    ("diff_ref", jsonOption step.diffRef), ("error", jsonOption step.error),
    ("kind", quote step.kind), ("op_id", quote step.opId),
    ("path", quote step.path), ("status", step.status.json)]

def PatchConflict.json (conflict : PatchConflict) : String :=
  object [("op_id", quote conflict.opId), ("path", quote conflict.path),
    ("reason", quote conflict.reason)]

/-! ## Paths -/

def normalizeWithoutResolving (path : String) : Path :=
  (Text.split '/' path).foldl (fun out component =>
    if component = "" ∨ component = "." then out
    else if component = ".." then out.dropLast
    else out ++ [component]) []

example : normalizeWithoutResolving "/w//a/./b/../c" = ["w", "a", "c"] := by decide +kernel

namespace DiffPatchEngine

variable (engine : DiffPatchEngine)

def resolvePath (input : String) : Except String Path :=
  let joined := if Text.startsWith input "/" then input else engine.workspaceRoot ++ "/" ++ input
  let normalized := normalizeWithoutResolving joined
  let root := normalizeWithoutResolving engine.workspaceRoot
  if root <+: normalized then .ok normalized
  else .error ("path escapes workspace root (target=" ++ display normalized ++ ", root=" ++
    display root ++ ")")

/-! ## Conflicts -/

structure ConflictScan where
  conflicts : List PatchConflict := []
  seenIds : List String := []
  targetWriters : Table Path String := Table.empty
  moveSources : Table Path String := Table.empty

def ConflictScan.add (scan : ConflictScan) (opId path reason : String) : ConflictScan :=
  { scan with conflicts := scan.conflicts ++ [⟨opId, path, reason⟩] }

/-- The move of an operation. -/
def scanMove (scan : ConflictScan) (opId : String) (op : PatchOp) (target : Path) :
    Except String ConflictScan :=
  match op.kind, op.fromPath with
  | .moveFile, some source => do
      let src ← engine.resolvePath source
      let previous := scan.moveSources.get src
      let scan := { scan with moveSources := scan.moveSources.insert src opId }
      let scan :=
        match previous with
        | some prev => scan.add opId source ("move_source_conflict_with_op=" ++ prev)
        | none => scan
      return if src = target then scan.add opId op.path "move_source_equals_target" else scan
  | _, _ => return scan

def scanOp (scan : ConflictScan) (idx : Nat) (op : PatchOp) : Except String ConflictScan := do
  let opId := normalizeOpId op idx
  let scan :=
    if opId ∈ scan.seenIds then scan.add opId op.path "duplicate_op_id"
    else { scan with seenIds := opId :: scan.seenIds }
  let target ← engine.resolvePath op.path
  let previous := scan.targetWriters.get target
  let scan := { scan with targetWriters := scan.targetWriters.insert target opId }
  let scan :=
    match previous with
    | some prev => scan.add opId op.path ("write_write_conflict_with_op=" ++ prev)
    | none => scan
  scanMove engine scan opId op target

def scanOps : ConflictScan → Nat → List PatchOp → Except String ConflictScan
  | scan, _, [] => return scan
  | scan, idx, op :: rest => do
      let scan ← scanOp engine scan idx op
      scanOps scan (idx + 1) rest

def detectConflicts (ops : List PatchOp) : Except String (List PatchConflict) := do
  let scan ← scanOps engine {} 0 ops
  return scan.conflicts ++ scan.moveSources.rows.filterMap fun (source, sourceOp) =>
    (scan.targetWriters.get source).map fun targetOp =>
      ⟨sourceOp, forwardSlashes (display source), "move_source_written_by_op=" ++ targetOp⟩

/-! ## Files -/

def fileCall (message : String) (call : FileSystem Content → Option (FileSystem Content)) :
    Effect (FileSystem Content) Unit := fun files =>
  match call files with
  | some files => (.ok (), files)
  | none => (.error message, files)

/-- Create the directory above a path, if there is one. -/
def createParent (message : String) (path : Path) : Effect (FileSystem Content) Unit :=
  if path = [] then pure ()
  else fileCall (message ++ " " ++ display path.dropLast) (·.createDirAll path.dropLast)

def hashFileIfExists (files : FileSystem Content) (path : Path) : Option String :=
  (files.content path).map engine.hashBytes

def bytes (patch : String) : Content := patch.toUTF8.toList

def applyPatchOp (op : PatchOp) (target : Path) : Effect (FileSystem Content) Unit := fun files =>
  (match op.kind with
  | .createFile =>
    if files.exists target then
      fail ("create_file target already exists: " ++ display target)
    else
      match op.patch with
      | none => fail "create_file requires patch content"
      | some patch => do
          createParent "create parent directory" target
          fileCall ("write created file " ++ display target) (·.write target (bytes patch))
  | .updateFile =>
    if ¬files.exists target then
      fail ("update_file target missing: " ++ display target)
    else
      match op.patch with
      | none => fail "update_file requires patch content"
      | some patch =>
        fileCall ("update file " ++ display target) (·.write target (bytes patch))
  | .deleteFile =>
    if ¬files.exists target then
      fail ("delete_file target missing: " ++ display target)
    else fileCall ("delete file " ++ display target) (·.removeFile target)
  | .moveFile =>
    match op.fromPath with
    | none => fail "move_file requires from_path"
    | some source =>
      match engine.resolvePath source with
      | .error error => fail error
      | .ok src =>
        if ¬files.exists src then
          fail ("move_file source missing: " ++ display src)
        else do
          createParent "create parent directory" target
          fileCall ("move file " ++ display src ++ " -> " ++ display target)
            (·.rename src target)
  | .revert =>
    fail "revert op should use revert_from_trace(), not apply_patch_op()") files

/-! ## One operation -/

/-- The content that an operation replaces. -/
def readPrevious (files : FileSystem Content) (target : Path) : Except String (Option Content) :=
  if files.exists target then
    match files.content target with
    | some content => .ok (some content)
    | none => .error ("read previous file " ++ display target)
  else .ok none

def undoAction (op : PatchOp) (target : Path) (previousBytes : Option Content) :
    Except String UndoAction :=
  match op.kind with
  | .createFile => .ok (.deleteCreated target)
  | .updateFile => .ok (.restoreFile target (previousBytes.getD []))
  | .deleteFile => .ok (.restoreDeleted target (previousBytes.getD []))
  | .moveFile =>
    match op.fromPath with
    | none => .error "move_file requires from_path"
    | some source => do
        let src ← engine.resolvePath source
        return .moveBack target src
  | .revert => .error "PatchOpKind::Revert should be performed via revert_from_trace()"

def checkExpectedHash (op : PatchOp) (target : Path) (afterHash : Option String) :
    Except String Unit :=
  match op.expectedHash with
  | none => .ok ()
  | some expected =>
    match afterHash with
    | some actual =>
      if actual ≠ expected then
        .error ("expected hash mismatch for " ++ display target ++ " expected=" ++ expected ++
          " actual=" ++ actual)
      else .ok ()
    | none => .error "expected hash provided but target missing after apply"

def diffPayload (op : PatchOp) (idx : Nat) (beforeHash afterHash : Option String)
    (now : UInt64) : String :=
  object [("after_hash", jsonOption afterHash), ("before_hash", jsonOption beforeHash),
    ("expected_hash", jsonOption op.expectedHash), ("from_path", jsonOption op.fromPath),
    ("kind", quote op.kind.text),
    ("metadata", object (op.metadata.map fun entry => (entry.1, quote entry.2))),
    ("op_id", quote (normalizeOpId op idx)), ("path", quote op.path),
    ("timestamp_ms", now.toNat.repr)]

section
variable (sessionId traceId : String)

/-- What the keys of the snapshots of a trace begin with. -/
def snapshotPrefix : String :=
  "harness:patch:snapshot:" ++ sessionId ++ ":" ++ traceId ++ ":"

/-- Store the difference and the snapshot of an operation. -/
def storeStep (idx : Nat) (op : PatchOp)
    (previousBytes : Option Content) (beforeHash afterHash : Option String) :
    StoreCall String := do
  let now ← StateStore.nowMs
  let diffRef := "harness:diff:" ++ sessionId ++ ":" ++ traceId ++ ":" ++ now.toNat.repr ++ ":" ++
    idx.repr
  let _ ← engine.ledger.store.upsertJsonKnowledge diffRef
    (.ok (diffPayload op idx beforeHash afterHash now)) "diff-patch-engine"
  let snapshotRef := snapshotPrefix sessionId traceId ++ now.toNat.repr ++ ":" ++ idx.repr
  let snapshot : PatchSnapshotRecord := {
    opId := normalizeOpId op idx
    path := op.path
    existedBefore := previousBytes.isSome
    contentBefore := previousBytes
    createdAtMs := now }
  let _ ← engine.ledger.store.upsertJsonKnowledge snapshotRef
    (.ok (engine.snapshotForm.encode snapshot)) "diff-patch-engine"
  return diffRef

def applyOne (idx : Nat) (op : PatchOp) :
    Effect PatchWorld (PatchStepRecord × UndoAction) := do
  let target ← ofExcept (engine.resolvePath op.path)
  let beforeHash ← inspect fun files => .ok (engine.hashFileIfExists files target)
  let previousBytes ← inspect fun files => readPrevious files target
  let undo ← ofExcept (engine.undoAction op target previousBytes)
  onFiles (engine.applyPatchOp op target)
  let afterHash ← inspect fun files => .ok (engine.hashFileIfExists files target)
  ofExcept (checkExpectedHash op target afterHash)
  let diffRef ← onStore (engine.storeStep sessionId traceId idx op previousBytes beforeHash afterHash)
  return ({
    opId := normalizeOpId op idx
    kind := op.kind.text
    path := op.path
    status := .applied
    beforeHash
    afterHash
    diffRef := some diffRef }, undo)

end

/-! ## Undoing -/

def undoFile : UndoAction → Effect (FileSystem Content) Unit
  | .deleteCreated path => fun files =>
    if files.exists path then
      fileCall ("rollback delete created file " ++ display path) (·.removeFile path) files
    else (.ok (), files)
  | .restoreFile path content => do
      createParent "rollback create parent directory" path
      fileCall ("rollback restore file " ++ display path) (·.write path content)
  | .restoreDeleted path content => do
      createParent "rollback create parent directory" path
      fileCall ("rollback restore deleted file " ++ display path) (·.write path content)
  | .moveBack source target => fun files =>
    if files.exists source then
      (do
        createParent "rollback create parent directory" target
        fileCall ("rollback move file " ++ display source ++ " -> " ++ display target)
          (·.rename source target)) files
    else (.ok (), files)

/-- The path that an undo action is about, and how its step is called. -/
def UndoAction.subject : UndoAction → Path × String
  | .deleteCreated path => (path, "delete-created:" ++ display path)
  | .restoreFile path _ => (path, "restore-file:" ++ display path)
  | .restoreDeleted path _ => (path, "restore-deleted:" ++ display path)
  | .moveBack source target =>
    (target, "move-back:" ++ display source ++ "->" ++ display target)

def rollbackAction (action : UndoAction) : Effect (FileSystem Content) PatchStepRecord := do
  undoFile action
  reading fun files => {
    opId := "rollback:" ++ (UndoAction.subject action).2
    kind := "rollback"
    path := forwardSlashes (display (UndoAction.subject action).1)
    status := .reverted
    afterHash := engine.hashFileIfExists files (UndoAction.subject action).1 }

/-- Undo the actions in order, whether or not some of them fail. -/
def rollBack : Nat → List UndoAction → List PatchStepRecord → Bool →
    Effect (FileSystem Content) (List PatchStepRecord × Bool)
  | _, [], steps, successful => return (steps, successful)
  | idx, action :: rest, steps, successful => do
      match ← attempt (engine.rollbackAction action) with
      | .ok step => rollBack (idx + 1) rest (steps ++ [step]) successful
      | .error error =>
        rollBack (idx + 1) rest (steps ++ [{
          opId := "rollback-" ++ idx.repr
          kind := "rollback"
          path := "<unknown>"
          status := .failed
          error := some error }]) false

/-! ## Reports -/

def buildReportReplayFp (traceId : String) (steps : List PatchStepRecord) (rollback : Bool) :
    String :=
  buildFingerprint "diffpatch" "diffpatch/schema/v1" "diffpatch/seed/v1" "diffpatch/replay/v1"
    (object [("rollback", if rollback then "true" else "false"),
      ("steps", jsonArray (steps.map (·.json))), ("trace_id", quote traceId),
      ("workspace_root", quote (forwardSlashes engine.workspaceRoot))])

/-- Append the evidence of a report; an error is ignored. -/
def appendEvidence (sessionId traceId : String) (members : List (String × String)) :
    Effect PatchWorld (Option String) := do
  let appended ← attempt (onStore
    (engine.ledger.appendStage sessionId traceId .execution (object members) none))
  return appended.toOption

def conflictSteps (conflicts : List PatchConflict) : List PatchStepRecord :=
  conflicts.mapIdx fun idx conflict => {
    opId := if conflict.opId.isEmpty then "preflight-conflict-" ++ idx.repr else conflict.opId
    kind := "preflight_conflict"
    path := conflict.path
    status := .failed
    error := some conflict.reason }

section
variable (sessionId traceId : String)

def refuse (conflicts : List PatchConflict) :
    Effect PatchWorld PatchExecutionReport := do
  let steps := conflictSteps conflicts
  let replayFp := engine.buildReportReplayFp traceId steps false
  let evidenceRef ← engine.appendEvidence sessionId traceId [
    ("conflict_count", steps.length.repr), ("conflicts", jsonArray (conflicts.map (·.json))),
    ("replay_fp", quote replayFp), ("stage", quote "diff_patch_engine"),
    ("status", quote "preflight_conflict")]
  return {
    sessionId
    traceId
    success := false
    transactionCommitted := false
    rollbackPerformed := false
    rollbackSuccessful := true
    steps
    evidenceRef
    replayFp := some replayFp
    message := some "patch preflight conflict detected" }

/-- Undo what has been applied when an operation has failed. -/
def abandon (steps : List PatchStepRecord)
    (undo : List UndoAction) : Effect PatchWorld PatchExecutionReport := do
  let (steps, rollbackSuccessful) ← onFiles (engine.rollBack 0 undo.reverse steps true)
  let replayFp := engine.buildReportReplayFp traceId steps true
  let evidenceRef ← engine.appendEvidence sessionId traceId [("replay_fp", quote replayFp),
    ("rollback_successful", if rollbackSuccessful then "true" else "false"),
    ("stage", quote "diff_patch_engine"), ("status", quote "failed_rolled_back"),
    ("step_count", steps.length.repr)]
  return {
    sessionId
    traceId
    success := false
    transactionCommitted := false
    rollbackPerformed := true
    rollbackSuccessful
    steps
    evidenceRef
    replayFp := some replayFp
    message := some (if rollbackSuccessful then "patch apply failed and rollback executed"
      else "patch apply failed and rollback partially failed") }

def commit (steps : List PatchStepRecord) :
    Effect PatchWorld PatchExecutionReport := do
  let replayFp := engine.buildReportReplayFp traceId steps false
  let evidenceRef ← engine.appendEvidence sessionId traceId [
    ("replay_fp", quote replayFp), ("stage", quote "diff_patch_engine"),
    ("status", quote "applied"), ("step_count", steps.length.repr)]
  return {
    sessionId
    traceId
    success := true
    transactionCommitted := true
    rollbackPerformed := false
    rollbackSuccessful := true
    steps
    evidenceRef
    replayFp := some replayFp
    message := some "patch applied" }

end

/-- The loop over the operations. -/
def applyOps (sessionId traceId : String) : Nat → List PatchOp → List PatchStepRecord →
    List UndoAction → Effect PatchWorld PatchExecutionReport
  | _, [], steps, _ => engine.commit sessionId traceId steps
  | idx, op :: rest, steps, undo => do
      match ← attempt (engine.applyOne sessionId traceId idx op) with
      | .ok (record, action) =>
        applyOps sessionId traceId (idx + 1) rest (steps ++ [record]) (undo ++ [action])
      | .error error =>
        engine.abandon sessionId traceId (steps ++ [{
          opId := normalizeOpId op idx
          kind := op.kind.text
          path := op.path
          status := .failed
          error := some error }]) undo

def applyWithRollback (sessionId traceId : String) (ops : List PatchOp) :
    Effect PatchWorld PatchExecutionReport := do
  let conflicts ← ofExcept (engine.detectConflicts ops)
  if conflicts ≠ [] then engine.refuse sessionId traceId conflicts
  else engine.applyOps sessionId traceId 0 ops [] []

/-! ## Reverting -/

/-- Put back what a snapshot has recorded. -/
def revertFile (snapshot : PatchSnapshotRecord) (target : Path) :
    Effect (FileSystem Content) (Except String Unit) := fun files =>
  (if snapshot.existedBefore then do
    createParent "create parent directories for revert" target
    attempt (fileCall ("restore file during revert " ++ display target)
      (·.write target (snapshot.contentBefore.getD [])))
  else if files.exists target then
    attempt (fileCall ("remove created file during revert " ++ display target)
      (·.removeFile target))
  else return .ok ()) files

def revertOne (snapshot : PatchSnapshotRecord) : Effect (FileSystem Content) PatchStepRecord := do
  let target ← ofExcept (engine.resolvePath snapshot.path)
  let result ← revertFile snapshot target
  reading fun files => {
    opId := snapshot.opId
    kind := "revert"
    path := snapshot.path
    status :=
      match result with
      | .ok _ => .reverted
      | .error _ => .failed
    afterHash := engine.hashFileIfExists files target
    error :=
      match result with
      | .ok _ => none
      | .error error => some error }

def revertAll : List PatchSnapshotRecord → Effect (FileSystem Content) (List PatchStepRecord)
  | [] => return []
  | snapshot :: rest => do
      let step ← engine.revertOne snapshot
      let steps ← revertAll rest
      return step :: steps

def listSnapshots (sessionId traceId : String) : StoreCall (List PatchSnapshotRecord) := do
  let rows ← engine.ledger.store.listKnowledgeByPrefix (snapshotPrefix sessionId traceId)
  return sortByKey (fun snapshot => snapshot.createdAtMs.toNat)
    (rows.filterMap fun record => engine.snapshotForm.decode record.value)

def revertFromTrace (sessionId traceId : String) : Effect PatchWorld PatchExecutionReport := do
  let snapshots ← onStore (engine.listSnapshots sessionId traceId)
  let steps ← onFiles (engine.revertAll snapshots.reverse)
  let success := steps.all fun step => step.status ≠ .failed
  let replayFp := engine.buildReportReplayFp traceId steps (!success)
  let evidenceRef ← engine.appendEvidence sessionId traceId [
    ("replay_fp", quote replayFp), ("stage", quote "diff_patch_engine_revert"),
    ("status", quote (if success then "reverted" else "revert_failed")),
    ("step_count", steps.length.repr)]
  return {
    sessionId
    traceId
    success
    transactionCommitted := false
    rollbackPerformed := true
    rollbackSuccessful := success
    steps
    evidenceRef
    replayFp := some replayFp
    message := some "revert executed from trace snapshots" }

end DiffPatchEngine

end AutoLoop.QueryEngine
