import AutoLoop.Session.CheckpointRuns

/-!
# Sessions by the names of their files

All files of a session are named after its sanitized id: its checkpoint, the evidence
and the named snapshots.  Sessions in use leave each other alone, and load nothing but
their own checkpoints, exactly when no two of them have one sanitized id.
-/

namespace AutoLoop.Session

open QueryEngine (ChatMessage)
open CheckpointDisk

variable {ContextItem : Type}

/-- The files of the checkpoint store, named snapshots included: these by the sanitized
session id and the sanitized snapshot name. -/
structure SnapshotDisk where
  disk : CheckpointDisk
  named : String → String → StoredFile

def SnapshotDisk.empty : SnapshotDisk := ⟨.empty, fun _ _ => .missing⟩

structure Session where
  key : String
  history : List ChatMessage
  deriving DecidableEq, Repr

namespace SessionCheckpointStore

variable (store : SessionCheckpointStore ContextItem)

def saveNamedSnapshot (outcome : WriteOutcome) (sessionId snapshotName : String)
    (checkpoint : SessionCheckpoint ContextItem) : Effect SnapshotDisk (String × String) :=
  fun files =>
    let put (content : StoredFile) : SnapshotDisk :=
      { files with named := fun directory name =>
          if directory = sanitizeSessionId sessionId ∧ name = sanitizeSessionId snapshotName
          then content else files.named directory name }
    match outcome with
    | .done => (.ok (sanitizeSessionId sessionId, sanitizeSessionId snapshotName),
        put (.text (store.checkpointForm.encode checkpoint)))
    | .untouched => (.error "write failed", files)
    | .torn left => (.error "write failed", put left)

/-- `SessionRuntime::restore_session`. -/
def restoreSession (sessionId : String) (disk : CheckpointDisk) :
    Except String (Option Session) := do
  let found ← store.load sessionId disk
  return found.map fun checkpoint => ⟨checkpoint.sessionId, checkpoint.history⟩

end SessionCheckpointStore

/-! ## Runs -/

inductive SnapshotOp (ContextItem : Type) where
  | checkpoint (op : CheckpointOp ContextItem)
  | saveNamedSnapshot (outcome : WriteOutcome) (sessionId snapshotName : String)
      (checkpoint : SessionCheckpoint ContextItem)

def CheckpointOp.sessionId : CheckpointOp ContextItem → String
  | .updateHistory _ sessionId _ _ _ => sessionId
  | .annotateContinuation _ sessionId _ _ => sessionId

def SnapshotOp.sessionId : SnapshotOp ContextItem → String
  | .checkpoint op => op.sessionId
  | .saveNamedSnapshot _ sessionId _ _ => sessionId

def SaveHost.LeavesNoCheckpoint (store : SessionCheckpointStore ContextItem)
    (host : SaveHost) : Prop :=
  ∀ raw, host.checkpointWrite = .torn (.text raw) → store.checkpointForm.decode raw = none

def SnapshotOp.LeavesNoCheckpoint (store : SessionCheckpointStore ContextItem) :
    SnapshotOp ContextItem → Prop
  | .checkpoint op => op.host.LeavesNoCheckpoint store
  | .saveNamedSnapshot .. => True

namespace SessionCheckpointStore

variable (store : SessionCheckpointStore ContextItem)

/-- What an operation leaves of the files. -/
def snapshotStep (files : SnapshotDisk) : SnapshotOp ContextItem → SnapshotDisk
  | .checkpoint (.updateHistory host sessionId history memoryWindow contextItems) =>
    { files with
      disk := (store.updateHistory host sessionId history memoryWindow contextItems files.disk).2 }
  | .checkpoint (.annotateContinuation host sessionId turnId checkpointToken) =>
    { files with
      disk := (store.annotateContinuation host sessionId turnId checkpointToken files.disk).2 }
  | .saveNamedSnapshot outcome sessionId snapshotName checkpoint =>
    (store.saveNamedSnapshot outcome sessionId snapshotName checkpoint files).2

/-- The files after some operations. -/
def snapshotRun (files : SnapshotDisk) (ops : List (SnapshotOp ContextItem)) : SnapshotDisk :=
  ops.foldl store.snapshotStep files

/-- Nobody who asks for the session sees a difference. -/
structure SameView (sessionId : String) (before after : SnapshotDisk) : Prop where
  load : store.load sessionId after.disk = store.load sessionId before.disk
  restore : store.restoreSession sessionId after.disk =
    store.restoreSession sessionId before.disk
  named : ∀ snapshotName,
    after.named (sanitizeSessionId sessionId) (sanitizeSessionId snapshotName) =
      before.named (sanitizeSessionId sessionId) (sanitizeSessionId snapshotName)

/-- What the sessions in use did leaves them apart: operations of one of them change
nothing that another one sees, and each loads only its own checkpoints. -/
structure Apart (sessions : Set String) (files : SnapshotDisk) : Prop where
  frame : ∀ first ∈ sessions, ∀ second ∈ sessions, first ≠ second →
    ∀ ops : List (SnapshotOp ContextItem),
      (∀ op ∈ ops, op.sessionId = first ∧ op.LeavesNoCheckpoint store) →
        store.SameView second files (store.snapshotRun files ops)
  own : ∀ sessionId ∈ sessions, ∀ checkpoint,
    store.load sessionId files.disk = .ok (some checkpoint) → checkpoint.sessionId = sessionId

def Addressed (sessions : Set String) (disk : CheckpointDisk) : Prop :=
  ∀ name raw checkpoint, (disk.files name).checkpoint = .text raw →
    store.checkpointForm.decode raw = some checkpoint →
      checkpoint.sessionId ∈ sessions ∧ sanitizeSessionId checkpoint.sessionId = name

variable {store} {sessions : Set String} {disk after : CheckpointDisk} {sessionId : String}
variable {checkpoint : SessionCheckpoint ContextItem}

/-! ## Saves -/

variable (host : SaveHost)

theorem save_files_of_ne {name : String}
    (different : name ≠ sanitizeSessionId checkpoint.sessionId) :
    (store.save host checkpoint disk).2.files name = disk.files name := by
  have writeKeeps : ∀ (set : SessionFiles → StoredFile → SessionFiles) (content : String)
      (outcome : WriteOutcome), Effect.Keeps
        (fun before after : CheckpointDisk => after.files name = before.files name)
        (writeFile set (sanitizeSessionId checkpoint.sessionId) content outcome) := by
    intro set content outcome disk
    cases outcome with
    | done => exact files_put_of_ne different
    | untouched => rfl
    | torn left => exact files_put_of_ne different
  have kept : Effect.Keeps
      (fun before after : CheckpointDisk => after.files name = before.files name)
      (store.save host checkpoint) := by
    apply Effect.Keeps.bind
    · intro first second third same later
      exact later.trans same
    · exact writeKeeps _ _ _
    · intro written
      cases checkpoint.evidenceRef with
      | none => exact fun _ => rfl
      | some evidenceRef => exact writeKeeps _ _ _
  exact kept disk

theorem save_checkpoint :
    ((store.save host checkpoint disk).2.files
        (sanitizeSessionId checkpoint.sessionId)).checkpoint =
      match host.checkpointWrite with
      | .done => .text (store.checkpointForm.encode checkpoint)
      | .untouched => (disk.files (sanitizeSessionId checkpoint.sessionId)).checkpoint
      | .torn left => left := by
  have evidenceKeeps : ∀ (content : String) (outcome : WriteOutcome) (disk : CheckpointDisk),
      ((writeFile (fun files evidence => { files with evidence })
        (sanitizeSessionId checkpoint.sessionId) content outcome disk).2.files
          (sanitizeSessionId checkpoint.sessionId)).checkpoint =
        (disk.files (sanitizeSessionId checkpoint.sessionId)).checkpoint := by
    intro content outcome disk
    cases outcome with
    | done => rw [writeFile, files_put_self]
    | untouched => rfl
    | torn left => rw [writeFile, files_put_self]
  rw [save]
  cases isWrite : host.checkpointWrite with
  | untouched => rfl
  | torn left =>
    simp only [Effect.bind_apply, writeFile]
    rw [files_put_self]
  | done =>
    simp only [Effect.bind_apply, writeFile]
    cases checkpoint.evidenceRef with
    | none => exact congrArg (·.checkpoint) (files_put_self _ _ _)
    | some evidenceRef =>
      exact (evidenceKeeps _ _ _).trans
        (congrArg (·.checkpoint) (files_put_self _ _ _))

section
variable (addressed : store.Addressed sessions disk)
include addressed

theorem Addressed.save {host : SaveHost}
    (leaves : host.LeavesNoCheckpoint store) (inUse : checkpoint.sessionId ∈ sessions) :
    store.Addressed sessions (store.save host checkpoint disk).2 := by
  intro name raw held isText decoded
  by_cases same : name = sanitizeSessionId checkpoint.sessionId
  · subst same
    rw [save_checkpoint] at isText
    cases isWrite : host.checkpointWrite with
    | done =>
      simp only [isWrite, StoredFile.text.injEq] at isText
      rw [← isText, store.checkpointForm.decode_encode, Option.some.injEq] at decoded
      rw [← decoded]
      exact ⟨inUse, rfl⟩
    | untouched =>
      simp only [isWrite] at isText
      exact addressed _ raw held isText decoded
    | torn left =>
      simp only [isWrite] at isText
      rw [leaves raw (isText ▸ isWrite)] at decoded
      cases decoded
  · rw [save_files_of_ne host same] at isText
    exact addressed name raw held isText decoded

/-! ## Loads -/

theorem load_eq_of_files (same : after.files (sanitizeSessionId sessionId) =
      disk.files (sanitizeSessionId sessionId)) :
    store.load sessionId after = store.load sessionId disk := by
  rw [load, load, same]
  cases isText : (disk.files (sanitizeSessionId sessionId)).checkpoint with
  | missing => rfl
  | unreadable => rfl
  | text raw =>
    simp only
    cases decoded : store.checkpointForm.decode raw with
    | none => rfl
    | some held =>
      obtain ⟨-, isName⟩ := addressed _ raw held isText decoded
      simp only [verifyCheckpointEvidence, isName, same]

theorem Addressed.loaded (loaded : store.load sessionId disk = .ok (some checkpoint)) :
    checkpoint.sessionId ∈ sessions ∧
      sanitizeSessionId checkpoint.sessionId = sanitizeSessionId sessionId := by
  obtain ⟨⟨raw, isText, decoded⟩, -⟩ := load_eq_some_iff.mp loaded
  exact addressed _ raw checkpoint isText decoded

/-! ## Operations -/

theorem Addressed.saving {op : CheckpointOp ContextItem} (inUse : op.sessionId ∈ sessions)
    (saves : op.saving store disk = some checkpoint) :
    checkpoint.sessionId ∈ sessions ∧
      sanitizeSessionId checkpoint.sessionId = sanitizeSessionId op.sessionId := by
  cases op with
  | updateHistory host sessionId history memoryWindow contextItems =>
    cases saves
    exact ⟨inUse, rfl⟩
  | annotateContinuation host sessionId turnId checkpointToken =>
    cases loads : store.load sessionId disk with
    | error message =>
      simp only [CheckpointOp.saving, loads] at saves
      cases saves
    | ok found =>
      cases found with
      | none =>
        simp only [CheckpointOp.saving, loads] at saves
        cases saves
      | some loaded =>
        simp only [CheckpointOp.saving, loads] at saves
        cases saves
        have found := addressed.loaded loads
        exact found

theorem Addressed.step (named : String → String → StoredFile) {op : SnapshotOp ContextItem}
    (inUse : op.sessionId ∈ sessions) (leaves : op.LeavesNoCheckpoint store) :
    store.Addressed sessions (store.snapshotStep ⟨disk, named⟩ op).disk ∧
      ∀ name, name ≠ sanitizeSessionId op.sessionId →
        (store.snapshotStep ⟨disk, named⟩ op).disk.files name = disk.files name ∧
          (store.snapshotStep ⟨disk, named⟩ op).named name = named name := by
  cases op with
  | saveNamedSnapshot outcome sessionId snapshotName checkpoint =>
    cases outcome with
    | done =>
      refine ⟨addressed, fun name different => ⟨rfl, ?_⟩⟩
      funext file
      exact if_neg fun same => different same.1
    | untouched => exact ⟨addressed, fun name _ => ⟨rfl, rfl⟩⟩
    | torn left =>
      refine ⟨addressed, fun name different => ⟨rfl, ?_⟩⟩
      funext file
      exact if_neg fun same => different same.1
  | checkpoint op =>
    have sameDisk : (store.snapshotStep ⟨disk, named⟩ (.checkpoint op)).disk =
        ((store.checkpoints disk).step ⟨disk, fun _ => []⟩ op).2.disk := by
      cases op with
      | updateHistory host sessionId history memoryWindow contextItems => rfl
      | annotateContinuation host sessionId turnId checkpointToken => rfl
    have sameNamed : (store.snapshotStep ⟨disk, named⟩ (.checkpoint op)).named = named := by
      cases op with
      | updateHistory host sessionId history memoryWindow contextItems => rfl
      | annotateContinuation host sessionId turnId checkpointToken => rfl
    rw [sameDisk, sameNamed, disk_step]
    cases saves : op.saving store disk with
    | none => exact ⟨addressed, fun name _ => ⟨rfl, rfl⟩⟩
    | some checkpoint =>
      obtain ⟨savedInUse, sameName⟩ := addressed.saving inUse saves
      refine ⟨addressed.save leaves savedInUse, fun name different => ⟨?_, rfl⟩⟩
      apply save_files_of_ne
      rw [sameName]
      exact different

end

theorem Addressed.run {files : SnapshotDisk} (addressed : store.Addressed sessions files.disk)
    {ops : List (SnapshotOp ContextItem)} {among : Set String} (inUse : among ⊆ sessions)
    (ofThem : ∀ op ∈ ops, op.sessionId ∈ among ∧ op.LeavesNoCheckpoint store) :
    store.Addressed sessions (store.snapshotRun files ops).disk ∧
      ∀ name, name ∉ sanitizeSessionId '' among →
        (store.snapshotRun files ops).disk.files name = files.disk.files name ∧
          (store.snapshotRun files ops).named name = files.named name := by
  induction ops generalizing files with
  | nil => exact ⟨addressed, fun name _ => ⟨rfl, rfl⟩⟩
  | cons op rest ih =>
    obtain ⟨ofOne, leaves⟩ := ofThem op (by simp)
    obtain ⟨kept, frame⟩ := addressed.step files.named (inUse ofOne) leaves
    obtain ⟨keptRun, frameRun⟩ := ih kept fun later membership =>
      ofThem later (List.mem_cons_of_mem op membership)
    refine ⟨keptRun, fun name outside => ?_⟩
    have different : name ≠ sanitizeSessionId op.sessionId := by
      intro same
      rw [same] at outside
      exact outside (Set.mem_image_of_mem _ ofOne)
    exact ⟨(frameRun name outside).1.trans (frame name different).1,
      (frameRun name outside).2.trans (frame name different).2⟩

theorem addressed_empty : store.Addressed sessions SnapshotDisk.empty.disk := by
  intro name raw held isText
  cases isText

theorem Addressed.apart {files : SnapshotDisk} (addressed : store.Addressed sessions files.disk)
    (different : Set.InjOn sanitizeSessionId sessions) : store.Apart sessions files := by
  constructor
  · intro first firstInUse second secondInUse distinct ops ofFirst
    have inUse : ({first} : Set String) ⊆ sessions := Set.singleton_subset_iff.mpr firstInUse
    obtain ⟨-, frame⟩ := addressed.run inUse fun op membership =>
      ⟨Set.mem_singleton_iff.mpr (ofFirst op membership).1, (ofFirst op membership).2⟩
    have outside : sanitizeSessionId second ∉ sanitizeSessionId '' {first} := by
      rw [Set.image_singleton, Set.mem_singleton_iff]
      intro same
      exact distinct (different firstInUse secondInUse same.symm)
    obtain ⟨sameFiles, sameNamed⟩ := frame _ outside
    have sameLoad := load_eq_of_files addressed sameFiles
    constructor
    · exact sameLoad
    · rw [restoreSession, sameLoad, restoreSession]
    · intro snapshotName
      rw [sameNamed]
  · intro sessionId inUse checkpoint loaded
    obtain ⟨loadedInUse, sameName⟩ := addressed.loaded loaded
    exact different loadedInUse inUse sameName

variable (store) in
theorem load_updateHistory (checkpointDone : host.checkpointWrite = .done)
    (evidenceDone : host.evidenceWrite = .done) {first second : String}
    (sameName : sanitizeSessionId first = sanitizeSessionId second)
    (history : List ChatMessage) (memoryWindow : Nat) (contextItems : List ContextItem) :
    ∃ checkpoint : SessionCheckpoint ContextItem, checkpoint.sessionId = first ∧
      store.load second (store.snapshotStep .empty (.checkpoint (.updateHistory host first
        history memoryWindow contextItems))).disk = .ok (some checkpoint) := by
  let op : CheckpointOp ContextItem :=
    .updateHistory host first history memoryWindow contextItems
  have whole : store.WholeStep ⟨.empty, fun _ => []⟩ op :=
    fun _ _ => whole_of_done checkpointDone evidenceDone
  let checkpoint := store.updated host first history memoryWindow contextItems
    ((store.load first empty).toOption).join
  rcases whole.cases .empty with unchanged | ⟨saved, saves, stands⟩
  · have written : ((store.save host checkpoint .empty).2.files
        (sanitizeSessionId checkpoint.sessionId)).checkpoint = _ := save_checkpoint host
    rw [disk_step] at unchanged
    change (store.save host checkpoint .empty).2 = .empty at unchanged
    rw [unchanged, checkpointDone] at written
    cases written
  · cases saves
    exact ⟨_, rfl, stands.load sameName.symm⟩

/-- From the empty store on, the sessions in use stay apart exactly when no two of them
have one name. -/
theorem sessions_apart_iff (store : SessionCheckpointStore ContextItem) (sessions : Set String) :
    (∀ ops : List (SnapshotOp ContextItem),
        (∀ op ∈ ops, op.sessionId ∈ sessions ∧ op.LeavesNoCheckpoint store) →
          store.Apart sessions (store.snapshotRun .empty ops)) ↔
      Set.InjOn sanitizeSessionId sessions := by
  constructor
  · intro apart first firstInUse second secondInUse sameName
    by_contra distinct
    let host : SaveHost := ⟨0, 0, .done, .done⟩
    have frame := (apart [] (by simp)).frame first firstInUse second secondInUse distinct
      [.checkpoint (.updateHistory host first [] 1 [])] (by
        intro op membership
        cases List.mem_singleton.mp membership
        exact ⟨rfl, nofun⟩)
    obtain ⟨checkpoint, -, loads⟩ :=
      load_updateHistory store host rfl rfl sameName [] 1 []
    have fresh : store.load second SnapshotDisk.empty.disk = .ok none := rfl
    have same : store.load second (store.snapshotStep .empty (.checkpoint
      (.updateHistory host first [] 1 []))).disk = store.load second SnapshotDisk.empty.disk :=
      frame.load
    rw [loads, fresh] at same
    exact Option.some_ne_none _ (Except.ok.inj same)
  · intro different ops ofSessions
    have started : store.Addressed sessions SnapshotDisk.empty.disk := addressed_empty
    exact (started.run subset_rfl ofSessions).1.apart different

/-- A session whose id differs in a dropped character only loads the checkpoint of
another one. -/
theorem focus_session_aliased :
    ("cli:focus" ≠ "clifocus") ∧
      ∃ checkpoint, numberedStore.load "cli:focus"
        (numberedStore.snapshotRun .empty
          [.checkpoint (.updateHistory ⟨0, 0, .done, .done⟩ "clifocus" [] 1 [])]).disk =
        .ok (some checkpoint) ∧ checkpoint.sessionId = "clifocus" := by
  refine ⟨by decide, ?_⟩
  obtain ⟨checkpoint, isOther, loads⟩ := load_updateHistory numberedStore
    ⟨0, 0, .done, .done⟩ rfl rfl
    (by decide : sanitizeSessionId "clifocus" = sanitizeSessionId "cli:focus") [] 1 []
  exact ⟨checkpoint, loads, isOther⟩

end SessionCheckpointStore

end AutoLoop.Session
