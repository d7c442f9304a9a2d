import AutoLoop.Foundation.Numbering
import AutoLoop.Session.Checkpoint

/-!
# Checkpoints over failing writes

A save leaves the old checkpoint or the new one when no write stops inside a file and
a new checkpoint finds its evidence.  Then no update loses a continuation either, since
it can load what it replaces.
-/

namespace AutoLoop.Session

open QueryEngine (ChatMessage)
open CheckpointDisk

namespace SessionCheckpointStore

variable {ContextItem : Type} (store : SessionCheckpointStore ContextItem)

/-! ## What is loaded -/

def Matches (checkpoint : SessionCheckpoint ContextItem) (files : SessionFiles) : Prop :=
  ∀ evidenceRef, checkpoint.evidenceRef = some evidenceRef →
    ∃ raw evidence, files.evidence = .text raw ∧ store.evidenceForm.decode raw = some evidence ∧
      evidence.evidenceRef = evidenceRef ∧
      evidence.checkpointDigest = checkpoint.compaction.digest

variable {store} {checkpoint : SessionCheckpoint ContextItem} {disk : CheckpointDisk}
variable {sessionId : String}

theorem verifyCheckpointEvidence_iff :
    store.verifyCheckpointEvidence checkpoint disk = .ok () ↔
      store.Matches checkpoint (disk.files (sanitizeSessionId checkpoint.sessionId)) := by
  rw [verifyCheckpointEvidence, Matches]
  cases checkpoint.evidenceRef with
  | none => exact ⟨fun _ => nofun, fun _ => rfl⟩
  | some evidenceRef =>
    simp only [Option.some.injEq, forall_eq']
    cases (disk.files (sanitizeSessionId checkpoint.sessionId)).evidence with
    | missing => exact ⟨nofun, fun ⟨_, _, isText, _⟩ => nomatch isText⟩
    | unreadable => exact ⟨nofun, fun ⟨_, _, isText, _⟩ => nomatch isText⟩
    | text raw =>
      simp only [StoredFile.text.injEq, exists_and_left, exists_eq_left']
      cases store.evidenceForm.decode raw with
      | none => exact ⟨nofun, fun ⟨_, isSome, _⟩ => nomatch isSome⟩
      | some evidence =>
        simp only [Option.some.injEq, exists_eq_left']
        split
        · next different => exact ⟨nofun, fun same => absurd same.1 different⟩
        · next same =>
          split
          · next different => exact ⟨nofun, fun same => absurd same.2 different⟩
          · next sameDigest =>
            exact ⟨fun _ => ⟨not_not.mp same, not_not.mp sameDigest⟩, fun _ => rfl⟩

theorem load_eq_some_iff :
    store.load sessionId disk = .ok (some checkpoint) ↔
      (∃ raw, (disk.files (sanitizeSessionId sessionId)).checkpoint = .text raw ∧
        store.checkpointForm.decode raw = some checkpoint) ∧
      store.Matches checkpoint (disk.files (sanitizeSessionId checkpoint.sessionId)) := by
  rw [load, ← verifyCheckpointEvidence_iff]
  cases (disk.files (sanitizeSessionId sessionId)).checkpoint with
  | missing => exact ⟨nofun, fun ⟨⟨_, isText, _⟩, _⟩ => nomatch isText⟩
  | unreadable => exact ⟨nofun, fun ⟨⟨_, isText, _⟩, _⟩ => nomatch isText⟩
  | text raw =>
    simp only [StoredFile.text.injEq, exists_eq_left']
    cases store.checkpointForm.decode raw with
    | none => exact ⟨nofun, fun isSome => nomatch isSome.1⟩
    | some loaded =>
      simp only [Option.some.injEq]
      cases verified : store.verifyCheckpointEvidence loaded disk with
      | error message =>
        constructor
        · exact nofun
        · rintro ⟨rfl, isOk⟩
          rw [verified] at isOk
          cases isOk
      | ok passed =>
        constructor
        · rintro ⟨⟩
          exact ⟨rfl, verified⟩
        · rintro ⟨rfl, -⟩
          rfl

theorem load_congr {other : String}
    (sameName : sanitizeSessionId other = sanitizeSessionId sessionId) :
    store.load other disk = store.load sessionId disk := by
  rw [load, load, sameName]

/-! ## What a save leaves -/

/-- No write stops inside a file, and a checkpoint that is written finds its evidence. -/
def Whole (store : SessionCheckpointStore ContextItem) (host : SaveHost)
    (checkpoint : SessionCheckpoint ContextItem) (disk : CheckpointDisk) : Prop :=
  match host.checkpointWrite with
  | .untouched => True
  | .torn _ => False
  | .done => checkpoint.evidenceRef = none ∨ host.evidenceWrite = .done ∨
      (host.evidenceWrite = .untouched ∧
        store.Matches checkpoint (disk.files (sanitizeSessionId checkpoint.sessionId)))

structure Stands (store : SessionCheckpointStore ContextItem)
    (checkpoint : SessionCheckpoint ContextItem) (disk after : CheckpointDisk) : Prop where
  written : (after.files (sanitizeSessionId checkpoint.sessionId)).checkpoint =
    .text (store.checkpointForm.encode checkpoint)
  proven : store.Matches checkpoint (after.files (sanitizeSessionId checkpoint.sessionId))
  others : ∀ name, name ≠ sanitizeSessionId checkpoint.sessionId →
    after.files name = disk.files name

theorem Stands.load {after : CheckpointDisk} (stands : store.Stands checkpoint disk after)
    (isName : sanitizeSessionId sessionId = sanitizeSessionId checkpoint.sessionId) :
    store.load sessionId after = .ok (some checkpoint) := by
  rw [load_eq_some_iff, isName]
  exact ⟨⟨_, stands.written, store.checkpointForm.decode_encode checkpoint⟩, stands.proven⟩

theorem save_cases {host : SaveHost} (whole : store.Whole host checkpoint disk) :
    ((store.save host checkpoint disk).1.isOk = false ∧ (store.save host checkpoint disk).2 = disk) ∨
      store.Stands checkpoint disk (store.save host checkpoint disk).2 := by
  rw [Whole] at whole
  rw [save]
  cases isWrite : host.checkpointWrite with
  | torn left =>
    rw [isWrite] at whole
    cases whole
  | untouched => exact Or.inl ⟨rfl, rfl⟩
  | done =>
    rw [isWrite] at whole
    right
    let name := sanitizeSessionId checkpoint.sessionId
    let first := disk.put name { disk.files name with
      checkpoint := .text (store.checkpointForm.encode checkpoint) }
    have wrote : writeFile (fun files written => { files with checkpoint := written }) name
        (store.checkpointForm.encode checkpoint) .done disk = (.ok (), first) := rfl
    have others : ∀ other, other ≠ name → first.files other = disk.files other :=
      fun other different => files_put_of_ne different
    have isFirst : first.files name = { disk.files name with
        checkpoint := .text (store.checkpointForm.encode checkpoint) } :=
      files_put_self disk name _
    rw [Effect.bind_of_ok wrote]
    cases isRef : checkpoint.evidenceRef with
    | none =>
      refine ⟨?_, ?_, others⟩
      · change (first.files name).checkpoint = _
        rw [isFirst]
      · intro evidenceRef isSome
        rw [isRef] at isSome
        cases isSome
    | some evidenceRef =>
      simp only
      rw [persistEvidenceRecord]
      cases isEvidenceWrite : host.evidenceWrite with
      | torn left =>
        rw [isRef, isEvidenceWrite] at whole
        rcases whole with isNone | isDone | ⟨isUntouched, -⟩
        · cases isNone
        · cases isDone
        · cases isUntouched
      | untouched =>
        rw [isRef, isEvidenceWrite] at whole
        have found := (whole.resolve_left nofun).resolve_left nofun
        refine ⟨?_, ?_, others⟩
        · change (first.files name).checkpoint = _
          rw [isFirst]
        · change store.Matches checkpoint (first.files name)
          rw [isFirst]
          exact found.2
      | done =>
        have second : ∀ evidence, (first.put name { first.files name with
            evidence := StoredFile.text evidence }).files name =
            { first.files name with evidence := .text evidence } :=
          fun _ => files_put_self first name _
        refine ⟨?_, ?_, ?_⟩
        · change ((first.put name _).files name).checkpoint = _
          rw [second, isFirst]
        · change store.Matches checkpoint ((first.put name _).files name)
          rw [second]
          intro other isOther
          rw [isRef] at isOther
          cases isOther
          exact ⟨_, _, rfl, store.evidenceForm.decode_encode _, rfl, rfl⟩
        · intro other different
          change (first.put name _).files other = _
          rw [files_put_of_ne different, others other different]

theorem load_interrupted {host : SaveHost} {old new : SessionCheckpoint ContextItem}
    {oldRef newRef : String} (loads : store.load sessionId disk = .ok (some old))
    (own : sanitizeSessionId old.sessionId = sanitizeSessionId sessionId)
    (isName : sanitizeSessionId new.sessionId = sanitizeSessionId sessionId)
    (isOldRef : old.evidenceRef = some oldRef) (isNewRef : new.evidenceRef = some newRef)
    (different : oldRef ≠ newRef) (done : host.checkpointWrite = .done)
    (untouched : host.evidenceWrite = .untouched) :
    store.load sessionId (store.save host new disk).2 ≠ .ok (some checkpoint) := by
  have saved : (store.save host new disk).2 = disk.put (sanitizeSessionId new.sessionId)
      { disk.files (sanitizeSessionId new.sessionId) with
        checkpoint := .text (store.checkpointForm.encode new) } := by
    rw [save, done, isNewRef]
    simp only [persistEvidenceRecord, untouched]
    rfl
  obtain ⟨-, proven⟩ := load_eq_some_iff.mp loads
  rw [own] at proven
  obtain ⟨raw, evidence, isRaw, decoded, sameRef, -⟩ := proven oldRef isOldRef
  intro reloads
  rw [saved, load_eq_some_iff, isName, files_put_self] at reloads
  obtain ⟨⟨newRaw, isNewRaw, newDecoded⟩, newProven⟩ := reloads
  have sameRaw := StoredFile.text.inj isNewRaw
  rw [← sameRaw, store.checkpointForm.decode_encode] at newDecoded
  have isNew := Option.some.inj newDecoded
  rw [← isNew, isName, files_put_self] at newProven
  obtain ⟨otherRaw, other, isOtherRaw, otherDecoded, otherRef, -⟩ := newProven newRef isNewRef
  have sameEvidence : StoredFile.text otherRaw = .text raw := isOtherRaw.symm.trans isRaw
  cases sameEvidence
  rw [decoded] at otherDecoded
  cases otherDecoded
  exact different (sameRef.symm.trans otherRef)

end SessionCheckpointStore

/-! ## Runs -/

inductive CheckpointOp (ContextItem : Type) where
  | updateHistory (host : SaveHost) (sessionId : String) (history : List ChatMessage)
      (memoryWindow : Nat) (contextItems : List ContextItem)
  | annotateContinuation (host : SaveHost) (sessionId turnId checkpointToken : String)

namespace CheckpointOp

variable {ContextItem : Type}

def host : CheckpointOp ContextItem → SaveHost
  | .updateHistory host _ _ _ _ => host
  | .annotateContinuation host _ _ _ => host

def saving (store : SessionCheckpointStore ContextItem) (disk : CheckpointDisk) :
    CheckpointOp ContextItem → Option (SessionCheckpoint ContextItem)
  | .updateHistory host sessionId history memoryWindow contextItems =>
    some (store.updated host sessionId history memoryWindow contextItems
      ((store.load sessionId disk).toOption).join)
  | .annotateContinuation host sessionId turnId checkpointToken =>
    ((store.load sessionId disk).toOption).join.map
      (SessionCheckpointStore.annotated · host turnId checkpointToken)

end CheckpointOp

/-- The disk, and for each file name the continuations that can stand in it: the one that
was annotated last, and those of later annotations that failed. -/
structure CheckpointRun where
  disk : CheckpointDisk
  continuations : String → List (String × String)

namespace CheckpointRun

variable {ContextItem : Type}

def annotatedTo (run : CheckpointRun) (name : String) (continuation : String × String)
    (succeeded : Bool) : String → List (String × String) := fun other =>
  if other ≠ name then run.continuations other
  else if succeeded then [continuation]
  else if run.continuations name = [] then []
  else run.continuations name ++ [continuation]

end CheckpointRun

namespace SessionCheckpointStore

variable {ContextItem : Type} (store : SessionCheckpointStore ContextItem)

/-- Updates and annotations of any sessions, one after another. -/
def checkpoints (disk : CheckpointDisk) :
    Component CheckpointRun (CheckpointOp ContextItem)
      (Except String (Option (SessionCheckpoint ContextItem))) where
  initial := ⟨disk, fun _ => []⟩
  step := fun run op =>
    match op with
    | .updateHistory host sessionId history memoryWindow contextItems =>
      let ran := store.updateHistory host sessionId history memoryWindow contextItems run.disk
      (ran.1.map some, { run with disk := ran.2 })
    | .annotateContinuation host sessionId turnId checkpointToken =>
      let ran := store.annotateContinuation host sessionId turnId checkpointToken run.disk
      (ran.1,
        { disk := ran.2
          continuations :=
            match op.saving store run.disk with
            | none => run.continuations
            | some saved => run.annotatedTo (sanitizeSessionId saved.sessionId)
                (turnId, checkpointToken) ran.1.isOk })

/-- A session that could be loaded loads as before, or as the operation saved it. -/
def OldOrNew (run : CheckpointRun) (op : CheckpointOp ContextItem)
    (after : CheckpointRun) : Prop :=
  ∀ sessionId old, store.load sessionId run.disk = .ok (some old) →
    sanitizeSessionId old.sessionId = sanitizeSessionId sessionId →
      store.load sessionId after.disk = .ok (some old) ∨
        ∃ new, op.saving store run.disk = some new ∧
          store.load sessionId after.disk = .ok (some new)

def Remembers (run : CheckpointRun) : Prop :=
  ∀ sessionId, run.continuations (sanitizeSessionId sessionId) ≠ [] →
    ∃ checkpoint, store.load sessionId run.disk = .ok (some checkpoint) ∧
      sanitizeSessionId checkpoint.sessionId = sanitizeSessionId sessionId ∧
      ∃ continuation ∈ run.continuations (sanitizeSessionId sessionId),
        checkpoint.continuationTurnId = some continuation.1 ∧
        checkpoint.continuationCheckpointToken = some continuation.2

def WholeStep (run : CheckpointRun) (op : CheckpointOp ContextItem) : Prop :=
  ∀ checkpoint, op.saving store run.disk = some checkpoint →
    store.Whole op.host checkpoint run.disk

variable {store} {run : CheckpointRun} {disk : CheckpointDisk}

theorem disk_step (initial : CheckpointDisk) (run : CheckpointRun)
    (op : CheckpointOp ContextItem) :
    ((store.checkpoints initial).step run op).2.disk =
      match op.saving store run.disk with
      | none => run.disk
      | some checkpoint => (store.save op.host checkpoint run.disk).2 := by
  cases op with
  | updateHistory host sessionId history memoryWindow contextItems =>
    simp only [checkpoints, updateHistory, Effect.bind_pure_apply]
    rfl
  | annotateContinuation host sessionId turnId checkpointToken =>
    simp only [checkpoints, annotateContinuation, CheckpointOp.saving]
    cases store.load sessionId run.disk with
    | error message => rfl
    | ok found =>
      cases found with
      | none => rfl
      | some loaded =>
        simp only [Effect.bind_pure_apply]
        rfl

theorem WholeStep.cases {op : CheckpointOp ContextItem} (whole : store.WholeStep run op)
    (initial : CheckpointDisk) :
    ((store.checkpoints initial).step run op).2.disk = run.disk ∨
      ∃ checkpoint, op.saving store run.disk = some checkpoint ∧
        store.Stands checkpoint run.disk ((store.checkpoints initial).step run op).2.disk := by
  rw [disk_step]
  cases saves : op.saving store run.disk with
  | none => exact Or.inl rfl
  | some checkpoint =>
    cases save_cases (whole checkpoint saves) with
    | inl unchanged => exact Or.inl unchanged.2
    | inr stands => exact Or.inr ⟨checkpoint, rfl, stands⟩

theorem Stands.load_other {checkpoint old : SessionCheckpoint ContextItem} {after : CheckpointDisk}
    {sessionId : String} (stands : store.Stands checkpoint disk after)
    (loads : store.load sessionId disk = .ok (some old))
    (own : sanitizeSessionId old.sessionId = sanitizeSessionId sessionId)
    (other : sanitizeSessionId sessionId ≠ sanitizeSessionId checkpoint.sessionId) :
    store.load sessionId after = .ok (some old) := by
  rw [load_eq_some_iff, own] at loads ⊢
  rw [stands.others _ other]
  exact loads

theorem WholeStep.oldOrNew {op : CheckpointOp ContextItem} (whole : store.WholeStep run op)
    (initial : CheckpointDisk) :
    store.OldOrNew run op ((store.checkpoints initial).step run op).2 := by
  intro sessionId old loads own
  rcases whole.cases initial with unchanged | ⟨checkpoint, saves, stands⟩
  · rw [unchanged]
    exact Or.inl loads
  · by_cases isName : sanitizeSessionId sessionId = sanitizeSessionId checkpoint.sessionId
    · exact Or.inr ⟨checkpoint, saves, stands.load isName⟩
    · exact Or.inl (stands.load_other loads own isName)

section
variable {name other : String} {added : String × String} {succeeded : Bool}

theorem mem_annotatedTo
    {continuation : String × String} (failed : name = other → succeeded = false)
    (membership : continuation ∈ run.continuations other) :
    continuation ∈ run.annotatedTo name added succeeded other := by
  rw [CheckpointRun.annotatedTo]
  split
  · exact membership
  · next isName =>
    have same := not_not.mp isName
    subst same
    simp only [failed rfl, Bool.false_eq_true, if_false]
    split
    · next isEmpty =>
      rw [isEmpty] at membership
      cases membership
    · exact List.mem_append_left _ membership

theorem continuations_ne_nil_of_annotatedTo (failed : name = other → succeeded = false)
    (annotated : run.annotatedTo name added succeeded other ≠ []) :
    run.continuations other ≠ [] := by
  intro isEmpty
  apply annotated
  rw [CheckpointRun.annotatedTo]
  split
  · exact isEmpty
  · next isName =>
    have same := not_not.mp isName
    subst same
    simp only [failed rfl, Bool.false_eq_true, if_false, isEmpty, if_true]

end

theorem mem_annotatedTo_self {name : String} {added : String × String} {succeeded : Bool}
    (annotated : run.annotatedTo name added succeeded name ≠ []) :
    added ∈ run.annotatedTo name added succeeded name := by
  rw [CheckpointRun.annotatedTo, if_neg (not_not.mpr rfl)] at annotated ⊢
  split
  · exact List.mem_singleton_self _
  · next failed =>
    rw [if_neg failed] at annotated
    split
    · next isEmpty =>
      rw [if_pos isEmpty] at annotated
      exact absurd rfl annotated
    · simp

section
variable (remembers : store.Remembers run)
include remembers

theorem Remembers.of_stands
    {checkpoint : SessionCheckpoint ContextItem} {after : CheckpointRun} {sessionId : String}
    (stands : store.Stands checkpoint run.disk after.disk)
    (other : sanitizeSessionId sessionId ≠ sanitizeSessionId checkpoint.sessionId)
    (same : after.continuations (sanitizeSessionId sessionId) =
      run.continuations (sanitizeSessionId sessionId))
    (annotated : after.continuations (sanitizeSessionId sessionId) ≠ []) :
    ∃ checkpoint, store.load sessionId after.disk = .ok (some checkpoint) ∧
      sanitizeSessionId checkpoint.sessionId = sanitizeSessionId sessionId ∧
      ∃ continuation ∈ after.continuations (sanitizeSessionId sessionId),
        checkpoint.continuationTurnId = some continuation.1 ∧
        checkpoint.continuationCheckpointToken = some continuation.2 := by
  rw [same] at annotated ⊢
  obtain ⟨old, loads, own, continuation⟩ := remembers sessionId annotated
  exact ⟨old, stands.load_other loads own other, own, continuation⟩

theorem remembers_updateHistory {host : SaveHost}
    {updatedId : String} {history : List ChatMessage}
    {memoryWindow : Nat}
    {contextItems : List ContextItem}
    (whole : store.WholeStep run (.updateHistory host updatedId history memoryWindow contextItems))
    (initial : CheckpointDisk) :
    store.Remembers ((store.checkpoints initial).step run
      (.updateHistory host updatedId history memoryWindow contextItems)).2 := by
  intro sessionId annotated
  obtain ⟨old, loads, own, continuation⟩ := remembers sessionId annotated
  rcases whole.cases initial with unchanged | ⟨checkpoint, saves, stands⟩
  · rw [unchanged]
    exact ⟨old, loads, own, continuation⟩
  · by_cases isName : sanitizeSessionId sessionId = sanitizeSessionId checkpoint.sessionId
    · refine ⟨checkpoint, stands.load isName, isName.symm, ?_⟩
      cases saves
      have loaded : store.load updatedId run.disk = .ok (some old) := by
        rw [← loads]
        exact load_congr isName.symm
      simp only [updated, loaded]
      exact continuation
    · exact remembers.of_stands stands isName rfl annotated

theorem remembers_annotateContinuation {host : SaveHost}
    {annotatedId turnId checkpointToken : String}
    (whole : store.WholeStep run (.annotateContinuation host annotatedId turnId checkpointToken))
    (initial : CheckpointDisk) :
    store.Remembers ((store.checkpoints initial).step run
      (.annotateContinuation host annotatedId turnId checkpointToken)).2 := by
  cases loads : store.load annotatedId run.disk with
  | error message =>
    simp only [checkpoints, annotateContinuation, CheckpointOp.saving, loads]
    exact remembers
  | ok found =>
    cases found with
    | none =>
      simp only [checkpoints, annotateContinuation, CheckpointOp.saving, loads]
      exact remembers
    | some loaded =>
      have saves : CheckpointOp.saving store run.disk
          (.annotateContinuation host annotatedId turnId checkpointToken) =
            some (annotated loaded host turnId checkpointToken) := by
        simp only [CheckpointOp.saving, loads]
        rfl
      have isWhole : store.Whole host (annotated loaded host turnId checkpointToken) run.disk :=
        whole _ saves
      have ended := save_cases isWhole
      have steps : ((store.checkpoints initial).step run
          (.annotateContinuation host annotatedId turnId checkpointToken)).2 =
          { disk := (store.save host (annotated loaded host turnId checkpointToken)
              run.disk).2
            continuations := run.annotatedTo (sanitizeSessionId loaded.sessionId)
              (turnId, checkpointToken)
              (store.save host (annotated loaded host turnId checkpointToken)
                run.disk).1.isOk } := by
        simp only [checkpoints, saves, annotateContinuation, loads, Effect.bind_pure_apply]
        cases (store.save host (annotated loaded host turnId checkpointToken) run.disk).1 with
        | ok saved => rfl
        | error message => rfl
      rw [steps]
      intro sessionId isAnnotated
      cases ended with
      | inl unchanged =>
        obtain ⟨failed, sameDisk⟩ := unchanged
        have wasAnnotated := continuations_ne_nil_of_annotatedTo (fun _ => failed) isAnnotated
        obtain ⟨old, loads, own, continuation, membership, holds⟩ :=
          remembers sessionId wasAnnotated
        simp only
        rw [sameDisk]
        exact ⟨old, loads, own, continuation, mem_annotatedTo (fun _ => failed) membership,
          holds⟩
      | inr stands =>
        by_cases isName : sanitizeSessionId sessionId = sanitizeSessionId loaded.sessionId
        · refine ⟨_, stands.load isName, isName.symm, (turnId, checkpointToken), ?_, rfl, rfl⟩
          simp only at isAnnotated ⊢
          rw [isName] at isAnnotated ⊢
          exact mem_annotatedTo_self isAnnotated
        · exact remembers.of_stands stands isName (if_pos isName) isAnnotated

theorem Remembers.step {op : CheckpointOp ContextItem}
    (whole : store.WholeStep run op) (initial : CheckpointDisk) :
    store.Remembers ((store.checkpoints initial).step run op).2 := by
  cases op with
  | updateHistory host sessionId history memoryWindow contextItems =>
    exact remembers_updateHistory remembers whole initial
  | annotateContinuation host sessionId turnId checkpointToken =>
    exact remembers_annotateContinuation remembers whole initial

end

variable (store)

/-- In a run whose saves are whole, every operation leaves each session with its old
checkpoint or the one it saves, and no annotated continuation is lost. -/
theorem checkpoints_consistent (disk : CheckpointDisk) (ops : List (CheckpointOp ContextItem))
    (whole : (store.checkpoints disk).EachStep store.WholeStep ⟨disk, fun _ => []⟩ ops) :
    (store.checkpoints disk).EachStep
        (fun run op => store.OldOrNew run op ((store.checkpoints disk).step run op).2)
        ⟨disk, fun _ => []⟩ ops ∧
      (store.checkpoints disk).Always store.Remembers ⟨disk, fun _ => []⟩ ops := by
  constructor
  · exact whole.mono fun run op whole => whole.oldOrNew disk
  · apply whole.always
    · exact fun _ annotated => absurd rfl annotated
    · exact fun run op remembers whole => remembers.step whole disk

end SessionCheckpointStore

/-! ## A store whose texts are numbers -/

section Numbered

deriving instance Encodable for AutoLoop.QueryEngine.ToolCall, ChatMessage,
  SessionHistoryCompaction, SessionRedactionSummary, SessionCheckpoint,
  SessionCheckpointEvidenceRecord

def numberedStore : SessionCheckpointStore Unit where
  checkpointForm := ⟨numberText, ofNumberText, ofNumberText_numberText⟩
  evidenceForm := ⟨numberText, ofNumberText, ofNumberText_numberText⟩
  digestMessages _ := "digest"
  redactMessages messages := (messages, ⟨0, []⟩)

end Numbered

open SessionCheckpointStore

theorem whole_of_done {ContextItem : Type} {store : SessionCheckpointStore ContextItem}
    {host : SaveHost} {checkpoint : SessionCheckpoint ContextItem} {disk : CheckpointDisk}
    (checkpointDone : host.checkpointWrite = .done) (evidenceDone : host.evidenceWrite = .done) :
    store.Whole host checkpoint disk := by
  rw [Whole, checkpointDone]
  exact Or.inr (Or.inl evidenceDone)

section
variable (updatedAtMs : UInt64) (evidenceWrite : WriteOutcome)

/-- A call at this time whose evidence write ends so. -/
def hostAt : SaveHost :=
  ⟨updatedAtMs, updatedAtMs, .done, evidenceWrite⟩

def updateAt : CheckpointOp Unit :=
  .updateHistory (hostAt updatedAtMs evidenceWrite) "s" [] 1 []

end

theorem annotated_checkpoint_consistent :
    (numberedStore.checkpoints .empty).EachStep
        (fun run op => numberedStore.OldOrNew run op
          ((numberedStore.checkpoints .empty).step run op).2) ⟨.empty, fun _ => []⟩
        [updateAt 0 .done, .annotateContinuation (hostAt 1 .done) "s" "turn" "token",
          updateAt 2 .done] ∧
      (numberedStore.checkpoints .empty).Always numberedStore.Remembers ⟨.empty, fun _ => []⟩
        [updateAt 0 .done, .annotateContinuation (hostAt 1 .done) "s" "turn" "token",
          updateAt 2 .done] := by
  apply checkpoints_consistent numberedStore
  exact ⟨fun _ _ => whole_of_done rfl rfl, fun _ _ => whole_of_done rfl rfl,
    fun _ _ => whole_of_done rfl rfl, trivial⟩

def updatedRun : CheckpointRun :=
  ((numberedStore.checkpoints .empty).step ⟨.empty, fun _ => []⟩ (updateAt 0 .done)).2

theorem updatedRun_loads :
    ∃ old, numberedStore.load "s" updatedRun.disk = .ok (some old) ∧ old.sessionId = "s" ∧
      old.evidenceRef = some "session-evidence:s:0:digest" := by
  have whole : numberedStore.WholeStep ⟨.empty, fun _ => []⟩ (updateAt 0 .done) :=
    fun _ _ => whole_of_done rfl rfl
  rcases whole.cases .empty with unchanged | ⟨old, saves, stands⟩
  · have written := congrArg (fun disk => (disk.files "s").checkpoint) unchanged
    cases written
  · cases saves
    exact ⟨_, stands.load rfl, rfl, by decide⟩

theorem interrupted_not_loaded {checkpoint : SessionCheckpoint Unit} :
    numberedStore.load "s" ((numberedStore.checkpoints .empty).step updatedRun
      (updateAt 1 .untouched)).2.disk ≠ .ok (some checkpoint) := by
  obtain ⟨old, loads, isSession, isRef⟩ := updatedRun_loads
  rw [disk_step]
  apply load_interrupted loads (by rw [isSession]) rfl isRef rfl (by decide) rfl rfl

theorem interrupted_update_unloadable :
    ¬∀ (ContextItem : Type) (store : SessionCheckpointStore ContextItem) (disk : CheckpointDisk)
        (ops : List (CheckpointOp ContextItem)),
      (store.checkpoints disk).EachStep
          (fun run op => store.OldOrNew run op ((store.checkpoints disk).step run op).2)
          ⟨disk, fun _ => []⟩ ops ∧
        (store.checkpoints disk).Always store.Remembers ⟨disk, fun _ => []⟩ ops := by
  intro always
  obtain ⟨⟨-, oldOrNew, -⟩, -⟩ := always Unit numberedStore .empty
    [updateAt 0 .done, updateAt 1 .untouched]
  obtain ⟨old, loads, isSession, -⟩ := updatedRun_loads
  cases oldOrNew "s" old loads (by rw [isSession]) with
  | inl stillOld => exact interrupted_not_loaded stillOld
  | inr isNew =>
    obtain ⟨new, -, reloads⟩ := isNew
    exact interrupted_not_loaded reloads

end AutoLoop.Session
