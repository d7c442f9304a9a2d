import AutoLoop.Session.CheckpointRuns

/-!
# Altered checkpoint files

A checkpoint is loaded when the evidence record under the name of its session has its reference
and the digest that it states itself.  The digest is not computed again, and a checkpoint that
names no evidence is not compared with any.
-/

namespace AutoLoop.Session

open CheckpointDisk

namespace SessionCheckpointStore

variable {ContextItem : Type} (store : SessionCheckpointStore ContextItem)

def withCheckpointFile (disk : CheckpointDisk) (sessionId raw : String) : CheckpointDisk :=
  disk.put (sanitizeSessionId sessionId)
    { disk.files (sanitizeSessionId sessionId) with checkpoint := .text raw }

/-- The contents that evidence is to speak for are those that were saved. -/
def SameContents (saved altered : SessionCheckpoint ContextItem) : Prop :=
  altered.history = saved.history ∧
    altered.compaction.compactedHistory = saved.compaction.compactedHistory ∧
    altered.sessionId = saved.sessionId

def Consistent (checkpoint : SessionCheckpoint ContextItem) : Prop :=
  checkpoint.compaction.compactedHistory =
      compactHistory checkpoint.history checkpoint.compaction.windowSize ∧
    checkpoint.compaction.digest = store.digestMessages checkpoint.compaction.compactedHistory

structure TamperEvident (disk : CheckpointDisk) (sessionId : String)
    (saved altered : SessionCheckpoint ContextItem) : Prop where
  refuses : ¬SameContents saved altered → ∃ message, store.load sessionId disk = .error message
  consistent : ∀ loaded, store.load sessionId disk = .ok (some loaded) → store.Consistent loaded

def HasEvidence (disk : CheckpointDisk) (name evidenceRef digest : String) : Prop :=
  ∃ raw evidence, (disk.files name).evidence = .text raw ∧
    store.evidenceForm.decode raw = some evidence ∧
    evidence.evidenceRef = evidenceRef ∧ evidence.checkpointDigest = digest

def Noticed (disk : CheckpointDisk) (saved altered : SessionCheckpoint ContextItem) : Prop :=
  ∃ evidenceRef, altered.evidenceRef = some evidenceRef ∧
    if sanitizeSessionId altered.sessionId = sanitizeSessionId saved.sessionId then
      saved.evidenceRef ≠ some evidenceRef ∨ saved.compaction.digest ≠ altered.compaction.digest
    else ¬store.HasEvidence disk (sanitizeSessionId altered.sessionId) evidenceRef
      altered.compaction.digest

variable {store} {before disk : CheckpointDisk} {host : SaveHost} {sessionId raw : String}
variable {history : List QueryEngine.ChatMessage} {memoryWindow : Nat}
variable {contextItems : List ContextItem} {saved altered : SessionCheckpoint ContextItem}

theorem whole_of_save (saves : (store.save host saved disk).1 = .ok ()) :
    store.Whole host saved disk := by
  rw [save] at saves
  rw [Whole]
  cases isWrite : host.checkpointWrite with
  | untouched => trivial
  | torn left =>
    rw [isWrite] at saves
    cases saves
  | done =>
    rw [isWrite] at saves
    dsimp only
    cases isRef : saved.evidenceRef with
    | none => exact Or.inl rfl
    | some evidenceRef =>
      refine Or.inr (Or.inl ?_)
      cases isEvidence : host.evidenceWrite with
      | done => rfl
      | untouched =>
        rw [Effect.bind_of_ok (by rfl), isRef] at saves
        simp only [persistEvidenceRecord, isEvidence] at saves
        cases saves
      | torn left =>
        rw [Effect.bind_of_ok (by rfl), isRef] at saves
        simp only [persistEvidenceRecord, isEvidence] at saves
        cases saves

theorem stands_of_updateHistory
    (saves : store.updateHistory host sessionId history memoryWindow contextItems before =
      (.ok saved, disk)) :
    store.Stands saved before disk ∧ saved.sessionId = sessionId ∧
      saved.evidenceRef ≠ none ∧ store.Consistent saved := by
  rw [updateHistory] at saves
  let previous := ((store.load sessionId before).toOption).join
  let checkpoint := store.updated host sessionId history memoryWindow contextItems previous
  change (store.save host checkpoint >>= fun _ => pure checkpoint :
    Effect CheckpointDisk (SessionCheckpoint ContextItem)) before = _ at saves
  cases isSaved : store.save host checkpoint before with
  | mk result after =>
    cases result with
    | error message =>
      rw [Effect.bind_of_error isSaved] at saves
      cases saves
    | ok =>
      rw [Effect.bind_of_ok isSaved] at saves
      have answered : (Except.ok checkpoint, after) = (Except.ok saved, disk) := saves
      obtain ⟨sameSaved, rfl⟩ := Prod.mk.inj answered
      rw [← Except.ok.inj sameSaved]
      have whole : store.Whole host checkpoint before :=
        whole_of_save (congrArg Prod.fst isSaved)
      rcases save_cases whole with ⟨failed, -⟩ | stands
      · rw [isSaved] at failed
        cases failed
      · rw [isSaved] at stands
        exact ⟨stands, rfl, Option.some_ne_none _, rfl, rfl⟩

theorem evidence_withCheckpointFile (disk : CheckpointDisk) (sessionId raw name : String) :
    ((withCheckpointFile disk sessionId raw).files name).evidence =
      (disk.files name).evidence := by
  by_cases isName : name = sanitizeSessionId sessionId
  · rw [isName, withCheckpointFile, files_put_self]
  · rw [withCheckpointFile, files_put_of_ne isName]

theorem hasEvidence_iff_of_stands {evidenceRef digest : String}
    (stands : store.Stands saved before disk) (refers : saved.evidenceRef ≠ none) :
    store.HasEvidence disk (sanitizeSessionId saved.sessionId) evidenceRef digest ↔
      saved.evidenceRef = some evidenceRef ∧ saved.compaction.digest = digest := by
  obtain ⟨savedRef, isRef⟩ := Option.ne_none_iff_exists'.mp refers
  obtain ⟨text, evidence, isText, reads, sameRef, sameDigest⟩ := stands.proven savedRef isRef
  constructor
  · rintro ⟨other, record, isOther, readsOther, hasRef, hasDigest⟩
    rw [isText] at isOther
    cases isOther
    rw [reads] at readsOther
    cases readsOther
    exact ⟨isRef.trans (congrArg some (sameRef.symm.trans hasRef)), sameDigest.symm.trans hasDigest⟩
  · rintro ⟨hasRef, hasDigest⟩
    rw [isRef] at hasRef
    cases hasRef
    exact ⟨text, evidence, isText, reads, sameRef, sameDigest.trans hasDigest⟩

theorem load_withCheckpointFile (sessionId : String) (stands : store.Stands saved before disk)
    (refers : saved.evidenceRef ≠ none) (reads : store.checkpointForm.decode raw = some altered) :
    (store.Noticed disk saved altered ∧
      ∃ message, store.load sessionId (withCheckpointFile disk sessionId raw) = .error message) ∨
    (¬store.Noticed disk saved altered ∧
      store.load sessionId (withCheckpointFile disk sessionId raw) = .ok (some altered)) := by
  have isFile : ((withCheckpointFile disk sessionId raw).files
      (sanitizeSessionId sessionId)).checkpoint = .text raw := by
    rw [withCheckpointFile, files_put_self]
  have loads : store.load sessionId (withCheckpointFile disk sessionId raw) = .ok (some altered) ↔
      ¬store.Noticed disk saved altered := by
    rw [load_eq_some_iff, Matches, Noticed, evidence_withCheckpointFile]
    have isRead : ∃ text, ((withCheckpointFile disk sessionId raw).files
        (sanitizeSessionId sessionId)).checkpoint = .text text ∧
          store.checkpointForm.decode text = some altered := ⟨raw, isFile, reads⟩
    rw [and_iff_right isRead]
    push Not
    refine forall_congr' fun evidenceRef => imp_congr_right fun _ => ?_
    change store.HasEvidence disk (sanitizeSessionId altered.sessionId) evidenceRef
      altered.compaction.digest ↔ _
    split
    · next sameName =>
      rw [sameName, hasEvidence_iff_of_stands stands refers, not_or, not_not, not_not]
    · rw [not_not]
  by_cases noticed : store.Noticed disk saved altered
  · refine Or.inl ⟨noticed, ?_⟩
    have notLoaded := fun isLoaded => loads.mp isLoaded noticed
    revert notLoaded
    rw [load, isFile]
    simp only [reads]
    cases store.verifyCheckpointEvidence altered (withCheckpointFile disk sessionId raw) with
    | error message => exact fun _ => ⟨message, rfl⟩
    | ok => exact fun notLoaded => absurd rfl notLoaded
  · exact Or.inr ⟨noticed, loads.mpr noticed⟩

end SessionCheckpointStore

section Example

open SessionCheckpointStore

def injectiveStore : SessionCheckpointStore Unit :=
  { numberedStore with digestMessages := numberText }

def emptySaved : SessionCheckpoint Unit := injectiveStore.updated (hostAt 0 .done) "s" [] 1 [] none

def emptySavedDisk : CheckpointDisk :=
  (injectiveStore.updateHistory (hostAt 0 .done) "s" [] 1 [] .empty).2

theorem emptySaved_saves :
    injectiveStore.updateHistory (hostAt 0 .done) "s" [] 1 [] .empty =
      (.ok emptySaved, emptySavedDisk) := rfl

end Example

end AutoLoop.Session
