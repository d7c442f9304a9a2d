import AutoLoop.QueryEngine.DiffPatchEngine
import AutoLoop.Runtime.LedgerSessions

/-!
# Rolling back a patch

The undo action of an operation takes the files back to where they were before it, from
any state with the files that the operation left.  Undone in reverse order, the actions
take them back to the start.
-/

namespace AutoLoop.QueryEngine

open AutoLoop.Runtime StateAdapter
open FileSystem (SameFiles)
open FileSystem Effect

namespace DiffPatchEngine

variable {engine : DiffPatchEngine} {files after : FileSystem Content}
variable {op : PatchOp} {target : Path} {message error : String}

/-! ## What the calls leave -/

section
variable {call : FileSystem Content → Option (FileSystem Content)}

theorem fileCall_eq_ok
    (ran : fileCall message call files = (.ok (), after)) : call files = some after := by
  rw [fileCall] at ran
  split at ran
  · next later called =>
    cases ran
    exact called
  · cases ran

theorem fileCall_eq_error
    (ran : fileCall message call files = (.error error, after)) : after = files := by
  rw [fileCall] at ran
  split at ran
  · cases ran
  · cases ran
    rfl

end

theorem createParent_files {answer : Except String Unit}
    (ran : createParent message target files = (answer, after)) :
    after.SameFiles files ∧ after.exists target = files.exists target := by
  rw [createParent] at ran
  split at ran
  · cases ran
    exact ⟨fun _ => rfl, rfl⟩
  · next below =>
    cases answer with
    | error error =>
      rw [fileCall_eq_error ran]
      exact ⟨fun _ => rfl, rfl⟩
    | ok value =>
      have created := fileCall_eq_ok ran
      refine ⟨sameFiles_createDirAll created, ?_⟩
      apply exists_createDirAll created
      intro isPrefix
      have short := isPrefix.length_le
      rw [List.length_dropLast] at short
      have positive := List.length_pos_iff.mpr below
      omega

/-- The content that an accepted operation leaves at its target. -/
def putBytes (engine : DiffPatchEngine) (op : PatchOp) (files : FileSystem Content) :
    Option Content :=
  match op.kind with
  | .createFile | .updateFile => op.patch.map bytes
  | .moveFile =>
    match op.fromPath.map engine.resolvePath with
    | some (.ok src) => files.content src
    | _ => none
  | .deleteFile | .revert => none

/-- What an accepted operation has done to the files. -/
inductive Acted (engine : DiffPatchEngine) (op : PatchOp) (target : Path)
    (files after : FileSystem Content) : Prop where
  | create (isKind : op.kind = .createFile) (missing : files.exists target = false)
      (content : Content) (isPatch : op.patch.map bytes = some content)
      (wrote : ∀ path, after.content path = if path = target then some content
        else files.content path)
  | update (isKind : op.kind = .updateFile) (present : files.exists target = true)
      (content : Content) (isPatch : op.patch.map bytes = some content)
      (wrote : ∀ path, after.content path = if path = target then some content
        else files.content path)
  | delete (isKind : op.kind = .deleteFile) (present : files.exists target = true)
      (removed : ∀ path, after.content path = if path = target then none else files.content path)
  | move (isKind : op.kind = .moveFile) (source : String) (src : Path)
      (isSource : op.fromPath = some source) (resolved : engine.resolvePath source = .ok src)
      (parents : FileSystem Content) (same : parents.SameFiles files)
      (stays : parents.exists target = files.exists target)
      (renamed : parents.rename src target = some after)

theorem createParent_bind {call : FileSystem Content → Option (FileSystem Content)}
    {parentMessage : String} {answer : Except String Unit}
    (ran : (createParent parentMessage target >>= fun _ => fileCall message call) files =
      (answer, after)) :
    (∃ error, answer = .error error ∧ after.SameFiles files) ∨
      ∃ parents, answer = .ok () ∧ parents.SameFiles files ∧
        parents.exists target = files.exists target ∧ call parents = some after := by
  cases created : createParent parentMessage target files with
  | mk first parents =>
    obtain ⟨same, stays⟩ := createParent_files created
    cases first with
    | error error =>
      rw [bind_of_error created] at ran
      cases ran
      exact Or.inl ⟨error, rfl, same⟩
    | ok value =>
      rw [bind_of_ok created] at ran
      cases answer with
      | error error =>
        rw [fileCall_eq_error ran]
        exact Or.inl ⟨error, rfl, same⟩
      | ok value => exact Or.inr ⟨parents, rfl, same, stays, fileCall_eq_ok ran⟩

theorem applyPatchOp_files {answer : Except String Unit}
    (ran : engine.applyPatchOp op target files = (answer, after)) :
    (∃ error, answer = .error error ∧ after.SameFiles files) ∨
      answer = .ok () ∧ Acted engine op target files after := by
  rw [applyPatchOp] at ran
  cases isKind : op.kind with
  | createFile =>
    simp only [isKind] at ran
    split at ran
    · cases ran
      exact Or.inl ⟨_, rfl, fun _ => rfl⟩
    · next missing =>
      rw [Bool.not_eq_true] at missing
      cases isPatch : op.patch with
      | none =>
        rw [isPatch] at ran
        cases ran
        exact Or.inl ⟨_, rfl, fun _ => rfl⟩
      | some patch =>
        rw [isPatch] at ran
        rcases createParent_bind ran with failed | ⟨parents, rfl, same, -, wrote⟩
        · exact Or.inl failed
        · refine Or.inr ⟨rfl, .create isKind missing (bytes patch) (by rw [isPatch]; rfl) ?_⟩
          intro path
          rw [content_write wrote, same]
  | updateFile =>
    simp only [isKind] at ran
    split at ran
    · cases ran
      exact Or.inl ⟨_, rfl, fun _ => rfl⟩
    · next present =>
      rw [not_not] at present
      cases isPatch : op.patch with
      | none =>
        rw [isPatch] at ran
        cases ran
        exact Or.inl ⟨_, rfl, fun _ => rfl⟩
      | some patch =>
        rw [isPatch] at ran
        cases answer with
        | error error =>
          rw [fileCall_eq_error ran]
          exact Or.inl ⟨error, rfl, fun _ => rfl⟩
        | ok value =>
          have wrote := fileCall_eq_ok ran
          exact Or.inr ⟨rfl, .update isKind present (bytes patch) (by rw [isPatch]; rfl)
            (content_write wrote)⟩
  | deleteFile =>
    simp only [isKind] at ran
    split at ran
    · cases ran
      exact Or.inl ⟨_, rfl, fun _ => rfl⟩
    · next present =>
      rw [not_not] at present
      cases answer with
      | error error =>
        rw [fileCall_eq_error ran]
        exact Or.inl ⟨error, rfl, fun _ => rfl⟩
      | ok value =>
        have removed := fileCall_eq_ok ran
        exact Or.inr ⟨rfl, .delete isKind present (content_removeFile removed)⟩
  | moveFile =>
    simp only [isKind] at ran
    cases isSource : op.fromPath with
    | none =>
      rw [isSource] at ran
      cases ran
      exact Or.inl ⟨_, rfl, fun _ => rfl⟩
    | some source =>
      rw [isSource] at ran
      cases resolved : engine.resolvePath source with
      | error error =>
        simp only [resolved] at ran
        cases ran
        exact Or.inl ⟨_, rfl, fun _ => rfl⟩
      | ok src =>
        simp only [resolved] at ran
        split at ran
        · cases ran
          exact Or.inl ⟨_, rfl, fun _ => rfl⟩
        · rcases createParent_bind ran with failed | ⟨parents, rfl, same, stays, renamed⟩
          · exact Or.inl failed
          · exact Or.inr ⟨rfl, .move isKind source src isSource resolved parents same stays
              renamed⟩
  | revert =>
    simp only [isKind] at ran
    cases ran
    exact Or.inl ⟨_, rfl, fun _ => rfl⟩

theorem acted_of_ok (ran : engine.applyPatchOp op target files = (.ok (), after)) :
    Acted engine op target files after := by
  rcases applyPatchOp_files ran with ⟨error, failed, -⟩ | ⟨-, acted⟩
  · cases failed
  · exact acted

theorem sameFiles_of_error (ran : engine.applyPatchOp op target files = (.error error, after)) :
    after.SameFiles files := by
  rcases applyPatchOp_files ran with ⟨-, -, same⟩ | ⟨succeeded, -⟩
  · exact same
  · cases succeeded

theorem Acted.content_target (acted : Acted engine op target files after) :
    after.content target = engine.putBytes op files := by
  rw [putBytes]
  cases acted with
  | create isKind missing content isPatch wrote =>
    rw [isKind, wrote, if_pos rfl, isPatch]
  | update isKind present content isPatch wrote =>
    rw [isKind, wrote, if_pos rfl, isPatch]
  | delete isKind present removed => rw [isKind, removed, if_pos rfl]
  | move isKind source src isSource resolved parents same stays renamed =>
    rw [isKind, isSource]
    simp only [Option.map_some, resolved]
    by_cases different : src = target
    · subst different
      rw [rename, if_pos rfl] at renamed
      split at renamed
      · cases renamed
        exact same src
      · cases renamed
    · rw [content_rename different renamed, if_pos (List.prefix_refl target),
        List.drop_length, List.append_nil, same]

/-! ## What an undo action does -/

/-- From any state with the files of `after`, the action leads to the files of `before`
when it succeeds. -/
def Undoes (action : UndoAction) (before after : FileSystem Content) : Prop :=
  ∀ current final, current.SameFiles after → undoFile action current = (.ok (), final) →
    final.SameFiles before

variable {content : Content}

theorem content_of_restored {parentMessage : String}
    (ran : (createParent parentMessage target >>= fun _ =>
      fileCall message (·.write target content)) files = (.ok (), after)) (path : Path) :
    after.content path = if path = target then some content else files.content path := by
  rcases createParent_bind ran with ⟨error, failed, -⟩ | ⟨parents, -, same, -, wrote⟩
  · cases failed
  · rw [content_write wrote, same]

theorem sameFiles_of_restored {parentMessage : String}
    {before current final : FileSystem Content}
    (previous : before.content target = some content)
    (others : ∀ path, path ≠ target → after.content path = before.content path)
    (same : current.SameFiles after)
    (ran : (createParent parentMessage target >>= fun _ =>
      fileCall message (·.write target content)) current = (.ok (), final)) :
    final.SameFiles before := by
  intro path
  rw [content_of_restored ran]
  split
  · next isTarget => rw [isTarget, previous]
  · next apart => rw [same, others path apart]

theorem undoes_deleteCreated (missing : files.exists target = false)
    (wrote : ∀ path, after.content path = if path = target then some content
      else files.content path) :
    Undoes (.deleteCreated target) files after := by
  intro current final same ran
  have isThere : current.exists target = true := by
    apply exists_of_content
    rw [same, wrote, if_pos rfl]
  change (if current.exists target = true then _ else _) = _ at ran
  rw [if_pos isThere] at ran
  have removed := fileCall_eq_ok ran
  intro path
  rw [content_removeFile removed]
  split
  · next isTarget => rw [isTarget, content_of_missing missing]
  · next apart => rw [same, wrote, if_neg apart]

theorem undoes_moveBack {src : Path} {parents : FileSystem Content}
    (missing : files.exists target = false) (same : parents.SameFiles files)
    (stays : parents.exists target = files.exists target)
    (renamed : parents.rename src target = some after) :
    Undoes (.moveBack target src) files after := by
  have vacant : parents.exists target = false := stays.trans missing
  have different : src ≠ target := by
    rintro rfl
    rw [exists_of_rename renamed] at vacant
    cases vacant
  intro current final sameAfter ran
  refine SameFiles.trans ?_ same
  change (if current.exists target = true then _ else _) = _ at ran
  cases isThere : current.exists target with
  | false =>
    rw [isThere, if_neg Bool.false_ne_true] at ran
    cases ran
    exact sameAfter.of_missing different vacant renamed isThere
  | true =>
    rw [if_pos isThere] at ran
    rcases createParent_bind ran with
      ⟨error, failed, -⟩ | ⟨middle, -, sameMiddle, -, back⟩
    · cases failed
    · exact SameFiles.rename_back different vacant renamed (sameMiddle.trans sameAfter) back

theorem Acted.undoes {previousBytes : Option Content} {action : UndoAction}
    (acted : Acted engine op target files after)
    (previous : readPrevious files target = .ok previousBytes)
    (undo : engine.undoAction op target previousBytes = .ok action)
    (vacant : op.kind = .moveFile → files.content target = none) :
    Undoes action files after := by
  have whenPresent : files.exists target = true →
      ∃ content, previousBytes = some content ∧ files.content target = some content := by
    intro present
    rw [readPrevious, if_pos present] at previous
    split at previous
    · next content found =>
      cases previous
      exact ⟨content, rfl, found⟩
    · cases previous
  rw [undoAction] at undo
  cases acted with
  | create isKind missing content isPatch wrote =>
    rw [isKind] at undo
    cases undo
    exact undoes_deleteCreated missing wrote
  | update isKind present content isPatch wrote =>
    rw [isKind] at undo
    cases undo
    obtain ⟨old, rfl, found⟩ := whenPresent present
    intro current final same ran
    apply sameFiles_of_restored found _ same ran
    intro path apart
    rw [wrote, if_neg apart]
  | delete isKind present removed =>
    rw [isKind] at undo
    cases undo
    obtain ⟨old, rfl, found⟩ := whenPresent present
    intro current final same ran
    apply sameFiles_of_restored found _ same ran
    intro path apart
    rw [removed, if_neg apart]
  | move isKind source src isSource resolved parents same stays renamed =>
    simp only [isKind, isSource, resolved] at undo
    cases undo
    have missing : files.exists target = false := by
      rw [Bool.eq_false_iff]
      intro present
      obtain ⟨content, -, found⟩ := whenPresent present
      rw [vacant isKind] at found
      cases found
    exact undoes_moveBack missing same stays renamed

/-! ## One operation -/

def Completes (engine : DiffPatchEngine) (sessionId traceId : String) (idx : Nat)
    (op : PatchOp) (target : Path) (world : PatchWorld) : Prop :=
  (checkExpectedHash op target
      ((engine.putBytes op world.files).map engine.hashBytes)).isOk = true ∧
    ((engine.storeStep sessionId traceId idx op (world.files.content target)
      (engine.hashFileIfExists world.files target)
      ((engine.putBytes op world.files).map engine.hashBytes)).run world.shared).1.isOk = true

instance (sessionId traceId : String) (idx : Nat) (op : PatchOp) (target : Path)
    (world : PatchWorld) : Decidable (Completes engine sessionId traceId idx op target world) :=
  inferInstanceAs (Decidable (_ ∧ _))

/-- Where the operation leaves nothing behind that is not undone: it does not move onto
a file, and it completes when its action on the files is accepted. -/
def Recoverable (engine : DiffPatchEngine) (sessionId traceId : String) (idx : Nat)
    (op : PatchOp) (world : PatchWorld) : Prop :=
  match engine.resolvePath op.path with
  | .error _ => True
  | .ok target =>
    (op.kind = .moveFile → (world.files.content target).isNone = true) ∧
      ((engine.applyPatchOp op target world.files).1.isOk = true →
        Completes engine sessionId traceId idx op target world)

instance (sessionId traceId : String) (idx : Nat) (op : PatchOp) (world : PatchWorld) :
    Decidable (Recoverable engine sessionId traceId idx op world) :=
  match resolved : engine.resolvePath op.path with
  | .error _ => .isTrue (by rw [Recoverable, resolved]; trivial)
  | .ok _ => decidable_of_iff (_ ∧ _) (by rw [Recoverable, resolved])

section One

variable {sessionId traceId : String} {idx : Nat} {world later : PatchWorld}

theorem content_of_readPrevious {previousBytes : Option Content}
    (previous : readPrevious files target = .ok previousBytes) :
    files.content target = previousBytes := by
  rw [readPrevious] at previous
  split at previous
  · split at previous
    · next content found =>
      cases previous
      exact found
    · cases previous
  · next missing =>
    cases previous
    exact content_of_missing (Bool.not_eq_true _ ▸ missing)

/-- What has happened when an operation has ended. -/
inductive Ended (engine : DiffPatchEngine) (sessionId traceId : String) (idx : Nat)
    (op : PatchOp) (world : PatchWorld) :
    Except String (PatchStepRecord × UndoAction) → PatchWorld → Prop where
  | refused {error : String} {later : PatchWorld} (same : later.files.SameFiles world.files) :
      Ended engine sessionId traceId idx op world (.error error) later
  | unrecorded {error : String} {later : PatchWorld} {target : Path}
      (resolved : engine.resolvePath op.path = .ok target)
      (accepted : (engine.applyPatchOp op target world.files).1.isOk = true)
      (broken : ¬Completes engine sessionId traceId idx op target world) :
      Ended engine sessionId traceId idx op world (.error error) later
  | applied {record : PatchStepRecord} {action : UndoAction} {later : PatchWorld}
      {target : Path} (resolved : engine.resolvePath op.path = .ok target)
      (previous : readPrevious world.files target = .ok (world.files.content target))
      (undo : engine.undoAction op target (world.files.content target) = .ok action)
      (acted : Acted engine op target world.files later.files)
      (stored : ∃ beforeHash afterHash diffRef, (engine.storeStep sessionId traceId idx op
        (world.files.content target) beforeHash afterHash).run world.shared =
          (.ok diffRef, later.shared)) :
      Ended engine sessionId traceId idx op world (.ok (record, action)) later

theorem ended_applyOne {answer : Except String (PatchStepRecord × UndoAction)}
    (ran : engine.applyOne sessionId traceId idx op world = (answer, later)) :
    Ended engine sessionId traceId idx op world answer later := by
  rw [applyOne] at ran
  cases resolved : engine.resolvePath op.path with
  | error error =>
    rw [resolved] at ran
    cases ran
    exact .refused fun _ => rfl
  | ok target =>
    simp only [resolved, bind_apply, onFiles_apply, inspect_apply, onStore_apply,
      ofExcept_apply, pure_apply] at ran
    cases previous : readPrevious world.files target with
    | error error =>
      simp only [previous] at ran
      cases ran
      exact .refused fun _ => rfl
    | ok previousBytes =>
      have isPrevious := content_of_readPrevious previous
      rw [← isPrevious] at previous
      simp only [previous] at ran
      cases undo : engine.undoAction op target (world.files.content target) with
      | error error =>
        simp only [undo] at ran
        cases ran
        exact .refused fun _ => rfl
      | ok action =>
        simp only [undo] at ran
        cases acts : engine.applyPatchOp op target world.files with
        | mk acted after =>
          simp only [acts] at ran
          cases acted with
          | error error =>
            cases ran
            exact .refused (sameFiles_of_error acts)
          | ok value =>
            have acted := acted_of_ok acts
            have accepted : (engine.applyPatchOp op target world.files).1.isOk = true := by
              rw [acts]
              rfl
            have isHash : engine.hashFileIfExists after target =
                (engine.putBytes op world.files).map engine.hashBytes := by
              rw [hashFileIfExists, acted.content_target]
            simp only [isHash] at ran
            cases checked : checkExpectedHash op target
              ((engine.putBytes op world.files).map engine.hashBytes) with
            | error error =>
              simp only [checked] at ran
              cases ran
              refine .unrecorded resolved accepted ?_
              rintro ⟨isOk, -⟩
              rw [checked] at isOk
              cases isOk
            | ok value =>
              simp only [checked] at ran
              cases stored : (engine.storeStep sessionId traceId idx op (world.files.content target)
                (engine.hashFileIfExists world.files target)
                ((engine.putBytes op world.files).map engine.hashBytes)).run
                  world.shared with
              | mk answered shared =>
                simp only [stored] at ran
                cases answered with
                | error error =>
                  cases ran
                  refine .unrecorded resolved accepted ?_
                  rintro ⟨-, isOk⟩
                  rw [stored] at isOk
                  cases isOk
                | ok diffRef =>
                  cases ran
                  exact .applied resolved previous undo acted ⟨_, _, diffRef, stored⟩

theorem sameFiles_of_failed {error : String}
    (recoverable : Recoverable engine sessionId traceId idx op world)
    (ran : engine.applyOne sessionId traceId idx op world = (.error error, later)) :
    later.files.SameFiles world.files := by
  cases ended_applyOne ran with
  | refused same => exact same
  | unrecorded resolved accepted broken =>
    rw [Recoverable, resolved] at recoverable
    exact absurd (recoverable.2 accepted) broken

theorem undoes_of_applied {record : PatchStepRecord} {action : UndoAction}
    (recoverable : Recoverable engine sessionId traceId idx op world)
    (ran : engine.applyOne sessionId traceId idx op world = (.ok (record, action), later)) :
    Undoes action world.files later.files := by
  cases ended_applyOne ran with
  | applied resolved previous undo acted stored =>
    rw [Recoverable, resolved] at recoverable
    exact acted.undoes previous undo fun isMove =>
      Option.isNone_iff_eq_none.mp (recoverable.1 isMove)

end One

/-! ## The whole patch -/

/-- The actions lead back to the start one after another. -/
def Restores (start : FileSystem Content) : List UndoAction → FileSystem Content → Prop
  | [], current => current.SameFiles start
  | action :: rest, current => ∃ before, Undoes action before current ∧ Restores start rest before

theorem rollBack_failed (engine : DiffPatchEngine) (idx : Nat) (actions : List UndoAction) (steps : List PatchStepRecord)
    (current : FileSystem Content) :
    ∃ taken final, engine.rollBack idx actions steps false current = (.ok (taken, false), final) := by
  induction actions generalizing idx steps current with
  | nil => exact ⟨_, _, rfl⟩
  | cons action rest ih =>
    rw [rollBack, bind_apply, attempt_apply]
    cases (engine.rollbackAction action current).1 with
    | ok step => exact ih _ _ _
    | error error => exact ih _ _ _

theorem rollBack_files {start : FileSystem Content} {idx : Nat} {actions : List UndoAction}
    {steps taken : List PatchStepRecord} {reached current final : FileSystem Content}
    (restores : Restores start actions reached) (same : current.SameFiles reached)
    (ran : engine.rollBack idx actions steps true current = (.ok (taken, true), final)) :
    final.SameFiles start := by
  induction actions generalizing idx steps reached current with
  | nil =>
    cases ran
    exact same.trans restores
  | cons action rest ih =>
    obtain ⟨before, undoes, restores⟩ := restores
    rw [rollBack, bind_apply, attempt_apply] at ran
    cases undone : engine.rollbackAction action current with
    | mk answer middle =>
      rw [undone] at ran
      cases answer with
      | error error =>
        obtain ⟨taken, after, fails⟩ := rollBack_failed engine (idx + 1) rest
          (steps ++ [{
            opId := "rollback-" ++ idx.repr
            kind := "rollback"
            path := "<unknown>"
            status := .failed
            error := some error }]) middle
        have isFailed := fails.symm.trans ran
        cases isFailed
      | ok step =>
        obtain ⟨value, later, changed, looked⟩ := bind_eq_ok.mp undone
        cases looked
        exact ih restores (undoes current middle same changed) ran

def RolledBack : Except String PatchExecutionReport → Prop
  | .ok report => report.success = false ∧ report.rollbackSuccessful = true
  | .error _ => False

instance : ∀ answer, Decidable (RolledBack answer)
  | .ok _ => inferInstanceAs (Decidable (_ ∧ _))
  | .error _ => .isFalse id

/-- Every operation is recoverable where the run comes to it. -/
def AllRecoverable (engine : DiffPatchEngine) (sessionId traceId : String) :
    Nat → List PatchOp → PatchWorld → Prop
  | _, [], _ => True
  | idx, op :: rest, world =>
    Recoverable engine sessionId traceId idx op world ∧
      ((engine.applyOne sessionId traceId idx op world).1.isOk = true →
        AllRecoverable engine sessionId traceId (idx + 1) rest
          (engine.applyOne sessionId traceId idx op world).2)

instance decidableAllRecoverable (sessionId traceId : String) :
    ∀ idx ops world, Decidable (AllRecoverable engine sessionId traceId idx ops world)
  | _, [], _ => .isTrue trivial
  | idx, op :: rest, world =>
    have : Decidable (AllRecoverable engine sessionId traceId (idx + 1) rest
        (engine.applyOne sessionId traceId idx op world).2) :=
      decidableAllRecoverable sessionId traceId (idx + 1) rest _
    inferInstanceAs (Decidable (_ ∧ (_ → _)))

section Patches

variable {sessionId traceId : String} {world later : PatchWorld} {start : FileSystem Content}

theorem run_appendEvidence (engine : DiffPatchEngine) (sessionId traceId : String)
    (members : List (String × String)) (world : PatchWorld) :
    ∃ reference shared, engine.appendEvidence sessionId traceId members world =
      (.ok reference, { world with shared }) :=
  ⟨_, _, rfl⟩

theorem commit_success (steps : List PatchStepRecord) (world : PatchWorld) :
    ¬RolledBack (engine.commit sessionId traceId steps world).1 := by
  rw [commit, bind_of_ok (run_appendEvidence engine sessionId traceId _ world).choose_spec.choose_spec]
  rintro ⟨failed, -⟩
  cases failed

theorem refuse_files (conflicts : List PatchConflict) (world : PatchWorld) :
    (engine.refuse sessionId traceId conflicts world).2.files = world.files := by
  rw [refuse, bind_of_ok (run_appendEvidence engine sessionId traceId _ world).choose_spec.choose_spec]
  rfl

theorem abandon_files {steps : List PatchStepRecord} {undo : List UndoAction}
    {reached : FileSystem Content} (restores : Restores start undo.reverse reached)
    (same : world.files.SameFiles reached)
    (rolledBack : RolledBack (engine.abandon sessionId traceId steps undo world).1) :
    (engine.abandon sessionId traceId steps undo world).2.files.SameFiles start := by
  cases undone : engine.rollBack 0 undo.reverse steps true world.files with
  | mk answer final =>
    have onWorld : onFiles (engine.rollBack 0 undo.reverse steps true) world =
        (answer, { world with files := final }) := by
      rw [onFiles_apply, undone]
    cases answer with
    | error error =>
      rw [abandon, bind_of_error onWorld] at rolledBack
      exact rolledBack.elim
    | ok taken =>
      obtain ⟨reference, shared, appended⟩ := run_appendEvidence engine sessionId traceId [
          ("replay_fp", Json.quote (engine.buildReportReplayFp traceId taken.1 true)),
          ("rollback_successful", if taken.2 then "true" else "false"),
          ("stage", Json.quote "diff_patch_engine"),
          ("status", Json.quote "failed_rolled_back"),
          ("step_count", taken.1.length.repr)] { world with files := final }
      rw [abandon, bind_of_ok onWorld] at rolledBack ⊢
      simp only [bind_of_ok appended] at rolledBack ⊢
      obtain ⟨-, successful⟩ := rolledBack
      obtain ⟨record, succeeded⟩ := taken
      cases successful
      exact rollBack_files restores same undone

theorem applyOps_files {idx : Nat} {ops : List PatchOp} {steps : List PatchStepRecord}
    {undo : List UndoAction} (recoverable : AllRecoverable engine sessionId traceId idx ops world)
    (restores : Restores start undo.reverse world.files)
    (rolledBack : RolledBack (engine.applyOps sessionId traceId idx ops steps undo world).1) :
    (engine.applyOps sessionId traceId idx ops steps undo world).2.files.SameFiles start := by
  induction ops generalizing idx steps undo world with
  | nil => exact absurd rolledBack (commit_success steps world)
  | cons op rest ih =>
    obtain ⟨first, others⟩ := recoverable
    rw [applyOps, bind_apply, attempt_apply] at rolledBack ⊢
    cases applied : engine.applyOne sessionId traceId idx op world with
    | mk answer later =>
      rw [applied] at others rolledBack
      cases answer with
      | error error =>
        exact abandon_files restores (sameFiles_of_failed first applied) rolledBack
      | ok done =>
        apply ih (others rfl) _ rolledBack
        rw [List.reverse_append, List.reverse_singleton, List.singleton_append]
        exact ⟨world.files, undoes_of_applied first applied, restores⟩

end Patches

end DiffPatchEngine

open DiffPatchEngine

def snapshotForm : JsonForm PatchSnapshotRecord :=
  .ofFields
    (fun snapshot => (snapshot.opId, snapshot.path, snapshot.createdAtMs,
      (if snapshot.existedBefore then "true" else "false"),
      snapshot.contentBefore.toList.map (·.map (·.toUInt32))))
    (fun (opId, path, createdAtMs, existedBefore, contentBefore) =>
      ⟨opId, path, existedBefore = "true", (contentBefore.map (·.map (·.toUInt8))).head?, createdAtMs⟩)
    fun snapshot => by
      obtain ⟨opId, path, existedBefore, contentBefore, createdAtMs⟩ := snapshot
      cases existedBefore <;> cases contentBefore <;> simp [Function.comp_def]

def rootEngine : DiffPatchEngine where
  workspaceRoot := "/"
  hashBytes := fun _ => "h"
  snapshotForm := snapshotForm
  ledger := numberedLedger

/-- A root with one file. -/
def oneFile : PatchWorld where
  files := (empty.write ["f"] [97]).getD empty
  shared := Shared.empty

def updateThenMiss : List PatchOp :=
  [{ opId := "a", kind := .updateFile, path := "f", patch := some "b" },
    { opId := "b", kind := .deleteFile, path := "missing" }]

def misjudged : List PatchOp :=
  [{ opId := "a", kind := .updateFile, path := "f", patch := some "b", expectedHash := some "x" }]

end AutoLoop.QueryEngine
