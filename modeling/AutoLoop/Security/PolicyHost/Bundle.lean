import AutoLoop.Foundation.Component
import AutoLoop.Foundation.Effect
import AutoLoop.Foundation.FileSystem

/-!
# Activation of policy bundles

`BundleActivationManager` over the directories below its root.  Each step on a
directory can fail; a removal or a copy that fails leaves something of the directory.
What the manager keeps of the replaced bundle it removes at the end of the commit, so
that there is nothing to go back to afterwards.
-/

namespace AutoLoop.Security.PolicyHost

open Effect

variable {Bytes : Type}

abbrev Files (Bytes : Type) : Type := Path → Option Bytes

/-- The directories below the root. -/
inductive BundleDir where
  | candidate
  | current
  | rollback
  | stable
  | stableBackup
  deriving DecidableEq, Repr

/-- The steps on the file system, by the places where the source makes them. -/
inductive FsSite where
  | createRoot
  | clearCandidate
  | copyCandidate
  | clearRollback
  | currentToRollback
  | candidateToCurrent
  | rollbackToCurrent
  | dropRollback
  | removeCurrent
  | restoreRollback
  | writeDownload
  | clearBackup
  | copyBackup
  | removeRejected
  | copyRestored
  | clearStable
  | copyStable
  deriving DecidableEq, Repr

inductive FsOutcome (Bytes : Type) where
  | done
  | failed (left : Option (Files Bytes))

/-- What becomes of each step of a call. -/
abbrev FsHost (Bytes : Type) : Type := FsSite → FsOutcome Bytes

def FsOutcome.isDone : FsOutcome Bytes → Bool
  | .done => true
  | .failed _ => false

/-- No step fails. -/
def FsHost.sound : FsHost Bytes := fun _ => .done

/-- The directories that exist, and the steps that failed so far. -/
structure BundleRoot (Bytes : Type) where
  dir : BundleDir → Option (Files Bytes)
  failed : List FsSite

namespace BundleRoot

/-- No step has failed yet. -/
def of (dir : BundleDir → Option (Files Bytes)) : BundleRoot Bytes := ⟨dir, []⟩

def set (root : BundleRoot Bytes) (which : BundleDir) (files : Option (Files Bytes)) :
    BundleRoot Bytes :=
  { root with dir := fun other => if other = which then files else root.dir other }

def fail (root : BundleRoot Bytes) (site : FsSite) : BundleRoot Bytes :=
  { root with failed := root.failed ++ [site] }

section
variable (root : BundleRoot Bytes)

@[simp] theorem dir_set (which other : BundleDir) (files : Option (Files Bytes)) :
    (root.set which files).dir other = if other = which then files else root.dir other := rfl

@[simp] theorem failed_set (which : BundleDir)
    (files : Option (Files Bytes)) : (root.set which files).failed = root.failed := rfl

@[simp] theorem dir_fail (site : FsSite) :
    (root.fail site).dir = root.dir := rfl

@[simp] theorem failed_fail (site : FsSite) :
    (root.fail site).failed = root.failed ++ [site] := rfl

end

@[simp] theorem dir_of (dir : BundleDir → Option (Files Bytes)) :
    (BundleRoot.of dir).dir = dir := rfl

@[simp] theorem failed_of (dir : BundleDir → Option (Files Bytes)) :
    (BundleRoot.of dir).failed = [] := rfl

end BundleRoot

/-! ## Steps on directories -/

section Steps

variable (host : FsHost Bytes)

section
variable (site : FsSite)

/-- `fs::create_dir_all` of the root. -/
def createRoot : Effect (BundleRoot Bytes) Unit := fun root =>
  match host site with
  | .done => (.ok (), root)
  | .failed _ => (.error "failed to create", root.fail site)

/-- `fs::remove_dir_all`. -/
def removeDirAll (which : BundleDir) : Effect (BundleRoot Bytes) Unit :=
  fun root =>
    match host site with
    | .done => (.ok (), root.set which none)
    | .failed left => (.error "failed to remove", (root.set which left).fail site)

/-- `fs::rename` onto a path where nothing is. -/
def renameDir (source target : BundleDir) : Effect (BundleRoot Bytes) Unit :=
  fun root =>
    match host site, root.dir source, root.dir target with
    | .done, some files, none => (.ok (), (root.set target (some files)).set source none)
    | _, _, _ => (.error "failed to move", root.fail site)

/-- `copy_dir_all`: what is in the target already stays unless it is copied over. -/
def copyDirAll (files : Files Bytes) (target : BundleDir) :
    Effect (BundleRoot Bytes) Unit := fun root =>
  match host site with
  | .done =>
    (.ok (), root.set target (some fun path =>
      (files path).or ((root.dir target).bind (· path))))
  | .failed left => (.error "failed to copy", (root.set target left).fail site)

end

/-- A step for a directory that is made when it exists. -/
def whenExists (which : BundleDir) (step : Effect (BundleRoot Bytes) Unit) :
    Effect (BundleRoot Bytes) Unit := fun root =>
  if (root.dir which).isSome then step root else (.ok (), root)

end Steps

namespace BundleActivationManager

variable (host : FsHost Bytes)

def stageCandidate (bundle : Files Bytes) : Effect (BundleRoot Bytes) Unit := do
  createRoot host .createRoot
  whenExists .candidate (removeDirAll host .clearCandidate .candidate)
  copyDirAll host .copyCandidate bundle .candidate

/-- The move of the candidate, with the way back when it fails. -/
def moveCandidate : Effect (BundleRoot Bytes) Unit := do
  match ← (renameDir host .candidateToCurrent .candidate .current).attempt with
  | .ok () => return ()
  | .error commitError =>
    let _ ← (whenExists .rollback (renameDir host .rollbackToCurrent .rollback .current)).attempt
    Effect.fail ("failed to commit candidate bundle: " ++ commitError)

def commitStaged : Effect (BundleRoot Bytes) Unit := do
  whenExists .rollback (removeDirAll host .clearRollback .rollback)
  whenExists .current (renameDir host .currentToRollback .current .rollback)
  moveCandidate host
  let _ ← (whenExists .rollback (removeDirAll host .dropRollback .rollback)).attempt
  return ()

def commitCandidate : Effect (BundleRoot Bytes) Unit := fun root =>
  if (root.dir .candidate).isNone then (.error "no staged candidate found, cannot commit", root)
  else commitStaged host root

def rollback : Effect (BundleRoot Bytes) Unit := fun root =>
  if (root.dir .rollback).isNone then (.error "rollback bundle not found, cannot rollback", root)
  else
    (do
      whenExists .current (removeDirAll host .removeCurrent .current)
      renameDir host .restoreRollback .rollback .current : Effect (BundleRoot Bytes) Unit) root

def activateBundle (bundle : Files Bytes) : Effect (BundleRoot Bytes) Unit := do
  stageCandidate host bundle
  commitCandidate host

end BundleActivationManager

/-! ## Runs without errors -/

inductive BundleOp (Bytes : Type) where
  | activate (bundle : Files Bytes)
  | commit
  | rollback

open BundleActivationManager

/-- Calls one after another; no step on the file system fails. -/
def bundleRuns (dir : BundleDir → Option (Files Bytes)) :
    Component (BundleRoot Bytes) (BundleOp Bytes) (Except String Unit) where
  initial := .of dir
  step root op :=
    match op with
    | .activate bundle => activateBundle .sound bundle root
    | .commit => commitCandidate .sound root
    | .rollback => rollback .sound root

open FsHost

section Sound

variable {root : BundleRoot Bytes}

theorem commitCandidate_of_staged {files : Files Bytes}
    (staged : root.dir .candidate = some files) :
    ∃ final, commitCandidate .sound root = (.ok (), final) ∧
      final.dir .current = some files ∧ final.dir .rollback = none ∧
      final.dir .candidate = none ∧ final.dir .stable = root.dir .stable ∧
      final.dir .stableBackup = root.dir .stableBackup := by
  cases hasRollback : root.dir .rollback with
  | none =>
    cases hasCurrent : root.dir .current with
    | none =>
      simp [commitCandidate, commitStaged, moveCandidate, whenExists, renameDir,
        sound, bind_apply, staged, hasRollback, hasCurrent]
    | some old =>
      simp [commitCandidate, commitStaged, moveCandidate, whenExists, removeDirAll,
        renameDir, sound, bind_apply, staged, hasRollback, hasCurrent]
  | some replaced =>
    cases hasCurrent : root.dir .current with
    | none =>
      simp [commitCandidate, commitStaged, moveCandidate, whenExists, removeDirAll,
        renameDir, sound, bind_apply, staged, hasRollback, hasCurrent]
    | some old =>
      simp [commitCandidate, commitStaged, moveCandidate, whenExists, removeDirAll,
        renameDir, sound, bind_apply, staged, hasRollback, hasCurrent]

theorem activateBundle_sound (bundle : Files Bytes) (root : BundleRoot Bytes) :
    ∃ final, activateBundle .sound bundle root = (.ok (), final) ∧
      final.dir .current = some bundle ∧ final.dir .rollback = none ∧
      final.dir .candidate = none ∧ final.dir .stable = root.dir .stable ∧
      final.dir .stableBackup = root.dir .stableBackup := by
  obtain ⟨middle, ranStage, staged, sameStable, sameBackup⟩ : ∃ middle,
      stageCandidate .sound bundle root = (.ok (), middle) ∧
        middle.dir .candidate = some bundle ∧ middle.dir .stable = root.dir .stable ∧
        middle.dir .stableBackup = root.dir .stableBackup := by
    cases hasCandidate : root.dir .candidate with
    | none =>
      simp [stageCandidate, createRoot, whenExists, copyDirAll, sound,
        bind_apply, hasCandidate]
    | some old =>
      simp [stageCandidate, createRoot, whenExists, removeDirAll, copyDirAll, sound,
        bind_apply, hasCandidate]
  obtain ⟨final, ranCommit, current, rollback, candidate, stable, backup⟩ :=
    commitCandidate_of_staged staged
  refine ⟨final, ?_, current, rollback, candidate, stable.trans sameStable, backup.trans sameBackup⟩
  rw [activateBundle, bind_of_ok ranStage, ranCommit]

end Sound

/-! ## Steps that fail -/

open FsOutcome

section Failures

variable (host : FsHost Bytes) (dir : BundleDir → Option (Files Bytes))

/-- A call that fails at some step keeps the current bundle, provided that the way back,
if it is taken, works. -/
def KeepsCurrent (call : Effect (BundleRoot Bytes) Unit) : Prop :=
  (call (.of dir)).2.failed ≠ [] → .rollbackToCurrent ∉ (call (.of dir)).2.failed →
    (call (.of dir)).2.dir .current = dir .current

/-- Only the removal of the replaced bundle at the very end can fail unnoticed. -/
def CleanupHarmless : Prop :=
  (host .dropRollback).isDone = true ∨ dir .candidate = none ∨ dir .current = none ∨
    dir .candidate = dir .current ∨
    (dir .rollback ≠ none ∧ (host .clearRollback).isDone = false) ∨
    (host .currentToRollback).isDone = false ∨ (host .candidateToCurrent).isDone = false

theorem stageCandidate_keepsCurrent (bundle : Files Bytes) :
    KeepsCurrent dir (stageCandidate host bundle) := by
  have keepsStep : ∀ step : Effect (BundleRoot Bytes) Unit,
      Effect.Keeps (fun before after => after.dir .current = before.dir .current) step →
        Effect.Keeps (fun before after => after.dir .current = before.dir .current)
          (whenExists .candidate step) := by
    intro step kept root
    rw [whenExists]
    split
    · exact kept root
    · rfl
  have kept : Effect.Keeps
      (fun before after : BundleRoot Bytes => after.dir .current = before.dir .current)
      (stageCandidate host bundle) := by
    have trans : ∀ first second third : BundleRoot Bytes,
        second.dir .current = first.dir .current → third.dir .current = second.dir .current →
          third.dir .current = first.dir .current :=
      fun _ _ _ same later => later.trans same
    apply Effect.Keeps.bind trans
    · intro root
      rw [createRoot]
      cases host .createRoot with
      | done => rfl
      | failed left => rfl
    · intro created
      apply Effect.Keeps.bind trans
      · apply keepsStep
        intro root
        rw [removeDirAll]
        cases host .clearCandidate with
        | done => rfl
        | failed left => rfl
      · intro cleared root
        rw [copyDirAll]
        cases host .copyCandidate with
        | done => rfl
        | failed left => rfl
  intro _ _
  exact kept (.of dir)

theorem commitStaged_keepsCurrent_iff {candidate old : Files Bytes} (root : BundleRoot Bytes)
    (staged : root.dir .candidate = some candidate) (hasCurrent : root.dir .current = some old)
    (noRollback : root.dir .rollback = none) (noFailure : root.failed = []) :
    ((commitStaged host root).2.failed ≠ [] →
        .rollbackToCurrent ∉ (commitStaged host root).2.failed →
          (commitStaged host root).2.dir .current = some old) ↔
      (host .dropRollback).isDone = true ∨ candidate = old ∨
        (host .currentToRollback).isDone = false ∨
        (host .candidateToCurrent).isDone = false := by
  cases moved : host .currentToRollback with
  | failed left =>
    simp [commitStaged, whenExists, renameDir, bind_apply, hasCurrent, noRollback,
      noFailure, moved, isDone]
  | done =>
    cases committed : host .candidateToCurrent with
    | failed left =>
      cases back : host .rollbackToCurrent with
      | done =>
        simp [commitStaged, moveCandidate, whenExists, renameDir, bind_apply,
          staged, hasCurrent, noRollback, noFailure, moved, committed, back,
          isDone]
      | failed lost =>
        simp [commitStaged, moveCandidate, whenExists, renameDir, bind_apply,
          staged, hasCurrent, noRollback, noFailure, moved, committed, back,
          isDone]
    | done =>
      cases dropped : host .dropRollback with
      | done =>
        simp [commitStaged, moveCandidate, whenExists, removeDirAll, renameDir,
          bind_apply, staged, hasCurrent, noRollback, noFailure, moved, committed,
          dropped, isDone]
      | failed left =>
        simp [commitStaged, moveCandidate, whenExists, removeDirAll, renameDir,
          bind_apply, staged, hasCurrent, noRollback, noFailure, moved, committed,
          dropped, isDone]

theorem commitStaged_of_no_current {candidate : Files Bytes} {root : BundleRoot Bytes}
    (staged : root.dir .candidate = some candidate) (noCurrent : root.dir .current = none)
    (noFailure : root.failed = []) (someFailed : (commitStaged host root).2.failed ≠ []) :
    .rollbackToCurrent ∉ (commitStaged host root).2.failed →
      (commitStaged host root).2.dir .current = none := by
  intro _
  cases hasRollback : root.dir .rollback with
  | none =>
    cases committed : host .candidateToCurrent with
    | failed left =>
      simp [commitStaged, moveCandidate, whenExists, renameDir, bind_apply, staged,
        noCurrent, hasRollback, committed]
    | done =>
      simp [commitStaged, moveCandidate, whenExists, renameDir, bind_apply, staged,
        noCurrent, hasRollback, noFailure, committed] at someFailed
  | some replaced =>
    cases cleared : host .clearRollback with
    | failed left =>
      simp [commitStaged, whenExists, removeDirAll, bind_apply, noCurrent, hasRollback, cleared]
    | done =>
      cases committed : host .candidateToCurrent with
      | failed left =>
        simp [commitStaged, moveCandidate, whenExists, removeDirAll, renameDir,
          bind_apply, staged, noCurrent, hasRollback, cleared, committed]
      | done =>
        simp [commitStaged, moveCandidate, whenExists, removeDirAll, renameDir,
          bind_apply, staged, noCurrent, hasRollback, noFailure, cleared,
          committed] at someFailed

theorem commitCandidate_keepsCurrent_iff :
    KeepsCurrent dir (commitCandidate host) ↔ CleanupHarmless host dir := by
  rw [KeepsCurrent, CleanupHarmless]
  cases staged : dir .candidate with
  | none => simp [commitCandidate, staged]
  | some candidate =>
    have isStaged : commitCandidate host (.of dir) = commitStaged host (.of dir) := by
      simp [commitCandidate, staged]
    rw [isStaged]
    cases hasCurrent : dir .current with
    | none =>
      apply iff_of_true ?_ (Or.inr (Or.inr (Or.inl rfl)))
      exact commitStaged_of_no_current host staged hasCurrent rfl
    | some old =>
      cases hasRollback : dir .rollback with
      | none =>
        rw [commitStaged_keepsCurrent_iff host (.of dir) staged hasCurrent hasRollback
          rfl]
        simp
      | some replaced =>
        cases cleared : host .clearRollback with
        | failed left =>
          simp [commitStaged, whenExists, removeDirAll, bind_apply, cleared,
            hasRollback, hasCurrent, isDone]
        | done =>
          have same : commitStaged host (.of dir) =
              commitStaged host ((BundleRoot.of dir).set .rollback none) := by
            simp [commitStaged, whenExists, removeDirAll, bind_apply, cleared, hasRollback]
          rw [same, commitStaged_keepsCurrent_iff host
            ((BundleRoot.of dir).set .rollback none) staged hasCurrent rfl rfl]
          simp [isDone]

end Failures

/-! ## Rolling back -/

section Rollback

section
variable (dir : BundleDir → Option (Files Bytes)) (root : BundleRoot Bytes)

/-- Without errors nothing brings the replaced bundle back. -/
theorem rollback_none_step (op : BundleOp Bytes) (gone : root.dir .rollback = none) :
    ((bundleRuns dir).step root op).2.dir .rollback = none := by
  cases op with
  | activate bundle =>
    obtain ⟨final, ran, -, stillGone, -⟩ := activateBundle_sound bundle root
    simp only [bundleRuns, ran]
    exact stillGone
  | commit =>
    cases staged : root.dir .candidate with
    | none => simp [bundleRuns, commitCandidate, staged, gone]
    | some files =>
      obtain ⟨final, ran, -, stillGone, -⟩ := commitCandidate_of_staged staged
      simp only [bundleRuns, ran]
      exact stillGone
  | rollback => simp [bundleRuns, rollback, gone]

theorem rollback_none_run (ops : List (BundleOp Bytes)) (gone : root.dir .rollback = none) :
    ((bundleRuns dir).run root ops).2.dir .rollback = none := by
  induction ops generalizing root with
  | nil => exact gone
  | cons op rest ih => exact ih _ (rollback_none_step dir root op gone)

end

/-- After an activation no rollback succeeds any more, whatever was active before; and a
commit that fails keeps the current bundle exactly when its last removal does no harm. -/
theorem rollback_unavailable :
    (∀ (dir : BundleDir → Option (Files Bytes)) (earlier later : List (BundleOp Bytes))
        (bundle : Files Bytes),
      (rollback .sound ((bundleRuns dir).run (bundleRuns dir).initial
        (earlier ++ .activate bundle :: later)).2).1 =
          .error "rollback bundle not found, cannot rollback") ∧
    (∀ (host : FsHost Bytes) (dir : BundleDir → Option (Files Bytes)),
      (∀ bundle, KeepsCurrent dir (stageCandidate host bundle)) ∧
        (KeepsCurrent dir (commitCandidate host) ↔ CleanupHarmless host dir)) := by
  constructor
  · intro dir earlier later bundle
    rw [Component.run_append, Component.run_cons]
    have gone : ((bundleRuns dir).step ((bundleRuns dir).run (bundleRuns dir).initial
        earlier).2 (.activate bundle)).2.dir .rollback = none := by
      obtain ⟨final, ran, -, noRollback, -⟩ := activateBundle_sound bundle
        ((bundleRuns dir).run (bundleRuns dir).initial earlier).2
      simp only [bundleRuns] at ran ⊢
      rw [ran]
      exact noRollback
    have stillGone := rollback_none_run dir _ later gone
    simp only
    rw [rollback, stillGone]
    rfl
  · intro host dir
    exact ⟨stageCandidate_keepsCurrent host dir, commitCandidate_keepsCurrent_iff host dir⟩

/-- Of two bundles that were activated the first one cannot be restored. -/
theorem second_activation_not_rolled_back :
    ((bundleRuns fun _ => none).run (bundleRuns fun _ => none).initial
      [.activate fun path => if path = ["policy.wasm"] then some 1 else none,
        .activate fun path => if path = ["policy.wasm"] then some 2 else none,
        BundleOp.rollback]).1 =
      [.ok (), .ok (), .error "rollback bundle not found, cannot rollback"] := by
  rfl

end Rollback

end AutoLoop.Security.PolicyHost
