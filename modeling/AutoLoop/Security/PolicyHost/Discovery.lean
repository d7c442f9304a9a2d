import AutoLoop.Foundation.Text
import AutoLoop.Security.PolicyHost.Bundle

/-!
# Policy discovery

`PolicyDiscoveryService::poll_once`.  A downloaded bundle is made current before the
canary looks at it, and afterwards either promoted or replaced by what was current.
-/

namespace AutoLoop.Security.PolicyHost

open Effect Effect FsHost

variable {Bytes : Type}

structure PolicyVersion where
  id : String
  revision : UInt64
  deriving DecidableEq, Repr

structure LoadedPolicyBundle (Bytes : Type) where
  policyVersion : PolicyVersion
  files : Files Bytes

structure PolicyBundleVerifyResult where
  verified : Bool
  bundleHash : String
  signatureDigest : Option String
  reasons : List String
  deriving DecidableEq, Repr

structure PolicyDiscoveryState where
  etag : Option String
  consecutiveFailures : UInt32
  lastCheckedAtMs : UInt64
  lastStableVersion : Option PolicyVersion
  lastError : Option String
  deriving DecidableEq, Repr

def PolicyDiscoveryState.default : PolicyDiscoveryState := ⟨none, 0, 0, none, none⟩

structure CanaryAssessment where
  passed : Bool
  reason : String
  deriving DecidableEq, Repr

inductive DiscoveryPollOutcome where
  | noChange
  | activated (etag : Option String) (policyVersion : PolicyVersion)
      (verify : PolicyBundleVerifyResult)
  | rejected (etag : Option String) (reasons : List String)
      (verify : Option PolicyBundleVerifyResult)
  | rolledBack (etag : Option String) (reason : String) (policyVersion : Option PolicyVersion)
  | fetchError (reason : String)
  deriving DecidableEq, Repr

/-- What the server does with a request. -/
inductive Response where
  | sendFailed (error : String)
  | received (status : Nat) (statusText : String) (etag : Option String)
      (body : Except String Unit)

/-- What one poll meets: the response, the bundle that is unpacked from it, and the
answers of the verifier and of the canary. -/
structure Poll (Bytes : Type) where
  response : Response
  loaded : Except String (LoadedPolicyBundle Bytes)
  verified : Except String PolicyBundleVerifyResult
  canary : Except String CanaryAssessment
  nowMs : UInt64

structure DiscoveryWorld (Bytes : Type) where
  root : BundleRoot Bytes
  state : PolicyDiscoveryState

namespace PolicyDiscoveryService

/-! ## Directories -/

section Directories

variable (host : FsHost Bytes)

/-- `copy_dir_all` of one of the directories. -/
def copyDir (site : FsSite) (source target : BundleDir) : Effect (BundleRoot Bytes) Unit :=
  fun root =>
    match root.dir source with
    | none => (.error "failed to list source dir", root)
    | some files => copyDirAll host site files target root

/-- Whether there is a backup to restore. -/
def snapshotCurrentToStableBackup : Effect (BundleRoot Bytes) Bool := fun root =>
  if (root.dir .current).isNone then (.ok false, root)
  else
    (do
      whenExists .stableBackup (removeDirAll host .clearBackup .stableBackup)
      copyDir host .copyBackup .current .stableBackup
      return true : Effect (BundleRoot Bytes) Bool) root

/-- The directory that is copied back; there may be none. -/
def restoredFrom (backup : Bool) (root : BundleRoot Bytes) : Option BundleDir :=
  if backup && (root.dir .stableBackup).isSome then some .stableBackup
  else if (root.dir .stable).isSome then some .stable
  else none

def restoreCopy (backup : Bool) : Effect (BundleRoot Bytes) Unit := fun root =>
  match restoredFrom backup root with
  | some source => copyDir host .copyRestored source .current root
  | none => (.error "rollback requested but no stable backup available", root)

def restoreFromStableBackup (backup : Bool) : Effect (BundleRoot Bytes) Unit := do
  whenExists .current (removeDirAll host .removeRejected .current)
  restoreCopy host backup

def promoteCurrentToStable : Effect (BundleRoot Bytes) Unit := fun root =>
  if (root.dir .current).isNone then (.error "cannot promote stable: current bundle missing", root)
  else
    (do
      whenExists .stable (removeDirAll host .clearStable .stable)
      copyDir host .copyStable .current .stable : Effect (BundleRoot Bytes) Unit) root

end Directories

/-! ## Polls -/

def recordSuccess (nowMs : UInt64) (etag : Option String) (stable : Option PolicyVersion) :
    Effect (DiscoveryWorld Bytes) Unit :=
  Effect.modify fun world => { world with
    state := {
      etag := etag.or world.state.etag
      consecutiveFailures := 0
      lastCheckedAtMs := nowMs
      lastStableVersion := stable.or world.state.lastStableVersion
      lastError := none } }

/-- `saturating_add(1)` on the failures. -/
def recordFailure (nowMs : UInt64) (reason : String) : Effect (DiscoveryWorld Bytes) Unit :=
  Effect.modify fun world => { world with
    state := { world.state with
      consecutiveFailures :=
        if world.state.consecutiveFailures.toNat + 1 < 2 ^ 32
        then world.state.consecutiveFailures + 1 else world.state.consecutiveFailures
      lastCheckedAtMs := nowMs
      lastError := some reason } }

def onRoot {α : Type} (action : Effect (BundleRoot Bytes) α) :
    Effect (DiscoveryWorld Bytes) α :=
  zoom (·.root) (fun root world => { world with root }) action

/-- The reason to go back, if the canary is asked and has one. -/
def assess (canaryEnabled : Bool) (canary : Except String CanaryAssessment) :
    Except String (Option String) :=
  if canaryEnabled then
    canary.map fun assessment =>
      if assessment.passed then none else some ("canary failed: " ++ assessment.reason)
  else .ok none

section
variable (host : FsHost Bytes)

/-- After the bundle is current: promote it, or go back. -/
def conclude (poll : Poll Bytes) (etag : Option String)
    (bundle : LoadedPolicyBundle Bytes) (verify : PolicyBundleVerifyResult)
    (previousStable : Bool) (rejected : Option String) :
    Effect (DiscoveryWorld Bytes) DiscoveryPollOutcome :=
  match rejected with
  | some rollbackReason => do
      onRoot (restoreFromStableBackup host previousStable)
      recordFailure poll.nowMs rollbackReason
      return .rolledBack etag rollbackReason (some bundle.policyVersion)
  | none => do
      onRoot (promoteCurrentToStable host)
      recordSuccess poll.nowMs etag (some bundle.policyVersion)
      return .activated etag bundle.policyVersion verify

section
variable (canaryEnabled : Bool) (poll : Poll Bytes) (etag : Option String)

def install (bundle : LoadedPolicyBundle Bytes) (verify : PolicyBundleVerifyResult) :
    Effect (DiscoveryWorld Bytes) DiscoveryPollOutcome := do
  let previousStable ← onRoot (snapshotCurrentToStableBackup host)
  onRoot (BundleActivationManager.activateBundle host bundle.files)
  let rejected ← ofExcept (assess canaryEnabled poll.canary)
  conclude host poll etag bundle verify previousStable rejected

/-- A bundle that was unpacked. -/
def admitLoaded (bundle : LoadedPolicyBundle Bytes) :
    Effect (DiscoveryWorld Bytes) DiscoveryPollOutcome := do
  let verify ← ofExcept poll.verified
  if verify.verified then install host canaryEnabled poll etag bundle verify
  else do
    recordFailure poll.nowMs
      ("bundle verification failed: " ++ String.intercalate "; " verify.reasons)
    return .rejected etag verify.reasons (some verify)

/-- A response with a bundle in it. -/
def receive (body : Except String Unit) :
    Effect (DiscoveryWorld Bytes) DiscoveryPollOutcome := do
  ofExcept body
  onRoot (createRoot host .writeDownload)
  match poll.loaded with
  | .error error => do
      recordFailure poll.nowMs error
      return .rejected etag [error] none
  | .ok bundle => admitLoaded host canaryEnabled poll etag bundle

end

def pollOnce (canaryEnabled : Bool) (poll : Poll Bytes) :
    Effect (DiscoveryWorld Bytes) DiscoveryPollOutcome :=
  match poll.response with
  | .sendFailed error => do
      recordFailure poll.nowMs error
      return .fetchError error
  | .received status statusText etag body =>
    if status = 304 then do
      recordSuccess poll.nowMs none none
      return .noChange
    else if 200 ≤ status ∧ status < 300 then receive host canaryEnabled poll etag body
    else do
      recordFailure poll.nowMs ("discovery fetch failed: http " ++ statusText)
      return .fetchError ("discovery fetch failed: http " ++ statusText)

end

end PolicyDiscoveryService

/-! ## Runs -/

open PolicyDiscoveryService

/-- The service, the files of the bundle that was activated last (of the starting one if
there was none yet), and whether the last poll activated one or found no change. -/
structure DiscoveryRun (Bytes : Type) where
  world : DiscoveryWorld Bytes
  accepted : Option (Files Bytes)
  quiet : Bool

def DiscoveryPollOutcome.isQuiet : DiscoveryPollOutcome → Bool
  | .noChange => true
  | .activated .. => true
  | _ => false

def DiscoveryPollOutcome.isActivated : DiscoveryPollOutcome → Bool
  | .activated .. => true
  | _ => false

def Poll.acceptedAfter (poll : Poll Bytes) (accepted : Option (Files Bytes)) :
    Except String DiscoveryPollOutcome → Option (Files Bytes)
  | .ok outcome =>
    if outcome.isActivated then poll.loaded.toOption.map (·.files) else accepted
  | .error _ => accepted

/-- Polls one after another, from some directories on; no step on the file system
fails. -/
def discoveryRuns (canaryEnabled : Bool) (dir : BundleDir → Option (Files Bytes)) :
    Component (DiscoveryRun Bytes) (Poll Bytes) (Except String DiscoveryPollOutcome) where
  initial := ⟨⟨.of dir, .default⟩, dir .current, true⟩
  step run poll :=
    let ran := pollOnce .sound canaryEnabled poll run.world
    (ran.1, {
      world := ran.2
      accepted := poll.acceptedAfter run.accepted ran.1
      quiet := (ran.1.toOption.map (·.isQuiet)).getD false })

namespace DiscoveryRun

variable (run : DiscoveryRun Bytes)

def failures : UInt32 := run.world.state.consecutiveFailures

structure Settled : Prop where
  current : run.world.root.dir .current = run.accepted
  stable : run.world.root.dir .stable = run.world.root.dir .current
  counted : run.failures = 0 ↔ run.quiet = true

/-- No way out of the poll leaves the bundle or the count of failures as they should not
be. -/
def WellEnded (canaryEnabled : Bool) (poll : Poll Bytes) : Prop :=
  match poll.response with
  | .sendFailed _ => True
  | .received status _ _ body =>
    if status = 304 then True
    else if 200 ≤ status ∧ status < 300 then
      match body, poll.loaded with
      | .error _, _ => run.failures ≠ 0
      | .ok (), .error _ => True
      | .ok (), .ok bundle =>
        match poll.verified with
        | .error _ => run.failures ≠ 0
        | .ok verify =>
          if verify.verified then
            match assess canaryEnabled poll.canary with
            | .error _ =>
              run.failures ≠ 0 ∧ run.world.root.dir .current = some bundle.files
            | .ok (some _) => run.world.root.dir .current ≠ none ∨ run.failures ≠ 0
            | .ok none => True
          else True
    else True

end DiscoveryRun

/-! ## Directories of a poll -/

section Directories

variable {root : BundleRoot Bytes}

theorem snapshot_sound (root : BundleRoot Bytes) :
    ∃ final, snapshotCurrentToStableBackup .sound root =
        (.ok (root.dir .current).isSome, final) ∧
      final.dir .current = root.dir .current ∧ final.dir .stable = root.dir .stable ∧
      ((root.dir .current).isSome = true → final.dir .stableBackup = root.dir .current) := by
  cases hasCurrent : root.dir .current with
  | none => simp [snapshotCurrentToStableBackup, hasCurrent]
  | some files =>
    cases hasBackup : root.dir .stableBackup with
    | none =>
      simp [snapshotCurrentToStableBackup, whenExists, copyDir, copyDirAll, sound,
        bind_apply, hasCurrent, hasBackup]
    | some old =>
      simp [snapshotCurrentToStableBackup, whenExists, removeDirAll, copyDir, copyDirAll,
        sound, bind_apply, hasCurrent, hasBackup]

theorem restore_sound {files : Files Bytes} (hasBackup : root.dir .stableBackup = some files) :
    ∃ final, restoreFromStableBackup .sound true root = (.ok (), final) ∧
      final.dir .current = some files ∧ final.dir .stable = root.dir .stable := by
  cases hasCurrent : root.dir .current with
  | none =>
    simp [restoreFromStableBackup, restoreCopy, restoredFrom, whenExists, copyDir, copyDirAll,
      sound, bind_apply, hasCurrent, hasBackup]
  | some old =>
    simp [restoreFromStableBackup, restoreCopy, restoredFrom, whenExists, removeDirAll,
      copyDir, copyDirAll, sound, bind_apply, hasCurrent, hasBackup]

theorem restore_without (noStable : root.dir .stable = none) :
    ∃ message final, restoreFromStableBackup .sound false root = (.error message, final) ∧
      final.dir .current = none ∧ final.dir .stable = none := by
  cases hasCurrent : root.dir .current with
  | none =>
    simp [restoreFromStableBackup, restoreCopy, restoredFrom, whenExists, bind_apply,
      hasCurrent, noStable]
  | some old =>
    simp [restoreFromStableBackup, restoreCopy, restoredFrom, whenExists, removeDirAll,
      sound, bind_apply, hasCurrent, noStable]

theorem promote_sound {files : Files Bytes} (hasCurrent : root.dir .current = some files) :
    ∃ final, promoteCurrentToStable .sound root = (.ok (), final) ∧
      final.dir .current = some files ∧ final.dir .stable = some files := by
  cases hasStable : root.dir .stable with
  | none =>
    simp [promoteCurrentToStable, whenExists, copyDir, copyDirAll, sound,
      bind_apply, hasCurrent, hasStable]
  | some old =>
    simp [promoteCurrentToStable, whenExists, removeDirAll, copyDir, copyDirAll, sound,
      bind_apply, hasCurrent, hasStable]

end Directories

/-! ## Steps -/

def countedFailure (failures : UInt32) : UInt32 :=
  if failures.toNat + 1 < 2 ^ 32 then failures + 1 else failures

theorem countedFailure_ne_zero (failures : UInt32) : countedFailure failures ≠ 0 := by
  intro isZero
  have asNat := congrArg UInt32.toNat isZero
  rw [countedFailure] at asNat
  split at asNat
  · next fits =>
    rw [UInt32.toNat_add, Nat.mod_eq_of_lt (by simpa using fits)] at asNat
    simp at asNat
  · next full =>
    simp only [UInt32.toNat_zero] at asNat
    omega

theorem recordFailure_apply (nowMs : UInt64) (reason : String) (world : DiscoveryWorld Bytes) :
    ∃ state : PolicyDiscoveryState,
      recordFailure nowMs reason world = (.ok (), ⟨world.root, state⟩) ∧
        state.consecutiveFailures = countedFailure world.state.consecutiveFailures :=
  ⟨_, rfl, rfl⟩

theorem recordSuccess_apply (nowMs : UInt64) (etag : Option String)
    (stable : Option PolicyVersion) (world : DiscoveryWorld Bytes) :
    ∃ state : PolicyDiscoveryState,
      recordSuccess nowMs etag stable world = (.ok (), ⟨world.root, state⟩) ∧
        state.consecutiveFailures = 0 :=
  ⟨_, rfl, rfl⟩

theorem onRoot_of {α : Type} {action : Effect (BundleRoot Bytes) α} {answer : Except String α}
    {world : DiscoveryWorld Bytes} {final : BundleRoot Bytes}
    (ran : action world.root = (answer, final)) :
    onRoot action world = (answer, ⟨final, world.state⟩) := by
  rw [onRoot, zoom_apply, ran]

namespace DiscoveryRun

variable {run : DiscoveryRun Bytes} {poll : Poll Bytes}

def ended (run : DiscoveryRun Bytes) (poll : Poll Bytes)
    (answer : Except String DiscoveryPollOutcome) (world : DiscoveryWorld Bytes) :
    DiscoveryRun Bytes where
  world
  accepted := poll.acceptedAfter run.accepted answer
  quiet := (answer.toOption.map (·.isQuiet)).getD false

theorem Settled.ended_failure (settled : run.Settled) {outcome : DiscoveryPollOutcome}
    (notQuiet : outcome.isQuiet = false) (notActivated : outcome.isActivated = false)
    {world : DiscoveryWorld Bytes}
    (current : world.root.dir .current = run.world.root.dir .current)
    (stable : world.root.dir .stable = run.world.root.dir .stable)
    (counted : world.state.consecutiveFailures =
      countedFailure run.world.state.consecutiveFailures) :
    (run.ended poll (.ok outcome) world).Settled where
  current := by
    simp only [ended, Poll.acceptedAfter, notActivated, current, settled.current]
    rfl
  stable := by
    simp only [ended, stable, current, settled.stable]
  counted := by
    simp [ended, failures, counted, countedFailure_ne_zero, Except.toOption, notQuiet]

theorem Settled.ended_error_iff (settled : run.Settled) (message : String)
    {world : DiscoveryWorld Bytes} (stable : world.root.dir .stable = run.world.root.dir .stable)
    (counted : world.state.consecutiveFailures = run.world.state.consecutiveFailures) :
    (run.ended poll (.error message) world).Settled ↔
      run.failures ≠ 0 ∧ world.root.dir .current = run.world.root.dir .current := by
  constructor
  · intro after
    constructor
    · intro isZero
      have quiet := after.counted.mp (counted.trans isZero)
      cases quiet
    · exact after.current.trans settled.current.symm
  · intro kept
    obtain ⟨some, current⟩ := kept
    constructor
    · exact current.trans settled.current
    · exact stable.trans (settled.stable.trans current.symm)
    · constructor
      · intro isZero
        exact absurd (counted.symm.trans isZero) some
      · nofun

end DiscoveryRun

theorem install_settled_iff (canaryEnabled : Bool) (run : DiscoveryRun Bytes) (poll : Poll Bytes)
    (settled : run.Settled) (etag : Option String) {bundle : LoadedPolicyBundle Bytes}
    (loaded : poll.loaded = .ok bundle) (verify : PolicyBundleVerifyResult) :
    (run.ended poll (install .sound canaryEnabled poll etag bundle verify run.world).1
        (install .sound canaryEnabled poll etag bundle verify run.world).2).Settled ↔
      match assess canaryEnabled poll.canary with
      | .error _ => run.failures ≠ 0 ∧ run.world.root.dir .current = some bundle.files
      | .ok (some _) => run.world.root.dir .current ≠ none ∨ run.failures ≠ 0
      | .ok none => True := by
  obtain ⟨saved, ranSnapshot, savedCurrent, savedStable, hasBackup⟩ :=
    snapshot_sound run.world.root
  obtain ⟨active, ranActivate, activeCurrent, -, -, activeStable, activeBackup⟩ :=
    activateBundle_sound bundle.files saved
  have prepared : install .sound canaryEnabled poll etag bundle verify run.world =
      (ofExcept (assess canaryEnabled poll.canary) >>=
        conclude .sound poll etag bundle verify (run.world.root.dir .current).isSome)
        ⟨active, run.world.state⟩ := by
    rw [install, bind_of_ok (onRoot_of ranSnapshot), bind_of_ok (onRoot_of ranActivate)]
  rw [prepared]
  cases assessed : assess canaryEnabled poll.canary with
  | error message =>
    have stable : active.dir .stable = run.world.root.dir .stable :=
      activeStable.trans savedStable
    have exact : (run.ended poll (.error message) ⟨active, run.world.state⟩).Settled ↔ _ :=
      settled.ended_error_iff message stable rfl
    rw [activeCurrent] at exact
    simp only
    rw [eq_comm (b := some bundle.files)]
    exact exact
  | ok rejected =>
    cases rejected with
    | none =>
      obtain ⟨promoted, ranPromote, current, stable⟩ := promote_sound activeCurrent
      obtain ⟨state, ranRecord, counted⟩ := recordSuccess_apply poll.nowMs etag
        (some bundle.policyVersion) (⟨promoted, run.world.state⟩ : DiscoveryWorld Bytes)
      have ran : (ofExcept (.ok none) >>= conclude .sound poll etag bundle verify
          (run.world.root.dir .current).isSome) ⟨active, run.world.state⟩ =
            (.ok (.activated etag bundle.policyVersion verify), ⟨promoted, state⟩) := by
        rw [bind_of_ok (ofExcept_apply _ _), conclude,
          bind_of_ok (onRoot_of ranPromote), bind_of_ok ranRecord]
        rfl
      rw [ran]
      apply iff_of_true ?_ trivial
      constructor
      · simp [DiscoveryRun.ended, Poll.acceptedAfter, loaded, current,
          DiscoveryPollOutcome.isActivated, Except.toOption]
      · exact stable.trans current.symm
      · exact iff_of_true counted rfl
    | some rollbackReason =>
      cases hadCurrent : run.world.root.dir .current with
      | some old =>
        have backup : active.dir .stableBackup = some old := by
          rw [activeBackup, hasBackup (by rw [hadCurrent]; rfl), hadCurrent]
        obtain ⟨restored, ranRestore, current, stable⟩ := restore_sound backup
        obtain ⟨state, ranRecord, counted⟩ := recordFailure_apply poll.nowMs
          rollbackReason (⟨restored, run.world.state⟩ : DiscoveryWorld Bytes)
        have ran : (ofExcept (.ok (some rollbackReason)) >>=
            conclude .sound poll etag bundle verify true) ⟨active, run.world.state⟩ =
              (.ok (.rolledBack etag rollbackReason (some bundle.policyVersion)),
                ⟨restored, state⟩) := by
          rw [bind_of_ok (ofExcept_apply _ _), conclude,
            bind_of_ok (onRoot_of ranRestore), bind_of_ok ranRecord]
          rfl
        simp only [Option.isSome_some]
        rw [ran]
        apply iff_of_true ?_ (Or.inl (Option.some_ne_none old))
        exact settled.ended_failure rfl rfl (current.trans hadCurrent.symm)
          (stable.trans (activeStable.trans savedStable)) counted
      | none =>
        have noStable : active.dir .stable = none := by
          rw [activeStable, savedStable, settled.stable, hadCurrent]
        obtain ⟨message, removed, ranRestore, current, stable⟩ :=
          restore_without noStable
        have ran : (ofExcept (.ok (some rollbackReason)) >>=
            conclude .sound poll etag bundle verify false) ⟨active, run.world.state⟩ =
              (.error message, ⟨removed, run.world.state⟩) := by
          rw [bind_of_ok (ofExcept_apply _ _), conclude, bind_of_error (onRoot_of ranRestore)]
        simp only [Option.isSome_none]
        rw [ran]
        have exact : (run.ended poll (.error message) ⟨removed, run.world.state⟩).Settled ↔ _ :=
          settled.ended_error_iff message
            (stable.trans (settled.stable.trans hadCurrent).symm) rfl
        rw [exact, current, hadCurrent]
        simp

theorem settled_step_iff (canaryEnabled : Bool) (dir : BundleDir → Option (Files Bytes))
    (run : DiscoveryRun Bytes) (poll : Poll Bytes) (settled : run.Settled) :
    ((discoveryRuns canaryEnabled dir).step run poll).2.Settled ↔
      run.WellEnded canaryEnabled poll := by
  change (run.ended poll (pollOnce .sound canaryEnabled poll run.world).1
    (pollOnce .sound canaryEnabled poll run.world).2).Settled ↔ _
  rw [DiscoveryRun.WellEnded, pollOnce]
  cases answered : poll.response with
  | sendFailed error =>
    apply iff_of_true ?_ trivial
    exact settled.ended_failure rfl rfl rfl rfl rfl
  | received status statusText etag body =>
    simp only
    by_cases notModified : status = 304
    · rw [if_pos notModified, if_pos notModified]
      apply iff_of_true ?_ trivial
      constructor
      · exact settled.current
      · exact settled.stable
      · exact iff_of_true rfl rfl
    rw [if_neg notModified, if_neg notModified]
    by_cases success : 200 ≤ status ∧ status < 300
    swap
    · rw [if_neg success, if_neg success]
      apply iff_of_true ?_ trivial
      exact settled.ended_failure rfl rfl rfl rfl rfl
    rw [if_pos success, if_pos success, receive]
    cases body with
    | error message =>
      have exact : (run.ended poll (.error message) run.world).Settled ↔ _ :=
        settled.ended_error_iff message rfl rfl
      exact exact.trans (and_iff_left rfl)
    | ok read =>
      cases loaded : poll.loaded with
      | error message =>
        apply iff_of_true ?_ trivial
        exact settled.ended_failure rfl rfl rfl rfl rfl
      | ok bundle =>
        change (run.ended poll (admitLoaded .sound canaryEnabled poll etag bundle run.world).1
          (admitLoaded .sound canaryEnabled poll etag bundle run.world).2).Settled ↔ _
        simp only
        rw [admitLoaded]
        cases checked : poll.verified with
        | error message =>
          have exact : (run.ended poll (.error message) run.world).Settled ↔ _ :=
            settled.ended_error_iff message rfl rfl
          exact exact.trans (and_iff_left rfl)
        | ok verify =>
          rw [bind_of_ok (ofExcept_apply _ _)]
          simp only
          by_cases verified : verify.verified = true
          · rw [if_pos verified, if_pos verified]
            exact install_settled_iff canaryEnabled run poll settled etag loaded verify
          · rw [if_neg verified, if_neg verified]
            apply iff_of_true ?_ trivial
            exact settled.ended_failure rfl rfl rfl rfl rfl

/-- From directories in which the current bundle is the stable one, the accepted bundle
is current and stable after every poll, and the failures are counted, exactly when every
poll ends well. -/
theorem discovery_settled_iff (canaryEnabled : Bool)
    (dir : BundleDir → Option (Files Bytes)) (polls : List (Poll Bytes)) :
    (discoveryRuns canaryEnabled dir).Always (·.Settled)
        (discoveryRuns canaryEnabled dir).initial polls ↔
      dir .stable = dir .current ∧
        (discoveryRuns canaryEnabled dir).EachStep
          (fun run poll => run.WellEnded canaryEnabled poll)
          (discoveryRuns canaryEnabled dir).initial polls := by
  have step : ∀ run poll, run.Settled → True →
      (((discoveryRuns canaryEnabled dir).step run poll).2.Settled ↔
        run.WellEnded canaryEnabled poll) :=
    fun run poll settled _ => settled_step_iff canaryEnabled dir run poll settled
  have assumed : (discoveryRuns canaryEnabled dir).EachStep (fun _ _ => True)
      (discoveryRuns canaryEnabled dir).initial polls := .of_forall (fun _ _ => trivial) _ _
  constructor
  · intro always
    have started := always.head
    exact ⟨started.stable, (Component.always_iff_eachStep step started assumed).mp always⟩
  · intro conditions
    obtain ⟨same, each⟩ := conditions
    have started : (discoveryRuns canaryEnabled dir).initial.Settled :=
      ⟨rfl, same, iff_of_true rfl rfl⟩
    exact (Component.always_iff_eachStep step started assumed).mpr each

/-- The answer of a server with a bundle, and a canary that cannot be asked. -/
def unansweredCanary : Poll Nat where
  response := .received 200 "200 OK" none (.ok ())
  loaded := .ok ⟨⟨"v", 1⟩, fun path => if path = ["policy.wasm"] then some 1 else none⟩
  verified := .ok ⟨true, "hash", none, []⟩
  canary := .error "canary unreachable"
  nowMs := 7

/-- A bundle whose canary cannot be asked stays current although it was not accepted. -/
theorem unassessed_bundle_current :
    let ran := (discoveryRuns true fun _ => none).step
      (discoveryRuns true fun _ => none).initial unansweredCanary
    ran.1 = .error "canary unreachable" ∧ ran.2.accepted = none ∧
      (ran.2.world.root.dir .current).isSome = true ∧ ran.2.failures = 0 := by
  exact ⟨rfl, rfl, rfl, rfl⟩

end AutoLoop.Security.PolicyHost
