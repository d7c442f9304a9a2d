import AutoLoop.OrgKernel.Coordinator

/-!
# What leases confine

The manager compares paths as text.  A write that it accepts is confined to the lease
exactly when the comparison of the resolved spellings, over the writable paths that are
not blank and the readonly ones, agrees.
-/

namespace AutoLoop.OrgKernel

open BranchLeaseManager Effect Path

/-- Where a path of a lease or of a write lies. -/
def located (directory : Directory) (path : String) : Path :=
  resolve directory (foldSlashes (Text.trim path))

namespace WorkPackageLease

variable (lease : WorkPackageLease) (directory : Directory)

def Confines (place : Path) (nowMs : UInt64) : Prop :=
  nowMs ≤ lease.branchLease.expiresAtMs ∧
    (∃ path ∈ lease.branchLease.writablePaths, Text.trim path ≠ "" ∧
      located directory path <+: place) ∧
    ∀ path ∈ lease.branchLease.readonlyPaths, ¬located directory path <+: place

instance decidableConfines (place : Path) (nowMs : UInt64) :
    Decidable (lease.Confines directory place nowMs) :=
  inferInstanceAs (Decidable (_ ∧ _ ∧ _))

def spelledIn (paths : List String) (place : Path) : Bool :=
  paths.any fun path =>
    pathWithinPrefix (spell place) (spell (located directory path))

def coversResolved (place : Path) : Bool :=
  spelledIn directory (lease.branchLease.writablePaths.filter (Text.trim · ≠ "")) place &&
    !spelledIn directory lease.branchLease.readonlyPaths place

def Obeyed (writePath : String) (place : Path) (nowMs : UInt64) : Prop :=
  lease.branchLease.expiresAtMs < nowMs ∨ covered lease writePath = false ∨
    lease.coversResolved directory place = true

end WorkPackageLease

variable {lease : WorkPackageLease} {directory : Directory} {writePath : String}
variable {place : Path} {nowMs : UInt64}

def refuses (directory : Directory) (target : LeaseBoundPath) (content : String)
    (files : FileSystem String) : Prop :=
  (writeFile directory target.asStr content files).1 ≠ .ok ()

theorem workerWriteAllowed_eq_ok :
    workerWriteAllowed lease writePath nowMs = .ok () ↔
      nowMs ≤ lease.branchLease.expiresAtMs ∧ covered lease writePath = true := by
  simp [workerWriteAllowed]

theorem gateWorkerWrite_eq_allow :
    (gateWorkerWrite (some lease) writePath nowMs).decision = .allow ↔
      workerWriteAllowed lease writePath nowMs = .ok () := by
  rw [gateWorkerWrite]
  cases workerWriteAllowed lease writePath nowMs with
  | ok value => simp
  | error message => simp

theorem spelledIn_iff {paths : List String} (names : ∀ name ∈ place, IsName name) :
    WorkPackageLease.spelledIn directory paths place = true ↔
      ∃ path ∈ paths, located directory path <+: place := by
  rw [WorkPackageLease.spelledIn, List.any_eq_true]
  apply exists_congr
  intro path
  apply and_congr_right
  intro _
  exact goesOn_spell_iff names (isName_resolve directory _)

theorem coversResolved_iff (names : ∀ name ∈ place, IsName name) :
    lease.coversResolved directory place = true ↔
      (∃ path ∈ lease.branchLease.writablePaths, Text.trim path ≠ "" ∧
        located directory path <+: place) ∧
      ∀ path ∈ lease.branchLease.readonlyPaths, ¬located directory path <+: place := by
  rw [WorkPackageLease.coversResolved, Bool.and_eq_true, Bool.not_eq_true',
    Bool.eq_false_iff, ne_eq, spelledIn_iff names, spelledIn_iff names]
  apply and_congr
  · simp only [List.mem_filter, decide_eq_true_eq, and_assoc]
  · push_neg
    rfl

theorem confines_iff_obeyed (names : ∀ name ∈ place, IsName name) :
    (workerWriteAllowed lease writePath nowMs = .ok () → lease.Confines directory place nowMs) ↔
      lease.Obeyed directory writePath place nowMs := by
  rw [workerWriteAllowed_eq_ok, WorkPackageLease.Confines, WorkPackageLease.Obeyed,
    coversResolved_iff names, ← UInt64.not_le, ← Bool.not_eq_true]
  constructor
  · intro confined
    by_cases inTime : nowMs ≤ lease.branchLease.expiresAtMs
    · by_cases isCovered : covered lease writePath = true
      · exact Or.inr (Or.inr (confined ⟨inTime, isCovered⟩).2)
      · exact Or.inr (Or.inl isCovered)
    · exact Or.inl inTime
  · intro obeyed accepted
    cases obeyed with
    | inl expired => exact absurd accepted.1 expired
    | inr others =>
      cases others with
      | inl uncovered => exact absurd accepted.2 uncovered
      | inr inside => exact ⟨accepted.1, inside⟩

theorem writeWorkerFile_eq_ok {target : LeaseBoundPath} {content : String}
    {files : FileSystem String} :
    (∃ proof later, writeWorkerFileWithLease directory (some lease) target content nowMs
        files = (.ok proof, later)) ↔
      workerWriteAllowed lease target.asStr nowMs = .ok () ∧
        ¬refuses directory target content files := by
  constructor
  · intro accepted
    cases accepted with
    | intro proof accepted =>
      cases accepted with
      | intro later ran =>
        obtain ⟨bound, middle, isPresent, rest⟩ := bind_eq_ok.mp ran
        obtain ⟨value, other, allowed, rest⟩ := bind_eq_ok.mp rest
        obtain ⟨done, final, wrote, -⟩ := bind_eq_ok.mp rest
        cases isPresent
        rw [ofExcept_apply, Prod.mk.injEq] at allowed
        rw [← allowed.2] at wrote
        rw [refuses, wrote]
        exact ⟨allowed.1, not_not.mpr rfl⟩
  · intro accepted
    obtain ⟨final, wrote⟩ := exists_run (not_not.mp accepted.2)
    refine ⟨leaseWriteProof lease target content nowMs, final, ?_⟩
    refine bind_eq_ok.mpr ⟨lease, files, rfl, ?_⟩
    refine bind_eq_ok.mpr ⟨(), files, ?_, ?_⟩
    · rw [ofExcept_apply, accepted.1]
    · exact bind_eq_ok.mpr ⟨(), final, wrote, rfl⟩

/-- A plan with one package, which owns `src` and may only read what is generated. -/
def generatorPlan : ExecutionPlan where
  planId := "plan"
  workPackages := [{ taskNodeId := "task", ownedPaths := ["src"], readOnlyPaths := ["src/gen"] }]
  fileOwnership _ := none
  integrationPlanRef := "code/integration/plan"

end AutoLoop.OrgKernel
