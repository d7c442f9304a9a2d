import AutoLoop.Foundation.Check
import AutoLoop.Foundation.Effect
import AutoLoop.Foundation.PathText
import AutoLoop.Foundation.Word
import Mathlib.Data.List.DropRight

/-!
# Work package leases

The coordinator issues a lease on the paths of a work package, and the lease manager
checks the path of every worker write against it.
-/

namespace AutoLoop.OrgKernel

open Check

structure WorkPackage where
  taskNodeId : String
  ownedPaths : List String
  readOnlyPaths : List String
  deriving DecidableEq, Repr

/-- The parts of a plan that leases depend on. -/
structure ExecutionPlan where
  planId : String
  workPackages : List WorkPackage
  fileOwnership : String → Option String
  integrationPlanRef : String

structure BranchLease where
  apiVersion : String
  branchName : String
  agentId : String
  writablePaths : List String
  readonlyPaths : List String
  expiresAtMs : UInt64
  tokenBudget : UInt64
  evidenceRef : String
  deriving DecidableEq, Repr

structure WorkPackageLease where
  taskNodeId : String
  workerId : String
  branchLease : BranchLease
  integrationBranch : String
  deriving DecidableEq, Repr

inductive LeaseGateDecision where
  | allow
  | block
  deriving DecidableEq, Repr

structure LeaseGateOutcome where
  decision : LeaseGateDecision
  reason : String
  evidenceRef : String
  deriving DecidableEq, Repr

structure LeaseWriteProof where
  taskNodeId : String
  workerId : String
  writePath : String
  bytesWritten : Nat
  evidenceRef : String
  deriving DecidableEq, Repr

structure LeaseBoundPath where
  asStr : String
  deriving DecidableEq, Repr

/-! ## Paths -/

/-- `value.replace('\\', "/")`. -/
def foldSlashes (value : String) : String :=
  String.ofList (value.toList.map fun char => if char = '\\' then '/' else char)

/-- `value.trim_end_matches('/')`. -/
def trimEndSlashes (value : String) : String :=
  String.ofList (value.toList.rdropWhile (· = '/'))

def normalizePath (value : String) : String :=
  trimEndSlashes (foldSlashes (Text.trim value))

def pathWithinPrefix (path start : String) : Bool := Path.goesOn path start

/-! ## Issuing -/

namespace Coordinator

def repeated (seen : List String) : List String → Option String
  | [] => none
  | node :: rest => if node ∈ seen then some node else repeated (node :: seen) rest

def ensureSingleGlobalPlan (plan : ExecutionPlan) : Except String Unit := do
  require (Text.trim plan.planId ≠ "") "coordinator requires non-empty global plan id"
  require (plan.workPackages ≠ []) "coordinator requires non-empty work_packages"
  match repeated [] (plan.workPackages.map (·.taskNodeId)) with
  | some node =>
    .error ("coordinator rejects duplicated task_node_id in global plan: " ++ node)
  | none => return ()

def foreignPath (plan : ExecutionPlan) (workerId path : String) : Option (String × String) :=
  match plan.fileOwnership path with
  | some owner => if Text.trim owner ≠ "" ∧ owner ≠ workerId then some (path, owner) else none
  | none => none

def issueWorkPackageLease (plan : ExecutionPlan) (workerId taskNodeId : String)
    (nowMs ttlMs : UInt64) (contractVersion : String) : Except String WorkPackageLease := do
  ensureSingleGlobalPlan plan
  require (Text.trim workerId ≠ "") "branch lease requires non-empty worker_id"
  let package ← present (plan.workPackages.find? (·.taskNodeId = taskNodeId))
    ("work package not found: " ++ taskNodeId)
  require (package.ownedPaths ≠ [])
    "work package owned_paths cannot be empty for lease issuance"
  match package.ownedPaths.findSome? (foreignPath plan workerId) with
  | some (path, owner) =>
    .error ("file ownership mismatch for " ++ path ++ ": expected owner " ++ owner ++
      ", got " ++ workerId)
  | none =>
    return {
      taskNodeId
      workerId
      branchLease := {
        apiVersion := contractVersion
        branchName := "code/agent-" ++
          String.ofList (workerId.toList.map fun char => if char = ':' then '_' else char) ++
          "/" ++ taskNodeId
        agentId := workerId
        writablePaths := package.ownedPaths
        readonlyPaths := package.readOnlyPaths
        expiresAtMs := saturatingAdd nowMs (max ttlMs 1)
        tokenBudget := 100000
        evidenceRef := "evidence:branch-lease:" ++ plan.planId ++ ":" ++ workerId ++ ":" ++
          taskNodeId }
      integrationBranch := plan.integrationPlanRef }

end Coordinator

/-! ## Checking -/

namespace BranchLeaseManager

section
variable (lease : WorkPackageLease) (writePath : String)

def covered : Bool :=
  lease.branchLease.writablePaths.any fun path =>
    pathWithinPrefix (normalizePath writePath) (normalizePath path)

def workerWriteAllowed (nowMs : UInt64) :
    Except String Unit := do
  require (nowMs ≤ lease.branchLease.expiresAtMs)
    ("branch lease expired for task " ++ lease.taskNodeId)
  require (covered lease writePath)
    ("worker write path not covered by branch lease: " ++ writePath)

end

section
variable (lease : Option WorkPackageLease) (writePath : String) (nowMs : UInt64)

def compileTimeGuardBindWorkerPath : Except String LeaseBoundPath := do
  let lease ← present lease "branch lease required for worker write"
  workerWriteAllowed lease writePath nowMs
  return ⟨normalizePath writePath⟩

def gateWorkerWrite :
    LeaseGateOutcome :=
  let (decision, reason, workerId, taskNodeId) :=
    match lease with
    | some bound =>
      match workerWriteAllowed bound writePath nowMs with
      | .ok () =>
        (LeaseGateDecision.allow, "lease_path_allowed", bound.workerId, bound.taskNodeId)
      | .error error =>
        (.block, "lease_path_blocked:" ++ error, bound.workerId, bound.taskNodeId)
    | none => (.block, "lease_missing", "unknown", "unknown")
  { decision, reason
    evidenceRef := "evidence:lease-gate:" ++ taskNodeId ++ ":" ++ workerId ++ ":" ++
      normalizePath writePath ++ ":" ++ nowMs.toNat.repr }

end

def fileCall (step : FileSystem String → Option (FileSystem String)) :
    Effect (FileSystem String) Unit := fun files =>
  match step files with
  | none => (.error "file system call failed", files)
  | some later => (.ok (), later)

/-- `fs::create_dir_all`, along the pieces of a path. -/
def createDirAll (place : Path) : List String → Effect (FileSystem String) Unit
  | [] => pure ()
  | piece :: rest => do
      fileCall (·.createDirAll (Path.follow place piece))
      createDirAll (Path.follow place piece) rest

/-- `fs::create_dir_all` of the parent and `fs::write`, from a working directory. -/
def writeFile (directory : Directory) (target : String) (content : String) :
    Effect (FileSystem String) Unit := do
  createDirAll (Path.base directory target) (Text.split '/' target).dropLast
  fileCall (·.write (Path.resolve directory target) content)

def leaseWriteProof (lease : WorkPackageLease) (target : LeaseBoundPath) (content : String)
    (nowMs : UInt64) : LeaseWriteProof where
  taskNodeId := lease.taskNodeId
  workerId := lease.workerId
  writePath := target.asStr
  bytesWritten := content.utf8ByteSize
  evidenceRef := "evidence:lease-write:" ++ lease.taskNodeId ++ ":" ++ lease.workerId ++
    ":" ++ target.asStr ++ ":" ++ nowMs.toNat.repr

def writeWorkerFileWithLease (directory : Directory) (lease : Option WorkPackageLease)
    (target : LeaseBoundPath) (content : String) (nowMs : UInt64) :
    Effect (FileSystem String) LeaseWriteProof := do
  let lease ← Effect.ofExcept (present lease "branch lease required for worker write")
  Effect.ofExcept (workerWriteAllowed lease target.asStr nowMs)
  writeFile directory target.asStr content
  return leaseWriteProof lease target content nowMs

end BranchLeaseManager

end AutoLoop.OrgKernel
