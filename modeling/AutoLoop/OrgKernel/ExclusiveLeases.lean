import AutoLoop.OrgKernel.Coordinator
import AutoLoop.OrgKernel.E2r

/-!
# The plan of a task tree

The planner makes one work package of every node, with a path of its own, and records the
node as the owner of that path.
-/

namespace AutoLoop.OrgKernel

/-- The part of a requirement that the plan takes its names from. -/
structure RequirementSpec where
  taskId : String
  deriving DecidableEq, Repr

/-- `collect` into a map: the last entry of a key stands. -/
def collectMap (entries : List (String × String)) (key : String) : Option String :=
  (entries.reverse.find? (·.1 = key)).map (·.2)

namespace GlobalPlanner

def artifactPath (nodeId : String) : String := "artifact/code/" ++ nodeId

def workPackage (node : ProjectTaskNode) : WorkPackage where
  taskNodeId := node.nodeId
  ownedPaths := [artifactPath node.nodeId]
  readOnlyPaths := ["context/"]

/-- The owner that the planner records for a work package. -/
def ownership (package : WorkPackage) : String × String :=
  (package.ownedPaths.head?.getD (artifactPath package.taskNodeId), package.taskNodeId)

def produceExecutionPlan (requirement : RequirementSpec) (tree : TaskTree)
    (evidenceRef : String) : Except String ExecutionPlan := do
  Check.require (Text.trim evidenceRef ≠ "") "global planner requires non-empty evidence_ref"
  let workPackages := tree.nodes.map workPackage
  return {
    planId := "execution-plan:" ++ requirement.taskId
    workPackages
    fileOwnership := collectMap (workPackages.map ownership)
    integrationPlanRef := "code/integration/" ++ requirement.taskId }

end GlobalPlanner

end AutoLoop.OrgKernel

/-!
## Exclusive leases

A lease is granted by the owners recorded for the paths as they are spelled, and covers
everything under the normalized paths.  Two packages whose paths lie within each other
stay apart only when one of them is contested or both have one recorded owner.
-/

namespace AutoLoop.OrgKernel

open Coordinator BranchLeaseManager Check List Text

namespace ExecutionPlan

variable (plan : ExecutionPlan)

section
variable (package : WorkPackage)

def owners : List String :=
  package.ownedPaths.filterMap plan.fileOwnership

/-- The owners that are not blank. -/
def namedOwners : List String :=
  (plan.owners package).filter (trim · ≠ "")

/-- Different owners are recorded for the paths of a package. -/
def Contested : Prop :=
  ∃ first ∈ plan.namedOwners package, ∃ second ∈ plan.namedOwners package, first ≠ second

end

def Overlapping (first second : WorkPackage) : Prop :=
  ∃ path ∈ first.ownedPaths, ∃ other ∈ second.ownedPaths,
    pathWithinPrefix (normalizePath path) (normalizePath other) = true ∨
      pathWithinPrefix (normalizePath other) (normalizePath path) = true

/-- Overlapping packages are contested or have one owner, and every recorded owner can
take the lease. -/
structure WellOwned : Prop where
  apart : ∀ first ∈ plan.workPackages, ∀ second ∈ plan.workPackages,
    first.taskNodeId ≠ second.taskNodeId → Overlapping first second →
      plan.Contested first ∨ plan.Contested second ∨
        ∃ owner ∈ plan.namedOwners first, owner ∈ plan.namedOwners second
  leasable : ∀ package ∈ plan.workPackages, ∀ owner ∈ plan.owners package,
    trim owner ≠ "" ∧ ¬plan.Contested package

def Granted (workerId taskNodeId : String) (lease : WorkPackageLease) : Prop :=
  ∃ nowMs ttlMs contractVersion,
    issueWorkPackageLease plan workerId taskNodeId nowMs ttlMs contractVersion = .ok lease

/-- No path is writable under leases of different workers on different packages, and the
recorded owners of a package get their leases. -/
structure Exclusive : Prop where
  unshared : ∀ worker other node otherNode lease otherLease, worker ≠ other →
    node ≠ otherNode → plan.Granted worker node lease → plan.Granted other otherNode otherLease →
      ∀ writePath nowMs, ¬(workerWriteAllowed lease writePath nowMs = .ok () ∧
        workerWriteAllowed otherLease writePath nowMs = .ok ())
  owned : ∀ package ∈ plan.workPackages, ∀ owner ∈ plan.owners package,
    ∀ nowMs ttlMs contractVersion, ∃ lease,
      issueWorkPackageLease plan owner package.taskNodeId nowMs ttlMs contractVersion = .ok lease

variable {plan} {package : WorkPackage} {workerId : String}

/-! ## Who gets a lease -/

def Leasable (plan : ExecutionPlan) (package : WorkPackage) (workerId : String) : Prop :=
  trim workerId ≠ "" ∧ package.ownedPaths ≠ [] ∧
    ∀ owner ∈ plan.namedOwners package, owner = workerId

theorem foreignPath_eq_none_iff {path : String} :
    foreignPath plan workerId path = none ↔
      ∀ owner, plan.fileOwnership path = some owner → trim owner ≠ "" → owner = workerId := by
  unfold foreignPath
  cases recorded : plan.fileOwnership path with
  | none => simp
  | some owner =>
    by_cases named : trim owner = ""
    · simp [named]
    · simp [named]

theorem findSome_foreignPath_eq_none_iff :
    package.ownedPaths.findSome? (foreignPath plan workerId) = none ↔
      ∀ owner ∈ plan.namedOwners package, owner = workerId := by
  rw [findSome?_eq_none_iff]
  simp only [foreignPath_eq_none_iff, namedOwners, owners, mem_filter, mem_filterMap,
    decide_eq_true_eq]
  constructor
  · intro unowned owner both
    obtain ⟨⟨path, isPath, recorded⟩, named⟩ := both
    exact unowned path isPath owner recorded named
  · intro allOwners path isPath owner recorded named
    exact allOwners owner ⟨⟨path, isPath, recorded⟩, named⟩

theorem mem_of_repeated_eq_none {nodes seen : List String}
    (unrepeated : repeated seen nodes = none) : nodes.Nodup ∧ ∀ node ∈ nodes, node ∉ seen := by
  induction nodes generalizing seen with
  | nil => simp
  | cons node rest ih =>
    by_cases isSeen : node ∈ seen
    · simp [repeated, isSeen] at unrepeated
    · simp only [repeated, isSeen, if_false] at unrepeated
      obtain ⟨distinct, fresh⟩ := ih unrepeated
      refine ⟨nodup_cons.mpr ⟨fun isRest => ?_, distinct⟩, ?_⟩
      · exact fresh node isRest mem_cons_self
      · intro later isLater
        cases mem_cons.mp isLater with
        | inl same => exact same ▸ isSeen
        | inr isRest => exact fun wasSeen => fresh later isRest (mem_cons_of_mem _ wasSeen)

section
variable (accepted : ensureSingleGlobalPlan plan = .ok ())
include accepted

theorem distinct_of_accepted :
    (plan.workPackages.map (·.taskNodeId)).Nodup := by
  simp only [ensureSingleGlobalPlan, bind_eq_ok, exists_unit] at accepted
  cases unrepeated : repeated [] (plan.workPackages.map (·.taskNodeId)) with
  | none => exact (mem_of_repeated_eq_none unrepeated).1
  | some node => simp [unrepeated] at accepted

theorem find_package (isPackage : package ∈ plan.workPackages) :
    plan.workPackages.find? (·.taskNodeId = package.taskNodeId) = some package := by
  have distinct := distinct_of_accepted accepted
  cases found : plan.workPackages.find? (·.taskNodeId = package.taskNodeId) with
  | none =>
    have absent := find?_eq_none.mp found package isPackage
    simp at absent
  | some other =>
    have sameNode := find?_some found
    simp only [decide_eq_true_eq] at sameNode
    rw [inj_on_of_nodup_map distinct (mem_of_find?_eq_some found) isPackage sameNode]

theorem granted_iff
    (isPackage : package ∈ plan.workPackages) {nowMs ttlMs : UInt64} {contractVersion : String} :
    (∃ lease, issueWorkPackageLease plan workerId package.taskNodeId nowMs ttlMs
        contractVersion = .ok lease) ↔ plan.Leasable package workerId := by
  simp only [issueWorkPackageLease, accepted, bind_eq_ok, exists_unit,
    require_eq_ok, present_eq_ok, find_package accepted isPackage, Option.some.injEq,
    Leasable, ← findSome_foreignPath_eq_none_iff]
  cases foreign : package.ownedPaths.findSome? (foreignPath plan workerId) with
  | none => simp [foreign, pure, Except.pure]
  | some found => simp [foreign]

end

theorem package_of_granted {taskNodeId : String} {lease : WorkPackageLease}
    (granted : plan.Granted workerId taskNodeId lease) :
    ∃ package ∈ plan.workPackages, package.taskNodeId = taskNodeId ∧
      plan.Leasable package workerId ∧ lease.branchLease.writablePaths = package.ownedPaths := by
  obtain ⟨nowMs, ttlMs, contractVersion, granted⟩ := granted
  have whole := granted
  simp only [issueWorkPackageLease, bind_eq_ok, exists_unit, require_eq_ok,
    present_eq_ok] at granted
  obtain ⟨accepted, worker, package, found, paths, granted⟩ := granted
  have isPackage := mem_of_find?_eq_some found
  have sameNode := find?_some found
  simp only [decide_eq_true_eq] at sameNode
  refine ⟨package, isPackage, sameNode, ?_, ?_⟩
  · exact (granted_iff accepted isPackage).mp ⟨lease, sameNode ▸ whole⟩
  · cases foreign : package.ownedPaths.findSome? (foreignPath plan workerId) with
    | none =>
      simp only [foreign, pure, Except.pure, Except.ok.injEq] at granted
      rw [← granted]
    | some found => simp [foreign] at granted

theorem Leasable.uncontested (leasable : plan.Leasable package workerId) :
    ¬plan.Contested package := by
  intro contested
  obtain ⟨first, isFirst, second, isSecond, differ⟩ := contested
  exact differ ((leasable.2.2 first isFirst).trans (leasable.2.2 second isSecond).symm)

theorem writablePaths_of_granted (accepted : ensureSingleGlobalPlan plan = .ok ())
    (isPackage : package ∈ plan.workPackages) {lease : WorkPackageLease}
    (granted : plan.Granted workerId package.taskNodeId lease) :
    lease.branchLease.writablePaths = package.ownedPaths := by
  obtain ⟨same, isSame, sameNode, -, paths⟩ := package_of_granted granted
  have found := find_package accepted isSame
  rw [sameNode, find_package accepted isPackage, Option.some.injEq] at found
  rw [paths, found]

/-! ## What leases share -/

theorem goesOn_iff {text start : String} :
    Path.goesOn text start = true ↔ text = start ∨ start.toList ++ ['/'] <+: text.toList := by
  simp [Path.goesOn]

theorem within_of_common {text first second : String}
    (goesFirst : Path.goesOn text first = true) (goesSecond : Path.goesOn text second = true) :
    Path.goesOn first second = true ∨ Path.goesOn second first = true := by
  rw [goesOn_iff] at goesFirst goesSecond
  cases goesFirst with
  | inl same => exact Or.inl (goesOn_iff.mpr (same ▸ goesSecond))
  | inr underFirst =>
    cases goesSecond with
    | inl same => exact Or.inr (goesOn_iff.mpr (Or.inr (same ▸ underFirst)))
    | inr underSecond =>
      cases prefix_or_prefix_of_prefix underFirst underSecond with
      | inl below =>
        refine Or.inr (goesOn_iff.mpr ?_)
        cases prefix_concat_iff.mp below with
        | inl same => exact Or.inl (String.toList_inj.mp (append_cancel_right same).symm)
        | inr under => exact Or.inr under
      | inr below =>
        refine Or.inl (goesOn_iff.mpr ?_)
        cases prefix_concat_iff.mp below with
        | inl same => exact Or.inl (String.toList_inj.mp (append_cancel_right same).symm)
        | inr under => exact Or.inr under

section
variable {lease : WorkPackageLease} {writePath : String}

theorem covered_iff :
    covered lease writePath = true ↔ ∃ path ∈ lease.branchLease.writablePaths,
      pathWithinPrefix (normalizePath writePath) (normalizePath path) = true := by
  simp [covered]

theorem writeAllowed_iff {nowMs : UInt64} :
    workerWriteAllowed lease writePath nowMs = .ok () ↔
      nowMs ≤ lease.branchLease.expiresAtMs ∧ covered lease writePath = true := by
  simp [workerWriteAllowed]

end

theorem shared_iff_overlapping {lease otherLease : WorkPackageLease} {first second : WorkPackage}
    (paths : lease.branchLease.writablePaths = first.ownedPaths)
    (otherPaths : otherLease.branchLease.writablePaths = second.ownedPaths) :
    (∃ writePath nowMs, workerWriteAllowed lease writePath nowMs = .ok () ∧
        workerWriteAllowed otherLease writePath nowMs = .ok ()) ↔ Overlapping first second := by
  simp only [writeAllowed_iff, covered_iff, paths, otherPaths]
  constructor
  · intro shared
    obtain ⟨writePath, nowMs, ⟨-, path, isPath, within⟩, -, other, isOther, otherWithin⟩ := shared
    exact ⟨path, isPath, other, isOther, within_of_common within otherWithin⟩
  · intro overlapping
    obtain ⟨path, isPath, other, isOther, within⟩ := overlapping
    have itself (text : String) : pathWithinPrefix text text = true := goesOn_iff.mpr (Or.inl rfl)
    cases within with
    | inl within =>
      exact ⟨path, 0, ⟨UInt64.zero_le, path, isPath, itself _⟩,
        UInt64.zero_le, other, isOther, within⟩
    | inr within =>
      exact ⟨other, 0, ⟨UInt64.zero_le, path, isPath, within⟩,
        UInt64.zero_le, other, isOther, itself _⟩

theorem not_exclusive_of_overlapping (accepted : ensureSingleGlobalPlan plan = .ok ())
    {first second : WorkPackage} (isFirst : first ∈ plan.workPackages)
    (isSecond : second ∈ plan.workPackages) (apart : first.taskNodeId ≠ second.taskNodeId)
    (overlapping : Overlapping first second) {worker other : String} (differ : worker ≠ other)
    (leasable : plan.Leasable first worker) (otherLeasable : plan.Leasable second other) :
    ¬plan.Exclusive := by
  intro exclusive
  obtain ⟨lease, isLease⟩ := @granted_iff plan first worker
    accepted isFirst 0 0 "" |>.mpr leasable
  obtain ⟨otherLease, isOther⟩ := @granted_iff plan second other
    accepted isSecond 0 0 "" |>.mpr otherLeasable
  have granted : plan.Granted worker first.taskNodeId lease := ⟨0, 0, "", isLease⟩
  have otherGranted : plan.Granted other second.taskNodeId otherLease := ⟨0, 0, "", isOther⟩
  have paths := writablePaths_of_granted accepted isFirst granted
  have otherPaths := writablePaths_of_granted accepted isSecond otherGranted
  obtain ⟨writePath, nowMs, both⟩ := (shared_iff_overlapping paths otherPaths).mpr overlapping
  exact exclusive.unshared _ _ _ _ _ _ differ apart granted otherGranted writePath nowMs both

/-! ## Exclusive plans -/

theorem leasable_of_uncontested (uncontested : ¬plan.Contested package)
    (paths : package.ownedPaths ≠ []) :
    (∃ owner ∈ plan.namedOwners package, plan.Leasable package owner) ∨
      ∀ worker, trim worker ≠ "" → plan.Leasable package worker := by
  cases owners : plan.namedOwners package with
  | nil => exact Or.inr fun worker named => ⟨named, paths, by simp [owners]⟩
  | cons owner rest =>
    have isOwner : owner ∈ plan.namedOwners package := by simp [owners]
    refine Or.inl ⟨owner, by simp, ?_, paths, ?_⟩
    · simp only [namedOwners, mem_filter, decide_eq_true_eq] at isOwner
      exact isOwner.2
    · intro other isOther
      by_contra differ
      exact uncontested ⟨other, isOther, owner, isOwner, differ⟩

theorem exists_other (worker : String) : ∃ other, trim other ≠ "" ∧ worker ≠ other := by
  by_cases isFirst : worker = "a"
  · exact ⟨"b", by decide, by rw [isFirst]; decide⟩
  · exact ⟨"a", by decide, isFirst⟩

theorem different_workers {first second : WorkPackage} (uncontested : ¬plan.Contested first)
    (otherUncontested : ¬plan.Contested second) (paths : first.ownedPaths ≠ [])
    (otherPaths : second.ownedPaths ≠ [])
    (unshared : ¬∃ owner ∈ plan.namedOwners first, owner ∈ plan.namedOwners second) :
    ∃ worker other, worker ≠ other ∧ plan.Leasable first worker ∧ plan.Leasable second other := by
  cases leasable_of_uncontested uncontested paths with
  | inl owned =>
    obtain ⟨owner, isOwner, leasable⟩ := owned
    cases leasable_of_uncontested otherUncontested otherPaths with
    | inl otherOwned =>
      obtain ⟨other, isOther, otherLeasable⟩ := otherOwned
      refine ⟨owner, other, fun same => ?_, leasable, otherLeasable⟩
      exact unshared ⟨owner, isOwner, same ▸ isOther⟩
    | inr anybody =>
      obtain ⟨other, named, differ⟩ := exists_other owner
      exact ⟨owner, other, differ, leasable, anybody other named⟩
  | inr anybody =>
    cases leasable_of_uncontested otherUncontested otherPaths with
    | inl otherOwned =>
      obtain ⟨other, -, otherLeasable⟩ := otherOwned
      obtain ⟨worker, named, differ⟩ := exists_other other
      exact ⟨worker, other, differ.symm, anybody worker named, otherLeasable⟩
    | inr everybody =>
      obtain ⟨other, named, differ⟩ := exists_other "a"
      exact ⟨"a", other, differ, anybody "a" (by decide), everybody other named⟩

/-- The leases of an accepted plan are exclusive exactly when the plan is well owned. -/
theorem exclusive_iff_wellOwned (accepted : ensureSingleGlobalPlan plan = .ok ()) :
    plan.Exclusive ↔ plan.WellOwned := by
  constructor
  · intro exclusive
    constructor
    · intro first isFirst second isSecond apart overlapping
      by_contra separate
      simp only [not_or] at separate
      have overlapped := overlapping
      obtain ⟨path, isPath, other, isOther, -⟩ := overlapping
      obtain ⟨worker, otherWorker, differ, leasable, otherLeasable⟩ :=
        different_workers separate.1 separate.2.1 (ne_nil_of_mem isPath)
          (ne_nil_of_mem isOther) separate.2.2
      exact not_exclusive_of_overlapping accepted isFirst isSecond apart overlapped differ
        leasable otherLeasable exclusive
    · intro package isPackage owner isOwner
      have leasable := (granted_iff accepted isPackage).mp
        (exclusive.owned package isPackage owner isOwner 0 0 "")
      exact ⟨leasable.1, leasable.uncontested⟩
  · intro wellOwned
    constructor
    · intro worker other node otherNode lease otherLease differ apart granted otherGranted
        writePath nowMs both
      obtain ⟨first, isFirst, sameNode, leasable, paths⟩ := package_of_granted granted
      obtain ⟨second, isSecond, otherSame, otherLeasable, otherPaths⟩ :=
        package_of_granted otherGranted
      have overlapping := (shared_iff_overlapping paths otherPaths).mp ⟨writePath, nowMs, both⟩
      rw [← sameNode, ← otherSame] at apart
      cases wellOwned.apart first isFirst second isSecond apart overlapping with
      | inl contested => exact leasable.uncontested contested
      | inr rest =>
        cases rest with
        | inl contested => exact otherLeasable.uncontested contested
        | inr shared =>
          obtain ⟨owner, isOwner, isOther⟩ := shared
          exact differ ((leasable.2.2 owner isOwner).symm.trans (otherLeasable.2.2 owner isOther))
    · intro package isPackage owner isOwner nowMs ttlMs contractVersion
      obtain ⟨named, uncontested⟩ := wellOwned.leasable package isPackage owner isOwner
      have isNamed : owner ∈ plan.namedOwners package :=
        mem_filter.mpr ⟨isOwner, by simpa using named⟩
      obtain ⟨path, isPath, -⟩ := mem_filterMap.mp isOwner
      refine (granted_iff accepted isPackage).mpr ⟨named, ne_nil_of_mem isPath, ?_⟩
      intro other isOther
      by_contra differ
      exact uncontested ⟨other, isOther, owner, isNamed, differ⟩

end ExecutionPlan

/-! ## Plans of the planner -/

namespace GlobalPlanner

open ExecutionPlan

variable {requirement : RequirementSpec} {tree : TaskTree} {evidenceRef : String}
variable {plan : ExecutionPlan}

theorem collectMap_of_mem {entries : List (String × String)} {entry : String × String}
    (distinct : (entries.map (·.1)).Nodup) (isEntry : entry ∈ entries) :
    collectMap entries entry.1 = some entry.2 := by
  unfold collectMap
  cases found : entries.reverse.find? (·.1 = entry.1) with
  | none =>
    have absent := find?_eq_none.mp found entry (mem_reverse.mpr isEntry)
    simp at absent
  | some other =>
    have sameKey := find?_some found
    simp only [decide_eq_true_eq] at sameKey
    have isOther := mem_reverse.mp (mem_of_find?_eq_some found)
    rw [inj_on_of_nodup_map distinct isOther isEntry sameKey]
    rfl

theorem artifactPath_inj {first second : String} :
    artifactPath first = artifactPath second ↔ first = second := by
  simp [artifactPath]

section
variable (planned : produceExecutionPlan requirement tree evidenceRef = .ok plan)
include planned

theorem workPackages_of_planned :
    plan.workPackages = tree.nodes.map workPackage := by
  simp only [produceExecutionPlan, bind_eq_ok, exists_unit, pure, Except.pure,
    Except.ok.injEq] at planned
  rw [← planned.2]

section
variable (distinct : tree.ids.Nodup) {node : ProjectTaskNode} (isNode : node ∈ tree.nodes)
include distinct isNode

theorem owners_workPackage :
    plan.owners (workPackage node) = [node.nodeId] := by
  simp only [produceExecutionPlan, bind_eq_ok, exists_unit, pure, Except.pure,
    Except.ok.injEq] at planned
  have recorded : plan.fileOwnership (artifactPath node.nodeId) = some node.nodeId := by
    rw [← planned.2]
    refine @collectMap_of_mem _ (artifactPath node.nodeId, node.nodeId) ?_ ?_
    · rw [map_map, map_map]
      refine (nodup_map_iff_inj_on (List.Nodup.of_map _ distinct)).mpr ?_
      intro first isFirst second isSecond same
      exact inj_on_of_nodup_map distinct isFirst isSecond (artifactPath_inj.mp same)
    · rw [map_map]
      exact mem_map_of_mem (f := ownership ∘ workPackage) isNode
  simp [owners, workPackage, recorded]

theorem eq_of_mem_namedOwners
    {owner : String} (isOwner : owner ∈ plan.namedOwners (workPackage node)) :
    owner = node.nodeId := by
  have isOwner := (mem_filter.mp isOwner).1
  rw [owners_workPackage planned distinct isNode] at isOwner
  exact mem_singleton.mp isOwner

theorem uncontested_workPackage :
    ¬plan.Contested (workPackage node) := by
  intro contested
  obtain ⟨first, isFirst, second, isSecond, differ⟩ := contested
  exact differ ((eq_of_mem_namedOwners planned distinct isNode isFirst).trans
    (eq_of_mem_namedOwners planned distinct isNode isSecond).symm)

end

theorem planned_wellOwned_iff (distinct : tree.ids.Nodup) :
    plan.WellOwned ↔ (∀ id ∈ tree.ids, trim id ≠ "") ∧
      ∀ id ∈ tree.ids, ∀ other ∈ tree.ids, id ≠ other →
        pathWithinPrefix (normalizePath (artifactPath id))
          (normalizePath (artifactPath other)) = false := by
  have packages := workPackages_of_planned planned
  constructor
  · intro wellOwned
    constructor
    · intro id isId
      obtain ⟨node, isNode, rfl⟩ := mem_map.mp isId
      have leasable := wellOwned.leasable (workPackage node)
        (packages ▸ mem_map_of_mem isNode) node.nodeId
        (by simp [owners_workPackage planned distinct isNode])
      exact leasable.1
    · intro id isId other isOther differ
      obtain ⟨node, isNode, rfl⟩ := mem_map.mp isId
      obtain ⟨later, isLater, rfl⟩ := mem_map.mp isOther
      by_contra within
      have overlapping : Overlapping (workPackage node) (workPackage later) :=
        ⟨artifactPath node.nodeId, mem_singleton_self _, artifactPath later.nodeId,
          mem_singleton_self _, Or.inl (Bool.not_eq_false _ ▸ within)⟩
      cases wellOwned.apart _ (packages ▸ mem_map_of_mem isNode) _
          (packages ▸ mem_map_of_mem isLater) differ overlapping with
      | inl contested => exact uncontested_workPackage planned distinct isNode contested
      | inr rest =>
        cases rest with
        | inl contested => exact uncontested_workPackage planned distinct isLater contested
        | inr shared =>
          obtain ⟨owner, isOwner, isOther⟩ := shared
          exact differ ((eq_of_mem_namedOwners planned distinct isNode isOwner).symm.trans
            (eq_of_mem_namedOwners planned distinct isLater isOther))
  · intro both
    obtain ⟨named, apart⟩ := both
    constructor
    · intro first isFirst second isSecond differ overlapping
      obtain ⟨node, isNode, rfl⟩ := mem_map.mp (packages ▸ isFirst)
      obtain ⟨later, isLater, rfl⟩ := mem_map.mp (packages ▸ isSecond)
      have isId : node.nodeId ∈ tree.ids := mem_map_of_mem isNode
      have isOther : later.nodeId ∈ tree.ids := mem_map_of_mem isLater
      obtain ⟨path, isPath, other, isOtherPath, within⟩ := overlapping
      rw [mem_singleton.mp isPath, mem_singleton.mp isOtherPath,
        apart _ isId _ isOther differ, apart _ isOther _ isId (Ne.symm differ)] at within
      simp at within
    · intro package isPackage owner isOwner
      obtain ⟨node, isNode, rfl⟩ := mem_map.mp (packages ▸ isPackage)
      rw [owners_workPackage planned distinct isNode, mem_singleton] at isOwner
      exact ⟨isOwner ▸ named _ (mem_map_of_mem isNode),
        uncontested_workPackage planned distinct isNode⟩

end

/-! ## Two nodes apart and two nested ones -/

def apartTree : TaskTree := ⟨"tree", [⟨"a", [], 0, 0⟩, ⟨"b", [], 0, 0⟩]⟩

def apartPlan : ExecutionPlan where
  planId := "execution-plan:task"
  workPackages := apartTree.nodes.map workPackage
  fileOwnership := collectMap ((apartTree.nodes.map workPackage).map ownership)
  integrationPlanRef := "code/integration/task"

theorem apart_leases_exclusive :
    produceExecutionPlan ⟨"task"⟩ apartTree "evidence" = .ok apartPlan ∧ apartPlan.Exclusive :=
  ⟨rfl, (exclusive_iff_wellOwned rfl).mpr
    ((@planned_wellOwned_iff ⟨"task"⟩ apartTree "evidence" apartPlan rfl (by decide)).mpr ⟨by decide +kernel, by decide +kernel⟩)⟩

/-- One node is named like a path under the other. -/
def nestedTree : TaskTree := ⟨"tree", [⟨"a", [], 0, 0⟩, ⟨"a/b", [], 0, 0⟩]⟩

def nestedPlan : ExecutionPlan where
  planId := "execution-plan:task"
  workPackages := nestedTree.nodes.map workPackage
  fileOwnership := collectMap ((nestedTree.nodes.map workPackage).map ownership)
  integrationPlanRef := "code/integration/task"

theorem nested_leases_overlap :
    nestedTree.ids.Nodup ∧
      produceExecutionPlan ⟨"task"⟩ nestedTree "evidence" = .ok nestedPlan ∧
      ensureSingleGlobalPlan nestedPlan = .ok () ∧ ¬nestedPlan.Exclusive := by
  have accepted : ensureSingleGlobalPlan nestedPlan = .ok () := by rfl
  have isFirst : workPackage ⟨"a", [], 0, 0⟩ ∈ nestedPlan.workPackages := by decide
  have isSecond : workPackage ⟨"a/b", [], 0, 0⟩ ∈ nestedPlan.workPackages := by decide
  refine ⟨by decide, rfl, accepted, ?_⟩
  refine not_exclusive_of_overlapping accepted isFirst isSecond (by decide)
    ⟨"artifact/code/a", by decide, "artifact/code/a/b", by decide, Or.inr (by decide +kernel)⟩
    (show "a" ≠ "a/b" by decide) ⟨by decide +kernel, by decide, ?_⟩
    ⟨by decide +kernel, by decide, ?_⟩
  · decide +kernel
  · decide +kernel

end GlobalPlanner

end AutoLoop.OrgKernel
