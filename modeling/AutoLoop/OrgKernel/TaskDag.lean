import AutoLoop.Foundation.HashMap
import AutoLoop.OrgKernel.E2r
import Mathlib.Data.Fintype.EquivFin

/-!
# Validating task trees

Tasks are visited once all tasks that they depend on have been, by counters of the
dependencies that are left.  Every task is visited exactly when no dependency is cyclic,
in whatever order the first tasks are queued.
-/

namespace AutoLoop.OrgKernel

open List

/-! ## The search -/

/-- The dependencies among the tasks of the tree, as often as they are listed. -/
def arcs (tree : TaskTree) : List (String × String) :=
  tree.nodes.flatMap fun node =>
    (node.deps.filter (· ∈ tree.ids)).map fun dep => (dep, node.nodeId)

def indegree (tree : TaskTree) : HashMap String Nat := fun id =>
  if id ∈ tree.ids then some ((arcs tree).countP (·.2 = id)) else none

def outgoing (tree : TaskTree) (id : String) : List String :=
  ((arcs tree).filter (·.1 = id)).map (·.2)

/-- One dependency of a child is gone. -/
def releaseChild (state : HashMap String Nat × List String) (child : String) :
    HashMap String Nat × List String :=
  match state.1.get child with
  | some degree =>
    (state.1.insert child (degree - 1),
      if degree - 1 = 0 then state.2 ++ [child] else state.2)
  | none => state

def visitTasks (tree : TaskTree) :
    Nat → HashMap String Nat → List String → Nat → Option Nat
  | 0, _, _, _ => none
  | _ + 1, _, [], visited => some visited
  | fuel + 1, degrees, id :: queue, visited =>
    let released := (outgoing tree id).foldl releaseChild (degrees, queue)
    visitTasks tree fuel released.1 released.2 (visited + 1)

section
variable (tree : TaskTree)

/-- The tasks without dependencies, which are queued first in some order. -/
def rootTasks : List String :=
  tree.ids.dedup.filter fun id => (indegree tree).get id = some 0

/-- `validate_dag` from a first queue. -/
def validateDag (queue : List String) : Option (Except String Unit) :=
  (visitTasks tree (tree.ids.length + 1) (indegree tree) queue 0).map fun visited =>
    if visited = tree.ids.dedup.length then .ok ()
    else .error "task tree dependency graph contains cycle"

/-! ## Cycles -/

def DependsOn (dep id : String) : Prop :=
  dep ∈ tree.ids ∧ ∃ node ∈ tree.nodes, node.nodeId = id ∧ dep ∈ node.deps

def Acyclic : Prop :=
  ∀ id, ¬Relation.TransGen (DependsOn tree) id id

end

theorem mem_arcs {tree : TaskTree} {dep id : String} :
    (dep, id) ∈ arcs tree ↔ DependsOn tree dep id := by
  simp only [arcs, mem_flatMap, mem_map, mem_filter, decide_eq_true_iff, Prod.mk.injEq, DependsOn]
  constructor
  · rintro ⟨node, isNode, dep, ⟨isDep, known⟩, rfl, rfl⟩
    exact ⟨known, node, isNode, rfl, isDep⟩
  · rintro ⟨known, node, isNode, rfl, isDep⟩
    exact ⟨node, isNode, dep, ⟨isDep, known⟩, rfl, rfl⟩

theorem DependsOn.known {tree : TaskTree} {dep id : String} (depends : DependsOn tree dep id) :
    id ∈ tree.ids := by
  obtain ⟨-, node, isNode, rfl, -⟩ := depends
  exact mem_map_of_mem isNode

/-! ## Releasing children -/

theorem foldl_releaseChild (children : List String) (degrees : HashMap String Nat)
    (queue : List String)
    (enough : ∀ child ∈ children, ∃ degree, degrees.get child = some degree ∧
      children.count child ≤ degree) :
    ∃ released : List String, children.foldl releaseChild (degrees, queue) =
        ((fun id => (degrees.get id).map (· - children.count id)), queue ++ released) ∧
      released.Nodup ∧
      ∀ id, id ∈ released ↔ id ∈ children ∧ degrees.get id = some (children.count id) := by
  induction children generalizing degrees queue with
  | nil =>
    exact ⟨[], Prod.ext (funext fun id => by simp [HashMap.get]) (by simp), by simp, by simp⟩
  | cons child rest ih =>
    obtain ⟨degree, isDegree, atLeast⟩ := enough child mem_cons_self
    rw [count_cons_self] at atLeast
    have step : releaseChild (degrees, queue) child =
        (degrees.insert child (degree - 1), queue ++ if degree - 1 = 0 then [child] else []) := by
      simp only [releaseChild, isDegree]
      split <;> simp
    obtain ⟨released, folded, nodup, members⟩ := ih (degrees.insert child (degree - 1))
      (queue ++ if degree - 1 = 0 then [child] else []) (by
        intro other membership
        rw [HashMap.get_insert]
        split
        · next same => exact ⟨_, rfl, same ▸ Nat.le_sub_one_of_lt atLeast⟩
        · next apart =>
          obtain ⟨left, isLeft, few⟩ := enough other (mem_cons_of_mem _ membership)
          rw [count_cons_of_ne (Ne.symm apart)] at few
          exact ⟨left, isLeft, few⟩)
    refine ⟨(if degree - 1 = 0 then [child] else []) ++ released, ?_, ?_, ?_⟩
    · rw [foldl_cons, step, folded, append_assoc]
      refine Prod.ext (funext fun id => ?_) rfl
      simp only [HashMap.get_insert]
      split
      · next same =>
        rw [same, isDegree, count_cons_self, Option.map_some, Option.map_some]
        exact congrArg some (by omega)
      · next apart => rw [count_cons_of_ne (Ne.symm apart)]
    · split
      · next last =>
        refine nodup_cons.mpr ⟨fun again => ?_, nodup⟩
        have counted := count_pos_iff.mpr ((members child).mp again).1
        omega
      · exact nodup
    · intro id
      rw [mem_append, members, HashMap.get_insert]
      by_cases same : id = child
      · subst same
        have inRest : id ∈ rest ↔ 0 < rest.count id := count_pos_iff.symm
        rw [count_cons_self, isDegree, if_pos rfl, inRest]
        simp only [mem_cons_self, true_and, Option.some.injEq]
        split
        · exact iff_of_true (Or.inl mem_cons_self) (by omega)
        · rw [or_iff_right not_mem_nil]
          omega
      · rw [count_cons_of_ne (Ne.symm same), if_neg same, mem_cons]
        split <;> simp [same]

/-! ## The invariant -/

section Search

variable {tree : TaskTree} {visited queue : List String} {degrees : HashMap String Nat}

/-- Counters are the dependencies that are not visited yet; what has none left is visited or
queued, and each task is visited after its dependencies. -/
structure Searching (tree : TaskTree) (visited queue : List String)
    (degrees : HashMap String Nat) : Prop where
  nodup : (visited ++ queue).Nodup
  known : ∀ id ∈ visited ++ queue, id ∈ tree.ids
  degrees_eq : ∀ id ∈ tree.ids, degrees.get id =
    some ((arcs tree).countP fun arc => arc.2 = id ∧ arc.1 ∉ visited)
  zero : ∀ id ∈ tree.ids, id ∈ visited ++ queue ↔ degrees.get id = some 0
  ordered : ∀ dep id, DependsOn tree dep id → id ∈ visited →
    visited.idxOf dep < visited.idxOf id

theorem countP_visit {id : String} (fresh : id ∉ visited) (child : String)
    (pairs : List (String × String)) :
    pairs.countP (fun arc => arc.2 = child ∧ arc.1 ∉ visited) =
      pairs.countP (fun arc => arc.2 = child ∧ arc.1 ∉ visited ++ [id]) +
        ((pairs.filter (·.1 = id)).map (·.2)).count child := by
  induction pairs with
  | nil => rfl
  | cons arc rest ih =>
    by_cases isId : arc.1 = id <;> by_cases isChild : arc.2 = child <;>
      by_cases before : arc.1 ∈ visited <;>
        simp_all [countP_cons, filter_cons] <;> omega

theorem Searching.step {id : String} (search : Searching tree visited (id :: queue) degrees) :
    Searching tree (visited ++ [id])
      ((outgoing tree id).foldl releaseChild (degrees, queue)).2
      ((outgoing tree id).foldl releaseChild (degrees, queue)).1 := by
  have fresh : id ∉ visited := fun again =>
    (nodup_append.mp search.nodup).2.2 id again id mem_cons_self rfl
  have isKnown : id ∈ tree.ids := search.known id (by simp)
  have children : ∀ child ∈ outgoing tree id, child ∈ tree.ids := by
    intro child membership
    obtain ⟨arc, isArc, rfl⟩ := mem_map.mp membership
    exact (mem_arcs.mp (mem_filter.mp isArc).1).known
  have counts := fun child => countP_visit fresh child (arcs tree)
  obtain ⟨released, folded, nodup, members⟩ := foldl_releaseChild (outgoing tree id) degrees
    queue fun child membership => ⟨_, search.degrees_eq child (children child membership),
      (counts child).symm ▸ Nat.le_add_left _ _⟩
  have isReleased : ∀ child ∈ tree.ids, child ∈ released ↔ child ∈ outgoing tree id ∧
      (arcs tree).countP (fun arc => arc.2 = child ∧ arc.1 ∉ visited ++ [id]) = 0 := by
    intro child known
    rw [members, search.degrees_eq child known, Option.some.injEq, counts child]
    exact and_congr_right fun _ => by rw [outgoing]; omega
  have degrees_eq : ∀ child ∈ tree.ids,
      (degrees.get child).map (· - (outgoing tree id).count child) =
        some ((arcs tree).countP fun arc => arc.2 = child ∧ arc.1 ∉ visited ++ [id]) := by
    intro child known
    rw [search.degrees_eq child known, counts child, outgoing]
    exact congrArg some (Nat.add_sub_cancel _ _)
  have releasedKnown : ∀ child ∈ released, child ∈ tree.ids :=
    fun child membership => children child ((members child).mp membership).1
  rw [folded]
  refine ⟨?_, ?_, degrees_eq, ?_, ?_⟩
  · rw [append_assoc, singleton_append, ← cons_append, ← append_assoc]
    refine nodup_append.mpr ⟨search.nodup, nodup, ?_⟩
    rintro child before _ again rfl
    have none := (search.zero child (search.known child before)).mp before
    rw [((members child).mp again).2] at none
    have counted := count_pos_iff.mpr ((members child).mp again).1
    exact absurd (Option.some.inj none) counted.ne'
  · intro child membership
    rw [append_assoc, singleton_append, ← cons_append, ← append_assoc, mem_append] at membership
    exact membership.elim (search.known child) (releasedKnown child)
  · intro child known
    have zero := search.zero child known
    rw [search.degrees_eq child known, Option.some.injEq, counts child] at zero
    rw [append_assoc, singleton_append, ← cons_append, ← append_assoc,
      mem_append, zero, isReleased child known]
    change _ ↔ (degrees.get child).map _ = _
    rw [degrees_eq child known, Option.some.injEq, ← count_pos_iff, outgoing]
    omega
  · intro dep child depends membership
    have left : dep ∈ visited ∧
        visited.idxOf dep < (visited ++ [id]).idxOf child := by
      by_cases isOld : child ∈ visited
      · have before := search.ordered dep child depends isOld
        rw [idxOf_append_of_mem isOld]
        exact ⟨idxOf_lt_length_iff.mp (before.trans (idxOf_lt_length_iff.mpr isOld)), before⟩
      · obtain rfl : child = id := by simpa [isOld] using membership
        have none := (search.zero child isKnown).mp (by simp)
        rw [search.degrees_eq child isKnown, Option.some.injEq, countP_eq_zero] at none
        have seen : dep ∈ visited := by simpa using none _ (mem_arcs.mpr depends)
        rw [idxOf_append_of_notMem isOld]
        exact ⟨seen, (idxOf_lt_length_iff.mpr seen).trans_le (Nat.le_add_right _ _)⟩
    rw [idxOf_append_of_mem left.1]
    exact left.2

theorem Searching.length_le (search : Searching tree visited queue degrees) :
    visited.length ≤ tree.ids.length :=
  (subperm_of_subset (nodup_append.mp search.nodup).1
    fun id membership => search.known id (mem_append_left _ membership)).length_le

theorem Searching.visitTasks (fuel : Nat) (search : Searching tree visited queue degrees)
    (enough : tree.ids.length < fuel + visited.length) :
    ∃ visited' degrees', visitTasks tree fuel degrees queue visited.length =
      some visited'.length ∧ Searching tree visited' [] degrees' := by
  induction fuel generalizing visited queue degrees with
  | zero => exact absurd search.length_le (by omega)
  | succ fuel ih =>
    cases queue with
    | nil => exact ⟨visited, degrees, rfl, search⟩
    | cons id queue =>
      have later := ih search.step (by rw [length_append, length_singleton]; omega)
      rwa [length_append] at later

theorem searching_start (order : queue.Perm (rootTasks tree)) :
    Searching tree [] queue (indegree tree) := by
  have member : ∀ id, id ∈ queue ↔ id ∈ tree.ids ∧ (indegree tree).get id = some 0 := by
    intro id
    rw [order.mem_iff, rootTasks, mem_filter, mem_dedup, decide_eq_true_iff]
  refine ⟨?_, fun id membership => ((member id).mp membership).1, ?_, ?_, by simp⟩
  · exact order.nodup_iff.mpr ((nodup_dedup _).filter _)
  · intro id known
    simp [HashMap.get, indegree, known]
  · intro id known
    rw [nil_append, member, and_iff_right known]

/-- Where nothing is queued any more, all tasks are visited exactly without a cycle. -/
theorem Searching.all_iff (search : Searching tree visited [] degrees) :
    visited.length = tree.ids.dedup.length ↔ Acyclic tree := by
  have nodup : visited.Nodup := by simpa using search.nodup
  have known : visited ⊆ tree.ids.dedup := fun id membership =>
    mem_dedup.mpr (search.known id (by simpa using membership))
  constructor
  · intro all id cycle
    have perm := (subperm_of_subset nodup known).perm_of_length_le all.ge
    have rises : ∀ {dep id}, Relation.TransGen (DependsOn tree) dep id →
        visited.idxOf dep < visited.idxOf id := by
      intro dep id path
      have isVisited : ∀ {dep id}, DependsOn tree dep id → id ∈ visited :=
        fun depends => perm.mem_iff.mpr (mem_dedup.mpr depends.known)
      induction path with
      | single depends => exact search.ordered _ _ depends (isVisited depends)
      | tail _ depends ih => exact ih.trans (search.ordered _ _ depends (isVisited depends))
    exact absurd (rises cycle) (lt_irrefl _)
  · intro acyclic
    let Before (dep id : {id // id ∈ tree.ids}) := Relation.TransGen (DependsOn tree) dep id
    have : IsTrans _ Before := ⟨fun _ _ _ => Relation.TransGen.trans⟩
    have : Std.Irrefl Before := ⟨fun id => acyclic id⟩
    have : Fintype {id // id ∈ tree.ids} :=
      Fintype.subtype tree.ids.toFinset fun _ => mem_toFinset
    have wellFounded : WellFounded Before := Finite.wellFounded_of_trans_of_irrefl Before
    have all : ∀ task : {id // id ∈ tree.ids}, task.1 ∈ visited := by
      intro task
      induction task using wellFounded.induction with
      | _ task ih =>
        have none := search.zero task.1 task.2
        rw [append_nil, search.degrees_eq task.1 task.2, Option.some.injEq] at none
        refine none.mpr (countP_eq_zero.mpr fun arc isArc => ?_)
        simp only [decide_eq_true_iff, not_and, not_not]
        intro isTask
        have depends : DependsOn tree arc.1 task.1 := isTask ▸ mem_arcs.mp isArc
        exact ih ⟨arc.1, depends.1⟩ (.single depends)
    exact ((perm_ext_iff_of_nodup nodup (nodup_dedup _)).mpr fun id =>
      ⟨@known id, fun membership => all ⟨id, mem_dedup.mp membership⟩⟩).length_eq

end Search

/-- Validation ends, and accepts exactly the trees without cyclic dependencies, whatever the
order of the first tasks. -/
theorem validateDag_exact {tree : TaskTree} {queue : List String}
    (order : queue.Perm (rootTasks tree)) :
    (Acyclic tree → validateDag tree queue = some (.ok ())) ∧
      (¬Acyclic tree → validateDag tree queue =
        some (.error "task tree dependency graph contains cycle")) := by
  obtain ⟨visited, degrees, visits, search⟩ :=
    (searching_start order).visitTasks (tree.ids.length + 1) (by simp)
  rw [length_nil] at visits
  rw [validateDag, visits, Option.map_some]
  exact ⟨fun acyclic => by rw [if_pos (search.all_iff.mpr acyclic)],
    fun cyclic => by rw [if_neg (mt search.all_iff.mp cyclic)]⟩

def pairTree : TaskTree := ⟨"tree", [⟨"a", [], 0, 0⟩, ⟨"b", ["a", "a"], 0, 0⟩]⟩

theorem validateDag_pairTree :
    (Acyclic pairTree → validateDag pairTree ["a"] = some (.ok ())) ∧
      (¬Acyclic pairTree → validateDag pairTree ["a"] =
        some (.error "task tree dependency graph contains cycle")) :=
  validateDag_exact (by decide)

end AutoLoop.OrgKernel
