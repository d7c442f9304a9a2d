import AutoLoop.Foundation.Connectivity
import AutoLoop.Foundation.Text
import Mathlib.Data.Prod.Lex

/-!
# Graph health

The nodes and edges of `lint_graph_health`, its orphans, and the components that
`connected_components` finds.  The ordered sets and maps of the source are finite sets that
are read in order.
-/

namespace AutoLoop.GitmemoryCore

open List

structure GraphEdge where
  source : String
  target : String
  deriving DecidableEq, Repr

structure GraphHealthInput where
  nodes : List String
  edges : List GraphEdge
  deriving DecidableEq, Repr

/-! ## The graph -/

def GraphHealthInput.nodeSet (input : GraphHealthInput) : Finset String :=
  input.nodes.toFinset ∪
    (input.edges.flatMap fun edge => [edge.source, edge.target]).toFinset

/-- The edges between names that are not blank, each once. -/
def GraphHealthInput.dedupEdges (input : GraphHealthInput) : Finset (String × String) :=
  ((input.edges.filter fun edge => Text.trim edge.source ≠ "" ∧ Text.trim edge.target ≠ "").map
    fun edge => (edge.source, edge.target)).toFinset

def inOrder (edges : Finset (String × String)) : List (String × String) :=
  (ascending (edges.image toLex)).map ofLex

/-- `undirected.entry(name).or_default().insert(other)`. -/
def link (undirected : String → Finset String) (name other : String) : String → Finset String :=
  Function.update undirected name (insert other (undirected name))

def undirected (edges : List (String × String)) : String → Finset String :=
  edges.foldl (fun neighbors edge => link (link neighbors edge.1 edge.2) edge.2 edge.1) fun _ => ∅

/-! ## Components -/

/-- `usize::MAX`. -/
def usizeMax : Nat := 18446744073709551615

def componentKey (component : List String) : Nat × String :=
  (usizeMax - component.length, component.headD "")

def compareKeys (left right : List String) : Ordering :=
  (compare (componentKey left).1 (componentKey right).1).then
    (compare (componentKey left).2 (componentKey right).2)

/-- One round of the loop over the nodes: what a node that was not visited is connected to. -/
def collectComponent (neighbors : String → Finset String) (nodes : Finset String)
    (collected : Finset String × List (List String)) (node : String) :
    Option (Finset String × List (List String)) :=
  if node ∈ collected.1 then some collected
  else do
    let (component, visited) ← search (· ++ ·) neighbors (searchFuel neighbors nodes [node])
      [node] collected.1 []
    return (visited, collected.2 ++ [component.mergeSort (· ≤ ·)])

def connectedComponents (nodes : Finset String) (neighbors : String → Finset String) :
    Option (List (List String)) := do
  let collected ← (ascending nodes).foldlM (collectComponent neighbors nodes) (∅, [])
  return collected.2.mergeSort fun left right => compareKeys left right != .gt

section
variable (input : GraphHealthInput)

def GraphHealthInput.neighbors : String → Finset String := undirected (inOrder input.dedupEdges)

/-- The names without neighbours. -/
def GraphHealthInput.orphan : List String :=
  (ascending input.nodeSet).filter fun node => input.neighbors node = ∅

def GraphHealthInput.components : Option (List (List String)) :=
  connectedComponents input.nodeSet input.neighbors

end

/-! ## Edges -/

theorem mem_inOrder {edges : Finset (String × String)} {edge : String × String} :
    edge ∈ inOrder edges ↔ edge ∈ edges := by
  obtain ⟨first, second⟩ := edge
  simp [inOrder]

theorem mem_link {neighbors : String → Finset String} {name other node neighbor : String} :
    neighbor ∈ link neighbors name other node ↔
      neighbor ∈ neighbors node ∨ (node = name ∧ neighbor = other) := by
  rw [link, Function.update_apply]
  split
  · next same =>
    subst same
    rw [Finset.mem_insert]
    tauto
  · tauto

theorem mem_undirected {edges : List (String × String)} {node neighbor : String} :
    neighbor ∈ undirected edges node ↔ (node, neighbor) ∈ edges ∨ (neighbor, node) ∈ edges := by
  have linked : ∀ neighbors : String → Finset String,
      neighbor ∈ edges.foldl (fun neighbors edge =>
        link (link neighbors edge.1 edge.2) edge.2 edge.1) neighbors node ↔
      neighbor ∈ neighbors node ∨ (node, neighbor) ∈ edges ∨ (neighbor, node) ∈ edges := by
    induction edges with
    | nil => simp
    | cons edge rest ih =>
      intro neighbors
      obtain ⟨first, second⟩ := edge
      rw [foldl_cons, ih, mem_link, mem_link, mem_cons, mem_cons,
        Prod.mk.injEq, Prod.mk.injEq]
      tauto
  rw [undirected, linked]
  simp

namespace GraphHealthInput

variable (input : GraphHealthInput)

/-- There is an edge between two names, one way or the other. -/
def Linked (first second : String) : Prop :=
  (first, second) ∈ input.dedupEdges ∨ (second, first) ∈ input.dedupEdges

/-- The second name is reached from the first along edges. -/
def Joined : String → String → Prop := Relation.ReflTransGen input.Linked

variable {input}

theorem mem_neighbors {node neighbor : String} :
    neighbor ∈ input.neighbors node ↔ input.Linked node neighbor := by
  rw [neighbors, mem_undirected, mem_inOrder, mem_inOrder, Linked]

theorem connected_iff {first second : String} :
    Connected input.neighbors first second ↔ input.Joined first second := by
  have same : (fun node neighbor => neighbor ∈ input.neighbors node) = input.Linked := by
    funext node neighbor
    exact propext mem_neighbors
  rw [Connected, same, Joined]

theorem neighbors_symmetric (node neighbor : String) (linked : neighbor ∈ input.neighbors node) :
    node ∈ input.neighbors neighbor :=
  mem_neighbors.mpr (mem_neighbors.mp linked).symm

theorem mem_nodeSet_of_edge {edge : String × String} (isEdge : edge ∈ input.dedupEdges) :
    edge.1 ∈ input.nodeSet ∧ edge.2 ∈ input.nodeSet := by
  rw [dedupEdges, mem_toFinset, mem_map] at isEdge
  obtain ⟨given, isGiven, rfl⟩ := isEdge
  have inEdges := (mem_filter.mp isGiven).1
  constructor
  · exact Finset.mem_union_right _ (mem_toFinset.mpr
      (mem_flatMap.mpr ⟨given, inEdges, mem_cons_self⟩))
  · exact Finset.mem_union_right _ (mem_toFinset.mpr
      (mem_flatMap.mpr ⟨given, inEdges, mem_cons_of_mem _ mem_cons_self⟩))

theorem neighbors_within (node : String) : input.neighbors node ⊆ input.nodeSet := by
  intro neighbor isNeighbor
  rcases mem_neighbors.mp isNeighbor with edge | edge
  · exact (mem_nodeSet_of_edge edge).2
  · exact (mem_nodeSet_of_edge edge).1

end GraphHealthInput

/-! ## Components -/

section Components

variable {neighbors : String → Finset String} {nodes : Finset String}

/-- What is collected are whole components, each once and in order. -/
structure Collected (neighbors : String → Finset String) (nodes : Finset String)
    (collected : Finset String × List (List String)) : Prop where
  visited_iff : ∀ node, node ∈ collected.1 ↔ ∃ component ∈ collected.2, node ∈ component
  complete : ∀ node ∈ collected.1, neighbors node ⊆ collected.1
  sorted : ∀ component ∈ collected.2, component.Pairwise (· < ·)
  classes : ∀ component ∈ collected.2, ∃ root ∈ nodes, ∀ node,
    node ∈ component ↔ Connected neighbors root node
  disjoint : collected.2.Pairwise fun first second => ∀ node ∈ first, node ∉ second

theorem pairwise_mergeSort_of_nodup {component : List String} (nodup : component.Nodup) :
    (component.mergeSort (· ≤ ·)).Pairwise (· < ·) := by
  have ordered : (component.mergeSort (· ≤ ·)).Pairwise fun first second =>
      decide (first ≤ second) = true := by
    apply pairwise_mergeSort
    · intro first second third below above
      exact decide_eq_true ((of_decide_eq_true below).trans (of_decide_eq_true above))
    · intro first second
      rcases le_total first second with below | above
      · rw [decide_eq_true below, Bool.true_or]
      · rw [decide_eq_true above, Bool.or_true]
  have distinct : (component.mergeSort (· ≤ ·)).Pairwise (· ≠ ·) :=
    (mergeSort_perm component _).nodup_iff.mpr nodup
  refine (ordered.and distinct).imp ?_
  rintro first second ⟨below, differs⟩
  exact lt_of_le_of_ne (of_decide_eq_true below) differs

variable (symmetric : ∀ node neighbor, neighbor ∈ neighbors node → node ∈ neighbors neighbor)
variable (within : ∀ node ∈ nodes, neighbors node ⊆ nodes)
include symmetric within

theorem Collected.collect {collected : Finset String × List (List String)}
    (soFar : Collected neighbors nodes collected) {node : String} (isNode : node ∈ nodes) :
    ∃ after, collectComponent neighbors nodes collected node =
        some after ∧ Collected neighbors nodes after ∧ collected.1 ⊆ after.1 ∧ node ∈ after.1 := by
  rw [collectComponent]
  split
  · next known => exact ⟨collected, rfl, soFar, Finset.Subset.refl _, known⟩
  · next new =>
    have places : ∀ new waiting : List String, new ++ waiting ~ new ++ waiting := fun _ _ => .rfl
    have ends : ∃ found, search (· ++ ·) neighbors (searchFuel neighbors nodes [node]) [node]
        collected.1 [] = some found := by
      refine search_isSome places within [] (by simpa using isNode) ?_
      exact Nat.add_le_add_left (Finset.sum_le_sum_of_subset Finset.sdiff_subset) 1
    obtain ⟨⟨component, visited⟩, ran⟩ := ends
    have searched := Searched.run places (Searched.start [node] collected.1) ran
    have isClass (other : String) : other ∈ component ↔ Connected neighbors node other := by
      have isolated : ∀ node, ∀ neighbor ∈ neighbors node, neighbor ∈ collected.1 →
          node ∈ collected.1 := fun node neighbor isNeighbor earlier =>
        soFar.complete neighbor earlier (symmetric _ _ isNeighbor)
      rw [searched.mem_iff isolated (by simpa using new)]
      simp
    have inSorted (other : String) : other ∈ component.mergeSort (· ≤ ·) ↔ other ∈ component :=
      mem_mergeSort
    rw [ran]
    refine ⟨_, rfl, ⟨?_, ?_, ?_, ?_, ?_⟩, ?_, ?_⟩
    · intro other
      simp only [mem_append, mem_singleton, or_and_right, exists_or, exists_eq_left]
      rw [searched.visited_iff, soFar.visited_iff, inSorted]
    · intro other isVisited neighbor isNeighbor
      rcases (searched.visited_iff other).mp isVisited with earlier | inComponent
      · exact (searched.visited_iff _).mpr
          (Or.inl (soFar.complete other earlier isNeighbor))
      · exact (searched.visited_iff _).mpr (Or.inr ((isClass _).mpr
          (((isClass other).mp inComponent).tail isNeighbor)))
    · intro other isOther
      rcases mem_append.mp isOther with earlier | isNew
      · exact soFar.sorted other earlier
      · rw [mem_singleton.mp isNew]
        exact pairwise_mergeSort_of_nodup searched.nodup
    · intro other isOther
      rcases mem_append.mp isOther with earlier | isNew
      · exact soFar.classes other earlier
      · rw [mem_singleton.mp isNew]
        exact ⟨node, isNode, fun member => (inSorted member).trans (isClass member)⟩
    · rw [pairwise_append]
      refine ⟨soFar.disjoint, pairwise_singleton _ _, ?_⟩
      intro first isFirst second isSecond member inFirst inSecond
      rw [mem_singleton.mp isSecond, inSorted] at inSecond
      exact searched.fresh member inSecond
        ((soFar.visited_iff member).mpr ⟨first, isFirst, inFirst⟩)
    · intro other earlier
      exact (searched.visited_iff other).mpr (Or.inl earlier)
    · exact (searched.visited_iff node).mpr (Or.inr ((isClass node).mpr .refl))

theorem Collected.collectAll {names : List String} (areNodes : ∀ name ∈ names, name ∈ nodes)
    {collected : Finset String × List (List String)}
    (soFar : Collected neighbors nodes collected) :
    ∃ after, names.foldlM (collectComponent neighbors nodes) collected =
        some after ∧ Collected neighbors nodes after ∧ collected.1 ⊆ after.1 ∧
          ∀ name ∈ names, name ∈ after.1 := by
  induction names generalizing collected with
  | nil => exact ⟨collected, rfl, soFar, Finset.Subset.refl _, nofun⟩
  | cons name names ih =>
    obtain ⟨isNode, areRest⟩ := forall_mem_cons.mp areNodes
    obtain ⟨next, ran, nextCollected, grows, isIn⟩ :=
      soFar.collect symmetric within isNode
    obtain ⟨after, ranRest, afterCollected, growsRest, areIn⟩ := ih areRest nextCollected
    refine ⟨after, ?_, afterCollected, grows.trans growsRest, ?_⟩
    · rw [foldlM_cons, ran]
      exact ranRest
    · exact forall_mem_cons.mpr ⟨growsRest isIn, areIn⟩

/-- The classes of the nodes, each once and in order. -/
structure Partition (neighbors : String → Finset String) (nodes : Finset String)
    (components : List (List String)) : Prop where
  covers : ∀ node, node ∈ nodes ↔ ∃ component ∈ components, node ∈ component
  sorted : ∀ component ∈ components, component.Pairwise (· < ·)
  classes : ∀ component ∈ components, ∃ root ∈ nodes, ∀ node,
    node ∈ component ↔ Connected neighbors root node
  disjoint : components.Pairwise fun first second => ∀ node ∈ first, node ∉ second

theorem connectedComponents_partition :
    ∃ components, connectedComponents nodes neighbors = some components ∧
      Partition neighbors nodes components := by
  have nothing : Collected neighbors nodes (∅, []) :=
    ⟨by simp, by simp, nofun, nofun, List.Pairwise.nil⟩
  have areNodes : ∀ name ∈ ascending nodes, name ∈ nodes := fun name isName =>
    mem_ascending.mp isName
  obtain ⟨after, ran, collected, -, areIn⟩ := nothing.collectAll symmetric within areNodes
  have sorted := mergeSort_perm after.2 fun left right => compareKeys left right != .gt
  refine ⟨_, by rw [connectedComponents, ran]; rfl, ?_, ?_, ?_, ?_⟩
  · intro node
    simp only [sorted.mem_iff]
    rw [← collected.visited_iff]
    constructor
    · intro isNode
      exact areIn node (mem_ascending.mpr isNode)
    · intro isVisited
      obtain ⟨component, isComponent, inComponent⟩ := (collected.visited_iff node).mp isVisited
      obtain ⟨root, isRoot, isClass⟩ := collected.classes component isComponent
      have connected := (isClass node).mp inComponent
      clear inComponent isVisited
      induction connected with
      | refl => exact isRoot
      | tail _ isNeighbor isNode => exact within _ isNode isNeighbor
  · exact fun component isComponent => collected.sorted component (sorted.mem_iff.mp isComponent)
  · exact fun component isComponent => collected.classes component (sorted.mem_iff.mp isComponent)
  · refine (sorted.pairwise_iff ?_).mpr collected.disjoint
    intro first second apart node inSecond inFirst
    exact apart node inFirst inSecond

end Components

/-! ## The report -/

open GraphHealthInput

/-- The components of every input are the classes of its names along edges, each name in one,
and its orphans are the names without an edge; both depend on the names and edges alone. -/
theorem components_partition (input : GraphHealthInput) :
    ∃ components, input.components = some components ∧
      (∀ node, node ∈ input.nodeSet ↔ ∃ component ∈ components, node ∈ component) ∧
      (∀ component ∈ components, component.Pairwise (· < ·) ∧ ∃ root ∈ input.nodeSet,
        ∀ node, node ∈ component ↔ input.Joined root node) ∧
      (components.Pairwise fun first second => ∀ node ∈ first, node ∉ second) ∧
      (∀ node, node ∈ input.orphan ↔ node ∈ input.nodeSet ∧ ∀ other, ¬input.Linked node other) ∧
      ∀ other : GraphHealthInput, (∀ node, node ∈ other.nodes ↔ node ∈ input.nodes) →
        (∀ edge, edge ∈ other.edges ↔ edge ∈ input.edges) →
        other.components = some components ∧ other.orphan = input.orphan := by
  obtain ⟨components, ran, partition⟩ := @connectedComponents_partition _ input.nodeSet
    neighbors_symmetric fun node _ => neighbors_within node
  refine ⟨components, ran, partition.covers, ?_, partition.disjoint, ?_, ?_⟩
  · intro component isComponent
    obtain ⟨root, isRoot, isClass⟩ := partition.classes component isComponent
    exact ⟨partition.sorted component isComponent, root, isRoot, fun node =>
      (isClass node).trans connected_iff⟩
  · intro node
    rw [orphan, mem_filter, mem_ascending, decide_eq_true_eq,
      Finset.eq_empty_iff_forall_notMem]
    simp only [mem_neighbors]
  · intro other sameNodes sameEdges
    have nodeSet : other.nodeSet = input.nodeSet := by
      ext node
      simp only [GraphHealthInput.nodeSet, Finset.mem_union, mem_toFinset, sameNodes,
        mem_flatMap, sameEdges]
    have dedupEdges : other.dedupEdges = input.dedupEdges := by
      ext edge
      simp only [GraphHealthInput.dedupEdges, mem_toFinset, mem_map, mem_filter, sameEdges]
    have neighbors : other.neighbors = input.neighbors := by
      rw [GraphHealthInput.neighbors, GraphHealthInput.neighbors, dedupEdges]
    rw [← ran, GraphHealthInput.components, orphan, orphan, nodeSet, neighbors]
    exact ⟨rfl, rfl⟩

end AutoLoop.GitmemoryCore
