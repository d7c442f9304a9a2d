import Mathlib.Algebra.Order.BigOperators.Group.Finset
import Mathlib.Data.Finset.Sort
import Mathlib.Data.Setoid.Basic

/-!
# Connectivity

Two ways to find what is connected.  A search, with a stack or a queue, takes the neighbours of
every new node that are not visited yet; it collects what its roots are connected to, when
nothing else leads to what was visited before.  A forest of parents represents a
partition: nodes are in one part when they have one root, pointing a node at its root keeps
the partition, and pointing a root at another one unites two parts.
-/

namespace AutoLoop

open List

/-! ## Searching -/

section Searching

variable {α : Type} [LinearOrder α]

/-- The elements of a set in their order. -/
def ascending (nodes : Finset α) : List α := nodes.sort

@[simp] theorem mem_ascending {nodes : Finset α} {node : α} :
    node ∈ ascending nodes ↔ node ∈ nodes := Finset.mem_sort _

theorem pairwise_ascending (nodes : Finset α) : (ascending nodes).Pairwise (· < ·) :=
  (Finset.sortedLT_sort nodes).pairwise

/-- The second is reached from the first along neighbours. -/
def Connected (neighbors : α → Finset α) : α → α → Prop :=
  Relation.ReflTransGen fun node neighbor => neighbor ∈ neighbors node

/-- The nodes that are collected, and all that are visited afterwards; `place` puts new nodes to
those that wait. -/
def search (place : List α → List α → List α) (neighbors : α → Finset α) :
    Nat → List α → Finset α → List α → Option (List α × Finset α)
  | _, [], visited, component => some (component, visited)
  | 0, _ :: _, _, _ => none
  | fuel + 1, current :: waiting, visited, component =>
    if current ∈ visited then
      search place neighbors fuel waiting visited component
    else
      search place neighbors fuel
        (place ((ascending (neighbors current)).filter (· ∉ insert current visited)) waiting)
        (insert current visited) (component ++ [current])

/-- As many nodes as can ever be taken. -/
def searchFuel (neighbors : α → Finset α) (nodes : Finset α) (roots : List α) : Nat :=
  roots.length + ∑ node ∈ nodes, (neighbors node).card

section Search

variable {place : List α → List α → List α} {neighbors : α → Finset α} {nodes : Finset α}
variable (places : ∀ new waiting, place new waiting ~ new ++ waiting)

include places in
/-- The search ends, as every node has its neighbours placed once at most. -/
theorem search_isSome (closed : ∀ node ∈ nodes, neighbors node ⊆ nodes) {fuel : Nat}
    {waiting : List α} {visited : Finset α} (component : List α)
    (within : ∀ node ∈ waiting, node ∈ nodes)
    (enough : waiting.length + ∑ node ∈ nodes \ visited, (neighbors node).card ≤ fuel) :
    ∃ found, search place neighbors fuel waiting visited component = some found := by
  induction fuel generalizing waiting visited component with
  | zero =>
    cases waiting with
    | nil => exact ⟨_, rfl⟩
    | cons current waiting => simp at enough
  | succ fuel ih =>
    cases waiting with
    | nil => exact ⟨_, rfl⟩
    | cons current waiting =>
      obtain ⟨isNode, withinRest⟩ := forall_mem_cons.mp within
      rw [length_cons] at enough
      rw [search]
      split
      · apply ih _ withinRest
        omega
      · next fresh =>
        apply ih
        · intro node isPlaced
          rcases mem_append.mp ((places _ _).mem_iff.mp isPlaced) with isNeighbor | isWaiting
          · exact closed current isNode
              (mem_ascending.mp (mem_filter.mp isNeighbor).1)
          · exact withinRest node isWaiting
        · have isFresh : current ∈ nodes \ visited := Finset.mem_sdiff.mpr ⟨isNode, fresh⟩
          have taken : nodes \ insert current visited = (nodes \ visited).erase current := by
            rw [Finset.sdiff_insert]
          have counted := Finset.add_sum_erase _ (fun node => (neighbors node).card) isFresh
          have placed : ((ascending (neighbors current)).filter
              (· ∉ insert current visited)).length ≤ (neighbors current).card := by
            rw [← Finset.length_sort (· ≤ ·)]
            exact length_filter_le _ _
          rw [taken, (places _ _).length_eq, length_append]
          omega

/-- The part of a search from some roots that was done. -/
structure Searched (neighbors : α → Finset α) (roots : List α) (before : Finset α)
    (waiting : List α) (visited : Finset α) (component : List α) : Prop where
  visited_iff : ∀ node, node ∈ visited ↔ node ∈ before ∨ node ∈ component
  nodup : component.Nodup
  fresh : ∀ node ∈ component, node ∉ before
  connected : ∀ node ∈ component, ∃ root ∈ roots, Connected neighbors root node
  waits : ∀ node ∈ waiting, ∃ root ∈ roots, Connected neighbors root node
  followed : ∀ node ∈ component, ∀ neighbor ∈ neighbors node,
    neighbor ∈ visited ∨ neighbor ∈ waiting
  rooted : ∀ root ∈ roots, root ∈ visited ∨ root ∈ waiting

omit [LinearOrder α] in
theorem Searched.start (roots : List α) (before : Finset α) :
    Searched neighbors roots before roots before [] where
  visited_iff := by simp
  nodup := nodup_nil
  fresh := nofun
  connected := nofun
  waits node isRoot := ⟨node, isRoot, .refl⟩
  followed := nofun
  rooted _ isRoot := Or.inr isRoot

variable {roots : List α} {before visited : Finset α} {waiting component : List α}

omit [LinearOrder α] in
theorem Searched.skip {current : α}
    (searched : Searched neighbors roots before (current :: waiting) visited component)
    (known : current ∈ visited) : Searched neighbors roots before waiting visited component := by
  have still : ∀ node, node ∈ visited ∨ node ∈ current :: waiting →
      node ∈ visited ∨ node ∈ waiting := by
    rintro node (seen | isWaiting)
    · exact Or.inl seen
    · rcases mem_cons.mp isWaiting with rfl | isWaiting
      · exact Or.inl known
      · exact Or.inr isWaiting
  exact { searched with
    waits := (forall_mem_cons.mp searched.waits).2
    followed := fun node isNode neighbor isNeighbor =>
      still _ (searched.followed node isNode neighbor isNeighbor)
    rooted := fun root isRoot => still _ (searched.rooted root isRoot) }

include places in
theorem Searched.visit {current : α}
    (searched : Searched neighbors roots before (current :: waiting) visited component)
    (new : current ∉ visited) :
    Searched neighbors roots before
      (place ((ascending (neighbors current)).filter (· ∉ insert current visited)) waiting)
      (insert current visited) (component ++ [current]) := by
  have isPlaced : ∀ node, node ∈ place ((ascending (neighbors current)).filter
      (· ∉ insert current visited)) waiting ↔
        (node ∈ neighbors current ∧ node ∉ insert current visited) ∨ node ∈ waiting := by
    intro node
    rw [(places _ _).mem_iff, mem_append, mem_filter, mem_ascending, decide_eq_true_eq]
  have still : ∀ node, node ∈ visited ∨ node ∈ current :: waiting →
      node ∈ insert current visited ∨ node ∈ place ((ascending (neighbors current)).filter
        (· ∉ insert current visited)) waiting := by
    rintro node (seen | isWaiting)
    · exact Or.inl (Finset.mem_insert_of_mem seen)
    · rcases mem_cons.mp isWaiting with rfl | isWaiting
      · exact Or.inl (Finset.mem_insert_self _ _)
      · exact Or.inr ((isPlaced node).mpr (Or.inr isWaiting))
  obtain ⟨root, isRoot, leads⟩ := searched.waits current mem_cons_self
  constructor
  · intro node
    rw [Finset.mem_insert, searched.visited_iff, mem_append, mem_singleton]
    tauto
  · rw [nodup_append]
    refine ⟨searched.nodup, nodup_singleton _, fun node isNode other isOther => ?_⟩
    rw [mem_singleton.mp isOther]
    rintro rfl
    exact new ((searched.visited_iff _).mpr (Or.inr isNode))
  · intro node isNode
    rcases mem_append.mp isNode with inComponent | isCurrent
    · exact searched.fresh node inComponent
    · rw [mem_singleton.mp isCurrent]
      exact fun earlier => new ((searched.visited_iff _).mpr (Or.inl earlier))
  · intro node isNode
    rcases mem_append.mp isNode with inComponent | isCurrent
    · exact searched.connected node inComponent
    · rw [mem_singleton.mp isCurrent]
      exact ⟨root, isRoot, leads⟩
  · intro node isWaiting
    rcases (isPlaced node).mp isWaiting with ⟨isNeighbor, -⟩ | wasWaiting
    · exact ⟨root, isRoot, leads.tail isNeighbor⟩
    · exact searched.waits node (mem_cons_of_mem _ wasWaiting)
  · intro node isNode neighbor isNeighbor
    rcases mem_append.mp isNode with inComponent | isCurrent
    · exact still _ (searched.followed node inComponent neighbor isNeighbor)
    · rw [mem_singleton.mp isCurrent] at isNeighbor
      by_cases seen : neighbor ∈ insert current visited
      · exact Or.inl seen
      · exact Or.inr ((isPlaced neighbor).mpr (Or.inl ⟨isNeighbor, seen⟩))
  · exact fun root isRoot => still _ (searched.rooted root isRoot)

include places in
theorem Searched.run {fuel : Nat} {found : List α × Finset α}
    (searched : Searched neighbors roots before waiting visited component)
    (ran : search place neighbors fuel waiting visited component = some found) :
    Searched neighbors roots before [] found.2 found.1 := by
  induction fuel generalizing waiting visited component with
  | zero =>
    cases waiting with
    | nil =>
      cases ran
      exact searched
    | cons current waiting => cases ran
  | succ fuel ih =>
    cases waiting with
    | nil =>
      cases ran
      exact searched
    | cons current waiting =>
      rw [search] at ran
      split at ran
      · next known => exact ih (searched.skip known) ran
      · next new => exact ih (searched.visit places new) ran

omit [LinearOrder α] in
/-- From new roots a search collects what they are connected to. -/
theorem Searched.mem_iff
    (isolated : ∀ node, ∀ neighbor ∈ neighbors node, neighbor ∈ before → node ∈ before)
    (new : ∀ root ∈ roots, root ∉ before)
    (searched : Searched neighbors roots before [] visited component) (node : α) :
    node ∈ component ↔ ∃ root ∈ roots, Connected neighbors root node := by
  constructor
  · exact searched.connected node
  · rintro ⟨root, isRoot, connected⟩
    induction connected with
    | refl =>
      rcases searched.rooted root isRoot with seen | impossible
      · exact ((searched.visited_iff root).mp seen).resolve_left (new root isRoot)
      · exact absurd impossible not_mem_nil
    | tail _ isNeighbor inComponent =>
      rcases searched.followed _ inComponent _ isNeighbor with seen | impossible
      · refine ((searched.visited_iff _).mp seen).resolve_left fun earlier => ?_
        exact searched.fresh _ inComponent (isolated _ _ isNeighbor earlier)
      · exact absurd impossible not_mem_nil

end Search

end Searching

/-! ## Forests of parents -/

namespace Forest

variable {α : Type} {parent root : α → α}

/-- A path of links from a node to its root. -/
inductive Reaches (parent : α → α) : Nat → α → α → Prop where
  | root {node : α} : parent node = node → Reaches parent 0 node node
  | link {node root : α} {links : Nat} :
      parent node ≠ node → Reaches parent links (parent node) root →
      Reaches parent (links + 1) node root

theorem Reaches.unique {links others : Nat} {node first second : α}
    (reaches : Reaches parent links node first) (again : Reaches parent others node second) :
    links = others ∧ first = second := by
  induction reaches generalizing others with
  | root isRoot =>
    cases again with
    | root => exact ⟨rfl, rfl⟩
    | link moves => exact absurd isRoot moves
  | link moves _ ih =>
    cases again with
    | root isRoot => exact absurd isRoot moves
    | link _ above => exact ⟨congrArg (· + 1) (ih above).1, (ih above).2⟩

/-- No node comes twice on a path. -/
theorem Reaches.exists_path {links : Nat} {node root : α}
    (reaches : Reaches parent links node root) :
    ∃ path : List α, path.length = links ∧ path.Nodup ∧
      ∀ passed ∈ path, parent passed ≠ passed ∧
        ∃ left ≤ links, Reaches parent left passed root := by
  induction reaches with
  | root => exact ⟨[], rfl, .nil, by simp⟩
  | @link node root links moves above ih =>
    obtain ⟨path, isLength, nodup, each⟩ := ih
    refine ⟨node :: path, by simp [isLength], nodup_cons.mpr ⟨?_, nodup⟩, ?_⟩
    · intro again
      obtain ⟨left, below, reaches⟩ := (each node again).2
      have same := (reaches.unique (.link moves above)).1
      omega
    · intro passed isPassed
      cases mem_cons.mp isPassed with
      | inl isNode => exact isNode ▸ ⟨moves, _, Nat.le_refl _, .link moves above⟩
      | inr isAbove =>
        obtain ⟨goes, left, below, reaches⟩ := each passed isAbove
        exact ⟨goes, left, Nat.le_succ_of_le below, reaches⟩

theorem Reaches.le_length {links : Nat} {node root : α} (reaches : Reaches parent links node root)
    {nodes : List α} (all : ∀ node, parent node ≠ node → node ∈ nodes) : links ≤ nodes.length := by
  obtain ⟨path, isLength, nodup, each⟩ := reaches.exists_path
  have within : path ⊆ nodes := fun passed isPassed => all passed (each passed isPassed).1
  exact isLength ▸ (subperm_of_subset nodup within).length_le

/-- The root of every node. -/
def Rooted (parent root : α → α) : Prop := ∀ node, ∃ links, Reaches parent links node (root node)

namespace Rooted

variable (rooted : Rooted parent root)
include rooted

theorem root_eq {links : Nat} {node top : α} (reaches : Reaches parent links node top) :
    root node = top := by
  obtain ⟨_, isRoot⟩ := rooted node
  exact (isRoot.unique reaches).2

theorem root_of_isRoot {node : α} (isRoot : parent node = node) : root node = node :=
  rooted.root_eq (.root isRoot)

theorem isRoot_root (node : α) : parent (root node) = root node := by
  obtain ⟨links, reaches⟩ := rooted node
  generalize root node = top at reaches
  induction reaches with
  | root isRoot => exact isRoot
  | link _ _ ih => exact ih

/-- Path compression. -/
theorem compress [DecidableEq α] {node : α} (moves : root node ≠ node) :
    Rooted (Function.update parent node (root node)) root := by
  intro other
  obtain ⟨links, reaches⟩ := rooted other
  generalize root other = top at reaches
  induction reaches with
  | @root other isRoot =>
    refine ⟨0, .root ?_⟩
    have different : other ≠ node := by
      rintro rfl
      exact moves (rooted.root_of_isRoot isRoot)
    rw [Function.update_of_ne different, isRoot]
  | @link other top links goes above ih =>
    by_cases same : other = node
    · subst same
      have isTop := rooted.root_eq (.link goes above)
      have ends := rooted.isRoot_root other
      rw [isTop] at ends moves ⊢
      refine ⟨1, .link ?_ ?_⟩
      · rwa [Function.update_self]
      · rw [Function.update_self]
        exact .root (by rw [Function.update_of_ne moves, ends])
    · obtain ⟨left, still⟩ := ih
      refine ⟨left + 1, .link ?_ ?_⟩
      · rwa [Function.update_of_ne same]
      · rwa [Function.update_of_ne same]

end Rooted

/-! ## Uniting parts -/

variable [DecidableEq α]

/-- The roots when the part of one node joins the part of another. -/
def merged (root : α → α) (left right : α) : α → α := fun node =>
  if root node = root right then root left else root node

theorem Rooted.link (rooted : Rooted parent root) {left right : α}
    (apart : root left ≠ root right) :
    Rooted (Function.update parent (root right) (root left)) (merged root left right) := by
  intro node
  obtain ⟨links, reaches⟩ := rooted node
  rw [merged]
  have leftRoot := rooted.isRoot_root left
  have rightRoot := rooted.isRoot_root right
  generalize root node = top at reaches
  induction reaches with
  | @root node isRoot =>
    split
    · next isRight =>
      refine ⟨1, .link ?_ ?_⟩
      · rwa [isRight, Function.update_self]
      · rw [isRight, Function.update_self]
        exact .root (by rw [Function.update_of_ne apart, leftRoot])
    · next notRight => exact ⟨0, .root (by rw [Function.update_of_ne notRight, isRoot])⟩
  | @link node top links moves above ih =>
    obtain ⟨left, still⟩ := ih
    have different : node ≠ root right := fun same => moves (by rw [same, rightRoot])
    refine ⟨left + 1, .link ?_ ?_⟩
    · rwa [Function.update_of_ne different]
    · rwa [Function.update_of_ne different]

theorem merged_pair (root : α → α) (left right : α) :
    merged root left right left = merged root left right right := by
  simp [merged]

/-- Only the two parts are united. -/
theorem linked_of_merged {pair : α × α} {rest : List (α × α)} {left right : α}
    (same : merged root pair.1 pair.2 left = merged root pair.1 pair.2 right) :
    Relation.EqvGen (fun left right => root left = root right ∨ (left, right) ∈ pair :: rest)
      left right := by
  have crosses {node other : α} (isRight : root node = root pair.2)
      (isLeft : root pair.1 = root other) :
      Relation.EqvGen (fun left right => root left = root right ∨ (left, right) ∈ pair :: rest)
        node other :=
    .trans _ _ _ (.rel _ _ (Or.inl isRight)) (.trans _ _ _
      (.symm _ _ (.rel _ _ (Or.inr mem_cons_self))) (.rel _ _ (Or.inl isLeft)))
  unfold merged at same
  split at same
  · next leftJoins =>
    split at same
    · next rightJoins => exact .rel _ _ (Or.inl (leftJoins.trans rightJoins.symm))
    · exact crosses leftJoins same
  · split at same
    · next rightJoins => exact .symm _ _ (crosses rightJoins same.symm)
    · exact .rel _ _ (Or.inl same)

/-- The roots after the parts of all pairs were united. -/
def joined (root : α → α) (pairs : List (α × α)) : α → α :=
  pairs.foldl (fun root pair => merged root pair.1 pair.2) root

theorem joined_eq_iff (root : α → α) (pairs : List (α × α)) (first second : α) :
    joined root pairs first = joined root pairs second ↔
      Relation.EqvGen (fun left right => root left = root right ∨ (left, right) ∈ pairs)
        first second := by
  induction pairs generalizing root with
  | nil =>
    simp only [joined, foldl_nil, not_mem_nil, or_false]
    exact (Equivalence.eqvGen_iff (r := fun left right => root left = root right)
      ⟨fun _ => rfl, Eq.symm, Eq.trans⟩).symm
  | cons pair rest ih =>
    rw [joined, foldl_cons, ← joined, ih]
    constructor
    · refine fun linked => Setoid.eqvGen_le (s := Relation.EqvGen.setoid _) ?_ linked
      intro left right either
      cases either with
      | inr isPair => exact .rel _ _ (Or.inr (mem_cons_of_mem _ isPair))
      | inl same => exact linked_of_merged same
    · refine fun linked => Setoid.eqvGen_le (s := Relation.EqvGen.setoid _) ?_ linked
      intro left right either
      rcases either with same | isPair
      · exact .rel _ _ (Or.inl (by simp only [merged, same]))
      · cases mem_cons.mp isPair with
        | inl isHead => exact .rel _ _ (Or.inl (isHead ▸ merged_pair root left right))
        | inr isRest => exact .rel _ _ (Or.inr isRest)

end Forest

end AutoLoop
