import AutoLoop.Foundation.Floats
import AutoLoop.Foundation.Table
import AutoLoop.Foundation.Text
import Mathlib.Data.Prod.Lex

/-!
# Normalised semantic edges

Of the edges with one source, target and relation, the one of the strongest type is kept,
and of these the most confident one.  What is kept depends on the set of edges only.
-/

namespace AutoLoop.GitmemoryCore

open List

structure SemanticEdge (F : Type) where
  fromNode : String
  toNode : String
  relation : String
  confidence : F
  edgeType : String

def canonicalEdgeType (edgeType : String) : String :=
  if Text.eqIgnoreAsciiCase edgeType "extracted" then "extracted"
  else if Text.eqIgnoreAsciiCase edgeType "inferred" then "inferred"
  else if Text.eqIgnoreAsciiCase edgeType "ambiguous" then "ambiguous"
  else "ambiguous"

def edgeTypePriority (edgeType : String) : Nat :=
  if canonicalEdgeType edgeType = "extracted" then 3
  else if canonicalEdgeType edgeType = "inferred" then 2
  else 1

/-- A source, a target and a relation. -/
abbrev EdgeKey := String ×ₗ String ×ₗ String

def SemanticEdge.key {F : Type} (edge : SemanticEdge F) : EdgeKey :=
  toLex (edge.fromNode, toLex (edge.toNode, edge.relation))

def SemanticEdge.canonical {F : Type} (edge : SemanticEdge F) : SemanticEdge F :=
  { edge with edgeType := canonicalEdgeType edge.edgeType }

section Model

variable {F : Type} [FloatOps F]

def confidenceThreshold (edgeType : String) : F :=
  if canonicalEdgeType edgeType = "extracted" then 0.55
  else if canonicalEdgeType edgeType = "inferred" then 0.70
  else 0.85

section
variable (best : Table EdgeKey (SemanticEdge F)) (edge : SemanticEdge F)

/-- An edge of a canonical type takes the place of a weaker one. -/
def offerEdge :
    Table EdgeKey (SemanticEdge F) :=
  match best.get edge.key with
  | some existing =>
    if edgeTypePriority existing.edgeType > edgeTypePriority edge.edgeType ∨
        (edgeTypePriority existing.edgeType = edgeTypePriority edge.edgeType ∧
          existing.confidence ≥ edge.confidence) then best
    else best.insert edge.key edge
  | none => best.insert edge.key edge

def keepBest :
    Table EdgeKey (SemanticEdge F) :=
  let edge := edge.canonical
  if edge.confidence < confidenceThreshold edge.edgeType then best else offerEdge best edge

end

def compareEdges (left right : SemanticEdge F) : Ordering :=
  (compare left.fromNode right.fromNode).then ((compare left.toNode right.toNode).then
    ((compare left.relation right.relation).then
      ((FloatOps.totalCmp right.confidence left.confidence).then
        (compare left.edgeType right.edgeType))))

section
variable (edges : List (SemanticEdge F))

def normalizeSemanticEdges : List (SemanticEdge F) :=
  sortBy compareEdges ((edges.foldl keepBest Table.empty).rows.map (·.2))

def eligible : List (SemanticEdge F) :=
  (edges.map SemanticEdge.canonical).filter fun edge =>
    ¬edge.confidence < confidenceThreshold edge.edgeType

theorem foldl_keepBest (best : Table EdgeKey (SemanticEdge F)) :
    edges.foldl keepBest best = (eligible edges).foldl offerEdge best := by
  induction edges generalizing best with
  | nil => rfl
  | cons edge rest ih =>
    rw [foldl_cons, ih, keepBest]
    simp only [eligible, map_cons, filter_cons]
    by_cases below : edge.canonical.confidence < confidenceThreshold edge.canonical.edgeType
    · simp [below]
    · simp [below]

end

end Model

/-! ## Types of edges -/

theorem canonicalEdgeType_cases (edgeType : String) :
    canonicalEdgeType edgeType = "extracted" ∨ canonicalEdgeType edgeType = "inferred" ∨
      canonicalEdgeType edgeType = "ambiguous" := by
  unfold canonicalEdgeType
  split_ifs <;> simp

theorem canonicalEdgeType_idem (edgeType : String) :
    canonicalEdgeType (canonicalEdgeType edgeType) = canonicalEdgeType edgeType := by
  obtain same | same | same := canonicalEdgeType_cases edgeType <;> rw [same] <;> decide

theorem canonicalEdgeType_of_priority {edgeType other : String}
    (same : edgeTypePriority edgeType = edgeTypePriority other) :
    canonicalEdgeType edgeType = canonicalEdgeType other := by
  unfold edgeTypePriority at same
  obtain first | first | first := canonicalEdgeType_cases edgeType <;>
    obtain second | second | second := canonicalEdgeType_cases other <;>
      simp_all

/-! ## The best edge of a key -/

section Best

variable {F : Type} [OrderedFloats F] {edges offered : List (SemanticEdge F)}
  {edge other : SemanticEdge F}

def SemanticEdge.NoBetter (other edge : SemanticEdge F) : Prop :=
  edgeTypePriority other.edgeType < edgeTypePriority edge.edgeType ∨
    edgeTypePriority other.edgeType = edgeTypePriority edge.edgeType ∧
      other.confidence ≤ edge.confidence

structure Best (offered : List (SemanticEdge F)) (edge : SemanticEdge F) : Prop where
  member : edge ∈ offered
  strongest : ∀ other ∈ offered, other.key = edge.key → other.NoBetter edge

theorem SemanticEdge.NoBetter.trans {first second third : SemanticEdge F}
    (one : first.NoBetter second) (two : second.NoBetter third) : first.NoBetter third := by
  obtain below | ⟨tied, confident⟩ := one
  · exact Or.inl (two.elim below.trans fun tied => tied.1 ▸ below)
  · obtain above | ⟨again, more⟩ := two
    · exact Or.inl (tied ▸ above)
    · exact Or.inr ⟨tied.trans again, confident.trans more⟩

theorem Best.unique (canonical : ∀ edge ∈ offered, edge.canonical = edge) (best : Best offered edge)
    (otherBest : Best offered other) (sameKey : other.key = edge.key) : other = edge := by
  have below := best.strongest other otherBest.member sameKey
  have above := otherBest.strongest edge best.member sameKey.symm
  have tied : edgeTypePriority other.edgeType = edgeTypePriority edge.edgeType ∧
      other.confidence = edge.confidence := by
    obtain below | ⟨tied, confident⟩ := below
    · obtain above | ⟨again, -⟩ := above <;> omega
    · obtain above | ⟨-, more⟩ := above
      · omega
      · exact ⟨tied, le_antisymm confident more⟩
  have sameType := canonicalEdgeType_of_priority tied.1
  rw [← canonical edge best.member, ← canonical other otherBest.member]
  cases edge
  cases other
  simp only [SemanticEdge.key, EmbeddingLike.apply_eq_iff_eq, Prod.mk.injEq] at sameKey
  obtain ⟨rfl, rfl, rfl⟩ := sameKey
  simp only at tied sameType
  simp only [SemanticEdge.canonical, tied.2, sameType]

structure HoldsBest (offered : List (SemanticEdge F))
    (table : Table EdgeKey (SemanticEdge F)) : Prop where
  best : ∀ key edge, table.get key = some edge → edge.key = key ∧ Best offered edge
  held : ∀ edge ∈ offered, ∃ kept, table.get edge.key = some kept

theorem HoldsBest.step {table : Table EdgeKey (SemanticEdge F)}
    (holds : HoldsBest offered table) (edge : SemanticEdge F) :
    HoldsBest (offered ++ [edge]) (offerEdge table edge) := by
  -- an edge that is best before stays so unless the new one shares its key
  have extend : ∀ kept, Best offered kept → (edge.key = kept.key → edge.NoBetter kept) →
      Best (offered ++ [edge]) kept := by
    refine fun kept was no_better => ⟨mem_append_left _ was.member, ?_⟩
    intro other membership
    obtain old | new := mem_append.mp membership
    · exact was.strongest other old
    · exact mem_singleton.mp new ▸ no_better
  have replaced : (∀ other ∈ offered, other.key = edge.key → other.NoBetter edge) →
      HoldsBest (offered ++ [edge]) (table.insert edge.key edge) := by
    intro no_better
    refine ⟨?_, ?_⟩
    · intro key kept found
      rw [Table.get_insert] at found
      split at found
      · next isKey =>
        obtain rfl := Option.some.inj found
        refine ⟨isKey.symm, by simp, ?_⟩
        intro other membership
        obtain old | new := mem_append.mp membership
        · exact no_better other old
        · exact fun _ => Or.inr (by simp [mem_singleton.mp new])
      · next apart =>
        obtain ⟨rfl, was⟩ := holds.best key kept found
        exact ⟨rfl, extend kept was fun same => absurd same.symm apart⟩
    · intro other membership
      rw [Table.get_insert]
      split
      · exact ⟨edge, rfl⟩
      · next apart =>
        obtain old | new := mem_append.mp membership
        · exact holds.held other old
        · exact absurd (congrArg SemanticEdge.key (mem_singleton.mp new)) apart
  unfold offerEdge
  split
  · next existing found =>
    have existingBest := holds.best _ _ found
    split
    · next stronger =>
      have no_better : edge.NoBetter existing := stronger.imp id fun tied => ⟨tied.1.symm, tied.2⟩
      refine ⟨?_, ?_⟩
      · intro key kept isKept
        obtain ⟨rfl, was⟩ := holds.best key kept isKept
        refine ⟨rfl, extend kept was fun same => ?_⟩
        rw [← same, found] at isKept
        exact Option.some.inj isKept ▸ no_better
      · intro other membership
        obtain old | new := mem_append.mp membership
        · exact holds.held other old
        · exact ⟨existing, mem_singleton.mp new ▸ found⟩
    · next weaker =>
      have no_better : existing.NoBetter edge := by
        rw [not_or, not_and, not_lt] at weaker
        obtain below | tied := weaker.1.lt_or_eq
        · exact Or.inl below
        · exact Or.inr ⟨tied, (not_le.mp (weaker.2 tied)).le⟩
      exact replaced fun other old same =>
        (existingBest.2.strongest other old (same.trans existingBest.1.symm)).trans no_better
  · next missing =>
    refine replaced fun other old same => ?_
    obtain ⟨kept, isKept⟩ := holds.held other old
    rw [same, missing] at isKept
    cases isKept

theorem holdsBest_foldl (offered : List (SemanticEdge F)) :
    HoldsBest offered (offered.foldl offerEdge Table.empty) := by
  induction offered using List.reverseRecOn with
  | nil => exact ⟨by simp, by simp⟩
  | append_singleton rest edge ih =>
    rw [foldl_append]
    exact ih.step edge

theorem canonical_of_eligible (membership : edge ∈ eligible edges) :
    edge.canonical = edge := by
  obtain ⟨raw, -, rfl⟩ := mem_map.mp (mem_filter.mp membership).1
  simp [SemanticEdge.canonical, canonicalEdgeType_idem]

theorem get_foldl_keepBest {key : EdgeKey} :
    (edges.foldl keepBest Table.empty).get key = some edge ↔
      edge.key = key ∧ Best (eligible edges) edge := by
  rw [foldl_keepBest]
  have holds := holdsBest_foldl (eligible edges)
  refine ⟨holds.best key edge, ?_⟩
  rintro ⟨rfl, best⟩
  obtain ⟨kept, found⟩ := holds.held edge best.member
  obtain ⟨sameKey, keptBest⟩ := holds.best _ _ found
  rwa [best.unique (fun _ => canonical_of_eligible) keptBest sameKey] at found

theorem mem_normalizeSemanticEdges :
    edge ∈ normalizeSemanticEdges edges ↔ Best (eligible edges) edge := by
  rw [normalizeSemanticEdges, sortBy, (mergeSort_perm _ _).mem_iff, mem_map]
  constructor
  · rintro ⟨⟨key, edge⟩, inRows, rfl⟩
    exact (get_foldl_keepBest.mp (Table.mem_rows_iff.mp inRows)).2
  · intro best
    exact ⟨(edge.key, edge), Table.mem_rows_iff.mpr (get_foldl_keepBest.mpr ⟨rfl, best⟩), rfl⟩

theorem normalizeSemanticEdges_congr {others : List (SemanticEdge F)}
    (same : ∀ edge, Best (eligible others) edge ↔ Best (eligible edges) edge) :
    normalizeSemanticEdges others = normalizeSemanticEdges edges := by
  rw [normalizeSemanticEdges, normalizeSemanticEdges]
  refine congrArg _ (congrArg _ (congrArg _ (Table.ext_get fun key => Option.ext fun edge => ?_)))
  rw [get_foldl_keepBest, get_foldl_keepBest, same]

theorem eligible_normalizeSemanticEdges :
    eligible (normalizeSemanticEdges edges) = normalizeSemanticEdges edges := by
  have known : ∀ edge ∈ normalizeSemanticEdges edges, edge ∈ eligible edges :=
    fun _ membership => (mem_normalizeSemanticEdges.mp membership).member
  have canonical : (normalizeSemanticEdges edges).map SemanticEdge.canonical =
      normalizeSemanticEdges edges :=
    (map_congr_left fun edge membership =>
      canonical_of_eligible (known edge membership)).trans (map_id _)
  rw [eligible, canonical, filter_eq_self]
  exact fun edge membership => (mem_filter.mp (known edge membership)).2

theorem nodup_keys : ((normalizeSemanticEdges edges).map SemanticEdge.key).Nodup := by
  let best := edges.foldl keepBest Table.empty
  have keys : (best.rows.map (·.2)).map SemanticEdge.key = best.rows.map (·.1) := by
    rw [map_map]
    refine map_congr_left fun row membership => ?_
    exact (get_foldl_keepBest.mp (Table.mem_rows_iff.mp membership)).1
  refine ((mergeSort_perm _ _).map _).nodup_iff.mpr ?_
  rw [keys]
  exact (pairwise_map.mpr best.increasing).imp ne_of_lt

/-- Normalised edges are the best ones of their keys, one for each, whatever the order, and
are not changed again. -/
theorem normalizeSemanticEdges_canonical (edges : List (SemanticEdge F)) :
    normalizeSemanticEdges (normalizeSemanticEdges edges) = normalizeSemanticEdges edges ∧
    (∀ others, others.Perm edges → normalizeSemanticEdges others = normalizeSemanticEdges edges) ∧
    ((normalizeSemanticEdges edges).map SemanticEdge.key).Nodup ∧
    (∀ edge, edge ∈ normalizeSemanticEdges edges ↔ Best (eligible edges) edge) ∧
    ∀ edge ∈ eligible edges, ∃ kept ∈ normalizeSemanticEdges edges, kept.key = edge.key := by
  refine ⟨?_, ?_, nodup_keys, fun _ => mem_normalizeSemanticEdges, ?_⟩
  · refine normalizeSemanticEdges_congr fun edge => ?_
    rw [eligible_normalizeSemanticEdges]
    refine ⟨fun best => mem_normalizeSemanticEdges.mp best.member, fun best => ?_⟩
    exact ⟨mem_normalizeSemanticEdges.mpr best, fun other membership =>
      best.strongest other (mem_normalizeSemanticEdges.mp membership).member⟩
  · intro others perm
    have same : ∀ edge, edge ∈ eligible others ↔ edge ∈ eligible edges :=
      fun _ => ((perm.map _).filter _).mem_iff
    refine normalizeSemanticEdges_congr fun edge => ?_
    exact ⟨fun best => ⟨(same _).mp best.member, fun other membership =>
        best.strongest other ((same _).mpr membership)⟩,
      fun best => ⟨(same _).mpr best.member, fun other membership =>
        best.strongest other ((same _).mp membership)⟩⟩
  · intro edge membership
    have holds := holdsBest_foldl (eligible edges)
    obtain ⟨kept, found⟩ := holds.held edge membership
    obtain ⟨sameKey, best⟩ := holds.best _ _ found
    exact ⟨kept, mem_normalizeSemanticEdges.mpr best, sameKey⟩

end Best

end AutoLoop.GitmemoryCore
