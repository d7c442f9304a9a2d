import AutoLoop.Foundation.Connectivity
import AutoLoop.Rag.ConfinementRuns

/-!
# Communities are connected components

The forest of parents has one root for each set of entities that relationships connect, so a
rebuild leaves one community for each of them.
-/

namespace AutoLoop.Rag

open List Forest

/-- The parent of a node, itself where none is stored. -/
def parentOf (parents : Parents) (node : Nat) : Nat := (parents.get node).getD node

theorem parentOf_insert (parents : Parents) (node root : Nat) :
    parentOf (parents.insert node root) = Function.update (parentOf parents) node root := by
  funext other
  simp only [parentOf, Table.get_insert, Function.update_apply]
  split
  · rfl
  · rfl

theorem mem_keys_of_moves {parents : Parents} {node : Nat} (moves : parentOf parents node ≠ node) :
    node ∈ parents.rows.map (·.1) := by
  cases found : parents.get node with
  | none => simp [parentOf, found] at moves
  | some parent => exact mem_map_of_mem (Table.mem_rows_iff.mpr found)

variable {parents : Parents} {root : Nat → Nat}

theorem findRoot_succ (fuel : Nat) (parents : Parents) (node : Nat) :
    findRoot (fuel + 1) parents node =
      if parentOf parents node = node then (node, parents)
      else
        ((findRoot fuel parents (parentOf parents node)).1,
          (findRoot fuel parents (parentOf parents node)).2.insert node
            (findRoot fuel parents (parentOf parents node)).1) :=
  rfl

/-- A search ends at the root, and its compression keeps every root. -/
theorem findRoot_of_reaches {links fuel node top : Nat} (within : links < fuel)
    (reaches : Reaches (parentOf parents) links node top)
    (rooted : Rooted (parentOf parents) root) :
    (findRoot fuel parents node).1 = top ∧
      Rooted (parentOf (findRoot fuel parents node).2) root := by
  induction reaches generalizing fuel with
  | root isRoot =>
    obtain ⟨fuel, rfl⟩ := Nat.exists_eq_succ_of_ne_zero (Nat.ne_zero_of_lt within)
    rw [findRoot_succ, if_pos isRoot]
    exact ⟨rfl, rooted⟩
  | @link node top links moves above ih =>
    obtain ⟨fuel, rfl⟩ := Nat.exists_eq_succ_of_ne_zero (Nat.ne_zero_of_lt within)
    obtain ⟨isTop, still⟩ := ih (Nat.lt_of_succ_lt_succ within)
    have isRoot := rooted.root_eq (.link moves above)
    have different : root node ≠ node := by
      intro same
      have ends := rooted.isRoot_root node
      rw [same] at ends
      exact moves ends
    rw [findRoot_succ, if_neg moves]
    refine ⟨isTop, ?_⟩
    rw [isTop, parentOf_insert, ← isRoot]
    exact still.compress different

theorem find_of_rooted (rooted : Rooted (parentOf parents) root) (node : Nat) :
    (find parents node).1 = root node ∧ Rooted (parentOf (find parents node).2) root := by
  obtain ⟨links, reaches⟩ := rooted node
  have short := reaches.le_length fun _ => mem_keys_of_moves
  rw [length_map] at short
  exact findRoot_of_reaches (Nat.lt_succ_of_le short) reaches rooted

theorem rooted_union (rooted : Rooted (parentOf parents) root) (left right : Nat) :
    Rooted (parentOf (union parents left right)) (merged root left right) := by
  obtain ⟨isLeft, searched⟩ := find_of_rooted rooted left
  obtain ⟨isRight, again⟩ := find_of_rooted searched right
  simp only [union, isLeft, isRight]
  split
  · next apart =>
    rw [parentOf_insert]
    exact again.link apart
  · next together =>
    have same : merged root left right = root := by
      funext node
      rw [merged, not_not.mp together]
      split
      · next isRoot => exact isRoot.symm
      · rfl
    rwa [same]

theorem rooted_unions (pairs : List (Nat × Nat × Nat)) (rooted : Rooted (parentOf parents) root) :
    Rooted (parentOf (pairs.foldl
      (fun parents (_, source, target) => union parents source target) parents))
      (joined root (pairs.map (·.2))) := by
  induction pairs generalizing parents root with
  | nil => exact rooted
  | cons pair rest ih => exact ih (rooted_union rooted pair.2.1 pair.2.2)

theorem rooted_singletons (ids : List Nat) :
    Rooted (parentOf (ids.foldl (fun parents id => parents.insert id id) (.empty : Parents)))
      id := by
  suffices same : ∀ parents : Parents, parentOf parents = id →
      parentOf (ids.foldl (fun parents id => parents.insert id id) parents) = id by
    rw [same .empty rfl]
    exact fun node => ⟨0, .root rfl⟩
  induction ids with
  | nil => exact fun _ same => same
  | cons first rest ih =>
    intro parents same
    refine ih _ ?_
    rw [parentOf_insert, same]
    exact Function.update_eq_self first id

/-! ## Groups -/

variable {Item : Type} (node identifier : Item → Nat)

/-- The identifiers of the items below a root. -/
def below (root : Nat → Nat) (items : List Item) (top : Nat) : List Nat :=
  (items.filter fun item => root (node item) = top).map identifier

/-- Groups of items by their root, with a forest that has these roots. -/
structure Grouped (root : Nat → Nat) (items : List Item)
    (grouped : Table Nat (List Nat) × Parents) : Prop where
  groups : ∀ top, grouped.1.get top =
    if below node identifier root items top = [] then none
    else some (below node identifier root items top)
  forest : Rooted (parentOf grouped.2) root

variable {node identifier} {grouped : Table Nat (List Nat) × Parents} {earlier : List Item}

theorem Grouped.push (before : Grouped node identifier root earlier grouped) (item : Item) :
    Grouped node identifier root (earlier ++ [item])
      (pushTo grouped.1 (find grouped.2 (node item)).1 (identifier item),
        (find grouped.2 (node item)).2) := by
  obtain ⟨isRoot, searched⟩ := find_of_rooted before.forest (node item)
  refine ⟨fun top => ?_, searched⟩
  have grown : below node identifier root (earlier ++ [item]) top =
      below node identifier root earlier top ++
        if root (node item) = top then [identifier item] else [] := by
    simp only [below, filter_append, map_append, filter_cons, filter_nil, decide_eq_true_eq]
    split
    · rfl
    · rfl
  rw [pushTo, isRoot, Table.get_insert, grown, before.groups, before.groups]
  by_cases same : top = root (node item)
  · subst same
    simp only [if_true]
    split
    · next none => simp [none]
    · simp
  · rw [if_neg same, if_neg (Ne.symm same), append_nil]

variable (node identifier) in
theorem groupBy_of_rooted (items : List Item) (rooted : Rooted (parentOf parents) root) :
    Grouped node identifier root items (groupBy node identifier items parents) := by
  rw [groupBy]
  induction items using reverseRecOn with
  | nil => exact ⟨fun _ => rfl, rooted⟩
  | append_singleton items item ih =>
    rw [foldl_append]
    exact ih.push item

/-! ## Communities -/

def rootBy (relationships : List (Nat × Nat × Nat)) : Nat → Nat :=
  joined id (relationships.map (·.2))

/-- One community for each root that entities have. -/
theorem buildCommunities_eq (entityIds : List Nat) (relationships : List (Nat × Nat × Nat)) :
    ∃ tops : List Nat, tops.Nodup ∧
      (∀ top, top ∈ tops ↔ below id id (rootBy relationships) entityIds top ≠ []) ∧
      buildCommunities entityIds relationships = tops.map fun top =>
        (below id id (rootBy relationships) entityIds top,
          below (·.2.1) (·.1) (rootBy relationships) relationships top) := by
  have forest : Rooted _ (rootBy relationships) :=
    rooted_unions relationships (rooted_singletons entityIds)
  obtain ⟨entities, searched⟩ := groupBy_of_rooted id id entityIds forest
  obtain ⟨related, -⟩ := groupBy_of_rooted (·.2.1) (·.1) relationships searched
  unfold buildCommunities
  simp only
  generalize groupBy id id entityIds _ = entityGroups at entities related
  refine ⟨entityGroups.1.rows.map (·.1), ?_, ?_, ?_⟩
  · exact (pairwise_map.mpr entityGroups.1.increasing).imp ne_of_lt
  · intro top
    have stored := entities top
    constructor
    · intro isTop none
      obtain ⟨⟨_, members⟩, isRow, rfl⟩ := mem_map.mp isTop
      rw [Table.mem_rows_iff.mp isRow, if_pos none] at stored
      cases stored
    · intro some
      rw [if_neg some] at stored
      exact mem_map_of_mem (Table.mem_rows_iff.mpr stored)
  · rw [map_map]
    refine map_congr_left fun row isRow => ?_
    have stored := entities row.1
    rw [Table.mem_rows_iff.mp isRow] at stored
    split at stored
    · cases stored
    · simp only [Function.comp_apply, related]
      refine Prod.ext (Option.some.inj stored) ?_
      split
      · next none => exact none.symm
      · rfl

namespace GraphModule

/-- Entities that relationships of a document connect. -/
def Linked (graph : GraphModule) (documentId : Nat) : Nat → Nat → Prop :=
  Relation.EqvGen fun source target => ∃ relationship ∈ graph.relationshipsOf documentId,
    relationship.sourceEntityId = source ∧ relationship.targetEntityId = target

/-- Communities of a document that are the connected components of its entities, each with
the relationships between its members. -/
structure Components (graph : GraphModule) (documentId : Nat)
    (communities : List CommunityRecord) : Prop where
  covered : ∀ id ∈ graph.mentionedIn documentId, ∃ community ∈ communities,
    id ∈ community.memberEntityIds
  nonempty : ∀ community ∈ communities, community.memberEntityIds ≠ []
  apart : communities.Pairwise fun first second =>
    first.memberEntityIds.Disjoint second.memberEntityIds
  connected : ∀ community ∈ communities, ∀ member ∈ community.memberEntityIds, ∀ id,
    id ∈ community.memberEntityIds ↔
      id ∈ graph.mentionedIn documentId ∧ graph.Linked documentId member id
  related : ∀ community ∈ communities, ∀ member ∈ community.memberEntityIds, ∀ id,
    id ∈ community.relationshipIds ↔ ∃ relationship ∈ graph.relationshipsOf documentId,
      relationship.id = id ∧ graph.Linked documentId member relationship.sourceEntityId

variable (graph : GraphModule) (documentId : Nat)

def endpointsOf : List (Nat × Nat × Nat) :=
  (graph.relationshipsOf documentId).map fun relationship =>
    (relationship.id, relationship.sourceEntityId, relationship.targetEntityId)

theorem rootBy_eq_iff (first second : Nat) :
    rootBy (graph.endpointsOf documentId) first = rootBy (graph.endpointsOf documentId) second ↔
      graph.Linked documentId first second := by
  rw [rootBy, joined_eq_iff, Linked]
  constructor
  · refine fun linked => Setoid.eqvGen_le (s := Relation.EqvGen.setoid _) ?_ linked
    intro left right either
    cases either with
    | inl same => exact (show left = right from same) ▸ .refl _
    | inr isPair =>
      refine .rel _ _ ?_
      simpa [endpointsOf] using isPair
  · refine fun linked => Relation.EqvGen.mono ?_ _ _ linked
    exact fun left right related => Or.inr (by simpa [endpointsOf] using related)

/-- The members and relationships of the stored communities of a document. -/
def storedParts : List (List Nat × List Nat) :=
  (graph.communities.filter (·.documentId = documentId)).map fun community =>
    (community.memberEntityIds, community.relationshipIds)

theorem storedParts_rebuild :
    (graph.rebuildCommunities documentId).2.storedParts documentId =
      graph.communityParts documentId := by
  have others : (graph.communities.filter (·.documentId ≠ documentId)).filter
      (·.documentId = documentId) = [] := by
    simp [filter_filter]
  rw [storedParts, rebuildCommunities, filter_append, others, nil_append,
    filter_eq_self.mpr ?_, map_map]
  · exact zipIdx_map_fst 0 _
  · intro community isNew
    obtain ⟨_, -, rfl⟩ := mem_map.mp isNew
    exact decide_eq_true rfl

/-- The part of the entities and relationships below a root. -/
def partBelow (top : Nat) : List Nat × List Nat :=
  (below id id (rootBy (graph.endpointsOf documentId)) (idSet (graph.mentionedIn documentId)) top,
    below (·.2.1) (·.1) (rootBy (graph.endpointsOf documentId)) (graph.endpointsOf documentId) top)

variable {graph documentId}

theorem mem_partBelow {top id : Nat} : id ∈ (graph.partBelow documentId top).1 ↔
    id ∈ graph.mentionedIn documentId ∧ rootBy (graph.endpointsOf documentId) id = top := by
  simp [partBelow, below]

theorem mem_partBelow_related {top id : Nat} : id ∈ (graph.partBelow documentId top).2 ↔
    ∃ relationship ∈ graph.relationshipsOf documentId, relationship.id = id ∧
      rootBy (graph.endpointsOf documentId) relationship.sourceEntityId = top := by
  simp only [partBelow, below, mem_map, mem_filter, decide_eq_true_eq]
  constructor
  · rintro ⟨triple, ⟨isTriple, isBelow⟩, rfl⟩
    obtain ⟨relationship, isOf, rfl⟩ := mem_map.mp isTriple
    exact ⟨relationship, isOf, rfl, isBelow⟩
  · rintro ⟨relationship, isOf, rfl, isBelow⟩
    exact ⟨_, ⟨mem_map_of_mem isOf, isBelow⟩, rfl⟩

/-- What is stored as the parts below the roots of the entities is their components. -/
theorem components_of_parts {communities : List CommunityRecord} {tops : List Nat}
    (nodup : tops.Nodup)
    (isTop : ∀ top, top ∈ tops ↔ (graph.partBelow documentId top).1 ≠ [])
    (stored : communities.map (fun community =>
      (community.memberEntityIds, community.relationshipIds)) =
        tops.map (graph.partBelow documentId)) :
    graph.Components documentId communities := by
  have below (community : CommunityRecord) (isStored : community ∈ communities) :
      ∃ top ∈ tops, (graph.partBelow documentId top).1 = community.memberEntityIds ∧
        (graph.partBelow documentId top).2 = community.relationshipIds := by
    obtain ⟨top, some, same⟩ := mem_map.mp (stored ▸ mem_map_of_mem isStored)
    exact ⟨top, some, congrArg Prod.fst same, congrArg Prod.snd same⟩
  refine ⟨?_, ?_, ?_, ?_, ?_⟩
  · intro id isMentioned
    have isMember := mem_partBelow.mpr ⟨isMentioned, rfl⟩
    have isPart := mem_map_of_mem (f := graph.partBelow documentId)
      ((isTop _).mpr (ne_nil_of_mem isMember))
    obtain ⟨community, isStored, same⟩ := mem_map.mp (stored ▸ isPart)
    exact ⟨community, isStored, by rwa [← same] at isMember⟩
  · intro community isStored
    obtain ⟨top, some, isPart, -⟩ := below community isStored
    exact isPart ▸ (isTop top).mp some
  · have apart : (communities.map fun community =>
        (community.memberEntityIds, community.relationshipIds)).Pairwise
          fun first second => first.1.Disjoint second.1 := by
      rw [stored]
      refine pairwise_map.mpr (nodup.imp fun different id isFirst isSecond => ?_)
      exact different ((mem_partBelow.mp isFirst).2.symm.trans (mem_partBelow.mp isSecond).2)
    exact (pairwise_map.mp apart).imp fun disjoint => disjoint
  · intro community isStored member isMember id
    obtain ⟨top, -, isPart, -⟩ := below community isStored
    rw [← isPart] at isMember ⊢
    rw [mem_partBelow, ← rootBy_eq_iff, (mem_partBelow.mp isMember).2, eq_comm (a := top)]
  · intro community isStored member isMember id
    obtain ⟨top, -, isPart, isRelated⟩ := below community isStored
    rw [← isPart] at isMember
    rw [← isRelated, mem_partBelow_related]
    simp only [← rootBy_eq_iff, (mem_partBelow.mp isMember).2, eq_comm (a := top)]

theorem components_rebuild (graph : GraphModule) (documentId : Nat) :
    graph.Components documentId ((graph.rebuildCommunities documentId).2.communities.filter
      (·.documentId = documentId)) := by
  obtain ⟨tops, nodup, isTop, isBuilt⟩ := buildCommunities_eq
    (idSet (graph.mentionedIn documentId)) (graph.endpointsOf documentId)
  refine components_of_parts nodup isTop ?_
  have stored := graph.storedParts_rebuild documentId
  rw [communityParts, ← endpointsOf, isBuilt, filter_eq_self.mpr] at stored
  · exact stored
  · intro parts isPart
    obtain ⟨top, some, rfl⟩ := mem_map.mp isPart
    exact decide_eq_true ((isTop top).mp some)

/-- A rebuild leaves the connected components of the entities of a document, and another one
leaves the same ones. -/
theorem rebuild_components (graph : GraphModule) (documentId : Nat) :
    graph.Components documentId ((graph.rebuildCommunities documentId).2.communities.filter
      (·.documentId = documentId)) ∧
    ((graph.rebuildCommunities documentId).2.rebuildCommunities documentId).2.storedParts
      documentId = (graph.rebuildCommunities documentId).2.storedParts documentId :=
  ⟨graph.components_rebuild documentId, by rw [storedParts_rebuild, storedParts_rebuild]; rfl⟩

/-! ## Relationships lie in communities -/

/-- The document of a relationship mentions its endpoints. -/
def EndpointsMentioned (graph : GraphModule) : Prop :=
  ∀ relationship ∈ graph.relationships,
    graph.Mentions relationship.documentId relationship.sourceEntityId ∧
      graph.Mentions relationship.documentId relationship.targetEntityId

variable {later : GraphModule} {chunkId : Nat}

theorem Mentions.isMentioned {id : Nat} (mentions : graph.Mentions documentId id) :
    id ∈ graph.mentionedIn documentId := by
  obtain ⟨mention, isMention, ofDocument, rfl⟩ := mentions
  exact mem_dedup.mpr (mem_map_of_mem (mem_filter.mpr ⟨isMention, decide_eq_true ofDocument⟩))

theorem Mentions.extended {id : Nat} (mentions : graph.Mentions documentId id)
    (extended : Extended graph later) : later.Mentions documentId id := by
  obtain ⟨mention, isMention, isOf⟩ := mentions
  exact ⟨mention, extended.mentions mention isMention, isOf⟩

theorem EndpointsMentioned.extended (endpoints : graph.EndpointsMentioned)
    (extended : Extended graph later)
    (places : ∀ relationship ∈ later.relationships, ∃ old ∈ graph.relationships,
      relationship.documentId = old.documentId ∧
        relationship.sourceEntityId = old.sourceEntityId ∧
        relationship.targetEntityId = old.targetEntityId) : later.EndpointsMentioned := by
  intro relationship isRelationship
  obtain ⟨old, isOld, ofDocument, isSource, isTarget⟩ := places relationship isRelationship
  rw [ofDocument, isSource, isTarget]
  exact ⟨(endpoints old isOld).1.extended extended, (endpoints old isOld).2.extended extended⟩

theorem mentions_insertMention (graph : GraphModule) (documentId chunkId id : Nat)
    (surface : String) :
    (graph.insertMention documentId chunkId id surface).Mentions documentId id := by
  unfold insertMention
  split
  · next known =>
    obtain ⟨mention, isMention, fields⟩ := any_eq_true.mp known
    simp only [Bool.and_eq_true, decide_eq_true_eq] at fields
    exact ⟨mention, isMention, fields.1.1.1, fields.1.2⟩
  · exact ⟨_, mem_append_right _ (mem_singleton_self _), rfl, rfl⟩

/-- The names of a chunk are of mentioned entities. -/
structure Located (documentId : Nat) (attaching : Attaching) : Prop where
  names : ∀ key id, attaching.entityNameToId.get key = some id →
    attaching.graph.Mentions documentId id
  endpoints : attaching.graph.EndpointsMentioned

theorem relationships_upsertEntity (graph : GraphModule) (documentId : Nat)
    (entity : ExtractedEntity) :
    (graph.upsertEntity documentId entity).2.relationships = graph.relationships := by
  unfold upsertEntity
  split
  · rfl
  · rfl

theorem Located.attachEntity {attaching : Attaching} (located : Located documentId attaching)
    (entity : ExtractedEntity) :
    Located documentId (attachEntity documentId chunkId attaching entity) := by
  have extended : Extended attaching.graph
      (GraphModule.attachEntity documentId chunkId attaching entity).graph :=
    (extended_upsertEntity _ _ _).trans (extended_insertMention _ _ _ _ _)
  constructor
  · intro key id isId
    rw [GraphModule.attachEntity, Table.get_insert] at isId
    split at isId
    · cases isId
      exact mentions_insertMention _ _ _ _ _
    · exact (located.names key id isId).extended extended
  · refine located.endpoints.extended extended fun relationship isRelationship =>
      ⟨relationship, ?_, rfl, rfl, rfl⟩
    rwa [graph_attachEntity, afterEntity, relationships_insertMention,
      relationships_upsertEntity] at isRelationship

theorem Located.attachRelationship {attaching : Attaching}
    (located : Located documentId attaching) (relationship : ExtractedRelationship) :
    Located documentId (attachRelationship documentId chunkId attaching relationship) := by
  unfold GraphModule.attachRelationship
  split
  · next source target isSource isTarget =>
    split
    · exact located
    · have extended := extended_upsertRelationship attaching.graph documentId source target
        relationship.relationType chunkId relationship.description
      refine ⟨fun key id isId => (located.names key id isId).extended extended, ?_⟩
      intro stored isStored
      have placed : (∃ old ∈ attaching.graph.relationships,
          stored.documentId = old.documentId ∧ stored.sourceEntityId = old.sourceEntityId ∧
            stored.targetEntityId = old.targetEntityId) ∨
          (stored.documentId = documentId ∧ stored.sourceEntityId = source ∧
            stored.targetEntityId = target) := by
        simp only [upsertRelationship] at isStored
        split at isStored
        · obtain ⟨old, isOld, shape⟩ := exists_of_mem_modifyFirst isStored
          cases shape with
          | inl same => exact Or.inl ⟨old, isOld, same ▸ ⟨rfl, rfl, rfl⟩⟩
          | inr changed => exact Or.inl ⟨old, isOld, changed ▸ ⟨rfl, rfl, rfl⟩⟩
        · cases mem_append.mp isStored with
          | inl isOld => exact Or.inl ⟨stored, isOld, rfl, rfl, rfl⟩
          | inr isNew => exact Or.inr (mem_singleton.mp isNew ▸ ⟨rfl, rfl, rfl⟩)
      cases placed with
      | inl known =>
        obtain ⟨old, isOld, ofDocument, sameSource, sameTarget⟩ := known
        obtain ⟨oldSource, oldTarget⟩ := located.endpoints old isOld
        rw [ofDocument, sameSource, sameTarget]
        exact ⟨oldSource.extended extended, oldTarget.extended extended⟩
      | inr new =>
        rw [new.1, new.2.1, new.2.2]
        exact ⟨(located.names _ _ isSource).extended extended,
          (located.names _ _ isTarget).extended extended⟩
  · exact located

theorem endpointsMentioned_attach (endpoints : graph.EndpointsMentioned)
    (documentId chunkId : Nat) (extracted : ExtractedChunkGraph) :
    (graph.attachChunkGraph documentId chunkId extracted).2.EndpointsMentioned := by
  have entities : ∀ (entities : List ExtractedEntity) (attaching : Attaching),
      Located documentId attaching → Located documentId
        (entities.foldl (GraphModule.attachEntity documentId chunkId) attaching) := by
    intro entities
    induction entities with
    | nil => exact fun _ => id
    | cons entity rest ih => exact fun attaching located => ih _ (located.attachEntity entity)
  have relationships : ∀ (relationships : List ExtractedRelationship) (attaching : Attaching),
      Located documentId attaching → Located documentId
        (relationships.foldl (GraphModule.attachRelationship documentId chunkId) attaching) := by
    intro relationships
    induction relationships with
    | nil => exact fun _ => id
    | cons one rest ih => exact fun attaching located => ih _ (located.attachRelationship one)
  have located := relationships extracted.relationships _
    (entities extracted.entities ⟨graph, .empty, [], []⟩ ⟨nofun, endpoints⟩)
  have weighted := extended_recompute (graph.attachFacts documentId chunkId extracted).graph
    documentId
  refine located.endpoints.extended
    ⟨weighted.communities, weighted.next, weighted.mentions, weighted.relationships⟩ ?_
  intro relationship isRelationship
  obtain ⟨old, isOld, rfl⟩ := mem_map.mp isRelationship
  refine ⟨old, isOld, ?_⟩
  split
  · exact ⟨rfl, rfl, rfl⟩
  · exact ⟨rfl, rfl, rfl⟩

theorem endpointsMentioned_ingestChunks (chunks : List ChunkRecord) (documentId : Nat)
    (collected : List Nat × List Nat × GraphModule) (kept : collected.2.2.EndpointsMentioned) :
    (chunks.foldl (ingestChunk documentId) collected).2.2.EndpointsMentioned := by
  induction chunks generalizing collected with
  | nil => exact kept
  | cons chunk rest ih => exact ih _ (endpointsMentioned_attach kept _ _ _)

theorem endpointsMentioned_rebuild (endpoints : graph.EndpointsMentioned) (documentId : Nat) :
    ((graph.rebuildCommunities documentId).2.updateDocumentStats documentId).EndpointsMentioned :=
  endpoints

theorem endpointsMentioned_step (endpoints : graph.EndpointsMentioned) (call : GraphCall) :
    (knowledgeGraph.step graph call).2.EndpointsMentioned := by
  cases call with
  | attachChunk documentId chunkId extracted =>
    exact endpointsMentioned_attach endpoints documentId chunkId extracted
  | rebuildCommunities documentId => exact endpoints
  | ingestDocument context title sourceUri rawText chunkSize overlap =>
    have attached := endpointsMentioned_ingestChunks
      (graph.withChunks context title sourceUri rawText chunkSize overlap).1
      (graph.nextDocumentId + 1)
      ([], [], (graph.withChunks context title sourceUri rawText chunkSize overlap).2) endpoints
    exact endpointsMentioned_rebuild attached _

theorem endpointsMentioned_run (calls : List GraphCall) :
    (knowledgeGraph.run .empty calls).2.EndpointsMentioned :=
  Component.Always.run
    (.of_step nofun (fun _ call kept => endpointsMentioned_step kept call) calls)

/-- In every graph that calls reach, ids and names are unique, all references resolve, weights are
exact, and what a community has and a relationship connects is of its document. -/
theorem reachable_graphs_sound (calls : List GraphCall) :
    (knowledgeGraph.run .empty calls).2.Sound ∧
      (knowledgeGraph.run .empty calls).2.WeightsExact ∧
      (knowledgeGraph.run .empty calls).2.CommunitiesSound ∧
      (knowledgeGraph.run .empty calls).2.EndpointsMentioned :=
  ⟨(queryable_run calls).sound, (queryable_run calls).weights, (queryable_run calls).communities,
    endpointsMentioned_run calls⟩

theorem Components.endpoints {communities : List CommunityRecord} {community : CommunityRecord}
    {member : Nat} {relationship : RelationshipRecord}
    (components : graph.Components documentId communities) (kept : graph.EndpointsMentioned)
    (isCommunity : community ∈ communities) (isMember : member ∈ community.memberEntityIds)
    (isRelationship : relationship ∈ graph.relationshipsOf documentId)
    (linked : graph.Linked documentId member relationship.sourceEntityId) :
    relationship.sourceEntityId ∈ community.memberEntityIds ∧
      relationship.targetEntityId ∈ community.memberEntityIds := by
  obtain ⟨stored, ofDocument⟩ := mem_filter.mp isRelationship
  obtain ⟨source, target⟩ := kept relationship stored
  rw [of_decide_eq_true ofDocument] at source target
  have connected := components.connected community isCommunity member isMember
  have adjoined : graph.Linked documentId relationship.sourceEntityId
      relationship.targetEntityId := .rel _ _ ⟨relationship, isRelationship, rfl, rfl⟩
  exact ⟨(connected _).mpr ⟨source.isMentioned, linked⟩,
    (connected _).mpr ⟨target.isMentioned, linked.trans _ _ _ adjoined⟩⟩

/-- In a graph that calls reach, a rebuild puts every relationship of a document into the
community of its endpoints, and nothing else. -/
theorem rebuild_covers_relationships (calls : List GraphCall) (documentId : Nat) :
    (∀ relationship ∈ (knowledgeGraph.run .empty calls).2.relationshipsOf documentId,
      ∃ community ∈ ((knowledgeGraph.run .empty calls).2.rebuildCommunities
          documentId).2.communities.filter (·.documentId = documentId),
        relationship.id ∈ community.relationshipIds ∧
          relationship.sourceEntityId ∈ community.memberEntityIds ∧
          relationship.targetEntityId ∈ community.memberEntityIds) ∧
    ∀ community ∈ ((knowledgeGraph.run .empty calls).2.rebuildCommunities
        documentId).2.communities.filter (·.documentId = documentId),
      ∀ id ∈ community.relationshipIds,
        ∃ relationship ∈ (knowledgeGraph.run .empty calls).2.relationshipsOf documentId,
          relationship.id = id ∧ relationship.sourceEntityId ∈ community.memberEntityIds ∧
            relationship.targetEntityId ∈ community.memberEntityIds := by
  have kept := endpointsMentioned_run calls
  generalize (knowledgeGraph.run .empty calls).2 = graph at kept ⊢
  have components := components_rebuild graph documentId
  constructor
  · intro relationship isRelationship
    obtain ⟨stored, ofDocument⟩ := mem_filter.mp isRelationship
    have source := (kept relationship stored).1
    rw [of_decide_eq_true ofDocument] at source
    obtain ⟨community, isCommunity, isSource⟩ := components.covered _ source.isMentioned
    refine ⟨community, isCommunity, ?_, components.endpoints kept isCommunity isSource
      isRelationship (.refl _)⟩
    exact (components.related community isCommunity _ isSource _).mpr
      ⟨relationship, isRelationship, rfl, .refl _⟩
  · intro community isCommunity id isId
    obtain ⟨member, isMember⟩ := exists_mem_of_ne_nil _ (components.nonempty community isCommunity)
    obtain ⟨relationship, isRelationship, isOf, linked⟩ :=
      (components.related community isCommunity member isMember id).mp isId
    exact ⟨relationship, isRelationship, isOf,
      components.endpoints kept isCommunity isMember isRelationship linked⟩

end GraphModule

end AutoLoop.Rag
