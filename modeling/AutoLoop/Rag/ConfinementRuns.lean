import AutoLoop.Rag.Confinement
import AutoLoop.Rag.StatisticsRuns
import Mathlib.Algebra.Order.BigOperators.Group.List

/-!
# Confinement over runs

Communities stay sound whatever is ingested, attached and rebuilt, so the queries of a
document are confined exactly when the members of its communities are.
-/

namespace AutoLoop.Rag.GraphModule

open List

variable {graph later : GraphModule} {documentId chunkId : Nat}

/-! ## What attaching keeps of communities -/

/-- Communities are the same, and all they refer to is still there. -/
structure Extended (graph later : GraphModule) : Prop where
  communities : later.communities = graph.communities
  next : later.nextCommunityId = graph.nextCommunityId
  mentions : ∀ mention ∈ graph.mentions, mention ∈ later.mentions
  relationships : ∀ documentId id, graph.HasRelationship documentId id →
    later.HasRelationship documentId id

theorem Extended.refl (graph : GraphModule) : Extended graph graph :=
  ⟨rfl, rfl, fun _ => id, fun _ _ => id⟩

theorem Extended.trans {middle : GraphModule} (first : Extended graph middle)
    (second : Extended middle later) : Extended graph later where
  communities := second.communities.trans first.communities
  next := second.next.trans first.next
  mentions mention isMention := second.mentions mention (first.mentions mention isMention)
  relationships documentId id has :=
    second.relationships documentId id (first.relationships documentId id has)

theorem extended_upsertEntity (graph : GraphModule) (documentId : Nat) (entity : ExtractedEntity) :
    Extended graph (graph.upsertEntity documentId entity).2 := by
  unfold upsertEntity
  split
  · exact ⟨rfl, rfl, fun _ => id, fun _ _ => id⟩
  · exact ⟨rfl, rfl, fun _ => id, fun _ _ => id⟩

theorem extended_insertMention (graph : GraphModule) (documentId chunkId id : Nat)
    (surface : String) : Extended graph (graph.insertMention documentId chunkId id surface) := by
  unfold insertMention
  split
  · exact .refl _
  · exact ⟨rfl, rfl, fun _ => mem_append_left _, fun _ _ has => has⟩

theorem extended_attachEntities (entities : List ExtractedEntity) (attaching : Attaching) :
    Extended attaching.graph
      (entities.foldl (attachEntity documentId chunkId) attaching).graph := by
  induction entities generalizing attaching with
  | nil => exact .refl _
  | cons entity rest ih =>
    refine Extended.trans ?_ (ih (attachEntity documentId chunkId attaching entity))
    exact (extended_upsertEntity _ _ _).trans (extended_insertMention _ _ _ _ _)

theorem extended_upsertRelationship (graph : GraphModule) (documentId source target : Nat)
    (relationType : String) (chunkId : Nat) (description : String) :
    Extended graph
      (graph.upsertRelationship documentId source target relationType chunkId description).2 := by
  simp only [upsertRelationship]
  split
  · refine ⟨rfl, rfl, fun _ => id, ?_⟩
    intro other id has
    simp only [HasRelationship]
    rw [map_modifyFirst]
    · exact has
    · intro relationship
      rfl
  · refine ⟨rfl, rfl, fun _ => id, ?_⟩
    intro other id has
    simp only [HasRelationship, map_append]
    exact mem_append_left _ has

theorem extended_attachRelationships (relationships : List ExtractedRelationship)
    (attaching : Attaching) :
    Extended attaching.graph
      (relationships.foldl (attachRelationship documentId chunkId) attaching).graph := by
  induction relationships generalizing attaching with
  | nil => exact .refl _
  | cons relationship rest ih =>
    refine Extended.trans ?_ (ih (attachRelationship documentId chunkId attaching relationship))
    unfold attachRelationship
    split
    · split
      · exact .refl _
      · exact extended_upsertRelationship _ _ _ _ _ _ _
    · exact .refl _

theorem extended_recompute (graph : GraphModule) (documentId : Nat) :
    Extended graph (graph.recomputeEntityWeights documentId) := by
  refine ⟨rfl, rfl, fun _ => id, ?_⟩
  intro other id has
  obtain ⟨relationship, isRelationship, isPair⟩ := mem_map.mp has
  refine mem_map.mpr ⟨_, mem_map_of_mem isRelationship, ?_⟩
  rw [← isPair]
  split
  · rfl
  · rfl

theorem extended_attachChunkGraph (graph : GraphModule) (documentId chunkId : Nat)
    (extracted : ExtractedChunkGraph) :
    Extended graph (graph.attachChunkGraph documentId chunkId extracted).2 := by
  have entities := @extended_attachEntities documentId chunkId extracted.entities
    ⟨graph, .empty, [], []⟩
  have facts : Extended graph (graph.attachFacts documentId chunkId extracted).graph :=
    entities.trans (extended_attachRelationships extracted.relationships _)
  have weighted := facts.trans (extended_recompute _ documentId)
  exact ⟨weighted.communities, weighted.next, weighted.mentions, weighted.relationships⟩

theorem CommunitiesSound.extended (sound : graph.CommunitiesSound)
    (isExtended : Extended graph later) : later.CommunitiesSound := by
  obtain ⟨communities, next, mentions, relationships⟩ := isExtended
  constructor
  · rw [communities]
    intro community isCommunity id isMember
    obtain ⟨mention, isMention, fields⟩ := sound.members community isCommunity id isMember
    exact ⟨mention, mentions mention isMention, fields⟩
  · rw [communities]
    intro community isCommunity id isRelated
    exact relationships _ _ (sound.related community isCommunity id isRelated)
  · rw [communities]
    exact sound.ids
  · rw [communities, next]
    exact sound.bounded
  · rw [communities]
    exact sound.ranked

/-! ## Rebuilding -/

theorem found_of_mentioned (sound : graph.Sound) {entityId : Nat}
    (mentioned : graph.Mentions documentId entityId) :
    ∃ entity, graph.entities.find? (·.id = entityId) = some entity ∧ 0 < entity.mentionCount := by
  obtain ⟨mention, isMention, -, isEntity⟩ := mentioned
  obtain ⟨held, isHeld, heldId, -⟩ := sound.mentioned mention isMention
  have recorded : 0 < graph.recorded held.id := by
    rw [recorded, length_pos_iff_exists_mem]
    exact ⟨mention, mem_filter.mpr ⟨isMention, by simp [heldId]⟩⟩
  refine ⟨held, ?_, recorded.trans_le (sound.covered held isHeld)⟩
  cases found : graph.entities.find? (·.id = entityId) with
  | none =>
    have absent := find?_eq_none.mp found held isHeld
    exact absurd (heldId.trans isEntity) (by simpa using absent)
  | some entity =>
    have isId : entity.id = entityId := by simpa using find?_some found
    have same := inj_on_of_nodup_map sound.ids (mem_of_find?_eq_some found) isHeld
      (isId.trans (heldId.trans isEntity).symm)
    rw [same]

theorem rank_pos (sound : graph.Sound) (weights : graph.WeightsExact) (id : Nat)
    {members related : List Nat} {member : Nat} (isMember : member ∈ members)
    (mentioned : graph.Mentions documentId member) :
    0 < (graph.communityOf id documentId members related).rank := by
  obtain ⟨entity, isFound, counted⟩ := found_of_mentioned sound mentioned
  have weight := weights entity (mem_of_find?_eq_some isFound)
  have isPart : entity.weight ∈ ((members.filterMap fun entityId =>
      graph.entities.find? (·.id = entityId)).map (·.weight)) :=
    mem_map_of_mem (mem_filterMap.mpr ⟨member, isMember, isFound⟩)
  have summed := le_sum_of_mem isPart
  simp only [communityOf]
  omega

theorem mem_communityParts {parts : List Nat × List Nat}
    (isPart : parts ∈ graph.communityParts documentId) :
    (∀ id ∈ parts.1, graph.Mentions documentId id) ∧
      ∀ id ∈ parts.2, graph.HasRelationship documentId id := by
  obtain ⟨members, related⟩ := mem_of_buildCommunities (mem_filter.mp isPart).1
  constructor
  · intro id isId
    have isMentioned := mem_idSet.mp (members id isId)
    obtain ⟨mention, isMention, rfl⟩ := mem_map.mp (mem_dedup.mp isMentioned)
    obtain ⟨isStored, isOf⟩ := mem_filter.mp isMention
    exact ⟨mention, isStored, by simpa using isOf, rfl⟩
  · intro id isId
    obtain ⟨triple, isTriple, rfl⟩ := mem_map.mp (related id isId)
    obtain ⟨relationship, isRelationship, rfl⟩ := mem_map.mp isTriple
    obtain ⟨isStored, isOf⟩ := mem_filter.mp isRelationship
    refine mem_map.mpr ⟨relationship, isStored, ?_⟩
    rw [show relationship.documentId = documentId by simpa using isOf]

theorem mem_rebuildCommunities {community : CommunityRecord}
    (isCommunity : community ∈ (graph.rebuildCommunities documentId).2.communities) :
    community ∈ graph.communities ∨ ∃ parts ∈ graph.communityParts documentId,
      ∃ index < (graph.communityParts documentId).length,
        community = graph.communityOf (graph.nextCommunityId + 1 + index) documentId
          parts.1 parts.2 := by
  cases mem_append.mp isCommunity with
  | inl isOld => exact Or.inl (mem_filter.mp isOld).1
  | inr isNew =>
    obtain ⟨⟨parts, index⟩, isPart, rfl⟩ := mem_map.mp isNew
    have isIndexed := mem_zipIdx isPart
    refine Or.inr ⟨parts, ?_, index, by omega, rfl⟩
    rw [isIndexed.2.2]
    exact getElem_mem _

theorem ids_rebuildCommunities (graph : GraphModule) (documentId : Nat) :
    (graph.rebuildCommunities documentId).2.communities.map (·.id) =
      (graph.communities.filter (·.documentId ≠ documentId)).map (·.id) ++
        List.range' (graph.nextCommunityId + 1) (graph.communityParts documentId).length := by
  simp only [rebuildCommunities, map_append, map_map]
  congr 1
  refine ext_getElem (by simp) ?_
  intro index isIndex isRange
  simp [communityOf]

theorem communitiesSound_rebuild (sound : graph.Sound) (weights : graph.WeightsExact)
    (communities : graph.CommunitiesSound) (documentId : Nat) :
    (graph.rebuildCommunities documentId).2.CommunitiesSound := by
  have isNext : (graph.rebuildCommunities documentId).2.nextCommunityId =
      graph.nextCommunityId + (graph.communityParts documentId).length := by
    simp [rebuildCommunities]
  constructor
  · intro community isCommunity
    cases mem_rebuildCommunities isCommunity with
    | inl isOld => exact communities.members community isOld
    | inr isNew =>
      obtain ⟨parts, isPart, index, -, rfl⟩ := isNew
      exact (mem_communityParts isPart).1
  · intro community isCommunity
    cases mem_rebuildCommunities isCommunity with
    | inl isOld => exact communities.related community isOld
    | inr isNew =>
      obtain ⟨parts, isPart, index, -, rfl⟩ := isNew
      exact (mem_communityParts isPart).2
  · rw [ids_rebuildCommunities]
    refine nodup_append.mpr ⟨?_, nodup_range', ?_⟩
    · exact communities.ids.sublist (filter_sublist.map _)
    · intro id isOld other isNew
      obtain ⟨community, isCommunity, rfl⟩ := mem_map.mp isOld
      have bounded := communities.bounded community (mem_filter.mp isCommunity).1
      have above := (mem_range'_1.mp isNew).1
      omega
  · intro community isCommunity
    rw [isNext]
    cases mem_rebuildCommunities isCommunity with
    | inl isOld => exact Nat.le_add_right_of_le (communities.bounded community isOld)
    | inr isNew =>
      obtain ⟨parts, isPart, index, below, rfl⟩ := isNew
      simp only [communityOf]
      omega
  · intro community isCommunity some
    cases mem_rebuildCommunities isCommunity with
    | inl isOld => exact communities.ranked community isOld some
    | inr isNew =>
      obtain ⟨parts, isPart, index, -, rfl⟩ := isNew
      obtain ⟨member, isMember⟩ := exists_mem_of_ne_nil _ some
      exact rank_pos sound weights _ isMember ((mem_communityParts isPart).1 member isMember)

/-! ## Runs -/

/-- What every call keeps, whatever it attaches. -/
structure Queryable (graph : GraphModule) : Prop where
  sound : graph.Sound
  weights : graph.WeightsExact
  communities : graph.CommunitiesSound

theorem queryable_attach (kept : graph.Queryable) (documentId chunkId : Nat)
    (extracted : ExtractedChunkGraph) :
    (graph.attachChunkGraph documentId chunkId extracted).2.Queryable := by
  have spec := attachChunkGraph_spec kept.sound documentId chunkId extracted
  exact ⟨spec.1, spec.2.1,
    kept.communities.extended (extended_attachChunkGraph graph documentId chunkId extracted)⟩

theorem queryable_ingestChunks (chunks : List ChunkRecord) (documentId : Nat)
    (collected : List Nat × List Nat × GraphModule) (kept : collected.2.2.Queryable) :
    (chunks.foldl (ingestChunk documentId) collected).2.2.Queryable := by
  induction chunks generalizing collected with
  | nil => exact kept
  | cons chunk rest ih => exact ih _ (queryable_attach kept _ _ _)

theorem queryable_rebuild (kept : graph.Queryable) (documentId : Nat) :
    (graph.rebuildCommunities documentId).2.Queryable :=
  ⟨(sound_rebuild documentId).mpr kept.sound, kept.weights,
    communitiesSound_rebuild kept.sound kept.weights kept.communities documentId⟩

/-- Documents and chunks have no part in it. -/
theorem Queryable.of_same (kept : graph.Queryable)
    (entities : later.entities = graph.entities ∧ later.nextEntityId = graph.nextEntityId)
    (mentions : later.mentions = graph.mentions)
    (relationships : later.relationships = graph.relationships)
    (communities : later.communities = graph.communities ∧
      later.nextCommunityId = graph.nextCommunityId) : later.Queryable := by
  obtain ⟨sameEntities, sameNext⟩ := entities
  cases graph
  cases later
  simp only at sameEntities sameNext mentions relationships communities
  obtain ⟨sameCommunities, sameNextCommunity⟩ := communities
  subst sameEntities sameNext mentions relationships sameCommunities sameNextCommunity
  obtain ⟨sound, weights, sounds⟩ := kept
  exact ⟨⟨sound.ids, sound.bounded, sound.names, sound.mentioned, sound.covered, sound.related⟩,
    weights, ⟨sounds.members, sounds.related, sounds.ids, sounds.bounded, sounds.ranked⟩⟩

theorem queryable_updateStats (kept : graph.Queryable) (documentId : Nat) :
    (graph.updateDocumentStats documentId).Queryable :=
  kept.of_same ⟨rfl, rfl⟩ rfl rfl ⟨rfl, rfl⟩

theorem queryable_empty : Queryable .empty where
  sound := kept_empty.sound
  weights := kept_empty.exact.weights
  communities := by constructor <;> simp [empty]

theorem queryable_step (kept : graph.Queryable) (call : GraphCall) :
    (knowledgeGraph.step graph call).2.Queryable := by
  cases call with
  | attachChunk documentId chunkId extracted =>
    exact queryable_attach kept documentId chunkId extracted
  | rebuildCommunities documentId => exact queryable_rebuild kept documentId
  | ingestDocument context title sourceUri rawText chunkSize overlap =>
    have withChunks : (graph.withChunks context title sourceUri rawText chunkSize
        overlap).2.Queryable := kept.of_same ⟨rfl, rfl⟩ rfl rfl ⟨rfl, rfl⟩
    have attached := queryable_ingestChunks
      (graph.withChunks context title sourceUri rawText chunkSize overlap).1
      (graph.nextDocumentId + 1)
      ([], [], (graph.withChunks context title sourceUri rawText chunkSize overlap).2) withChunks
    have isStep : (knowledgeGraph.step graph (.ingestDocument context title sourceUri rawText
        chunkSize overlap)).2 =
          (((List.foldl (ingestChunk (graph.nextDocumentId + 1))
            ([], [], (graph.withChunks context title sourceUri rawText chunkSize overlap).2)
            (graph.withChunks context title sourceUri rawText chunkSize
              overlap).1).2.2.rebuildCommunities (graph.nextDocumentId + 1)).2).updateDocumentStats
            (graph.nextDocumentId + 1) := rfl
    rw [isStep]
    exact queryable_updateStats (queryable_rebuild attached _) _

theorem queryable_run (calls : List GraphCall) :
    (knowledgeGraph.run .empty calls).2.Queryable :=
  Component.Always.run
    (.of_step queryable_empty (fun _ call kept => queryable_step kept call) calls)

/-- After any calls, the queries of a document are confined to it exactly when the members
of its communities are mentioned in its chunks only. -/
theorem queries_confined_iff_members (calls : List GraphCall) (documentId : Nat) :
    (knowledgeGraph.run .empty calls).2.QueriesConfined documentId ↔
      (knowledgeGraph.run .empty calls).2.MembersConfined documentId :=
  queriesConfined_iff (queryable_run calls).communities documentId

/-! ## A leaking query -/

/-- Two documents about a common entity. -/
def sharedTopic : List GraphCall :=
  [.ingestDocument ⟨"reader", 1⟩ "first" "a" "Alice uses Bob" 40 0,
    .ingestDocument ⟨"reader", 2⟩ "second" "b" "Alice uses Carol" 40 0]

/-- A global query for the first document finds a chunk of the second. -/
theorem shared_topic_leaks : ¬(knowledgeGraph.run .empty sharedTopic).2.QueriesConfined 1 := by
  intro confined
  have found : 2 ∈ ((knowledgeGraph.run .empty sharedTopic).2.globalQueryContext 1 "alice"
      4).matchedChunkIds := by decide +kernel
  obtain ⟨chunk, isChunk, isId, isOf⟩ := (confined.ofCommunities "alice" 4).chunks 2 found
  have apart : ∀ chunk ∈ (knowledgeGraph.run .empty sharedTopic).2.chunks, chunk.id = 2 →
      chunk.documentId ≠ 1 := by decide +kernel
  exact apart chunk isChunk isId isOf

end AutoLoop.Rag.GraphModule
