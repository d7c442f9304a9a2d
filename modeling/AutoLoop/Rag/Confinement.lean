import AutoLoop.Rag.ChunkFacts

/-!
# Queries

A local query ranks the chunks of a document and collects the entities they mention.  A
global query ranks the communities of a document.  A joint query merges both.
-/

namespace AutoLoop.Rag

/-! ## Terms and scores -/

def tokenizeQuery (text : String) : List String :=
  (((splitWhitespace text).map normalizeKey).filter fun token => 1 < token.utf8ByteSize).dedup

/-- The pieces of a normalized text at underscores, of which it has none, that are longer
than two bytes join its tokens. -/
def aliasTerms (text : String) : List String :=
  (tokenizeQuery text ++
    (Text.split '_' (normalizeKey text)).filter fun segment => 2 < segment.utf8ByteSize).dedup

def overlapScore (terms : List String) (haystack : String) : Nat :=
  (terms.filter (· ∈ tokenizeQuery haystack)).length

def aliasOverlapScore (terms : List String) (haystack : String) : Nat :=
  (terms.filter (Text.contains (normalizeKey haystack))).length

structure SearchHit where
  chunkId : Nat
  entityIds : List Nat
  score : Nat
  deriving DecidableEq, Repr

structure RankedRelationship where
  relationshipId : Nat
  weight : Nat
  deriving DecidableEq, Repr

/-- Sorted by falling score and rising identifier. -/
def rankedBy {Item : Type} (score id : Item → Nat) (items : List Item) : List Item :=
  items.insertionSort fun first second =>
    score second < score first ∨ (score first = score second ∧ id first ≤ id second)

theorem mem_rankedBy {Item : Type} {score id : Item → Nat} {items : List Item} {item : Item} :
    item ∈ rankedBy score id items ↔ item ∈ items :=
  (List.perm_insertionSort _ items).mem_iff

namespace GraphModule

variable (graph : GraphModule)

def chunkEntities (documentId chunkId : Nat) : List Nat :=
  idSet ((graph.mentions.filter fun mention =>
    mention.documentId = documentId && mention.chunkId = chunkId).map (·.entityId))

def entityName (entityId : Nat) : Option String :=
  (graph.entities.reverse.find? (·.id = entityId)).map (·.canonicalName)

/-- The scores of an entity against a query, if either is positive. -/
def entityScore (terms aliases : List String) (entityId : Nat) : Option Nat :=
  match graph.entityName entityId with
  | none => none
  | some name =>
    let entityScore := overlapScore terms name
    let aliasScore := aliasOverlapScore aliases name
    if 0 < entityScore ∨ 0 < aliasScore then some (entityScore * 7 + aliasScore * 2) else none

def searchHit (documentId : Nat) (query : String) (recencyBonus : Nat) (chunk : ChunkRecord) :
    SearchHit :=
  let terms := tokenizeQuery query
  let aliases := aliasTerms query
  let scored := (graph.chunkEntities documentId chunk.id).filterMap fun entityId =>
    (graph.entityScore terms aliases entityId).map fun score => (entityId, score)
  { chunkId := chunk.id
    entityIds := scored.map (·.1)
    score := overlapScore terms chunk.text * 3 + aliasOverlapScore aliases chunk.text * 2 +
      chunk.tokenCount / 24 + recencyBonus + (scored.map (·.2)).sum }

def documentRecencyBonus (createdAtMs : UInt64) : Nat :=
  let newest := (graph.documents.map (·.createdAtMs.toNat)).foldl max createdAtMs.toNat
  if newest ≤ createdAtMs.toNat then 6
  else
    let delta := newest - createdAtMs.toNat
    if delta < 86400000 then 5 else if delta < 7 * 86400000 then 3 else 1

def recencyBonusOf (documentId : Nat) : Nat :=
  ((graph.documents.find? (·.id = documentId)).map fun document =>
    graph.documentRecencyBonus document.createdAtMs).getD 0

def computeSearchHits (documentId : Nat) (query : String) : List SearchHit :=
  rankedBy (·.score) (·.chunkId)
    (((graph.chunks.filter (·.documentId = documentId)).map
      (graph.searchHit documentId query (graph.recencyBonusOf documentId))).filter (0 < ·.score))

def rankRelationships (documentId : Nat) (entityIds : List Nat) : List RankedRelationship :=
  rankedBy (·.weight) (·.relationshipId)
    ((graph.relationships.filter fun relationship => relationship.documentId = documentId &&
        relationship.sourceEntityId ∈ entityIds && relationship.targetEntityId ∈ entityIds).map
      fun relationship => ⟨relationship.id, relationship.weight + relationship.confidence⟩)

/-! ## Contexts -/

/-- The summary of a query names what it matched. -/
def querySummary (kind verb : String) (first entities relationships : Nat) (what : String) :
    String :=
  kind ++ " GraphRAG " ++ verb ++ " " ++ first.repr ++ " " ++ what ++ ", " ++ entities.repr ++
    " entities and " ++ relationships.repr ++ " relationships"

def localQueryContext (documentId : Nat) (query : String) (maxChunks maxRelationships : Nat) :
    QueryContext :=
  let selected := (graph.computeSearchHits documentId query).take maxChunks
  let matchedEntityIds := idSet (selected.flatMap (·.entityIds))
  let matchedRelationshipIds :=
    ((graph.rankRelationships documentId matchedEntityIds).take maxRelationships).map
      (·.relationshipId)
  { documentId
    mode := .localMode
    query
    matchedChunkIds := selected.map (·.chunkId)
    matchedEntityIds
    matchedRelationshipIds
    summary := querySummary "Local" "matched" selected.length matchedEntityIds.length
      matchedRelationshipIds.length "chunks" }

def communityScore (query : String) (community : CommunityRecord) : Nat :=
  overlapScore (tokenizeQuery query) community.summary + community.rank +
    graph.recencyBonusOf community.documentId

section
variable (documentId : Nat) (query : String) (maxCommunities : Nat)

def matchedCommunityIds : List Nat :=
  ((rankedBy (graph.communityScore query) (·.id)
    ((graph.communities.filter (·.documentId = documentId)).filter
      (0 < graph.communityScore query ·))).take maxCommunities).map (·.id)

def globalQueryContext :
    QueryContext :=
  let communityIds := graph.matchedCommunityIds documentId query maxCommunities
  let communities := graph.communities.filter (·.id ∈ communityIds)
  let matchedEntityIds := idSet (communities.flatMap (·.memberEntityIds))
  let matchedRelationshipIds := idSet (communities.flatMap (·.relationshipIds))
  let matchedChunkIds := idSet
    ((graph.mentions.filter (·.entityId ∈ matchedEntityIds)).map (·.chunkId))
  { documentId
    mode := .globalMode
    query
    matchedChunkIds
    matchedEntityIds
    matchedRelationshipIds
    summary := querySummary "Global" "matched" communityIds.length matchedEntityIds.length
      matchedRelationshipIds.length "communities" }

end

/-- How a chunk is ranked in a joint query. -/
def aliasScoreOf (aliases : List String) (chunkId : Nat) : Nat :=
  ((graph.chunks.find? (·.id = chunkId)).map fun chunk =>
    aliasOverlapScore aliases chunk.text).getD 0

def jointQueryContext (documentId : Nat) (query : String)
    (maxChunks maxRelationships maxCommunities : Nat) : QueryContext :=
  let ofDocument := graph.localQueryContext documentId query maxChunks maxRelationships
  let ofCommunities := graph.globalQueryContext documentId query maxCommunities
  let matchedEntityIds := idSet (ofDocument.matchedEntityIds ++ ofCommunities.matchedEntityIds)
  let matchedRelationshipIds :=
    (idSet (ofDocument.matchedRelationshipIds ++ ofCommunities.matchedRelationshipIds)).take
      (max maxRelationships ofCommunities.matchedRelationshipIds.length)
  let matchedChunkIds :=
    (rankedBy (graph.aliasScoreOf (aliasTerms query)) id
      (idSet (ofDocument.matchedChunkIds ++ ofCommunities.matchedChunkIds))).take
      (max maxChunks ofCommunities.matchedChunkIds.length)
  { documentId
    mode := .localMode
    query
    matchedChunkIds
    matchedEntityIds
    matchedRelationshipIds
    summary := querySummary "Joint" "ranked" matchedChunkIds.length matchedEntityIds.length
      matchedRelationshipIds.length "chunks" ++
      " using alias-aware local/global evidence fusion" }

end GraphModule

end AutoLoop.Rag

/-!
## Confinement of queries

What a local query matches lies in its document.  A global query follows the members of the
document's communities to all their mentions, so its chunks lie in the document exactly
when those members are mentioned in no other document's chunks.
-/

namespace AutoLoop.Rag.GraphModule

open List

def HasChunk (graph : GraphModule) (documentId chunkId : Nat) : Prop :=
  ∃ chunk ∈ graph.chunks, chunk.id = chunkId ∧ chunk.documentId = documentId

def Mentions (graph : GraphModule) (documentId entityId : Nat) : Prop :=
  ∃ mention ∈ graph.mentions, mention.documentId = documentId ∧ mention.entityId = entityId

def HasRelationship (graph : GraphModule) (documentId relationshipId : Nat) : Prop :=
  (relationshipId, documentId) ∈ graph.relationships.map fun relationship =>
    (relationship.id, relationship.documentId)

structure Confined (graph : GraphModule) (documentId : Nat) (context : QueryContext) : Prop where
  chunks : ∀ id ∈ context.matchedChunkIds, graph.HasChunk documentId id
  entities : ∀ id ∈ context.matchedEntityIds, graph.Mentions documentId id
  relationships : ∀ id ∈ context.matchedRelationshipIds, graph.HasRelationship documentId id

structure QueriesConfined (graph : GraphModule) (documentId : Nat) : Prop where
  ofDocument : ∀ query maxChunks maxRelationships, graph.Confined documentId
    (graph.localQueryContext documentId query maxChunks maxRelationships)
  ofCommunities : ∀ query maxCommunities, graph.Confined documentId
    (graph.globalQueryContext documentId query maxCommunities)
  joint : ∀ query maxChunks maxRelationships maxCommunities, graph.Confined documentId
    (graph.jointQueryContext documentId query maxChunks maxRelationships maxCommunities)

def MembersConfined (graph : GraphModule) (documentId : Nat) : Prop :=
  ∀ community ∈ graph.communities, community.documentId = documentId →
    ∀ mention ∈ graph.mentions, mention.entityId ∈ community.memberEntityIds →
      graph.HasChunk documentId mention.chunkId

variable {graph : GraphModule} {documentId chunkId : Nat}

/-! ## Local queries -/

theorem mem_chunkEntities {entityId : Nat} : entityId ∈ graph.chunkEntities documentId chunkId ↔
    ∃ mention ∈ graph.mentions, mention.documentId = documentId ∧ mention.chunkId = chunkId ∧
      mention.entityId = entityId := by
  simp [chunkEntities, and_assoc]

theorem mem_searchHits {query : String} {hit : SearchHit}
    (isHit : hit ∈ graph.computeSearchHits documentId query) :
    graph.HasChunk documentId hit.chunkId ∧ ∀ id ∈ hit.entityIds, graph.Mentions documentId id := by
  rw [computeSearchHits, mem_rankedBy, mem_filter] at isHit
  obtain ⟨chunk, isChunk, rfl⟩ := mem_map.mp isHit.1
  obtain ⟨isStored, isOf⟩ := mem_filter.mp isChunk
  refine ⟨⟨chunk, isStored, rfl, by simpa using isOf⟩, ?_⟩
  intro id isId
  obtain ⟨⟨entityId, score⟩, isScored, rfl⟩ := mem_map.mp isId
  obtain ⟨candidate, isCandidate, scored⟩ := mem_filterMap.mp isScored
  obtain ⟨value, -, same⟩ := Option.map_eq_some_iff.mp scored
  obtain ⟨mention, isMention, isDocument, -, isEntity⟩ := mem_chunkEntities.mp isCandidate
  exact ⟨mention, isMention, isDocument, isEntity.trans (Prod.mk.inj same).1⟩

theorem confined_local (graph : GraphModule) (documentId : Nat) (query : String)
    (maxChunks maxRelationships : Nat) :
    graph.Confined documentId
      (graph.localQueryContext documentId query maxChunks maxRelationships) where
  chunks id isId := by
    obtain ⟨hit, isHit, rfl⟩ := mem_map.mp isId
    exact (mem_searchHits (mem_of_mem_take isHit)).1
  entities id isId := by
    obtain ⟨hit, isHit, isEntity⟩ := mem_flatMap.mp (mem_idSet.mp isId)
    exact (mem_searchHits (mem_of_mem_take isHit)).2 id isEntity
  relationships id isId := by
    obtain ⟨row, isRow, rfl⟩ := mem_map.mp isId
    have isRanked := mem_rankedBy.mp (mem_of_mem_take isRow)
    obtain ⟨relationship, isRelationship, rfl⟩ := mem_map.mp isRanked
    obtain ⟨isStored, fields⟩ := mem_filter.mp isRelationship
    simp only [Bool.and_eq_true, decide_eq_true_eq] at fields
    exact mem_map.mpr ⟨relationship, isStored, by rw [fields.1.1]⟩

/-! ## Communities -/

/-- Communities of a document consist of its entities and relationships, are told apart and
are ranked. -/
structure CommunitiesSound (graph : GraphModule) : Prop where
  members : ∀ community ∈ graph.communities, ∀ id ∈ community.memberEntityIds,
    graph.Mentions community.documentId id
  related : ∀ community ∈ graph.communities, ∀ id ∈ community.relationshipIds,
    graph.HasRelationship community.documentId id
  ids : (graph.communities.map (·.id)).Nodup
  bounded : ∀ community ∈ graph.communities, community.id ≤ graph.nextCommunityId
  ranked : ∀ community ∈ graph.communities, community.memberEntityIds ≠ [] → 0 < community.rank

theorem mem_matchedCommunities {query : String} {maxCommunities : Nat} {community : CommunityRecord}
    (sound : graph.CommunitiesSound) (isCommunity : community ∈ graph.communities)
    (matched : community.id ∈ graph.matchedCommunityIds documentId query maxCommunities) :
    community.documentId = documentId := by
  obtain ⟨same, isSame, sameId⟩ := mem_map.mp matched
  have isRanked := mem_rankedBy.mp (mem_of_mem_take isSame)
  obtain ⟨isStored, isOf⟩ := mem_filter.mp (mem_filter.mp isRanked).1
  rw [← inj_on_of_nodup_map sound.ids isStored isCommunity sameId]
  simpa using isOf

theorem matched_of_score {query : String} {community : CommunityRecord}
    (isCommunity : community ∈ graph.communities) (isOf : community.documentId = documentId)
    (positive : 0 < graph.communityScore query community) :
    community.id ∈ graph.matchedCommunityIds documentId query graph.communities.length := by
  refine mem_map_of_mem ?_
  rw [take_of_length_le]
  · rw [mem_rankedBy]
    simp [isCommunity, isOf, positive]
  · rw [rankedBy, length_insertionSort]
    exact (length_filter_le _ _).trans (length_filter_le _ _)

theorem global_parts (sound : graph.CommunitiesSound) (query : String) (maxCommunities : Nat) :
    (∀ id ∈ (graph.globalQueryContext documentId query maxCommunities).matchedEntityIds,
        graph.Mentions documentId id) ∧
      ∀ id ∈ (graph.globalQueryContext documentId query maxCommunities).matchedRelationshipIds,
        graph.HasRelationship documentId id := by
  constructor
  · intro id isId
    obtain ⟨community, isCommunity, isMember⟩ := mem_flatMap.mp (mem_idSet.mp isId)
    obtain ⟨isStored, matched⟩ := mem_filter.mp isCommunity
    have isOf : community.documentId = documentId :=
      mem_matchedCommunities sound isStored (by simpa using matched)
    exact isOf ▸ sound.members community isStored id isMember
  · intro id isId
    obtain ⟨community, isCommunity, isMember⟩ := mem_flatMap.mp (mem_idSet.mp isId)
    obtain ⟨isStored, matched⟩ := mem_filter.mp isCommunity
    have isOf : community.documentId = documentId :=
      mem_matchedCommunities sound isStored (by simpa using matched)
    exact isOf ▸ sound.related community isStored id isMember

theorem confined_global (sound : graph.CommunitiesSound)
    (members : graph.MembersConfined documentId) (query : String) (maxCommunities : Nat) :
    graph.Confined documentId (graph.globalQueryContext documentId query maxCommunities) where
  chunks id isId := by
    obtain ⟨mention, isMention, rfl⟩ := mem_map.mp (mem_idSet.mp isId)
    obtain ⟨isStored, isMatched⟩ := mem_filter.mp isMention
    simp only [decide_eq_true_eq, mem_idSet] at isMatched
    obtain ⟨community, isCommunity, isMember⟩ := mem_flatMap.mp isMatched
    obtain ⟨isKept, matched⟩ := mem_filter.mp isCommunity
    exact members community isKept (mem_matchedCommunities sound isKept (by simpa using matched))
      mention isStored isMember
  entities := (global_parts sound query maxCommunities).1
  relationships := (global_parts sound query maxCommunities).2

theorem confined_joint (ofDocument : ∀ query maxChunks maxRelationships,
      graph.Confined documentId (graph.localQueryContext documentId query maxChunks
        maxRelationships))
    (ofCommunities : ∀ query maxCommunities, graph.Confined documentId
      (graph.globalQueryContext documentId query maxCommunities))
    (query : String) (maxChunks maxRelationships maxCommunities : Nat) :
    graph.Confined documentId (graph.jointQueryContext documentId query maxChunks
      maxRelationships maxCommunities) where
  chunks id isId := by
    have isRanked := mem_rankedBy.mp (mem_of_mem_take isId)
    cases mem_append.mp (mem_idSet.mp isRanked) with
    | inl isLocal => exact (ofDocument query maxChunks maxRelationships).chunks id isLocal
    | inr isGlobal => exact (ofCommunities query maxCommunities).chunks id isGlobal
  entities id isId := by
    cases mem_append.mp (mem_idSet.mp isId) with
    | inl isLocal => exact (ofDocument query maxChunks maxRelationships).entities id isLocal
    | inr isGlobal => exact (ofCommunities query maxCommunities).entities id isGlobal
  relationships id isId := by
    cases mem_append.mp (mem_idSet.mp (mem_of_mem_take isId)) with
    | inl isLocal => exact (ofDocument query maxChunks maxRelationships).relationships id isLocal
    | inr isGlobal => exact (ofCommunities query maxCommunities).relationships id isGlobal

theorem queriesConfined_iff (sound : graph.CommunitiesSound) (documentId : Nat) :
    graph.QueriesConfined documentId ↔ graph.MembersConfined documentId := by
  constructor
  · intro confined community isCommunity isOf mention isMention isMember
    have positive : 0 < graph.communityScore "" community := by
      have ranked := sound.ranked community isCommunity (ne_nil_of_mem isMember)
      simp only [communityScore]
      omega
    have matched := matched_of_score isCommunity isOf positive
    refine (confined.ofCommunities "" graph.communities.length).chunks mention.chunkId ?_
    refine mem_idSet.mpr (mem_map_of_mem (mem_filter.mpr ⟨isMention, ?_⟩))
    simp only [decide_eq_true_eq, mem_idSet]
    exact mem_flatMap.mpr
      ⟨community, mem_filter.mpr ⟨isCommunity, by simpa using matched⟩, isMember⟩
  · intro members
    have ofDocument := confined_local graph documentId
    have ofCommunities := confined_global sound members
    exact ⟨ofDocument, ofCommunities, confined_joint ofDocument ofCommunities⟩

end AutoLoop.Rag.GraphModule
