import AutoLoop.Foundation.FirstMatch
import AutoLoop.Rag.Extraction
import Mathlib.Data.List.Dedup

/-!
# Connected entities

`build_communities` unites the endpoints of every relationship in a forest of parents and
groups entities and relationships by their roots.
-/

namespace AutoLoop.Rag

abbrev Parents := Table Nat Nat

/-- The root of a node, with the path to it compressed.  A path is no longer than the
forest. -/
def findRoot : Nat → Parents → Nat → Nat × Parents
  | 0, parents, node => (node, parents)
  | fuel + 1, parents, node =>
    let current := (parents.get node).getD node
    if current = node then (node, parents)
    else
      let found := findRoot fuel parents current
      (found.1, found.2.insert node found.1)

def find (parents : Parents) (node : Nat) : Nat × Parents :=
  findRoot (parents.rows.length + 1) parents node

def union (parents : Parents) (left right : Nat) : Parents :=
  let (leftRoot, parents) := find parents left
  let (rightRoot, parents) := find parents right
  if leftRoot ≠ rightRoot then parents.insert rightRoot leftRoot else parents

/-- `entry(root).or_default().push(id)`. -/
def pushTo (groups : Table Nat (List Nat)) (root id : Nat) : Table Nat (List Nat) :=
  groups.insert root ((groups.get root).getD [] ++ [id])

def groupBy {Item : Type} (node id : Item → Nat) (items : List Item) (parents : Parents) :
    Table Nat (List Nat) × Parents :=
  items.foldl
    (fun (groups, parents) item =>
      let (root, parents) := find parents (node item)
      (pushTo groups root (id item), parents))
    (.empty, parents)

def buildCommunities (entityIds : List Nat) (relationships : List (Nat × Nat × Nat)) :
    List (List Nat × List Nat) :=
  let parents := entityIds.foldl (fun parents id => parents.insert id id) (.empty : Parents)
  let parents := relationships.foldl
    (fun parents (_, source, target) => union parents source target) parents
  let (entityGroups, parents) := groupBy id id entityIds parents
  let (relationshipGroups, _) := groupBy (·.2.1) (·.1) relationships parents
  entityGroups.rows.map fun (root, members) =>
    (members, (relationshipGroups.get root).getD [])

/-! ## What groups hold -/

variable {Item : Type} {node identifier : Item → Nat}

theorem groups_pushTo {groups : Table Nat (List Nat)} {root id other : Nat} {property : Nat → Prop}
    (holds : ∀ root members, groups.get root = some members → ∀ member ∈ members, property member)
    (new : property id) {members : List Nat}
    (isGroup : (pushTo groups root id).get other = some members) :
    ∀ member ∈ members, property member := by
  rw [pushTo, Table.get_insert] at isGroup
  split at isGroup
  · cases isGroup
    intro member isMember
    cases List.mem_append.mp isMember with
    | inl isOld =>
      cases old : groups.get root with
      | none => simp [old] at isOld
      | some earlier =>
        rw [old, Option.getD_some] at isOld
        exact holds root earlier old member isOld
    | inr isNew => exact List.mem_singleton.mp isNew ▸ new
  · exact holds other members isGroup

theorem mem_of_groupBy (items : List Item) (parents : Parents) {root : Nat} {members : List Nat}
    (isGroup : (groupBy node identifier items parents).1.get root = some members) :
    ∀ member ∈ members, member ∈ items.map identifier := by
  suffices every : ∀ (items earlier : List Item) (groups : Table Nat (List Nat))
      (parents : Parents),
      (∀ root members, groups.get root = some members → ∀ member ∈ members,
        member ∈ earlier.map identifier) →
      ∀ root members, (items.foldl (fun (groups, parents) item =>
          let (root, parents) := find parents (node item)
          (pushTo groups root (identifier item), parents)) (groups, parents)).1.get root =
            some members → ∀ member ∈ members, member ∈ (earlier ++ items).map identifier by
    have whole := every items [] .empty parents (by simp) root members isGroup
    simpa using whole
  intro items
  induction items with
  | nil =>
    intro earlier groups parents holds root members isGroup
    simpa using holds root members isGroup
  | cons item rest ih =>
    intro earlier groups parents holds root members isGroup
    have moved := ih (earlier ++ [item])
      (pushTo groups (find parents (node item)).1 (identifier item))
      (find parents (node item)).2 ?_ root members isGroup
    · simpa using moved
    · intro root members isGroup
      refine groups_pushTo ?_ (by simp) isGroup
      intro root members isGroup member isMember
      simpa using Or.inl (holds root members isGroup member isMember)

theorem mem_of_buildCommunities {entityIds : List Nat} {relationships : List (Nat × Nat × Nat)}
    {members related : List Nat}
    (isCommunity : (members, related) ∈ buildCommunities entityIds relationships) :
    (∀ member ∈ members, member ∈ entityIds) ∧
      ∀ id ∈ related, id ∈ relationships.map (·.1) := by
  simp only [buildCommunities, List.mem_map, Prod.exists, Prod.mk.injEq] at isCommunity
  obtain ⟨root, group, isRow, rfl, rfl⟩ := isCommunity
  constructor
  · intro member isMember
    have isGroup := Table.mem_rows_iff.mp isRow
    simpa using mem_of_groupBy entityIds _ isGroup member isMember
  · intro id isRelated
    generalize isGroup : Table.get _ root = related at isRelated
    cases related with
    | none => simp at isRelated
    | some group => exact mem_of_groupBy relationships _ isGroup id isRelated

end AutoLoop.Rag

/-!
## The knowledge graph

Documents are ingested chunk by chunk.  Every chunk adds what it mentions and relates, and
the weights and counts are recomputed for its document.
-/

namespace AutoLoop.Rag

/-- The identifiers of a `BTreeSet`. -/
def idSet (ids : List Nat) : List Nat := ids.dedup.insertionSort (· ≤ ·)

@[simp] theorem mem_idSet {id : Nat} {ids : List Nat} : id ∈ idSet ids ↔ id ∈ ids := by
  rw [idSet, (List.perm_insertionSort _ _).mem_iff, List.mem_dedup]

structure ReducerContext where
  caller : String
  timestampMs : UInt64
  deriving DecidableEq, Repr

structure GraphModule where
  nextDocumentId : Nat
  nextChunkId : Nat
  nextEntityId : Nat
  nextRelationshipId : Nat
  nextMentionId : Nat
  nextCommunityId : Nat
  documents : List DocumentRecord
  chunks : List ChunkRecord
  entities : List EntityRecord
  mentions : List MentionRecord
  relationships : List RelationshipRecord
  communities : List CommunityRecord

namespace GraphModule

def empty : GraphModule := ⟨0, 0, 0, 0, 0, 0, [], [], [], [], [], []⟩

/-! ## Inserting -/

def insertDocument (graph : GraphModule) (context : ReducerContext)
    (title sourceUri rawText : String) : GraphModule :=
  { graph with
    nextDocumentId := graph.nextDocumentId + 1
    documents := graph.documents ++
      [{ id := graph.nextDocumentId + 1
         title
         sourceUri
         rawText
         status := .pending
         createdAtMs := context.timestampMs
         chunkCount := 0
         entityCount := 0
         relationshipCount := 0 }] }

def numberedChunks (first : Nat) (drafts : List ChunkRecord) : List ChunkRecord :=
  drafts.zipIdx.map fun (chunk, index) =>
    { chunk with
      id := first + index
      previousChunkId := if index = 0 then none else some (first + index - 1)
      nextChunkId := if index + 1 < drafts.length then some (first + index + 1) else none }

def insertChunks (graph : GraphModule) (documentId : Nat) (rawText : String)
    (chunkSize overlap : Nat) : List ChunkRecord × GraphModule :=
  let chunks := numberedChunks (graph.nextChunkId + 1)
    (chunkText documentId rawText chunkSize overlap)
  (chunks, { graph with
    nextChunkId := graph.nextChunkId + chunks.length
    chunks := graph.chunks ++ chunks
    documents := modifyFirst (·.id = documentId)
      (fun document => { document with status := .chunked, chunkCount := chunks.length })
      graph.documents })

/-- A known entity is mentioned once more. -/
def mentionedAgain (description : String) (entity : EntityRecord) : EntityRecord :=
  { entity with
    salience := entity.salience + 1
    mentionCount := entity.mentionCount + 1
    description := if entity.description = "" then description else entity.description }

def newEntity (id documentId : Nat) (entity : ExtractedEntity) : EntityRecord where
  id
  canonicalName := entity.name
  normalizedName := normalizeKey entity.name
  entityType := entity.entityType
  description := entity.description
  salience := 1
  mentionCount := 1
  degree := 0
  weight := 1
  firstDocumentId := documentId

def upsertEntity (graph : GraphModule) (documentId : Nat) (entity : ExtractedEntity) :
    Nat × GraphModule :=
  match graph.entities.find? (·.normalizedName = normalizeKey entity.name) with
  | some found =>
    (found.id, { graph with
      entities := modifyFirst (·.normalizedName = normalizeKey entity.name)
        (mentionedAgain entity.description) graph.entities })
  | none =>
    (graph.nextEntityId + 1, { graph with
      nextEntityId := graph.nextEntityId + 1
      entities := graph.entities ++ [newEntity (graph.nextEntityId + 1) documentId entity] })

def insertMention (graph : GraphModule) (documentId chunkId entityId : Nat) (surface : String) :
    GraphModule :=
  if graph.mentions.any fun mention => mention.documentId = documentId &&
      mention.chunkId = chunkId && mention.entityId = entityId && mention.surface = surface then
    graph
  else
    { graph with
      nextMentionId := graph.nextMentionId + 1
      mentions := graph.mentions ++
        [⟨graph.nextMentionId + 1, documentId, chunkId, entityId, surface⟩] }

/-- A known relationship is seen in a chunk. -/
def relatedAgain (chunkId : Nat) (relationship : RelationshipRecord) : RelationshipRecord :=
  { relationship with
    weight := relationship.weight + 3
    confidence := min (relationship.confidence + 10) 100
    evidenceChunkIds := if chunkId ∈ relationship.evidenceChunkIds then
        relationship.evidenceChunkIds
      else relationship.evidenceChunkIds ++ [chunkId] }

def upsertRelationship (graph : GraphModule) (documentId source target : Nat)
    (relationType : String) (chunkId : Nat) (description : String) : Nat × GraphModule :=
  let same (relationship : RelationshipRecord) : Bool :=
    relationship.documentId = documentId && relationship.sourceEntityId = source &&
      relationship.targetEntityId = target && relationship.relationType = relationType
  match graph.relationships.find? same with
  | some found =>
    (found.id, { graph with
      relationships := modifyFirst same (relatedAgain chunkId) graph.relationships })
  | none =>
    (graph.nextRelationshipId + 1, { graph with
      nextRelationshipId := graph.nextRelationshipId + 1
      relationships := graph.relationships ++
        [{ id := graph.nextRelationshipId + 1
           documentId
           sourceEntityId := source
           targetEntityId := target
           relationType
           weight := 3
           confidence := 60
           evidenceChunkIds := [chunkId]
           description }] })

/-! ## Derived values -/

def relationshipsOf (graph : GraphModule) (documentId : Nat) : List RelationshipRecord :=
  graph.relationships.filter (·.documentId = documentId)

def endsAt (relationships : List RelationshipRecord) (entityId : Nat) : Nat :=
  (relationships.filter (·.sourceEntityId = entityId)).length +
    (relationships.filter (·.targetEntityId = entityId)).length

def weighted (degree : Nat) (entity : EntityRecord) : EntityRecord :=
  { entity with
    degree
    weight := entity.salience * 2 + entity.mentionCount * 3 + degree * 5 }

def weightOf (entities : List EntityRecord) (entityId : Nat) : Nat :=
  ((entities.reverse.find? (·.id = entityId)).map (·.weight)).getD 0

section
variable (graph : GraphModule) (documentId : Nat)

def recomputeEntityWeights : GraphModule :=
  let entities := graph.entities.map fun entity =>
    weighted (endsAt (graph.relationshipsOf documentId) entity.id) entity
  { graph with
    entities
    relationships := graph.relationships.map fun relationship =>
      if relationship.documentId ≠ documentId then relationship
      else
        { relationship with
          weight := relationship.evidenceChunkIds.length * 4 +
            (weightOf entities relationship.sourceEntityId +
              weightOf entities relationship.targetEntityId) / 2 } }

/-- The entities that are mentioned in a document, each once. -/
def mentionedIn : List Nat :=
  ((graph.mentions.filter (·.documentId = documentId)).map (·.entityId)).dedup

def updateDocumentStats : GraphModule :=
  { graph with
    documents := modifyFirst (·.id = documentId)
      (fun document =>
        { document with
          entityCount := (graph.mentionedIn documentId).length
          relationshipCount := (graph.relationshipsOf documentId).length
          status := if 0 < document.chunkCount then .graphReady else document.status })
      graph.documents }

end

/-! ## A chunk -/

/-- What attaching a chunk has collected: the graph, the entities by their keys and the
identifiers. -/
structure Attaching where
  graph : GraphModule
  entityNameToId : Table String Nat
  entityIds : List Nat
  relationshipIds : List Nat

section
variable (documentId chunkId : Nat) (attaching : Attaching)

def attachEntity (entity : ExtractedEntity) :
    Attaching :=
  let (entityId, graph) := attaching.graph.upsertEntity documentId entity
  { attaching with
    graph := graph.insertMention documentId chunkId entityId entity.name
    entityNameToId := attaching.entityNameToId.insert (normalizeKey entity.name) entityId
    entityIds := attaching.entityIds ++ [entityId] }

def attachRelationship (relationship : ExtractedRelationship) : Attaching :=
  match attaching.entityNameToId.get (normalizeKey relationship.sourceName),
      attaching.entityNameToId.get (normalizeKey relationship.targetName) with
  | some source, some target =>
    if source = target then attaching
    else
      let (relationshipId, graph) := attaching.graph.upsertRelationship documentId source target
        relationship.relationType chunkId relationship.description
      { attaching with
        graph
        relationshipIds := attaching.relationshipIds ++ [relationshipId] }
  | _, _ => attaching

end

structure ChunkFactResult where
  chunkId : Nat
  entityIds : List Nat
  relationshipIds : List Nat
  deriving DecidableEq, Repr

section
variable (graph : GraphModule) (documentId chunkId : Nat) (extracted : ExtractedChunkGraph)

def attachFacts : Attaching :=
  extracted.relationships.foldl (attachRelationship documentId chunkId)
    (extracted.entities.foldl (attachEntity documentId chunkId) ⟨graph, .empty, [], []⟩)

def attachChunkGraph : ChunkFactResult × GraphModule :=
  let attaching := attachFacts graph documentId chunkId extracted
  (⟨chunkId, attaching.entityIds, attaching.relationshipIds⟩,
    (attaching.graph.recomputeEntityWeights documentId).updateDocumentStats documentId)

end

/-! ## Communities -/

/-- The last one of the greatest weight. -/
def heaviest (entities : List EntityRecord) : Option EntityRecord :=
  entities.foldl
    (fun best entity =>
      match best with
      | some held => if held.weight ≤ entity.weight then some entity else best
      | none => some entity)
    none

def communityOf (graph : GraphModule) (id documentId : Nat) (memberEntityIds : List Nat)
    (relationshipIds : List Nat) : CommunityRecord :=
  let members := memberEntityIds.filterMap fun entityId =>
    graph.entities.find? (·.id = entityId)
  let rank := (members.map (·.weight)).sum + relationshipIds.length * 4
  let label := ((heaviest members).map (·.canonicalName)).getD "Community"
  { id
    documentId
    label
    memberEntityIds
    relationshipIds
    rank
    summary := "Community around " ++ label ++ ": entities=" ++ memberEntityIds.length.repr ++
      " relationships=" ++ relationshipIds.length.repr ++ " rank=" ++ rank.repr }

def communityParts (graph : GraphModule) (documentId : Nat) : List (List Nat × List Nat) :=
  (buildCommunities (idSet (graph.mentionedIn documentId))
    ((graph.relationshipsOf documentId).map fun relationship =>
      (relationship.id, relationship.sourceEntityId, relationship.targetEntityId))).filter
    (·.1 ≠ [])

def rebuildCommunities (graph : GraphModule) (documentId : Nat) : List Nat × GraphModule :=
  let rebuilt := (graph.communityParts documentId).zipIdx.map fun (parts, index) =>
    graph.communityOf (graph.nextCommunityId + 1 + index) documentId parts.1 parts.2
  (rebuilt.map (·.id), { graph with
    nextCommunityId := graph.nextCommunityId + rebuilt.length
    communities := graph.communities.filter (·.documentId ≠ documentId) ++ rebuilt })

/-! ## A document -/

structure IngestDocumentResult where
  documentId : Nat
  chunkIds : List Nat
  entityIds : List Nat
  relationshipIds : List Nat
  communityIds : List Nat
  deriving DecidableEq, Repr

def ingestChunk (documentId : Nat) (collected : List Nat × List Nat × GraphModule)
    (chunk : ChunkRecord) : List Nat × List Nat × GraphModule :=
  let text := ((collected.2.2.chunks.find? (·.id = chunk.id)).map (·.text)).getD ""
  let attached := collected.2.2.attachChunkGraph documentId chunk.id
    (heuristicExtractChunkGraph text)
  (collected.1 ++ attached.1.entityIds, collected.2.1 ++ attached.1.relationshipIds, attached.2)

def ingestDocumentWithHeuristics (graph : GraphModule) (context : ReducerContext)
    (title sourceUri rawText : String) (chunkSize overlap : Nat) :
    IngestDocumentResult × GraphModule :=
  let documentId := graph.nextDocumentId + 1
  let inserted := (graph.insertDocument context title sourceUri rawText).insertChunks
    documentId rawText chunkSize overlap
  let collected := inserted.1.foldl (ingestChunk documentId) ([], [], inserted.2)
  let rebuilt := collected.2.2.rebuildCommunities documentId
  ({ documentId
     chunkIds := inserted.1.map (·.id)
     entityIds := idSet collected.1
     relationshipIds := idSet collected.2.1
     communityIds := rebuilt.1 }, rebuilt.2.updateDocumentStats documentId)

end GraphModule

end AutoLoop.Rag
