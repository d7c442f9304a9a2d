import AutoLoop.Rag.ChunkFacts

/-!
# Exact statistics

The counts of documents and the weights of entities are always what the records say.  The
mention counts of entities are as long as no name is attached to a chunk twice, and their
degrees as long as all relationships are those of the document attached last.
-/

namespace AutoLoop.Rag.GraphModule

open List

def incident (graph : GraphModule) (entityId : Nat) : Nat :=
  (graph.relationships.filter fun relationship =>
    relationship.sourceEntityId = entityId || relationship.targetEntityId = entityId).length

/-- Every derived value is what the records say. -/
structure ExactStatistics (graph : GraphModule) : Prop where
  mentionCounts : ∀ entity ∈ graph.entities, entity.mentionCount = graph.recorded entity.id
  degrees : ∀ entity ∈ graph.entities, entity.degree = graph.incident entity.id
  weights : ∀ entity ∈ graph.entities,
    entity.weight = entity.salience * 2 + entity.mentionCount * 3 + entity.degree * 5
  documents : ∀ document ∈ graph.documents,
    document.entityCount = (graph.mentionedIn document.id).length ∧
      document.relationshipCount = (graph.relationshipsOf document.id).length

section
variable (graph : GraphModule)

def OnlyOf (documentId : Nat) : Prop :=
  ∀ id ∈ graph.relationships.map (·.documentId), id = documentId

/-- A document and its chunks, before anything is attached. -/
def withChunks (context : ReducerContext)
    (title sourceUri rawText : String) (chunkSize overlap : Nat) :
    List ChunkRecord × GraphModule :=
  (graph.insertDocument context title sourceUri rawText).insertChunks (graph.nextDocumentId + 1)
    rawText chunkSize overlap

/-- The text that is found under the identifier of a chunk. -/
def textOf (chunkId : Nat) : String :=
  ((graph.chunks.find? (·.id = chunkId)).map (·.text)).getD ""

def namesIn (chunkId : Nat) : List String :=
  (heuristicExtractChunkGraph (graph.textOf chunkId)).entities.map (·.name)

def KeepsStatistics : GraphCall → Prop
  | .attachChunk documentId chunkId extracted =>
    graph.FreshNames documentId chunkId (extracted.entities.map (·.name)) ∧
      graph.OnlyOf documentId
  | .ingestDocument context title sourceUri rawText chunkSize overlap =>
    let inserted := graph.withChunks context title sourceUri rawText chunkSize overlap
    (∀ chunk ∈ inserted.1, ∀ name ∈ inserted.2.namesIn chunk.id,
        ¬graph.Records (graph.nextDocumentId + 1) chunk.id name) ∧
      (inserted.1 ≠ [] → graph.OnlyOf (graph.nextDocumentId + 1))
  | .rebuildCommunities _ => True

end

variable {graph : GraphModule} {documentId chunkId : Nat}

/-! ## Degrees -/

theorem incident_eq_endsAt
    (apart : ∀ relationship ∈ graph.relationships,
      relationship.sourceEntityId ≠ relationship.targetEntityId) (entityId : Nat) :
    graph.incident entityId = endsAt graph.relationships entityId := by
  unfold incident endsAt
  generalize graph.relationships = relationships at apart
  induction relationships with
  | nil => rfl
  | cons relationship rest ih =>
    have restApart : ∀ relationship ∈ rest,
        relationship.sourceEntityId ≠ relationship.targetEntityId :=
      fun later isLater => apart later (mem_cons_of_mem _ isLater)
    have different := apart relationship mem_cons_self
    have ih := ih restApart
    by_cases isSource : relationship.sourceEntityId = entityId
    · have notTarget : ¬relationship.targetEntityId = entityId :=
        fun isTarget => different (isSource.trans isTarget.symm)
      simp [isSource, notTarget, ih]
      omega
    · by_cases isTarget : relationship.targetEntityId = entityId
      · simp [isSource, isTarget, ih]
        omega
      · simp [isSource, isTarget, ih]

theorem endsAt_split (relationships : List RelationshipRecord) (documentId entityId : Nat) :
    endsAt relationships entityId =
      endsAt (relationships.filter (·.documentId = documentId)) entityId +
        endsAt (relationships.filter (·.documentId ≠ documentId)) entityId := by
  unfold endsAt
  induction relationships with
  | nil => rfl
  | cons relationship rest ih =>
    by_cases isOf : relationship.documentId = documentId
    · simp only [filter_cons, isOf, decide_true, if_true, ne_eq, not_true_eq_false,
        decide_false, Bool.false_eq_true, if_false]
      split
      · split
        · simp only [length_cons]
          simp only [ne_eq] at ih
          omega
        · simp only [length_cons]
          simp only [ne_eq] at ih
          omega
      · split
        · simp only [length_cons]
          simp only [ne_eq] at ih
          omega
        · simpa using ih
    · simp only [filter_cons, isOf, decide_false, Bool.false_eq_true, if_false, ne_eq,
        not_false_eq_true, decide_true, if_true]
      split
      · split
        · simp only [length_cons]
          simp only [ne_eq] at ih
          omega
        · simp only [length_cons]
          simp only [ne_eq] at ih
          omega
      · split
        · simp only [length_cons]
          simp only [ne_eq] at ih
          omega
        · simpa using ih

theorem endsAt_eq_iff (sound : graph.Sound) (documentId : Nat) :
    (∀ entity ∈ graph.entities, endsAt (graph.relationshipsOf documentId) entity.id =
        graph.incident entity.id) ↔ graph.OnlyOf documentId := by
  have apart : ∀ relationship ∈ graph.relationships,
      relationship.sourceEntityId ≠ relationship.targetEntityId :=
    fun relationship isRelationship => (sound.related relationship isRelationship).1
  constructor
  · intro same id isId
    obtain ⟨relationship, isRelationship, rfl⟩ := mem_map.mp isId
    by_contra other
    obtain ⟨entity, isEntity, isSource⟩ :=
      mem_map.mp (sound.related relationship isRelationship).2.1
    have sameEnds := same entity isEntity
    rw [incident_eq_endsAt apart, endsAt_split graph.relationships documentId] at sameEnds
    have positive : 0 < endsAt (graph.relationships.filter (·.documentId ≠ documentId))
        entity.id := by
      refine Nat.lt_of_lt_of_le (length_pos_of_mem (a := relationship) ?_)
        (Nat.le_add_right _ _)
      simp [isRelationship, other, isSource]
    simp only [relationshipsOf] at sameEnds
    omega
  · intro only entity isEntity
    rw [incident_eq_endsAt apart, relationshipsOf, filter_eq_self.mpr]
    intro relationship isRelationship
    simpa using only _ (mem_map_of_mem isRelationship)

/-! ## Recomputing -/

section Recompute

theorem entities_recompute (graph : GraphModule) (documentId : Nat) :
    (graph.recomputeEntityWeights documentId).entities = graph.entities.map fun entity =>
      weighted (endsAt (graph.relationshipsOf documentId) entity.id) entity := rfl

theorem map_recompute {β : Type} {view : RelationshipRecord → β} (documentId : Nat)
    (kept : ∀ relationship weight, view { relationship with weight } = view relationship) :
    (graph.recomputeEntityWeights documentId).relationships.map view =
      graph.relationships.map view := by
  simp only [recomputeEntityWeights, map_map]
  refine map_congr_left ?_
  intro relationship _
  simp only [Function.comp_def]
  split
  · rfl
  · exact kept _ _

theorem incident_recompute (documentId entityId : Nat) :
    (graph.recomputeEntityWeights documentId).incident entityId = graph.incident entityId := by
  have viewed (graph : GraphModule) : graph.incident entityId =
      ((graph.relationships.map fun relationship =>
        (relationship.sourceEntityId, relationship.targetEntityId)).filter fun ends =>
          ends.1 = entityId || ends.2 = entityId).length := by
    rw [filter_map, length_map]
    rfl
  rw [viewed, viewed, map_recompute documentId (fun _ _ => rfl)]

theorem onlyOf_recompute (documentId other : Nat) :
    (graph.recomputeEntityWeights documentId).OnlyOf other ↔ graph.OnlyOf other := by
  rw [OnlyOf, map_recompute documentId (fun _ _ => rfl)]
  rfl

theorem sound_recompute (sound : graph.Sound) (documentId : Nat) :
    (graph.recomputeEntityWeights documentId).Sound := by
  have ids : (graph.recomputeEntityWeights documentId).entities.map (·.id) =
      graph.entities.map (·.id) := by
    rw [entities_recompute, map_map]
    rfl
  have names : (graph.recomputeEntityWeights documentId).entities.map (·.normalizedName) =
      graph.entities.map (·.normalizedName) := by
    rw [entities_recompute, map_map]
    rfl
  refine ⟨ids ▸ sound.ids, ?_, names ▸ sound.names, ?_, ?_, ?_⟩
  · intro entity isEntity
    obtain ⟨held, isHeld, rfl⟩ := mem_map.mp isEntity
    exact sound.bounded held isHeld
  · intro mention isMention
    obtain ⟨held, isHeld, heldId, heldName⟩ := sound.mentioned mention isMention
    exact ⟨_, mem_map_of_mem isHeld, heldId, heldName⟩
  · intro entity isEntity
    obtain ⟨held, isHeld, rfl⟩ := mem_map.mp isEntity
    exact sound.covered held isHeld
  · intro relationship isRelationship
    rw [ids]
    have isEnds : (relationship.sourceEntityId, relationship.targetEntityId) ∈
        graph.relationships.map fun relationship =>
          (relationship.sourceEntityId, relationship.targetEntityId) := by
      rw [← map_recompute documentId (fun _ _ => rfl)]
      exact mem_map_of_mem (f := fun relationship : RelationshipRecord =>
        (relationship.sourceEntityId, relationship.targetEntityId)) isRelationship
    obtain ⟨old, isOld, sameEnds⟩ := mem_map.mp isEnds
    rw [← (Prod.mk.inj sameEnds).1, ← (Prod.mk.inj sameEnds).2]
    exact sound.related old isOld

theorem mentionsExact_recompute (documentId : Nat) :
    (graph.recomputeEntityWeights documentId).MentionsExact ↔ graph.MentionsExact := by
  simp only [MentionsExact, entities_recompute, forall_mem_map]
  exact Iff.rfl

end Recompute

/-! ## A chunk -/

def WeightsExact (graph : GraphModule) : Prop :=
  ∀ entity ∈ graph.entities,
    entity.weight = entity.salience * 2 + entity.mentionCount * 3 + entity.degree * 5

def DegreesExact (graph : GraphModule) : Prop :=
  ∀ entity ∈ graph.entities, entity.degree = graph.incident entity.id

theorem sound_updateStats (documentId : Nat) :
    (graph.updateDocumentStats documentId).Sound ↔ graph.Sound :=
  ⟨fun sound => ⟨sound.ids, sound.bounded, sound.names, sound.mentioned, sound.covered,
      sound.related⟩,
    fun sound => ⟨sound.ids, sound.bounded, sound.names, sound.mentioned, sound.covered,
      sound.related⟩⟩

theorem attachChunkGraph_spec (sound : graph.Sound) (documentId chunkId : Nat)
    (extracted : ExtractedChunkGraph) :
    (graph.attachChunkGraph documentId chunkId extracted).2.Sound ∧
      (graph.attachChunkGraph documentId chunkId extracted).2.WeightsExact ∧
      ((graph.attachChunkGraph documentId chunkId extracted).2.MentionsExact ↔ graph.MentionsExact ∧
          graph.FreshNames documentId chunkId (extracted.entities.map (·.name))) ∧
      ((graph.attachChunkGraph documentId chunkId extracted).2.DegreesExact ↔
        graph.OnlyOf documentId) := by
  obtain ⟨factsSound, factsExact⟩ := attachFacts_spec sound documentId chunkId extracted
  have grown := grown_attachFacts graph documentId chunkId extracted
  refine ⟨(sound_updateStats _).mpr (sound_recompute factsSound documentId), ?_, ?_, ?_⟩
  · intro entity isEntity
    obtain ⟨held, isHeld, rfl⟩ := mem_map.mp isEntity
    rfl
  · exact (mentionsExact_recompute documentId).trans factsExact
  · have degrees : (graph.attachChunkGraph documentId chunkId extracted).2.DegreesExact ↔
        ∀ entity ∈ (graph.attachFacts documentId chunkId extracted).graph.entities,
          endsAt ((graph.attachFacts documentId chunkId extracted).graph.relationshipsOf
            documentId) entity.id =
          (graph.attachFacts documentId chunkId extracted).graph.incident entity.id := by
      have same (entityId : Nat) :
          (graph.attachChunkGraph documentId chunkId extracted).2.incident entityId =
            (graph.attachFacts documentId chunkId extracted).graph.incident entityId :=
        incident_recompute documentId entityId
      simp only [DegreesExact, same]
      exact forall_mem_map
    rw [degrees, endsAt_eq_iff factsSound]
    obtain ⟨count, isCount⟩ := grown.relationships
    simp only [OnlyOf, isCount, mem_append, mem_replicate]
    constructor
    · intro only id isId
      exact only id (Or.inl isId)
    · intro only id isId
      cases isId with
      | inl isOld => exact only id isOld
      | inr isNew => exact isNew.2

/-! ## Documents -/

def DocumentExact (graph : GraphModule) (document : DocumentRecord) : Prop :=
  document.entityCount = (graph.mentionedIn document.id).length ∧
    document.relationshipCount = (graph.relationshipsOf document.id).length

/-- Documents are told apart by identifiers that were handed out. -/
structure DocumentsSound (graph : GraphModule) : Prop where
  ids : (graph.documents.map (·.id)).Nodup
  bounded : ∀ id ∈ graph.documents.map (·.id), id ≤ graph.nextDocumentId

theorem length_relationshipsOf (graph : GraphModule) (documentId : Nat) :
    (graph.relationshipsOf documentId).length =
      ((graph.relationships.map (·.documentId)).filter (· = documentId)).length := by
  rw [filter_map, length_map]
  rfl

theorem documentExact_recompute (documentId : Nat) (document : DocumentRecord) :
    (graph.recomputeEntityWeights documentId).DocumentExact document ↔
      graph.DocumentExact document := by
  simp only [DocumentExact, length_relationshipsOf]
  rw [map_recompute documentId (fun _ _ => rfl)]
  rfl

theorem Grown.documentExact {later : GraphModule} (grown : Grown documentId chunkId graph later)
    {document : DocumentRecord} (other : document.id ≠ documentId) :
    later.DocumentExact document ↔ graph.DocumentExact document := by
  obtain ⟨added, isAdded, allAdded⟩ := grown.mentions
  obtain ⟨count, isCount⟩ := grown.relationships
  have mentions : later.mentionedIn document.id = graph.mentionedIn document.id := by
    have none : added.filter (·.documentId = document.id) = [] := by
      rw [filter_eq_nil_iff]
      intro mention isMention
      simpa [(allAdded mention isMention).1] using Ne.symm other
    rw [mentionedIn, isAdded, filter_append, none, append_nil]
    rfl
  have relationships : (later.relationshipsOf document.id).length =
      (graph.relationshipsOf document.id).length := by
    rw [length_relationshipsOf, length_relationshipsOf, isCount, filter_append, length_append]
    have none : (List.replicate count documentId).filter (· = document.id) = [] := by
      rw [filter_eq_nil_iff]
      intro id isId
      rw [(mem_replicate.mp isId).2]
      simpa using Ne.symm other
    rw [none, length_nil, Nat.add_zero]
  rw [DocumentExact, DocumentExact, mentions, relationships]

theorem ids_updateStats (graph : GraphModule) (documentId : Nat) :
    (graph.updateDocumentStats documentId).documents.map (·.id) =
      graph.documents.map (·.id) := by
  refine map_modifyFirst ?_ _
  intro document
  rfl

theorem documentsExact_updateStats (ids : (graph.documents.map (·.id)).Nodup)
    (others : ∀ document ∈ graph.documents, document.id ≠ documentId →
      graph.DocumentExact document) :
    ∀ document ∈ (graph.updateDocumentStats documentId).documents,
      (graph.updateDocumentStats documentId).DocumentExact document := by
  intro document isDocument
  simp only [updateDocumentStats] at isDocument
  cases found : graph.documents.find? (·.id = documentId) with
  | none =>
    rw [modifyFirst_of_none found] at isDocument
    have other := find?_eq_none.mp found document isDocument
    exact others document isDocument (by simpa using other)
  | some held =>
    have isHeld : held.id = documentId := by simpa using find?_some found
    cases (mem_modifyFirst ids found).mp isDocument with
    | inl isChanged =>
      rw [isChanged]
      subst isHeld
      exact ⟨rfl, rfl⟩
    | inr both => exact others document both.1 (isHeld ▸ both.2)

theorem attachChunkGraph_documents (sound : graph.DocumentsSound)
    (extracted : ExtractedChunkGraph)
    (others : ∀ document ∈ graph.documents, document.id ≠ documentId →
      graph.DocumentExact document) :
    (graph.attachChunkGraph documentId chunkId extracted).2.documents.map (·.id) =
        graph.documents.map (·.id) ∧
      ∀ document ∈ (graph.attachChunkGraph documentId chunkId extracted).2.documents,
        (graph.attachChunkGraph documentId chunkId extracted).2.DocumentExact document := by
  have grown := grown_attachFacts graph documentId chunkId extracted
  have sameDocuments : ((graph.attachFacts documentId chunkId
      extracted).graph.recomputeEntityWeights documentId).documents = graph.documents :=
    grown.documents
  constructor
  · exact (ids_updateStats _ _).trans (congrArg (List.map (·.id)) sameDocuments)
  · refine documentsExact_updateStats (sameDocuments ▸ sound.ids) ?_
    intro document isDocument other
    rw [sameDocuments] at isDocument
    exact (documentExact_recompute _ _).mpr
      ((grown.documentExact other).mpr (others document isDocument other))

/-! ## Names of a chunk -/

theorem get_orInsert {entities : Table String ExtractedEntity}
    (keyed : ∀ key entity, entities.get key = some entity → key = normalizeKey entity.name)
    (new : ExtractedEntity) : ∀ key entity, (orInsert entities new).get key = some entity →
      key = normalizeKey entity.name := by
  intro key entity isEntity
  unfold orInsert at isEntity
  split at isEntity
  · exact keyed key entity isEntity
  · rw [Table.get_insert] at isEntity
    split at isEntity
    · next same =>
      cases isEntity
      exact same
    · exact keyed key entity isEntity

theorem nodup_extracted (text : String) :
    ((heuristicExtractChunkGraph text).entities.map (·.name)).Nodup := by
  have keyed : ∀ (found : List ExtractedEntity) (entities : Table String ExtractedEntity),
      (∀ key entity, entities.get key = some entity → key = normalizeKey entity.name) →
      ∀ key entity, (found.foldl orInsert entities).get key = some entity →
        key = normalizeKey entity.name := by
    intro found
    induction found with
    | nil => exact fun _ keyed => keyed
    | cons new rest ih => exact fun entities keyed => ih _ (get_orInsert keyed new)
  simp only [heuristicExtractChunkGraph, map_map]
  generalize isTable : List.foldl orInsert _ _ = table
  have keys : ∀ row ∈ table.rows, row.1 = normalizeKey row.2.name := by
    intro row isRow
    have isEntity := Table.mem_rows_iff.mp (show (row.1, row.2) ∈ table.rows from isRow)
    rw [← isTable] at isEntity
    exact keyed _ .empty (by simp) _ _ isEntity
  rw [List.Nodup, pairwise_map]
  refine table.increasing.imp_of_mem ?_
  intro row later isRow isLater below same
  rw [keys row isRow, keys later isLater] at below
  exact absurd below (by simp [show row.2.name = later.2.name from same])

/-! ## A document -/

theorem grown_attachChunkGraph (graph : GraphModule) (documentId chunkId : Nat)
    (extracted : ExtractedChunkGraph) :
    (graph.attachChunkGraph documentId chunkId extracted).2.chunks = graph.chunks ∧
      (∀ other name, other ≠ chunkId →
        ((graph.attachChunkGraph documentId chunkId extracted).2.Records documentId other name ↔
          graph.Records documentId other name)) ∧
      ((graph.attachChunkGraph documentId chunkId extracted).2.OnlyOf documentId ↔
        graph.OnlyOf documentId) := by
  have grown := grown_attachFacts graph documentId chunkId extracted
  refine ⟨grown.chunks, ?_, ?_⟩
  · intro other name different
    obtain ⟨added, isAdded, allAdded⟩ := grown.mentions
    have sameMentions : (graph.attachChunkGraph documentId chunkId extracted).2.mentions =
        graph.mentions ++ added := isAdded
    simp only [Records, sameMentions, mem_append]
    constructor
    · intro records
      obtain ⟨mention, either, isDocument, isChunk, isName⟩ := records
      cases either with
      | inl isOld => exact ⟨mention, isOld, isDocument, isChunk, isName⟩
      | inr isNew =>
        exact absurd (isChunk.symm.trans (allAdded mention isNew).2) different
    · intro records
      obtain ⟨mention, isOld, fields⟩ := records
      exact ⟨mention, Or.inl isOld, fields⟩
  · obtain ⟨count, isCount⟩ := grown.relationships
    refine (onlyOf_recompute documentId documentId).trans ?_
    simp only [OnlyOf, isCount, mem_append, mem_replicate]
    constructor
    · intro only id isId
      exact only id (Or.inl isId)
    · intro only id isId
      cases isId with
      | inl isOld => exact only id isOld
      | inr isNew => exact isNew.2

theorem nextDocumentId_attachEntities (entities : List ExtractedEntity) (attaching : Attaching) :
    (entities.foldl (attachEntity documentId chunkId) attaching).graph.nextDocumentId =
      attaching.graph.nextDocumentId := by
  induction entities generalizing attaching with
  | nil => rfl
  | cons entity rest ih =>
    refine (ih _).trans ?_
    rw [graph_attachEntity, afterEntity]
    unfold insertMention upsertEntity
    split
    · split
      · rfl
      · rfl
    · split
      · rfl
      · rfl

theorem nextDocumentId_attachRelationships (relationships : List ExtractedRelationship)
    (attaching : Attaching) :
    (relationships.foldl (attachRelationship documentId chunkId)
      attaching).graph.nextDocumentId = attaching.graph.nextDocumentId := by
  induction relationships generalizing attaching with
  | nil => rfl
  | cons relationship rest ih =>
    refine (ih _).trans ?_
    unfold attachRelationship
    split
    · split
      · rfl
      · simp only [upsertRelationship]
        split
        · rfl
        · rfl
    · rfl

theorem nextDocumentId_attach (graph : GraphModule) (documentId chunkId : Nat)
    (extracted : ExtractedChunkGraph) :
    (graph.attachChunkGraph documentId chunkId extracted).2.nextDocumentId =
      graph.nextDocumentId :=
  (nextDocumentId_attachRelationships extracted.relationships _).trans
    (nextDocumentId_attachEntities extracted.entities ⟨graph, .empty, [], []⟩)

theorem ingestChunks_spec (chunks : List ChunkRecord) (distinct : (chunks.map (·.id)).Nodup)
    (documentId : Nat) (collected : List Nat × List Nat × GraphModule)
    (sound : collected.2.2.Sound) (documents : collected.2.2.DocumentsSound)
    (weights : collected.2.2.WeightsExact)
    (others : ∀ document ∈ collected.2.2.documents, document.id ≠ documentId →
      collected.2.2.DocumentExact document) :
    ∀ later, (chunks.foldl (ingestChunk documentId) collected).2.2 = later →
    later.Sound ∧ later.WeightsExact ∧
      later.documents.map (·.id) = collected.2.2.documents.map (·.id) ∧
      (∀ document ∈ later.documents, document.id ≠ documentId → later.DocumentExact document) ∧
      (later.MentionsExact ↔ collected.2.2.MentionsExact ∧
        ∀ chunk ∈ chunks, ∀ name ∈ collected.2.2.namesIn chunk.id,
          ¬collected.2.2.Records documentId chunk.id name) ∧
      (later.DegreesExact ↔ if chunks = [] then collected.2.2.DegreesExact
        else collected.2.2.OnlyOf documentId) := by
  induction chunks generalizing collected with
  | nil =>
    intro later isLater
    subst isLater
    exact ⟨sound, weights, rfl, others, by simp, by simp⟩
  | cons chunk rest ih =>
    intro later isLater
    obtain ⟨entityIds, relationshipIds, graph⟩ := collected
    simp only at sound documents weights others
    rw [map_cons, nodup_cons] at distinct
    obtain ⟨fresh, distinct⟩ := distinct
    obtain ⟨firstSound, firstWeights, firstMentions, firstDegrees⟩ :=
      attachChunkGraph_spec sound documentId chunk.id
        (heuristicExtractChunkGraph (graph.textOf chunk.id))
    obtain ⟨firstIds, firstDocuments⟩ := @attachChunkGraph_documents graph
      documentId chunk.id documents (heuristicExtractChunkGraph (graph.textOf chunk.id)) others
    obtain ⟨firstChunks, firstRecords, firstOnly⟩ := grown_attachChunkGraph graph documentId
      chunk.id (heuristicExtractChunkGraph (graph.textOf chunk.id))
    generalize isFirst : graph.attachChunkGraph documentId chunk.id
      (heuristicExtractChunkGraph (graph.textOf chunk.id)) = attached at *
    have isStep : ingestChunk documentId (entityIds, relationshipIds, graph) chunk =
        (entityIds ++ attached.1.entityIds, relationshipIds ++ attached.1.relationshipIds,
          attached.2) := by rw [← isFirst]; rfl
    have nextDocument : attached.2.nextDocumentId = graph.nextDocumentId := by
      rw [← isFirst]
      exact nextDocumentId_attach _ _ _ _
    obtain ⟨laterSound, laterWeights, laterIds, laterOthers, laterMentions, laterDegrees⟩ :=
      ih distinct (entityIds ++ attached.1.entityIds,
        relationshipIds ++ attached.1.relationshipIds, attached.2) firstSound
        ⟨firstIds ▸ documents.ids, by rw [firstIds, nextDocument]; exact documents.bounded⟩
        firstWeights (fun document isDocument _ => firstDocuments document isDocument) later
        (by rw [← isStep]; exact isLater)
    refine ⟨laterSound, laterWeights, laterIds.trans firstIds, laterOthers, ?_, ?_⟩
    · rw [laterMentions, firstMentions, forall_mem_cons, and_assoc]
      refine and_congr_right fun _ => ?_
      have sameNames (id : Nat) : attached.2.namesIn id = graph.namesIn id := by
        simp only [namesIn, textOf, firstChunks]
      refine and_congr ?_ ?_
      · exact and_iff_right (nodup_extracted _)
      · refine forall₂_congr fun later isLater => ?_
        have different : later.id ≠ chunk.id := by
          intro same
          exact fresh (same ▸ mem_map_of_mem isLater)
        rw [sameNames]
        refine forall₂_congr fun name _ => ?_
        rw [firstRecords later.id name different]
    · rw [laterDegrees]
      split
      · simpa using firstDegrees
      · simpa using firstOnly

theorem nextDocumentId_ingestChunks (chunks : List ChunkRecord) (documentId : Nat)
    (collected : List Nat × List Nat × GraphModule) :
    (chunks.foldl (ingestChunk documentId) collected).2.2.nextDocumentId =
      collected.2.2.nextDocumentId := by
  induction chunks generalizing collected with
  | nil => rfl
  | cons chunk rest ih => exact (ih _).trans (nextDocumentId_attach _ _ _ _)

end AutoLoop.Rag.GraphModule
