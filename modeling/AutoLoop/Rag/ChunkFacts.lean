import AutoLoop.Rag.GraphRuns

/-!
# What a chunk adds

Attaching a chunk keeps a graph sound, records its names and adds relationships of its
document between known entities.
-/

namespace AutoLoop.Rag.GraphModule

open List

variable {graph : GraphModule} {documentId chunkId : Nat}

/-! ## Entities -/

def FreshNames (graph : GraphModule) (documentId chunkId : Nat) (names : List String) : Prop :=
  names.Nodup ∧ ∀ name ∈ names, ¬graph.Records documentId chunkId name

def NamesKnown (attaching : Attaching) : Prop :=
  ∀ key id, attaching.entityNameToId.get key = some id →
    id ∈ attaching.graph.entities.map (·.id)

theorem graph_attachEntity (attaching : Attaching) (entity : ExtractedEntity) :
    (attachEntity documentId chunkId attaching entity).graph =
      attaching.graph.afterEntity documentId chunkId entity := rfl

theorem ids_afterEntity (sound : graph.Sound) (documentId chunkId : Nat)
    (entity : ExtractedEntity) {id : Nat} (isId : id ∈ graph.entities.map (·.id)) :
    id ∈ (graph.afterEntity documentId chunkId entity).entities.map (·.id) := by
  obtain ⟨held, isHeld, rfl⟩ := mem_map.mp isId
  obtain ⟨still, isStill, stillId, -⟩ := (upserted sound documentId entity).kept held isHeld
  rw [entities_afterEntity]
  exact mem_map.mpr ⟨still, isStill, stillId⟩

theorem namesKnown_attachEntity {attaching : Attaching} (sound : attaching.graph.Sound)
    (known : NamesKnown attaching) (entity : ExtractedEntity) :
    NamesKnown (attachEntity documentId chunkId attaching entity) := by
  intro key id isId
  rw [graph_attachEntity]
  rw [attachEntity, Table.get_insert] at isId
  split at isId
  · cases isId
    obtain ⟨target, isTarget, prior, isId, -⟩ := (upserted sound documentId entity).counted
    rw [entities_afterEntity]
    exact mem_map.mpr ⟨target, isTarget, isId⟩
  · exact ids_afterEntity sound documentId chunkId entity (known key id isId)

theorem attachEntities (entities : List ExtractedEntity) {attaching : Attaching}
    (sound : attaching.graph.Sound) (known : NamesKnown attaching) :
    (entities.foldl (attachEntity documentId chunkId) attaching).graph.Sound ∧
      NamesKnown (entities.foldl (attachEntity documentId chunkId) attaching) ∧
      ((entities.foldl (attachEntity documentId chunkId) attaching).graph.MentionsExact ↔
        attaching.graph.MentionsExact ∧
          attaching.graph.FreshNames documentId chunkId (entities.map (·.name))) := by
  induction entities generalizing attaching with
  | nil => simp [sound, known, FreshNames]
  | cons entity rest ih =>
    have laterSound := sound_afterEntity sound documentId chunkId entity
    obtain ⟨restSound, restKnown, exact⟩ :=
      ih laterSound (namesKnown_attachEntity sound known entity)
    refine ⟨restSound, restKnown, ?_⟩
    rw [foldl_cons, exact, graph_attachEntity, mentionsExact_afterEntity sound]
    simp only [FreshNames, map_cons, nodup_cons, forall_mem_cons, afterEntity,
      records_insertMention]
    have unchanged (surface : String) : (attaching.graph.upsertEntity documentId entity).2.Records
        documentId chunkId surface ↔ attaching.graph.Records documentId chunkId surface := by
      rw [Records, (upserted sound documentId entity).same.1]
      rfl
    simp only [unchanged]
    constructor
    · intro all
      obtain ⟨⟨isExact, fresh⟩, distinct, later⟩ := all
      refine ⟨isExact, ⟨?_, distinct⟩, fresh, ?_⟩
      · intro isRest
        exact later entity.name isRest (Or.inr (by simp))
      · intro name isName records
        exact later name isName (Or.inl records)
    · intro all
      obtain ⟨isExact, ⟨absent, distinct⟩, fresh, later⟩ := all
      refine ⟨⟨isExact, fresh⟩, distinct, ?_⟩
      intro name isName either
      cases either with
      | inl records => exact later name isName records
      | inr same =>
        have sameName : name = entity.name := by simpa using same
        exact absent (sameName ▸ isName)

/-! ## Relationships -/

/-- Only relationships differ, and only relationships of a document between entities of the
graph were added or seen again. -/
structure OnlyRelated (documentId : Nat) (graph later : GraphModule) : Prop where
  same : later.documents = graph.documents ∧ later.chunks = graph.chunks ∧
    later.entities = graph.entities ∧ later.mentions = graph.mentions ∧
    later.nextEntityId = graph.nextEntityId
  documents : ∃ count, later.relationships.map (·.documentId) =
    graph.relationships.map (·.documentId) ++ List.replicate count documentId
  related : (∀ relationship ∈ graph.relationships,
      relationship.sourceEntityId ≠ relationship.targetEntityId ∧
        relationship.sourceEntityId ∈ graph.entities.map (·.id) ∧
        relationship.targetEntityId ∈ graph.entities.map (·.id)) →
    ∀ relationship ∈ later.relationships,
      relationship.sourceEntityId ≠ relationship.targetEntityId ∧
        relationship.sourceEntityId ∈ later.entities.map (·.id) ∧
        relationship.targetEntityId ∈ later.entities.map (·.id)

theorem OnlyRelated.refl (documentId : Nat) (graph : GraphModule) :
    OnlyRelated documentId graph graph :=
  ⟨⟨rfl, rfl, rfl, rfl, rfl⟩, ⟨0, by simp⟩, id⟩

theorem OnlyRelated.trans {middle later : GraphModule} (first : OnlyRelated documentId graph middle)
    (second : OnlyRelated documentId middle later) : OnlyRelated documentId graph later := by
  obtain ⟨before, isBefore⟩ := first.documents
  obtain ⟨after, isAfter⟩ := second.documents
  refine ⟨⟨second.same.1.trans first.same.1, second.same.2.1.trans first.same.2.1,
    second.same.2.2.1.trans first.same.2.2.1, second.same.2.2.2.1.trans first.same.2.2.2.1,
    second.same.2.2.2.2.trans first.same.2.2.2.2⟩, ⟨before + after, ?_⟩,
    fun related => second.related (first.related related)⟩
  rw [isAfter, isBefore, append_assoc, replicate_append_replicate]

theorem documentIds_relatedAgain (matching : RelationshipRecord → Bool) (chunkId : Nat)
    (relationships : List RelationshipRecord) :
    (modifyFirst matching (relatedAgain chunkId) relationships).map (·.documentId) =
      relationships.map (·.documentId) := by
  refine map_modifyFirst ?_ _
  intro relationship
  rfl

theorem onlyRelated_upsertRelationship {source target : Nat} (apart : source ≠ target)
    (isSource : source ∈ graph.entities.map (·.id)) (isTarget : target ∈ graph.entities.map (·.id))
    (documentId : Nat) (relationType : String) (chunkId : Nat) (description : String) :
    OnlyRelated documentId graph
      (graph.upsertRelationship documentId source target relationType chunkId description).2 := by
  simp only [upsertRelationship]
  split
  · refine ⟨⟨rfl, rfl, rfl, rfl, rfl⟩, ⟨0, ?_⟩, ?_⟩
    · rw [documentIds_relatedAgain]
      simp
    · intro related relationship isRelationship
      obtain ⟨old, isOld, shape⟩ := exists_of_mem_modifyFirst isRelationship
      have ofOld := related old isOld
      cases shape with
      | inl same => exact same ▸ ofOld
      | inr changed => exact changed ▸ ofOld
  · refine ⟨⟨rfl, rfl, rfl, rfl, rfl⟩, ⟨1, by simp⟩, ?_⟩
    intro related relationship isRelationship
    cases mem_append.mp isRelationship with
    | inl isOld => exact related relationship isOld
    | inr isNew =>
      rw [mem_singleton.mp isNew]
      exact ⟨apart, isSource, isTarget⟩

theorem onlyRelated_attachRelationship {attaching : Attaching} (known : NamesKnown attaching)
    (relationship : ExtractedRelationship) :
    OnlyRelated documentId attaching.graph
        (attachRelationship documentId chunkId attaching relationship).graph ∧
      (attachRelationship documentId chunkId attaching relationship).entityNameToId =
        attaching.entityNameToId := by
  unfold attachRelationship
  split
  · next source target isSource isTarget =>
    split
    · exact ⟨.refl _ _, rfl⟩
    · next apart =>
      exact ⟨onlyRelated_upsertRelationship apart (known _ _ isSource) (known _ _ isTarget)
        documentId _ chunkId _, rfl⟩
  · exact ⟨.refl _ _, rfl⟩

theorem onlyRelated_attachRelationships (relationships : List ExtractedRelationship)
    {attaching : Attaching} (known : NamesKnown attaching) :
    OnlyRelated documentId attaching.graph
      (relationships.foldl (attachRelationship documentId chunkId) attaching).graph := by
  induction relationships generalizing attaching with
  | nil => exact .refl _ _
  | cons relationship rest ih =>
    obtain ⟨first, sameNames⟩ := @onlyRelated_attachRelationship documentId chunkId
      attaching known relationship
    refine first.trans (ih ?_)
    intro key id isId
    rw [sameNames] at isId
    rw [first.same.2.2.1]
    exact known key id isId

/-! ## The facts of a chunk -/

theorem Sound.onlyRelated {later : GraphModule} (sound : graph.Sound)
    (only : OnlyRelated documentId graph later) : later.Sound := by
  obtain ⟨-, -, entities, mentions, next⟩ := only.same
  refine ⟨entities ▸ sound.ids, ?_, entities ▸ sound.names, ?_, ?_, only.related sound.related⟩
  · rw [entities, next]
    exact sound.bounded
  · rw [entities, mentions]
    exact sound.mentioned
  · simp only [recorded]
    rw [entities, mentions]
    exact sound.covered

theorem mentionsExact_onlyRelated {later : GraphModule}
    (only : OnlyRelated documentId graph later) : later.MentionsExact ↔ graph.MentionsExact := by
  simp only [MentionsExact, recorded, only.same.2.2.1, only.same.2.2.2.1]

theorem attachFacts_spec (sound : graph.Sound) (documentId chunkId : Nat)
    (extracted : ExtractedChunkGraph) :
    (graph.attachFacts documentId chunkId extracted).graph.Sound ∧
      ((graph.attachFacts documentId chunkId extracted).graph.MentionsExact ↔ graph.MentionsExact ∧
          graph.FreshNames documentId chunkId (extracted.entities.map (·.name))) := by
  obtain ⟨entitiesSound, known, exact⟩ := @attachEntities documentId chunkId extracted.entities
    ⟨graph, .empty, [], []⟩ sound (fun _ _ isId => by simp at isId)
  have only := @onlyRelated_attachRelationships documentId chunkId extracted.relationships _
    known
  exact ⟨entitiesSound.onlyRelated only, (mentionsExact_onlyRelated only).trans exact⟩

/-- Records that were there stay, and what is added belongs to the document and the chunk. -/
structure Grown (documentId chunkId : Nat) (graph later : GraphModule) : Prop where
  documents : later.documents = graph.documents
  chunks : later.chunks = graph.chunks
  mentions : ∃ added, later.mentions = graph.mentions ++ added ∧
    ∀ mention ∈ added, mention.documentId = documentId ∧ mention.chunkId = chunkId
  relationships : ∃ count, later.relationships.map (·.documentId) =
    graph.relationships.map (·.documentId) ++ List.replicate count documentId

theorem Grown.refl (documentId chunkId : Nat) (graph : GraphModule) :
    Grown documentId chunkId graph graph :=
  ⟨rfl, rfl, ⟨[], by simp, by simp⟩, ⟨0, by simp⟩⟩

theorem Grown.trans {middle later : GraphModule} (first : Grown documentId chunkId graph middle)
    (second : Grown documentId chunkId middle later) : Grown documentId chunkId graph later := by
  obtain ⟨before, isBefore, allBefore⟩ := first.mentions
  obtain ⟨after, isAfter, allAfter⟩ := second.mentions
  obtain ⟨earlier, isEarlier⟩ := first.relationships
  obtain ⟨count, isCount⟩ := second.relationships
  refine ⟨second.documents.trans first.documents, second.chunks.trans first.chunks,
    ⟨before ++ after, by rw [isAfter, isBefore, append_assoc], ?_⟩, ⟨earlier + count, ?_⟩⟩
  · intro mention isMention
    cases mem_append.mp isMention with
    | inl isBefore => exact allBefore mention isBefore
    | inr isAfter => exact allAfter mention isAfter
  · rw [isCount, isEarlier, append_assoc, replicate_append_replicate]

theorem grown_upsertEntity (graph : GraphModule) (documentId chunkId : Nat)
    (entity : ExtractedEntity) :
    Grown documentId chunkId graph (graph.upsertEntity documentId entity).2 := by
  unfold upsertEntity
  split
  · exact ⟨rfl, rfl, ⟨[], by simp, by simp⟩, ⟨0, by simp⟩⟩
  · exact ⟨rfl, rfl, ⟨[], by simp, by simp⟩, ⟨0, by simp⟩⟩

theorem grown_insertMention (graph : GraphModule) (documentId chunkId id : Nat) (surface : String) :
    Grown documentId chunkId graph (graph.insertMention documentId chunkId id surface) := by
  unfold insertMention
  split
  · exact .refl _ _ _
  · exact ⟨rfl, rfl, ⟨[_], rfl, by simp⟩, ⟨0, by simp⟩⟩

theorem grown_attachEntities (entities : List ExtractedEntity) (attaching : Attaching) :
    Grown documentId chunkId attaching.graph
      (entities.foldl (attachEntity documentId chunkId) attaching).graph := by
  induction entities generalizing attaching with
  | nil => exact .refl _ _ _
  | cons entity rest ih =>
    refine Grown.trans ?_ (ih (attachEntity documentId chunkId attaching entity))
    exact (grown_upsertEntity _ _ _ _).trans (grown_insertMention _ _ _ _ _)

theorem grown_upsertRelationship (graph : GraphModule) (documentId source target : Nat)
    (relationType : String) (chunkId : Nat) (description : String) :
    Grown documentId chunkId graph
      (graph.upsertRelationship documentId source target relationType chunkId description).2 := by
  simp only [upsertRelationship]
  split
  · refine ⟨rfl, rfl, ⟨[], by simp, by simp⟩, ⟨0, ?_⟩⟩
    rw [documentIds_relatedAgain]
    simp
  · exact ⟨rfl, rfl, ⟨[], by simp, by simp⟩, ⟨1, by simp⟩⟩

theorem grown_attachRelationships (relationships : List ExtractedRelationship)
    (attaching : Attaching) :
    Grown documentId chunkId attaching.graph
      (relationships.foldl (attachRelationship documentId chunkId) attaching).graph := by
  induction relationships generalizing attaching with
  | nil => exact .refl _ _ _
  | cons relationship rest ih =>
    refine Grown.trans ?_ (ih (attachRelationship documentId chunkId attaching relationship))
    unfold attachRelationship
    split
    · split
      · exact .refl _ _ _
      · exact grown_upsertRelationship _ _ _ _ _ _ _
    · exact .refl _ _ _

theorem grown_attachFacts (graph : GraphModule) (documentId chunkId : Nat)
    (extracted : ExtractedChunkGraph) :
    Grown documentId chunkId graph (graph.attachFacts documentId chunkId extracted).graph :=
  (grown_attachEntities extracted.entities ⟨graph, .empty, [], []⟩).trans
    (grown_attachRelationships extracted.relationships _)

end AutoLoop.Rag.GraphModule
