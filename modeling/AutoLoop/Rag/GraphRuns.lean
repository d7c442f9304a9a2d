import AutoLoop.Foundation.Component
import AutoLoop.Rag.GraphCore

/-!
# What the calls of a graph keep

Entities are told apart by their identifiers and by their names, mentions and relationships
refer to entities, and whatever a chunk adds belongs to its document.
-/

namespace AutoLoop.Rag

open List

inductive GraphCall where
  | ingestDocument (context : ReducerContext) (title sourceUri rawText : String)
      (chunkSize overlap : Nat)
  | attachChunk (documentId chunkId : Nat) (extracted : ExtractedChunkGraph)
  | rebuildCommunities (documentId : Nat)

def knowledgeGraph : Component GraphModule GraphCall Unit where
  initial := .empty
  step graph
    | .ingestDocument context title sourceUri rawText chunkSize overlap =>
      ((), (graph.ingestDocumentWithHeuristics context title sourceUri rawText chunkSize overlap).2)
    | .attachChunk documentId chunkId extracted =>
      ((), (graph.attachChunkGraph documentId chunkId extracted).2)
    | .rebuildCommunities documentId => ((), (graph.rebuildCommunities documentId).2)

namespace GraphModule

/-- The number of mention records of an entity. -/
def recorded (graph : GraphModule) (entityId : Nat) : Nat :=
  (graph.mentions.filter (·.entityId = entityId)).length

def Records (graph : GraphModule) (documentId chunkId : Nat) (surface : String) : Prop :=
  ∃ mention ∈ graph.mentions, mention.documentId = documentId ∧ mention.chunkId = chunkId ∧
    mention.surface = surface

instance decidableRecords (graph : GraphModule) (documentId chunkId : Nat) (surface : String) :
    Decidable (graph.Records documentId chunkId surface) :=
  inferInstanceAs (Decidable (∃ mention ∈ graph.mentions, _))

/-- Entities are told apart, what refers to them finds them, and no entity has more
mention records than it counts. -/
structure Sound (graph : GraphModule) : Prop where
  ids : (graph.entities.map (·.id)).Nodup
  bounded : ∀ entity ∈ graph.entities, entity.id ≤ graph.nextEntityId
  names : (graph.entities.map (·.normalizedName)).Nodup
  mentioned : ∀ mention ∈ graph.mentions, ∃ entity ∈ graph.entities,
    entity.id = mention.entityId ∧ entity.normalizedName = normalizeKey mention.surface
  covered : ∀ entity ∈ graph.entities, graph.recorded entity.id ≤ entity.mentionCount
  related : ∀ relationship ∈ graph.relationships,
    relationship.sourceEntityId ≠ relationship.targetEntityId ∧
      relationship.sourceEntityId ∈ graph.entities.map (·.id) ∧
      relationship.targetEntityId ∈ graph.entities.map (·.id)

def MentionsExact (graph : GraphModule) : Prop :=
  ∀ entity ∈ graph.entities, entity.mentionCount = graph.recorded entity.id

variable {graph : GraphModule} {documentId chunkId : Nat} {entity : ExtractedEntity}

/-! ## Mentioning an entity -/

/-- What an upsert does: one entity of the name counts one mention more, over what was
counted before. -/
structure Upserted (graph later : GraphModule) (name : String) (id : Nat) : Prop where
  same : later.mentions = graph.mentions ∧ later.relationships = graph.relationships ∧
    later.documents = graph.documents ∧ later.chunks = graph.chunks
  ids : (later.entities.map (·.id)).Nodup
  bounded : ∀ entity ∈ later.entities, entity.id ≤ later.nextEntityId
  names : (later.entities.map (·.normalizedName)).Nodup
  kept : ∀ entity ∈ graph.entities, ∃ still ∈ later.entities, still.id = entity.id ∧
    still.normalizedName = entity.normalizedName
  counted : ∃ target ∈ later.entities, ∃ prior, target.id = id ∧
    target.normalizedName = normalizeKey name ∧ target.mentionCount = prior + 1 ∧
    graph.recorded id ≤ prior ∧
    (∀ entity ∈ later.entities, entity = target ∨ (entity ∈ graph.entities ∧ entity.id ≠ id)) ∧
    (graph.MentionsExact ↔ prior = graph.recorded id ∧
      ∀ entity ∈ later.entities, entity.id ≠ id → entity.mentionCount = graph.recorded entity.id)

theorem upserted (sound : graph.Sound) (documentId : Nat) (entity : ExtractedEntity) :
    Upserted graph (graph.upsertEntity documentId entity).2 entity.name
      (graph.upsertEntity documentId entity).1 := by
  unfold upsertEntity
  cases found : graph.entities.find? (·.normalizedName = normalizeKey entity.name) with
  | some held =>
    have isHeld := mem_of_find?_eq_some found
    have named : held.normalizedName = normalizeKey entity.name := by
      simpa using find?_some found
    have member (item : EntityRecord) :
        item ∈ modifyFirst (·.normalizedName = normalizeKey entity.name)
            (mentionedAgain entity.description) graph.entities ↔
          item = mentionedAgain entity.description held ∨
            (item ∈ graph.entities ∧ item.id ≠ held.id) :=
      mem_modifyFirst sound.ids found
    have sameIds : (modifyFirst (·.normalizedName = normalizeKey entity.name)
        (mentionedAgain entity.description) graph.entities).map (·.id) =
          graph.entities.map (·.id) := by
      refine map_modifyFirst ?_ _
      intro item
      rfl
    have sameNames : (modifyFirst (·.normalizedName = normalizeKey entity.name)
        (mentionedAgain entity.description) graph.entities).map (·.normalizedName) =
          graph.entities.map (·.normalizedName) := by
      refine map_modifyFirst ?_ _
      intro item
      rfl
    refine ⟨⟨rfl, rfl, rfl, rfl⟩, sameIds ▸ sound.ids, ?_, sameNames ▸ sound.names, ?_, ?_⟩
    · intro item isItem
      cases (member item).mp isItem with
      | inl isChanged => exact isChanged ▸ sound.bounded held isHeld
      | inr both => exact sound.bounded item both.1
    · intro item isItem
      by_cases same : item.id = held.id
      · refine ⟨mentionedAgain entity.description held, (member _).mpr (Or.inl rfl), same.symm, ?_⟩
        rw [inj_on_of_nodup_map sound.ids isItem isHeld same]
        rfl
      · exact ⟨item, (member item).mpr (Or.inr ⟨isItem, same⟩), rfl, rfl⟩
    · refine ⟨mentionedAgain entity.description held, (member _).mpr (Or.inl rfl),
        held.mentionCount, rfl, named, rfl, sound.covered held isHeld, ?_, ?_⟩
      · intro item isItem
        exact (member item).mp isItem
      · constructor
        · intro exact
          refine ⟨exact held isHeld, ?_⟩
          intro item isItem different
          cases (member item).mp isItem with
          | inl isChanged => exact absurd (isChanged ▸ rfl) different
          | inr both => exact exact item both.1
        · intro both item isItem
          by_cases same : item.id = held.id
          · rw [inj_on_of_nodup_map sound.ids isItem isHeld same]
            exact both.1
          · exact both.2 item ((member item).mpr (Or.inr ⟨isItem, same⟩)) same
  | none =>
    have unnamed := find?_eq_none.mp found
    have above (item : EntityRecord) (isItem : item ∈ graph.entities) :
        item.id ≠ graph.nextEntityId + 1 := by
      have := sound.bounded item isItem
      omega
    have unrecorded : graph.recorded (graph.nextEntityId + 1) = 0 := by
      rw [recorded, length_eq_zero_iff, filter_eq_nil_iff]
      intro mention isMention same
      obtain ⟨item, isItem, isId, -⟩ := sound.mentioned mention isMention
      exact above item isItem (isId.trans (by simpa using same))
    refine ⟨⟨rfl, rfl, rfl, rfl⟩, ?_, ?_, ?_, ?_, ?_⟩
    · simp only [map_append, map_cons, map_nil]
      refine nodup_append.mpr ⟨sound.ids, by simp, ?_⟩
      intro id isId other isOther
      obtain ⟨item, isItem, rfl⟩ := mem_map.mp isId
      rw [mem_singleton.mp isOther]
      exact above item isItem
    · intro item isItem
      cases mem_append.mp isItem with
      | inl isOld => exact Nat.le_succ_of_le (sound.bounded item isOld)
      | inr isNew => rw [mem_singleton.mp isNew]; rfl
    · simp only [map_append, map_cons, map_nil]
      refine nodup_append.mpr ⟨sound.names, by simp, ?_⟩
      intro name isName other isOther
      obtain ⟨item, isItem, rfl⟩ := mem_map.mp isName
      rw [mem_singleton.mp isOther]
      simpa [newEntity] using unnamed item isItem
    · intro item isItem
      exact ⟨item, mem_append_left _ isItem, rfl, rfl⟩
    · refine ⟨newEntity (graph.nextEntityId + 1) documentId entity,
        mem_append_right _ (mem_singleton_self _), 0, rfl, rfl, rfl,
        Nat.le_of_eq unrecorded, ?_, ?_⟩
      · intro item isItem
        cases mem_append.mp isItem with
        | inl isOld => exact Or.inr ⟨isOld, above item isOld⟩
        | inr isNew => exact Or.inl (mem_singleton.mp isNew)
      · constructor
        · intro exact
          refine ⟨unrecorded.symm, ?_⟩
          intro item isItem different
          cases mem_append.mp isItem with
          | inl isOld => exact exact item isOld
          | inr isNew =>
            exact absurd (congrArg EntityRecord.id (mem_singleton.mp isNew)) different
        · intro both item isItem
          exact both.2 item (mem_append_left _ isItem) (above item isItem)

theorem recorded_insertMention (graph : GraphModule) (documentId chunkId id other : Nat)
    (surface : String) :
    (graph.insertMention documentId chunkId id surface).recorded other =
      graph.recorded other +
        if id = other ∧ ¬∃ mention ∈ graph.mentions, mention.documentId = documentId ∧
          mention.chunkId = chunkId ∧ mention.entityId = id ∧ mention.surface = surface
        then 1 else 0 := by
  unfold insertMention
  split
  · next exists' =>
    have known : ∃ mention ∈ graph.mentions, mention.documentId = documentId ∧
        mention.chunkId = chunkId ∧ mention.entityId = id ∧ mention.surface = surface := by
      simpa [and_assoc] using exists'
    simp [known]
  · next fresh =>
    have unknown : ¬∃ mention ∈ graph.mentions, mention.documentId = documentId ∧
        mention.chunkId = chunkId ∧ mention.entityId = id ∧ mention.surface = surface := by
      simpa [and_assoc] using fresh
    by_cases same : id = other
    · rw [if_pos ⟨same, unknown⟩]
      simp [recorded, same, filter_append]
    · rw [if_neg (fun both => same both.1)]
      simp [recorded, same, filter_append]

theorem mem_insertMention {id : Nat} {surface : String} {mention : MentionRecord}
    (isMention : mention ∈ (graph.insertMention documentId chunkId id surface).mentions) :
    mention ∈ graph.mentions ∨ (mention.documentId = documentId ∧ mention.chunkId = chunkId ∧
      mention.entityId = id ∧ mention.surface = surface) := by
  unfold insertMention at isMention
  split at isMention
  · exact Or.inl isMention
  · cases mem_append.mp isMention with
    | inl isOld => exact Or.inl isOld
    | inr isNew =>
      rw [mem_singleton.mp isNew]
      exact Or.inr ⟨rfl, rfl, rfl, rfl⟩

section
variable (id : Nat) (surface : String)

theorem records_insertMention (other otherChunk : Nat) (otherSurface : String) :
    (graph.insertMention documentId chunkId id surface).Records other otherChunk otherSurface ↔
      graph.Records other otherChunk otherSurface ∨
        (other = documentId ∧ otherChunk = chunkId ∧ otherSurface = surface) := by
  constructor
  · intro records
    obtain ⟨mention, isMention, rfl, rfl, rfl⟩ := records
    cases mem_insertMention isMention with
    | inl isOld => exact Or.inl ⟨mention, isOld, rfl, rfl, rfl⟩
    | inr isNew => exact Or.inr ⟨isNew.1, isNew.2.1, isNew.2.2.2⟩
  · intro either
    unfold insertMention
    cases either with
    | inl records =>
      obtain ⟨mention, isMention, fields⟩ := records
      split
      · exact ⟨mention, isMention, fields⟩
      · exact ⟨mention, mem_append_left _ isMention, fields⟩
    | inr same =>
      obtain ⟨rfl, rfl, rfl⟩ := same
      split
      · next known =>
        obtain ⟨mention, isMention, fields⟩ := any_eq_true.mp known
        simp only [Bool.and_eq_true, decide_eq_true_eq] at fields
        exact ⟨mention, isMention, fields.1.1.1, fields.1.1.2, fields.2⟩
      · exact ⟨_, mem_append_right _ (mem_singleton_self _), rfl, rfl, rfl⟩

@[simp] theorem entities_insertMention :
    (graph.insertMention documentId chunkId id surface).entities = graph.entities := by
  unfold insertMention
  split
  · rfl
  · rfl

@[simp] theorem relationships_insertMention :
    (graph.insertMention documentId chunkId id surface).relationships =
      graph.relationships := by
  unfold insertMention
  split
  · rfl
  · rfl

@[simp] theorem nextEntityId_insertMention :
    (graph.insertMention documentId chunkId id surface).nextEntityId = graph.nextEntityId := by
  unfold insertMention
  split
  · rfl
  · rfl

end

def afterEntity (graph : GraphModule) (documentId chunkId : Nat) (entity : ExtractedEntity) :
    GraphModule :=
  (graph.upsertEntity documentId entity).2.insertMention documentId chunkId
    (graph.upsertEntity documentId entity).1 entity.name

section
variable (sound : graph.Sound) (documentId chunkId : Nat) (entity : ExtractedEntity)
include sound

theorem known_iff_records :
    (∃ mention ∈ (graph.upsertEntity documentId entity).2.mentions,
        mention.documentId = documentId ∧ mention.chunkId = chunkId ∧
        mention.entityId = (graph.upsertEntity documentId entity).1 ∧
        mention.surface = entity.name) ↔ graph.Records documentId chunkId entity.name := by
  have step := upserted sound documentId entity
  obtain ⟨target, isTarget, prior, isId, named, -, -, -, -⟩ := step.counted
  rw [step.same.1]
  constructor
  · intro known
    obtain ⟨mention, isMention, isDocument, isChunk, -, isSurface⟩ := known
    exact ⟨mention, isMention, isDocument, isChunk, isSurface⟩
  · intro records
    obtain ⟨mention, isMention, isDocument, isChunk, isSurface⟩ := records
    refine ⟨mention, isMention, isDocument, isChunk, ?_, isSurface⟩
    obtain ⟨held, isHeld, heldId, heldName⟩ := sound.mentioned mention isMention
    obtain ⟨still, isStill, stillId, stillName⟩ := step.kept held isHeld
    have same : still = target := by
      refine inj_on_of_nodup_map step.names isStill isTarget ?_
      rw [stillName, heldName, named, isSurface]
    rw [← heldId, ← stillId, same, isId]

theorem recorded_afterEntity (other : Nat) :
    (graph.afterEntity documentId chunkId entity).recorded other = graph.recorded other +
      if (graph.upsertEntity documentId entity).1 = other ∧
        ¬graph.Records documentId chunkId entity.name then 1 else 0 := by
  simp only [afterEntity, recorded_insertMention, known_iff_records sound documentId chunkId entity]
  rw [recorded, (upserted sound documentId entity).same.1]
  rfl

end

theorem entities_afterEntity (graph : GraphModule) (documentId chunkId : Nat)
    (entity : ExtractedEntity) : (graph.afterEntity documentId chunkId entity).entities =
      (graph.upsertEntity documentId entity).2.entities :=
  entities_insertMention _ _

section
variable (sound : graph.Sound) (documentId chunkId : Nat) (entity : ExtractedEntity)
include sound

theorem sound_afterEntity : (graph.afterEntity documentId chunkId entity).Sound := by
  have step := upserted sound documentId entity
  obtain ⟨target, isTarget, prior, isId, named, count, covers, shape, -⟩ := step.counted
  refine ⟨?_, ?_, ?_, ?_, ?_, ?_⟩
  · rw [entities_afterEntity]
    exact step.ids
  · rw [entities_afterEntity, afterEntity, nextEntityId_insertMention]
    exact step.bounded
  · rw [entities_afterEntity]
    exact step.names
  · intro mention isMention
    rw [entities_afterEntity]
    cases mem_insertMention isMention with
    | inl isOld =>
      rw [step.same.1] at isOld
      obtain ⟨held, isHeld, heldId, heldName⟩ := sound.mentioned mention isOld
      obtain ⟨still, isStill, stillId, stillName⟩ := step.kept held isHeld
      exact ⟨still, isStill, stillId.trans heldId, stillName.trans heldName⟩
    | inr isNew =>
      refine ⟨target, isTarget, isId.trans isNew.2.2.1.symm, ?_⟩
      rw [named, isNew.2.2.2]
  · intro item isItem
    rw [entities_afterEntity] at isItem
    rw [recorded_afterEntity sound]
    cases shape item isItem with
    | inl isTarget =>
      rw [isTarget, isId, count]
      split
      · omega
      · omega
    | inr both =>
      have covered := sound.covered item both.1
      rw [if_neg (fun same => both.2 same.1.symm)]
      omega
  · intro relationship isRelationship
    rw [afterEntity, relationships_insertMention, step.same.2.1] at isRelationship
    obtain ⟨apart, source, target⟩ := sound.related relationship isRelationship
    rw [entities_afterEntity]
    have still (id : Nat) (isId : id ∈ graph.entities.map (·.id)) :
        id ∈ (graph.upsertEntity documentId entity).2.entities.map (·.id) := by
      obtain ⟨held, isHeld, rfl⟩ := mem_map.mp isId
      obtain ⟨still, isStill, stillId, -⟩ := step.kept held isHeld
      exact mem_map.mpr ⟨still, isStill, stillId⟩
    exact ⟨apart, still _ source, still _ target⟩

theorem mentionsExact_afterEntity :
    (graph.afterEntity documentId chunkId entity).MentionsExact ↔
      graph.MentionsExact ∧ ¬graph.Records documentId chunkId entity.name := by
  have step := upserted sound documentId entity
  obtain ⟨target, isTarget, prior, isId, named, count, covers, shape, whole⟩ := step.counted
  rw [whole]
  simp only [MentionsExact, entities_afterEntity, recorded_afterEntity sound]
  constructor
  · intro exact
    have ofTarget := exact target isTarget
    rw [isId, count] at ofTarget
    by_cases records : graph.Records documentId chunkId entity.name
    · rw [if_neg (fun both => both.2 records)] at ofTarget
      omega
    · rw [if_pos ⟨rfl, records⟩] at ofTarget
      refine ⟨⟨by omega, ?_⟩, records⟩
      intro item isItem different
      have ofItem := exact item isItem
      rwa [if_neg (fun both => different both.1.symm), Nat.add_zero] at ofItem
  · intro both item isItem
    obtain ⟨⟨isPrior, others⟩, fresh⟩ := both
    by_cases same : item.id = (graph.upsertEntity documentId entity).1
    · cases shape item isItem with
      | inl isTarget =>
        rw [isTarget, isId, if_pos ⟨rfl, fresh⟩, count, isPrior]
      | inr other => exact absurd same other.2
    · rw [if_neg (fun both => same both.1.symm), Nat.add_zero]
      exact others item isItem same

end

end GraphModule

end AutoLoop.Rag
