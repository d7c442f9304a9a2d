import AutoLoop.Rag.TaskMapping

/-!
# Sound merging

A merge keeps what was there and represents what comes in.  Its result is well formed
exactly when the records it adds have identifiers of their own and refer to records of the
result.
-/

namespace AutoLoop.Rag

open List EntityRecord

namespace DatabaseSnapshot

section
variable (snapshot : DatabaseSnapshot)

/-- The name that an entity identifier stands for. -/
def nameOf (entityId : Nat) : Option String :=
  (snapshot.entities.find? (·.id = entityId)).map (·.canonicalName)

def triples : List (Option String × String × Option String) :=
  snapshot.relationships.map fun relationship =>
    (snapshot.nameOf relationship.sourceEntityId, relationship.relationType,
      snapshot.nameOf relationship.targetEntityId)

def Relates (relationship : RelationshipRecord) : Prop :=
  relationship.documentId ∈ snapshot.documents.map (·.id) ∧
    relationship.sourceEntityId ∈ snapshot.entities.map (·.id) ∧
    relationship.targetEntityId ∈ snapshot.entities.map (·.id) ∧
    ∀ id ∈ relationship.evidenceChunkIds, id ∈ snapshot.chunks.map (·.id)

def Groups (community : CommunityRecord) : Prop :=
  community.documentId ∈ snapshot.documents.map (·.id) ∧
    (∀ id ∈ community.memberEntityIds, id ∈ snapshot.entities.map (·.id)) ∧
    ∀ id ∈ community.relationshipIds, id ∈ snapshot.relationships.map (·.id)

end

/-- Identifiers are unique and references resolve. -/
structure WellFormed (snapshot : DatabaseSnapshot) : Prop where
  documents : (snapshot.documents.map (·.id)).Nodup
  entities : (snapshot.entities.map (·.id)).Nodup
  relationships : (snapshot.relationships.map (·.id)).Nodup
  communities : (snapshot.communities.map (·.id)).Nodup
  related : ∀ relationship ∈ snapshot.relationships, snapshot.Relates relationship
  grouped : ∀ community ∈ snapshot.communities, snapshot.Groups community

end DatabaseSnapshot

namespace RagSubsystem

variable {F : Type} (existing incoming : DatabaseSnapshot) (tasks : List SwarmTask)
variable (manifests : List (Tools.ForgedMcpToolManifest F))

/-- What `merge_incremental_snapshot` makes of two snapshots. -/
def merged : DatabaseSnapshot :=
  withTaskCapabilities (mergeSnapshots existing incoming) tasks manifests

def WentTo (result : DatabaseSnapshot) (id later : Nat) : Prop :=
  ∃ entity ∈ incoming.entities, entity.id = id ∧
    (mergeEntities existing.entities incoming.entities).2.get id = some later ∧
    ∃ home ∈ result.entities, home.id = later ∧ sameEntity home entity = true

/-- What is expected of merging two snapshots. -/
structure MergedSoundly (result : DatabaseSnapshot) : Prop where
  wellFormed : result.WellFormed
  documents : ∀ document ∈ existing.documents, document ∈ result.documents
  entities : ∀ entity ∈ existing.entities, ∃ kept ∈ result.entities,
    kept.id = entity.id ∧ kept.canonicalName = entity.canonicalName ∧
      kept.entityType = entity.entityType
  triples : ∀ triple ∈ existing.triples, triple ∈ result.triples
  represented : ∀ relationship ∈ incoming.relationships, ∃ kept ∈ result.relationships,
    kept.relationType = relationship.relationType ∧
      WentTo existing incoming result relationship.sourceEntityId kept.sourceEntityId ∧
      WentTo existing incoming result relationship.targetEntityId kept.targetEntityId

/-! ## The condition -/

def novelDocuments : List DocumentRecord :=
  novel sameDocument existing.documents incoming.documents

def novelEntities : List EntityRecord :=
  novel sameEntity existing.entities incoming.entities

def incomingRelationships : List RelationshipRecord :=
  incoming.relationships.map
    (remapped (mergeEntities existing.entities incoming.entities).2)

def novelRelationships : List RelationshipRecord :=
  novel sameRelationship existing.relationships (incomingRelationships existing incoming)

def novelCommunities : List CommunityRecord :=
  novel sameCommunity existing.communities incoming.communities

def joined : DatabaseSnapshot :=
  { existing with
    documents := existing.documents ++ novelDocuments existing incoming
    entities := existing.entities ++ novelEntities existing incoming
    relationships := existing.relationships ++ novelRelationships existing incoming
    communities := existing.communities ++ novelCommunities existing incoming }

/-- Novel records have identifiers of their own, and refer to existing and novel records or
to those that the tasks get. -/
structure Mergeable : Prop where
  documents : ∀ document ∈ novelDocuments existing incoming,
    document.id ∉ existing.documents.map (·.id)
  entities : ∀ entity ∈ novelEntities existing incoming, entity.id ∉ existing.entities.map (·.id)
  relationships : ∀ relationship ∈ novelRelationships existing incoming,
    relationship.id ∉ existing.relationships.map (·.id)
  communities : ∀ community ∈ novelCommunities existing incoming,
    community.id ∉ existing.communities.map (·.id)
  related : ∀ relationship ∈ novelRelationships existing incoming, relationship.documentId ∈
        (withTaskCapabilities (joined existing incoming) tasks manifests).documents.map (·.id) ∧
      ∀ id ∈ relationship.evidenceChunkIds, id ∈ existing.chunks.map (·.id)
  grouped : ∀ community ∈ novelCommunities existing incoming,
    (withTaskCapabilities (joined existing incoming) tasks manifests).Groups community

/-! ## Merged tables -/

variable {existing incoming tasks manifests}

variable (merging : List EntityRecord × Table Nat Nat)

theorem fst_mergeEntity (entity : EntityRecord) :
    (mergeEntity merging entity).1 = mergeOne sameEntity mergedEntity merging.1 entity := by
  unfold mergeEntity mergeOne
  split
  · next found isFound => simp [isFound]
  · next isNew => simp [isNew]

theorem fst_foldl_mergeEntity (entities : List EntityRecord)
    (merging : List EntityRecord × Table Nat Nat) :
    (entities.foldl mergeEntity merging).1 =
      mergeAll sameEntity mergedEntity merging.1 entities := by
  induction entities generalizing merging with
  | nil => rfl
  | cons entity rest ih =>
    refine (ih (mergeEntity merging entity)).trans ?_
    rw [fst_mergeEntity]
    rfl

theorem plain_mergeAll (held entities : List EntityRecord) :
    (mergeAll sameEntity mergedEntity held entities).map EntityRecord.plain =
      held.map EntityRecord.plain ++ (novel sameEntity held entities).map EntityRecord.plain :=
  @map_mergeAll EntityRecord EntityRecord sameEntity mergedEntity EntityRecord.plain
    (fun _ _ => rfl) (fun _ _ _ => rfl) held entities

theorem documents_mergeSnapshots :
    (mergeSnapshots existing incoming).documents = (joined existing incoming).documents := by
  have kept := @map_mergeAll DocumentRecord DocumentRecord sameDocument (fun _ held => held) id
    (fun _ _ => rfl) (fun _ _ _ => rfl) existing.documents incoming.documents
  rw [map_id, map_id, map_id] at kept
  exact kept

theorem plain_entities : (mergeSnapshots existing incoming).entities.map EntityRecord.plain =
    (joined existing incoming).entities.map EntityRecord.plain := by
  refine (congrArg _ (fst_foldl_mergeEntity incoming.entities (existing.entities, .empty))).trans ?_
  exact (plain_mergeAll _ _).trans map_append.symm

theorem plain_relationships :
    (mergeSnapshots existing incoming).relationships.map RelationshipRecord.plain =
      (joined existing incoming).relationships.map RelationshipRecord.plain :=
  (@map_mergeAll RelationshipRecord RelationshipRecord sameRelationship mergedRelationship
    RelationshipRecord.plain (fun _ _ => rfl) (fun _ _ _ => rfl) existing.relationships
    (incomingRelationships existing incoming)).trans map_append.symm

theorem plain_communities :
    (mergeSnapshots existing incoming).communities.map CommunityRecord.plain =
      (joined existing incoming).communities.map CommunityRecord.plain :=
  (@map_mergeAll CommunityRecord CommunityRecord sameCommunity mergedCommunity
    CommunityRecord.plain (fun _ _ => rfl) (fun _ _ _ => rfl) existing.communities
    incoming.communities).trans map_append.symm

/-! ## Where entities went -/

theorem sameEntity_of_plain {first second entity : EntityRecord}
    (same : first.plain = second.plain) : sameEntity first entity = sameEntity second entity := by
  obtain ⟨-, -, sameName, sameType⟩ := of_plain same
  simp only [sameEntity, semanticEntityMatch, sameName, sameType]

theorem wentTo_mergeEntity (entity : EntityRecord) :
    ∃ home ∈ (mergeEntity merging entity).1,
      (mergeEntity merging entity).2.get entity.id = some home.id ∧
        sameEntity home entity = true := by
  unfold mergeEntity
  split
  · next found isFound =>
    have isSame : sameEntity found entity = true := by simpa using find?_some isFound
    exact ⟨mergedEntity entity found, change_mem_modifyFirst isFound, Table.get_insert_self _ _ _,
      isSame⟩
  · exact ⟨entity, mem_append_right _ (mem_singleton_self _), Table.get_insert_self _ _ _,
      by simp [sameEntity]⟩

theorem get_foldl_mergeEntity (entities : List EntityRecord)
    (merging : List EntityRecord × Table Nat Nat) {id : Nat} (absent : id ∉ entities.map (·.id)) :
    (entities.foldl mergeEntity merging).2.get id = merging.2.get id := by
  induction entities generalizing merging with
  | nil => rfl
  | cons entity rest ih =>
    rw [map_cons, mem_cons, not_or] at absent
    refine (ih _ absent.2).trans ?_
    unfold mergeEntity
    split
    · exact Table.get_insert_of_ne _ _ absent.1
    · exact Table.get_insert_of_ne _ _ absent.1

theorem wentTo_mergeEntities {entities : List EntityRecord}
    (distinct : (entities.map (·.id)).Nodup) (merging : List EntityRecord × Table Nat Nat) :
    ∀ entity ∈ entities, ∃ home ∈ (entities.foldl mergeEntity merging).1,
      (entities.foldl mergeEntity merging).2.get entity.id = some home.id ∧
        sameEntity home entity = true := by
  induction entities generalizing merging with
  | nil => simp
  | cons first rest ih =>
    rw [map_cons, nodup_cons] at distinct
    intro entity isEntity
    cases mem_cons.mp isEntity with
    | inr isLater => exact ih distinct.2 (mergeEntity merging first) entity isLater
    | inl isFirst =>
      subst isFirst
      obtain ⟨home, isHome, isId, isSame⟩ := wentTo_mergeEntity merging entity
      have isPlain : home.plain ∈ ((rest.foldl mergeEntity
          (mergeEntity merging entity)).1).map EntityRecord.plain := by
        rw [fst_foldl_mergeEntity, plain_mergeAll]
        exact mem_append_left _ (mem_map_of_mem isHome)
      obtain ⟨later, isLater, samePlain⟩ := mem_map.mp isPlain
      refine ⟨later, isLater, ?_, ?_⟩
      · refine (get_foldl_mergeEntity rest _ distinct.1).trans ?_
        rw [isId, (of_plain samePlain).1]
      · rw [sameEntity_of_plain samePlain]
        exact isSame

/-! ## The result -/

theorem ids_of_plain {first second : List EntityRecord}
    (same : first.map EntityRecord.plain = second.map EntityRecord.plain) :
    first.map (·.id) = second.map (·.id) := by
  have ids := congrArg entityIds same
  rwa [entityIds_plain, entityIds_plain] at ids

theorem relationshipIds_of_plain {first second : List RelationshipRecord}
    (same : first.map RelationshipRecord.plain = second.map RelationshipRecord.plain) :
    first.map (·.id) = second.map (·.id) := by
  have ids := congrArg (List.map (·.id)) same
  simp only [map_map] at ids
  exact ids

theorem alike_mappingOf : Alike (mappingOf (mergeSnapshots existing incoming))
    (mappingOf (joined existing incoming)) :=
  ⟨plain_entities, congrArg nextId (ids_of_plain plain_entities), plain_relationships,
    congrArg nextId (relationshipIds_of_plain plain_relationships)⟩

theorem documents_merged : (merged existing incoming tasks manifests).documents =
    (joined existing incoming).documents ++
      [taskDocument (nextId ((joined existing incoming).documents.map (·.id))) tasks] := by
  simp only [merged, withTaskCapabilities, documents_mergeSnapshots]

theorem sameIds_merged :
    (merged existing incoming tasks manifests).documents =
        (withTaskCapabilities (joined existing incoming) tasks manifests).documents ∧
      (merged existing incoming tasks manifests).entities.map (·.id) =
        (withTaskCapabilities (joined existing incoming) tasks manifests).entities.map (·.id) ∧
      (merged existing incoming tasks manifests).relationships.map (·.id) =
        (withTaskCapabilities (joined existing incoming) tasks manifests).relationships.map
          (·.id) := by
  have alike := alike_mapTasks tasks manifests (@alike_mappingOf existing incoming)
    (nextId ((joined existing incoming).documents.map (·.id)))
  refine ⟨documents_merged, ?_, ?_⟩
  · simp only [merged, withTaskCapabilities, documents_mergeSnapshots]
    exact ids_of_plain alike.entities
  · simp only [merged, withTaskCapabilities, documents_mergeSnapshots]
    exact relationshipIds_of_plain alike.relationships

theorem mapped_merged : Mapped (nextId ((joined existing incoming).documents.map (·.id)))
    (mappingOf (mergeSnapshots existing incoming))
    (tasks.foldl (mapTask (nextId ((joined existing incoming).documents.map (·.id))) manifests)
      (mappingOf (mergeSnapshots existing incoming))) :=
  mapped_mapTasks tasks manifests _ _

theorem entities_merged : ∃ added,
    (merged existing incoming tasks manifests).entities.map EntityRecord.plain =
        (joined existing incoming).entities.map EntityRecord.plain ++ added ∧
      entityIds added = List.range' (nextId ((joined existing incoming).entities.map (·.id)))
        added.length := by
  obtain ⟨added, isAdded, ids, -⟩ := (@mapped_merged F existing incoming tasks manifests).entities
  refine ⟨added, ?_, ?_⟩
  · simp only [merged, withTaskCapabilities, documents_mergeSnapshots]
    exact isAdded.trans (congrArg (· ++ added) plain_entities)
  · rw [ids, ← ids_of_plain plain_entities]
    rfl

theorem relationships_merged : ∃ added, (merged existing incoming tasks manifests).relationships =
        (mergeSnapshots existing incoming).relationships ++ added ∧
      added.map (·.id) = List.range'
        (nextId ((joined existing incoming).relationships.map (·.id))) added.length ∧
      ∀ relationship ∈ added, (merged existing incoming tasks manifests).Relates relationship := by
  obtain ⟨added, isAdded, ids, -, refer⟩ :=
    (@mapped_merged F existing incoming tasks manifests).relationships
  refine ⟨added, ?_, ?_, ?_⟩
  · simp only [merged, withTaskCapabilities, documents_mergeSnapshots]
    exact isAdded
  · rw [ids, ← relationshipIds_of_plain plain_relationships]
    rfl
  · intro relationship isRelationship
    obtain ⟨isOf, evidence, source, target⟩ := refer relationship isRelationship
    refine ⟨?_, ?_, ?_, ?_⟩
    · rw [documents_merged, isOf]
      simp [taskDocument]
    · simp only [merged, withTaskCapabilities, documents_mergeSnapshots]
      exact source
    · simp only [merged, withTaskCapabilities, documents_mergeSnapshots]
      exact target
    · simp [evidence]

theorem mem_entities_merged {entity : EntityRecord}
    (isEntity : entity.plain ∈ (joined existing incoming).entities.map EntityRecord.plain) :
    ∃ kept ∈ (merged existing incoming tasks manifests).entities, kept.plain = entity.plain := by
  obtain ⟨added, isAdded, -⟩ := @entities_merged F existing incoming tasks manifests
  have isKept := mem_append_left added isEntity
  rw [← isAdded] at isKept
  exact mem_map.mp isKept

theorem id_mem_merged {id : Nat} (isId : id ∈ (joined existing incoming).entities.map (·.id)) :
    id ∈ (merged existing incoming tasks manifests).entities.map (·.id) := by
  obtain ⟨entity, isEntity, rfl⟩ := mem_map.mp isId
  obtain ⟨kept, isKept, same⟩ := @mem_entities_merged F existing incoming tasks manifests entity
    (mem_map_of_mem isEntity)
  exact mem_map.mpr ⟨kept, isKept, (of_plain same).1⟩

theorem communities_merged :
    (merged existing incoming tasks manifests).communities.map CommunityRecord.plain =
      (joined existing incoming).communities.map CommunityRecord.plain := plain_communities

/-! ## What is kept and represented -/

theorem wentTo_merged (wellFormed : incoming.WellFormed) {id : Nat}
    (isId : id ∈ incoming.entities.map (·.id)) :
    WentTo existing incoming (merged existing incoming tasks manifests) id
      (((mergeEntities existing.entities incoming.entities).2.get id).getD id) := by
  obtain ⟨entity, isEntity, rfl⟩ := mem_map.mp isId
  obtain ⟨home, isHome, went, isSame⟩ :=
    wentTo_mergeEntities wellFormed.entities (existing.entities, .empty) entity isEntity
  have isPlain : home.plain ∈ (joined existing incoming).entities.map EntityRecord.plain := by
    rw [← plain_entities]
    exact mem_map_of_mem isHome
  obtain ⟨kept, isKept, samePlain⟩ := @mem_entities_merged F existing incoming tasks manifests
    home isPlain
  have isLater : (mergeEntities existing.entities incoming.entities).2.get entity.id =
      some home.id := went
  rw [isLater]
  exact ⟨entity, isEntity, rfl, isLater, kept, isKept, (of_plain samePlain).1,
    (sameEntity_of_plain samePlain).trans isSame⟩

theorem represented_merged (wellFormed : incoming.WellFormed) :
    ∀ relationship ∈ incoming.relationships,
      ∃ kept ∈ (merged existing incoming tasks manifests).relationships,
        kept.relationType = relationship.relationType ∧
          WentTo existing incoming (merged existing incoming tasks manifests)
            relationship.sourceEntityId kept.sourceEntityId ∧
          WentTo existing incoming (merged existing incoming tasks manifests)
            relationship.targetEntityId kept.targetEntityId := by
  intro relationship isRelationship
  have isItem : remapped (mergeEntities existing.entities incoming.entities).2 relationship ∈
      incomingRelationships existing incoming := mem_map_of_mem isRelationship
  obtain ⟨kept, isKept, same⟩ := @exists_of_merged _ sameRelationship mergedRelationship
    (fun relationship => by simp [sameRelationship]) (fun _ _ _ => rfl) existing.relationships
    _ _ isItem
  simp only [sameRelationship, Bool.and_eq_true, decide_eq_true_eq] at same
  obtain ⟨⟨source, target⟩, type⟩ := same
  obtain ⟨added, isAdded, -, -⟩ := @relationships_merged F existing incoming tasks manifests
  have refers := wellFormed.related relationship isRelationship
  refine ⟨kept, ?_, type, ?_, ?_⟩
  · rw [isAdded]
    exact mem_append_left _ isKept
  · rw [source]
    exact wentTo_merged wellFormed refers.2.1
  · rw [target]
    exact wentTo_merged wellFormed refers.2.2.1

theorem nameOf_merged {id : Nat} (isId : id ∈ existing.entities.map (·.id)) :
    (merged existing incoming tasks manifests).nameOf id = existing.nameOf id := by
  have named (snapshot : DatabaseSnapshot) : snapshot.nameOf id =
      ((snapshot.entities.map EntityRecord.plain).find? (·.id = id)).map (·.canonicalName) := by
    rw [DatabaseSnapshot.nameOf, find?_map, Option.map_map]
    rfl
  obtain ⟨added, isAdded, -⟩ := @entities_merged F existing incoming tasks manifests
  obtain ⟨entity, isEntity, rfl⟩ := mem_map.mp isId
  have found : ((existing.entities.map EntityRecord.plain).find? (·.id = entity.id)).isSome := by
    rw [find?_isSome]
    exact ⟨entity.plain, mem_map_of_mem isEntity, by simp [EntityRecord.plain]⟩
  rw [named, named, isAdded]
  simp only [joined, map_append, append_assoc, find?_append, Option.or_of_isSome found]

theorem triples_merged (wellFormed : existing.WellFormed) :
    ∀ triple ∈ existing.triples, triple ∈ (merged existing incoming tasks manifests).triples := by
  intro triple isTriple
  obtain ⟨relationship, isRelationship, rfl⟩ := mem_map.mp isTriple
  obtain ⟨added, isAdded, -, -⟩ := @relationships_merged F existing incoming tasks manifests
  have isPlain : relationship.plain ∈
      (mergeSnapshots existing incoming).relationships.map RelationshipRecord.plain := by
    rw [plain_relationships]
    exact mem_map_of_mem (mem_append_left _ isRelationship)
  obtain ⟨kept, isKept, same⟩ := mem_map.mp isPlain
  refine mem_map.mpr ⟨kept, isAdded ▸ mem_append_left _ isKept, ?_⟩
  have refers := wellFormed.related relationship isRelationship
  simp only [RelationshipRecord.plain, RelationshipRecord.mk.injEq] at same
  obtain ⟨-, -, source, target, type, -⟩ := same
  rw [source, target, type, nameOf_merged refers.2.1, nameOf_merged refers.2.2.1]

/-! ## Unique identifiers -/

section
variable (existingWell : existing.WellFormed) (incomingWell : incoming.WellFormed)
include existingWell incomingWell

theorem documents_unique_iff :
    ((merged existing incoming tasks manifests).documents.map (·.id)).Nodup ↔
      ∀ document ∈ novelDocuments existing incoming,
        document.id ∉ existing.documents.map (·.id) := by
  rw [documents_merged, map_append]
  refine (nodup_nextId ((joined existing incoming).documents.map (·.id)) 1).trans ?_
  exact nodup_novel_iff existingWell.documents incomingWell.documents

theorem entities_unique_iff :
    ((merged existing incoming tasks manifests).entities.map (·.id)).Nodup ↔
      ∀ entity ∈ novelEntities existing incoming, entity.id ∉ existing.entities.map (·.id) := by
  obtain ⟨added, isAdded, ids⟩ := @entities_merged F existing incoming tasks manifests
  have whole := congrArg entityIds isAdded
  have split : entityIds ((joined existing incoming).entities.map EntityRecord.plain ++ added) =
      entityIds (joined existing incoming).entities ++ entityIds added := by
    rw [← entityIds_plain (joined existing incoming).entities]
    exact map_append
  rw [entityIds_plain, split, ids] at whole
  refine (iff_of_eq (congrArg List.Nodup whole)).trans ((nodup_nextId _ _).trans ?_)
  exact nodup_novel_iff existingWell.entities incomingWell.entities

theorem relationships_unique_iff :
    ((merged existing incoming tasks manifests).relationships.map (·.id)).Nodup ↔
      ∀ relationship ∈ novelRelationships existing incoming,
        relationship.id ∉ existing.relationships.map (·.id) := by
  obtain ⟨added, isAdded, ids, -⟩ := @relationships_merged F existing incoming tasks manifests
  have incomingIds : ((incomingRelationships existing incoming).map (·.id)).Nodup := by
    simpa [incomingRelationships, Function.comp_def, remapped] using incomingWell.relationships
  rw [isAdded, map_append, ids, relationshipIds_of_plain plain_relationships, nodup_nextId]
  exact nodup_novel_iff existingWell.relationships incomingIds

theorem communities_unique_iff :
    ((merged existing incoming tasks manifests).communities.map (·.id)).Nodup ↔
      ∀ community ∈ novelCommunities existing incoming,
        community.id ∉ existing.communities.map (·.id) := by
  have ids := congrArg (List.map (·.id)) (@communities_merged F existing incoming tasks manifests)
  simp only [map_map] at ids
  refine (iff_of_eq (congrArg List.Nodup ids)).trans ?_
  exact nodup_novel_iff existingWell.communities incomingWell.communities

end

/-! ## References -/

theorem groups_merged {community : CommunityRecord} :
    (merged existing incoming tasks manifests).Groups community ↔
      (withTaskCapabilities (joined existing incoming) tasks manifests).Groups community := by
  obtain ⟨documents, entities, relationships⟩ :=
    @sameIds_merged F existing incoming tasks manifests
  rw [DatabaseSnapshot.Groups, DatabaseSnapshot.Groups, documents, entities, relationships]

theorem documentId_mem_merged {id : Nat} (isId : id ∈ existing.documents.map (·.id)) :
    id ∈ (merged existing incoming tasks manifests).documents.map (·.id) := by
  rw [documents_merged, joined]
  simp only [map_append, append_assoc]
  exact mem_append_left _ isId

theorem relates_merged {relationship : RelationshipRecord}
    (relates : existing.Relates relationship) :
    (merged existing incoming tasks manifests).Relates relationship := by
  have kept {id : Nat} (isId : id ∈ existing.entities.map (·.id)) :
      id ∈ (merged existing incoming tasks manifests).entities.map (·.id) := by
    refine id_mem_merged ?_
    rw [joined, map_append]
    exact mem_append_left _ isId
  exact ⟨documentId_mem_merged relates.1, kept relates.2.1, kept relates.2.2.1, relates.2.2.2⟩

theorem grouped_merged {community : CommunityRecord} (groups : existing.Groups community) :
    (merged existing incoming tasks manifests).Groups community := by
  refine ⟨documentId_mem_merged groups.1, ?_, ?_⟩
  · intro id isMember
    refine id_mem_merged ?_
    rw [joined, map_append]
    exact mem_append_left _ (groups.2.1 id isMember)
  · intro id isRelated
    obtain ⟨added, isAdded, -, -⟩ := @relationships_merged F existing incoming tasks manifests
    rw [isAdded, map_append, relationshipIds_of_plain plain_relationships, joined, map_append]
    exact mem_append_left _ (mem_append_left _ (groups.2.2 id isRelated))

theorem relates_novel (incomingWell : incoming.WellFormed) {relationship : RelationshipRecord}
    (isNovel : relationship ∈ novelRelationships existing incoming) :
    (merged existing incoming tasks manifests).Relates relationship ↔
      relationship.documentId ∈
          (withTaskCapabilities (joined existing incoming) tasks manifests).documents.map (·.id) ∧
        ∀ id ∈ relationship.evidenceChunkIds, id ∈ existing.chunks.map (·.id) := by
  obtain ⟨original, isOriginal, rfl⟩ :=
    mem_map.mp ((novel_sublist _ _).subset isNovel)
  have refers := incomingWell.related original isOriginal
  have home {id later : Nat} (went : WentTo existing incoming
      (merged existing incoming tasks manifests) id later) :
      later ∈ (merged existing incoming tasks manifests).entities.map (·.id) := by
    obtain ⟨-, -, -, -, home, isHome, rfl, -⟩ := went
    exact mem_map_of_mem isHome
  rw [← (@sameIds_merged F existing incoming tasks manifests).1]
  constructor
  · intro relates
    exact ⟨relates.1, relates.2.2.2⟩
  · intro both
    exact ⟨both.1, home (wentTo_merged incomingWell refers.2.1),
      home (wentTo_merged incomingWell refers.2.2.1), both.2⟩

theorem related_iff (existingWell : existing.WellFormed) (incomingWell : incoming.WellFormed) :
    (∀ relationship ∈ (merged existing incoming tasks manifests).relationships,
        (merged existing incoming tasks manifests).Relates relationship) ↔
      ∀ relationship ∈ novelRelationships existing incoming, relationship.documentId ∈
            (withTaskCapabilities (joined existing incoming) tasks manifests).documents.map
              (·.id) ∧
          ∀ id ∈ relationship.evidenceChunkIds, id ∈ existing.chunks.map (·.id) := by
  obtain ⟨added, isAdded, -, addedRelate⟩ :=
    @relationships_merged F existing incoming tasks manifests
  have plain := @plain_relationships existing incoming
  rw [joined, map_append] at plain
  constructor
  · intro all relationship isNovel
    rw [← relates_novel incomingWell isNovel]
    have isPlain := mem_append_right (existing.relationships.map RelationshipRecord.plain)
      (mem_map_of_mem (f := RelationshipRecord.plain) isNovel)
    rw [← plain] at isPlain
    obtain ⟨kept, isKept, same⟩ := mem_map.mp isPlain
    have relates := all kept (isAdded ▸ mem_append_left _ isKept)
    exact (congrArg (merged existing incoming tasks manifests).Relates same).mp relates
  · intro novel relationship isRelationship
    rw [isAdded] at isRelationship
    cases mem_append.mp isRelationship with
    | inr isNew => exact addedRelate relationship isNew
    | inl isMerged =>
      have isPlain := mem_map_of_mem (f := RelationshipRecord.plain) isMerged
      rw [plain] at isPlain
      cases mem_append.mp isPlain with
      | inl isExisting =>
        obtain ⟨old, isOld, same⟩ := mem_map.mp isExisting
        exact (congrArg (merged existing incoming tasks manifests).Relates same).mp
          (relates_merged (existingWell.related old isOld))
      | inr isNovel =>
        obtain ⟨old, isOld, same⟩ := mem_map.mp isNovel
        exact (congrArg (merged existing incoming tasks manifests).Relates same).mp
          ((relates_novel incomingWell isOld).mpr (novel old isOld))

theorem grouped_iff (existingWell : existing.WellFormed) :
    (∀ community ∈ (merged existing incoming tasks manifests).communities,
        (merged existing incoming tasks manifests).Groups community) ↔
      ∀ community ∈ novelCommunities existing incoming,
        (withTaskCapabilities (joined existing incoming) tasks manifests).Groups community := by
  have plain := @communities_merged F existing incoming tasks manifests
  rw [joined, map_append] at plain
  constructor
  · intro all community isNovel
    rw [← groups_merged]
    have isPlain := mem_append_right (existing.communities.map CommunityRecord.plain)
      (mem_map_of_mem (f := CommunityRecord.plain) isNovel)
    rw [← plain] at isPlain
    obtain ⟨kept, isKept, same⟩ := mem_map.mp isPlain
    exact (congrArg (merged existing incoming tasks manifests).Groups same).mp (all kept isKept)
  · intro novel community isCommunity
    have isPlain := mem_map_of_mem (f := CommunityRecord.plain) isCommunity
    rw [plain] at isPlain
    cases mem_append.mp isPlain with
    | inl isExisting =>
      obtain ⟨old, isOld, same⟩ := mem_map.mp isExisting
      exact (congrArg (merged existing incoming tasks manifests).Groups same).mp
        (grouped_merged (existingWell.grouped old isOld))
    | inr isNovel =>
      obtain ⟨old, isOld, same⟩ := mem_map.mp isNovel
      exact (congrArg (merged existing incoming tasks manifests).Groups same).mp
        (groups_merged.mpr (novel old isOld))

/-- Two snapshots about the same entity. -/
def aboutParser (documentId : Nat) (sourceUri : String) : DatabaseSnapshot where
  documents := [⟨documentId, "notes", sourceUri, "", .graphReady, 0, 0, 1, 0⟩]
  chunks := []
  entities := [⟨1, "Parser", "parser", "Concept", "", 1, 1, 0, 5, documentId⟩]
  mentions := []
  relationships := []
  communities := []

theorem aboutParser_wellFormed (documentId : Nat) (sourceUri : String) :
    (aboutParser documentId sourceUri).WellFormed := by
  constructor <;> simp [aboutParser]

end RagSubsystem

end AutoLoop.Rag
