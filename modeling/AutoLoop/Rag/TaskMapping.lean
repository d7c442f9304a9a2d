import AutoLoop.Rag.SnapshotMerge

/-!
# What mapping tasks adds

Mapping tasks to capabilities renames and removes nothing.  The entities and relationships
it adds have new identifiers, and which ones depends on nothing but the identifiers, names
and triples that were there.
-/

namespace AutoLoop.Rag

open List Tools

/-- An entity up to what merging changes. -/
def EntityRecord.plain (entity : EntityRecord) : EntityRecord :=
  { entity with
    salience := 0
    mentionCount := 0
    weight := 0
    description := "" }

theorem EntityRecord.of_plain {first second : EntityRecord} (same : first.plain = second.plain) :
    first.id = second.id ∧ first.canonicalName = second.canonicalName ∧
      first.normalizedName = second.normalizedName ∧ first.entityType = second.entityType := by
  simp only [plain, EntityRecord.mk.injEq] at same
  exact ⟨same.1, same.2.1, same.2.2.1, same.2.2.2.1⟩

def RelationshipRecord.plain (relationship : RelationshipRecord) : RelationshipRecord :=
  { relationship with
    weight := 0
    confidence := 0
    description := "" }

def CommunityRecord.plain (community : CommunityRecord) : CommunityRecord :=
  { community with
    rank := 0
    summary := "" }

namespace RagSubsystem

variable {F : Type} {mapping later other : Mapping} {documentId : Nat}

def entityIds (entities : List EntityRecord) : List Nat := entities.map (·.id)

theorem entityIds_plain (entities : List EntityRecord) :
    entityIds (entities.map EntityRecord.plain) = entityIds entities := by
  simp only [entityIds, map_map]
  rfl

/-! ## What is added -/

/-- New entities and relationships were added behind those that were there. -/
structure Mapped (documentId : Nat) (mapping later : Mapping) : Prop where
  entities : ∃ added, later.entities.map EntityRecord.plain =
      mapping.entities.map EntityRecord.plain ++ added ∧
    entityIds added = List.range' mapping.nextEntityId added.length ∧
    later.nextEntityId = mapping.nextEntityId + added.length
  relationships : ∃ added, later.relationships = mapping.relationships ++ added ∧
    added.map (·.id) = List.range' mapping.nextRelationshipId added.length ∧
    later.nextRelationshipId = mapping.nextRelationshipId + added.length ∧
    ∀ relationship ∈ added, relationship.documentId = documentId ∧
      relationship.evidenceChunkIds = [] ∧
      relationship.sourceEntityId ∈ entityIds later.entities ∧
      relationship.targetEntityId ∈ entityIds later.entities

theorem Mapped.refl (documentId : Nat) (mapping : Mapping) : Mapped documentId mapping mapping :=
  ⟨⟨[], by simp [entityIds]⟩, ⟨[], by simp⟩⟩

theorem Mapped.ids (mapped : Mapped documentId mapping later) {id : Nat}
    (isId : id ∈ entityIds mapping.entities) : id ∈ entityIds later.entities := by
  obtain ⟨added, isAdded, -, -⟩ := mapped.entities
  rw [← entityIds_plain] at isId ⊢
  rw [isAdded, entityIds, map_append]
  exact mem_append_left _ isId

theorem range'_add (start first second : Nat) :
    List.range' start first ++ List.range' (start + first) second =
      List.range' start (first + second) := by
  simp

theorem Mapped.trans {middle : Mapping} (first : Mapped documentId mapping middle)
    (second : Mapped documentId middle later) : Mapped documentId mapping later := by
  obtain ⟨before, isBefore, beforeIds, beforeNext⟩ := first.entities
  obtain ⟨after, isAfter, afterIds, afterNext⟩ := second.entities
  obtain ⟨earlier, isEarlier, earlierIds, earlierNext, earlierRefer⟩ := first.relationships
  obtain ⟨new, isNew, newIds, newNext, newRefer⟩ := second.relationships
  constructor
  · refine ⟨before ++ after, by rw [isAfter, isBefore, append_assoc], ?_, ?_⟩
    · rw [entityIds, map_append]
      rw [entityIds] at beforeIds afterIds
      rw [beforeIds, afterIds, beforeNext, length_append, range'_add]
    · rw [afterNext, beforeNext, length_append, Nat.add_assoc]
  · refine ⟨earlier ++ new, by rw [isNew, isEarlier, append_assoc], ?_, ?_, ?_⟩
    · rw [map_append, earlierIds, newIds, earlierNext, length_append, range'_add]
    · rw [newNext, earlierNext, length_append, Nat.add_assoc]
    · intro relationship isRelationship
      cases mem_append.mp isRelationship with
      | inl isEarlier =>
        obtain ⟨isOf, evidence, source, target⟩ := earlierRefer relationship isEarlier
        exact ⟨isOf, evidence, second.ids source, second.ids target⟩
      | inr isNew => exact newRefer relationship isNew

theorem map_namedAgain (matching : EntityRecord → Bool) (entities : List EntityRecord) :
    (modifyFirst matching namedAgain entities).map EntityRecord.plain =
      entities.map EntityRecord.plain := by
  refine map_modifyFirst ?_ _
  intro entity
  rfl

theorem mapped_upsertEntity (mapping : Mapping) (documentId : Nat)
    (canonicalName entityType description : String) :
    Mapped documentId mapping
        (upsertEntity mapping documentId canonicalName entityType description).2 ∧
      (upsertEntity mapping documentId canonicalName entityType description).1 ∈ entityIds
        (upsertEntity mapping documentId canonicalName entityType description).2.entities := by
  unfold upsertEntity
  split
  · next found isFound =>
    constructor
    · exact ⟨⟨[], by simp [map_namedAgain, entityIds]⟩, ⟨[], by simp⟩⟩
    · rw [← entityIds_plain, map_namedAgain, entityIds_plain]
      exact mem_map_of_mem (mem_of_find?_eq_some isFound)
  · constructor
    · exact ⟨⟨[_], by rw [map_append]; rfl, rfl, rfl⟩, ⟨[], by simp⟩⟩
    · simp [entityIds]

theorem mapped_relateCapability {taskEntityId capabilityEntityId : Nat}
    (isTask : taskEntityId ∈ entityIds mapping.entities)
    (isCapability : capabilityEntityId ∈ entityIds mapping.entities) (documentId : Nat)
    (description : String) :
    Mapped documentId mapping
      (relateCapability mapping documentId taskEntityId capabilityEntityId description) := by
  unfold relateCapability
  split
  · exact .refl _ _
  · refine ⟨⟨[], by simp [entityIds]⟩, ⟨[_], rfl, rfl, rfl, ?_⟩⟩
    intro relationship isNew
    rw [mem_singleton.mp isNew]
    exact ⟨rfl, rfl, isTask, isCapability⟩

theorem mapped_mapManifest {taskEntityId : Nat} (isTask : taskEntityId ∈ entityIds mapping.entities)
    (documentId : Nat) (task : SwarmTask) (manifest : ForgedMcpToolManifest F) :
    Mapped documentId mapping (mapManifest documentId taskEntityId task mapping manifest) := by
  unfold mapManifest
  split
  · obtain ⟨mapped, isCapability⟩ := mapped_upsertEntity mapping documentId
      manifest.registeredToolName "Capability" ("Capability candidate for " ++ task.role)
    exact mapped.trans (mapped_relateCapability (mapped.ids isTask) isCapability documentId _)
  · exact .refl _ _

variable (manifests : List (ForgedMcpToolManifest F))

theorem mapped_mapManifests {taskEntityId : Nat}
    (isTask : taskEntityId ∈ entityIds mapping.entities) (documentId : Nat) (task : SwarmTask) :
    Mapped documentId mapping (manifests.foldl (mapManifest documentId taskEntityId task)
      mapping) := by
  induction manifests generalizing mapping with
  | nil => exact .refl _ _
  | cons manifest rest ih =>
    have first := mapped_mapManifest isTask documentId task manifest
    exact first.trans (ih (first.ids isTask))

theorem mapped_mapTasks (tasks : List SwarmTask)
    (manifests : List (ForgedMcpToolManifest F)) (documentId : Nat) (mapping : Mapping) :
    Mapped documentId mapping (tasks.foldl (mapTask documentId manifests) mapping) := by
  induction tasks generalizing mapping with
  | nil => exact .refl _ _
  | cons task rest ih =>
    obtain ⟨named, isTask⟩ := mapped_upsertEntity mapping documentId ("Task " ++ task.role)
      "Task" task.objective
    exact (named.trans (mapped_mapManifests manifests isTask documentId task)).trans (ih _)

/-! ## What it depends on -/

/-- Maps with the same identifiers, names and triples. -/
structure Alike (mapping other : Mapping) : Prop where
  entities : mapping.entities.map EntityRecord.plain = other.entities.map EntityRecord.plain
  nextEntity : mapping.nextEntityId = other.nextEntityId
  relationships : mapping.relationships.map RelationshipRecord.plain =
    other.relationships.map RelationshipRecord.plain
  nextRelationship : mapping.nextRelationshipId = other.nextRelationshipId

theorem find_plain (name : String) (entities : List EntityRecord) :
    (entities.map EntityRecord.plain).find? (·.normalizedName = name) =
      (entities.find? (·.normalizedName = name)).map EntityRecord.plain := by
  rw [find?_map]
  rfl

section
variable (alike : Alike mapping other)
include alike

theorem alike_upsertEntity (documentId : Nat)
    (canonicalName entityType description : String) :
    (upsertEntity mapping documentId canonicalName entityType description).1 =
        (upsertEntity other documentId canonicalName entityType description).1 ∧
      Alike (upsertEntity mapping documentId canonicalName entityType description).2
        (upsertEntity other documentId canonicalName entityType description).2 := by
  have sameFound := congrArg (List.find? (·.normalizedName = normalizeKey canonicalName))
    alike.entities
  rw [find_plain, find_plain] at sameFound
  unfold upsertEntity
  cases isFirst : mapping.entities.find? (·.normalizedName = normalizeKey canonicalName) with
  | some found =>
    cases isOther : other.entities.find? (·.normalizedName = normalizeKey canonicalName) with
    | none => simp [isFirst, isOther] at sameFound
    | some otherFound =>
      rw [isFirst, isOther] at sameFound
      have samePlain : found.plain = otherFound.plain := Option.some.inj sameFound
      refine ⟨(EntityRecord.of_plain samePlain).1, ?_, alike.nextEntity, alike.relationships,
        alike.nextRelationship⟩
      rw [map_namedAgain, map_namedAgain]
      exact alike.entities
  | none =>
    cases isOther : other.entities.find? (·.normalizedName = normalizeKey canonicalName) with
    | some otherFound => simp [isFirst, isOther] at sameFound
    | none =>
      refine ⟨alike.nextEntity, ?_, ?_, alike.relationships, alike.nextRelationship⟩
      · simp only [map_append, alike.entities, alike.nextEntity]
      · simp only [alike.nextEntity]

theorem alike_relateCapability
    (documentId taskEntityId capabilityEntityId : Nat) (description : String) :
    Alike (relateCapability mapping documentId taskEntityId capabilityEntityId description)
      (relateCapability other documentId taskEntityId capabilityEntityId description) := by
  have sameKnown : (mapping.relationships.any fun item => item.sourceEntityId = taskEntityId &&
        item.targetEntityId = capabilityEntityId && item.relationType = "CAN_USE") =
      other.relationships.any fun item => item.sourceEntityId = taskEntityId &&
        item.targetEntityId = capabilityEntityId && item.relationType = "CAN_USE" := by
    have sameAny := congrArg (List.any · fun item => item.sourceEntityId = taskEntityId &&
      item.targetEntityId = capabilityEntityId && item.relationType = "CAN_USE")
      alike.relationships
    simp only [any_map] at sameAny
    exact sameAny
  unfold relateCapability
  rw [sameKnown]
  split
  · exact alike
  · refine ⟨alike.entities, alike.nextEntity, ?_, ?_⟩
    · simp only [map_append, alike.relationships, alike.nextRelationship]
    · simp only [alike.nextRelationship]

section
variable (documentId taskEntityId : Nat) (task : SwarmTask)

theorem alike_mapManifest (manifest : ForgedMcpToolManifest F) :
    Alike (mapManifest documentId taskEntityId task mapping manifest)
      (mapManifest documentId taskEntityId task other manifest) := by
  unfold mapManifest
  split
  · obtain ⟨sameId, laterAlike⟩ := alike_upsertEntity alike documentId
      manifest.registeredToolName "Capability" ("Capability candidate for " ++ task.role)
    simp only [sameId]
    exact alike_relateCapability laterAlike _ _ _ _
  · exact alike

theorem alike_mapManifests :
    Alike (manifests.foldl (mapManifest documentId taskEntityId task) mapping)
      (manifests.foldl (mapManifest documentId taskEntityId task) other) := by
  induction manifests generalizing mapping other with
  | nil => exact alike
  | cons manifest rest ih =>
    exact ih (alike_mapManifest alike documentId taskEntityId task manifest)

end

end

theorem alike_mapTasks (tasks : List SwarmTask) (manifests : List (ForgedMcpToolManifest F))
    (alike : Alike mapping other) (documentId : Nat) :
    Alike (tasks.foldl (mapTask documentId manifests) mapping)
      (tasks.foldl (mapTask documentId manifests) other) := by
  induction tasks generalizing mapping other with
  | nil => exact alike
  | cons task rest ih =>
    refine ih ?_
    obtain ⟨sameId, laterAlike⟩ := alike_upsertEntity alike documentId ("Task " ++ task.role)
      "Task" task.objective
    simp only [mapTask, sameId]
    exact alike_mapManifests manifests laterAlike _ _ _

/-! ## Identifiers -/

theorem lt_nextId {id : Nat} {ids : List Nat} (isId : id ∈ ids) : id < nextId ids :=
  Nat.lt_succ_of_le (le_max?_getD_of_mem isId)

theorem nodup_nextId (ids : List Nat) (count : Nat) :
    (ids ++ List.range' (nextId ids) count).Nodup ↔ ids.Nodup := by
  rw [nodup_append]
  constructor
  · exact And.left
  · intro distinct
    refine ⟨distinct, nodup_range', ?_⟩
    intro id isId new isNew
    have below := lt_nextId isId
    have above := (mem_range'_1.mp isNew).1
    omega

end RagSubsystem

end AutoLoop.Rag
