import AutoLoop.Foundation.Merging
import AutoLoop.Rag.Extraction
import AutoLoop.Tools.Manifest

/-!
# Merging graph snapshots

What a later graph found is merged into the snapshot of the earlier ones, and tasks are
mapped to the capabilities they can use.  Snapshots are exchanged as texts.
-/

namespace AutoLoop.Rag

open Tools

/-- What the merge reads of a task of the swarm. -/
structure SwarmTask where
  role : String
  objective : String
  deriving DecidableEq, Repr

/-- How snapshots are read from texts and written. -/
structure SnapshotCodec where
  fromStr : String → Option DatabaseSnapshot
  toString : DatabaseSnapshot → String

/-- What is written is read back. -/
def SnapshotCodec.Faithful (codec : SnapshotCodec) : Prop :=
  ∀ snapshot, codec.fromStr (codec.toString snapshot) = some snapshot

namespace RagSubsystem

/-! ## Matching -/

def nameTerms (name : String) : List String :=
  ((Text.split '_' name).filter (· ≠ "")).dedup

def semanticEntityMatch (left right : EntityRecord) : Bool :=
  if left.entityType ≠ right.entityType then false
  else
    let overlap := ((nameTerms left.normalizedName).filter
      (· ∈ nameTerms right.normalizedName)).length
    2 ≤ overlap || Text.contains left.normalizedName right.normalizedName ||
      Text.contains right.normalizedName left.normalizedName

def incomingIsNewer (incomingDocumentId existingDocumentId : Nat) : Bool :=
  existingDocumentId ≤ incomingDocumentId

def sameDocument (held document : DocumentRecord) : Bool := held.sourceUri = document.sourceUri

def sameEntity (held entity : EntityRecord) : Bool :=
  held.normalizedName = entity.normalizedName || semanticEntityMatch held entity

def sameRelationship (held relationship : RelationshipRecord) : Bool :=
  held.sourceEntityId = relationship.sourceEntityId &&
    held.targetEntityId = relationship.targetEntityId &&
    held.relationType = relationship.relationType

def sameCommunity (held community : CommunityRecord) : Bool := held.label = community.label

/-! ## Merging -/

/-- `u32::saturating_add`. -/
def saturatingAdd (left right : Nat) : Nat := min (left + right) 4294967295

def longer (held new : String) : String :=
  if held.utf8ByteSize < new.utf8ByteSize then new else held

def mergedEntity (entity found : EntityRecord) : EntityRecord :=
  { found with
    salience := max found.salience entity.salience + 1
    mentionCount := found.mentionCount + entity.mentionCount
    weight := max found.weight entity.weight
    description :=
      if found.description.utf8ByteSize < entity.description.utf8ByteSize ∨
          incomingIsNewer entity.firstDocumentId found.firstDocumentId = true then
        entity.description
      else found.description }

def mergedRelationship (relationship found : RelationshipRecord) : RelationshipRecord :=
  { found with
    weight := saturatingAdd (max found.weight relationship.weight) 1
    confidence := max found.confidence relationship.confidence
    description := longer found.description relationship.description }

def mergedCommunity (community found : CommunityRecord) : CommunityRecord :=
  { found with
    rank := saturatingAdd (max found.rank community.rank) 2
    summary := longer found.summary community.summary }

/-- Entities, and where the incoming ones went. -/
def mergeEntity (merging : List EntityRecord × Table Nat Nat) (entity : EntityRecord) :
    List EntityRecord × Table Nat Nat :=
  match merging.1.find? (sameEntity · entity) with
  | some found =>
    (modifyFirst (sameEntity · entity) (mergedEntity entity) merging.1,
      merging.2.insert entity.id found.id)
  | none => (merging.1 ++ [entity], merging.2.insert entity.id entity.id)

def mergeEntities (held entities : List EntityRecord) : List EntityRecord × Table Nat Nat :=
  entities.foldl mergeEntity (held, .empty)

/-- A relationship between where its endpoints went. -/
def remapped (entityRemap : Table Nat Nat) (relationship : RelationshipRecord) :
    RelationshipRecord :=
  { relationship with
    sourceEntityId := (entityRemap.get relationship.sourceEntityId).getD
      relationship.sourceEntityId
    targetEntityId := (entityRemap.get relationship.targetEntityId).getD
      relationship.targetEntityId }

/-- `merge_incremental_snapshot` before tasks are mapped. -/
def mergeSnapshots (existing incoming : DatabaseSnapshot) : DatabaseSnapshot :=
  let entities := mergeEntities existing.entities incoming.entities
  { existing with
    documents := mergeAll sameDocument (fun _ held => held) existing.documents incoming.documents
    entities := entities.1
    relationships := mergeAll sameRelationship mergedRelationship existing.relationships
      (incoming.relationships.map (remapped entities.2))
    communities := mergeAll sameCommunity mergedCommunity existing.communities
      incoming.communities }

/-! ## Tasks and capabilities -/

structure Mapping where
  entities : List EntityRecord
  nextEntityId : Nat
  relationships : List RelationshipRecord
  nextRelationshipId : Nat

def namedAgain (entity : EntityRecord) : EntityRecord :=
  { entity with
    salience := entity.salience + 1
    mentionCount := entity.mentionCount + 1
    weight := entity.weight + 8 }

def upsertEntity (mapping : Mapping) (documentId : Nat)
    (canonicalName entityType description : String) : Nat × Mapping :=
  match mapping.entities.find? (·.normalizedName = normalizeKey canonicalName) with
  | some found =>
    (found.id, { mapping with
      entities := modifyFirst (·.normalizedName = normalizeKey canonicalName) namedAgain
        mapping.entities })
  | none =>
    (mapping.nextEntityId, { mapping with
      nextEntityId := mapping.nextEntityId + 1
      entities := mapping.entities ++
        [{ id := mapping.nextEntityId
           canonicalName
           normalizedName := normalizeKey canonicalName
           entityType
           description
           salience := 1
           mentionCount := 1
           degree := 1
           weight := 16
           firstDocumentId := documentId }] })

def canUse (id documentId taskEntityId capabilityEntityId : Nat) (description : String) :
    RelationshipRecord where
  id
  documentId
  sourceEntityId := taskEntityId
  targetEntityId := capabilityEntityId
  relationType := "CAN_USE"
  weight := 10
  confidence := 88
  evidenceChunkIds := []
  description

def relateCapability (mapping : Mapping) (documentId taskEntityId capabilityEntityId : Nat)
    (description : String) : Mapping :=
  if mapping.relationships.any fun item => item.sourceEntityId = taskEntityId &&
      item.targetEntityId = capabilityEntityId && item.relationType = "CAN_USE" then mapping
  else
    { mapping with
      nextRelationshipId := mapping.nextRelationshipId + 1
      relationships := mapping.relationships ++
        [canUse mapping.nextRelationshipId documentId taskEntityId capabilityEntityId description] }

variable {F : Type}

def canUseManifest (task : SwarmTask) (manifest : ForgedMcpToolManifest F) : Bool :=
  task.role = "Execution" || Text.contains (Text.toAsciiLowercase task.objective)
    (Text.toAsciiLowercase manifest.capabilityName)

def mapManifest (documentId taskEntityId : Nat) (task : SwarmTask) (mapping : Mapping)
    (manifest : ForgedMcpToolManifest F) : Mapping :=
  if canUseManifest task manifest then
    let capability := upsertEntity mapping documentId manifest.registeredToolName "Capability"
      ("Capability candidate for " ++ task.role)
    relateCapability capability.2 documentId taskEntityId capability.1 task.objective
  else mapping

def mapTask (documentId : Nat) (manifests : List (ForgedMcpToolManifest F))
    (mapping : Mapping) (task : SwarmTask) : Mapping :=
  let named := upsertEntity mapping documentId ("Task " ++ task.role) "Task" task.objective
  manifests.foldl (mapManifest documentId named.1 task) named.2

/-- `max().unwrap_or(0) + 1`. -/
def nextId (ids : List Nat) : Nat := ids.max?.getD 0 + 1

/-- `summarize_task_capability_map` without reports. -/
def summarizeTaskCapabilityMap (tasks : List SwarmTask) : String :=
  "tasks: " ++ "; ".intercalate (tasks.map fun task => task.role ++ " -> " ++ task.objective) ++
    "; execution: "

def taskDocument (id : Nat) (tasks : List SwarmTask) : DocumentRecord where
  id
  title := "task-capability-map"
  sourceUri := "state_store://knowledge/task-capability-map/" ++ tasks.length.repr
  rawText := summarizeTaskCapabilityMap tasks
  status := .graphReady
  createdAtMs := 0
  chunkCount := 0
  entityCount := 0
  relationshipCount := 0

def mappingOf (snapshot : DatabaseSnapshot) : Mapping where
  entities := snapshot.entities
  nextEntityId := nextId (snapshot.entities.map (·.id))
  relationships := snapshot.relationships
  nextRelationshipId := nextId (snapshot.relationships.map (·.id))

def withTaskCapabilities (snapshot : DatabaseSnapshot) (tasks : List SwarmTask)
    (manifests : List (ForgedMcpToolManifest F)) : DatabaseSnapshot :=
  let documentId := nextId (snapshot.documents.map (·.id))
  let mapping := tasks.foldl (mapTask documentId manifests) (mappingOf snapshot)
  { snapshot with
    documents := snapshot.documents ++ [taskDocument documentId tasks]
    entities := mapping.entities
    relationships := mapping.relationships }

/-! ## Texts -/

variable (codec : SnapshotCodec)

def augmentSnapshotWithTaskCapabilities (snapshotJson : String) (tasks : List SwarmTask)
    (manifests : List (ForgedMcpToolManifest F)) : String :=
  match codec.fromStr snapshotJson with
  | some snapshot => codec.toString (withTaskCapabilities snapshot tasks manifests)
  | none => snapshotJson

def mergeIncrementalSnapshot (existingSnapshotJson : Option String) (newSnapshotJson : String)
    (tasks : List SwarmTask) (manifests : List (ForgedMcpToolManifest F)) : String :=
  match existingSnapshotJson with
  | none => augmentSnapshotWithTaskCapabilities codec newSnapshotJson tasks manifests
  | some existingSnapshotJson =>
    match codec.fromStr existingSnapshotJson, codec.fromStr newSnapshotJson with
    | some existing, some incoming =>
      augmentSnapshotWithTaskCapabilities codec
        (codec.toString (mergeSnapshots existing incoming)) tasks manifests
    | _, _ => augmentSnapshotWithTaskCapabilities codec newSnapshotJson tasks manifests

end RagSubsystem

end AutoLoop.Rag
