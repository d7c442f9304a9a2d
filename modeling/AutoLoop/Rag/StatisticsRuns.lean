import AutoLoop.Rag.Statistics

/-!
# Statistics over runs

The statistics are exact throughout a run exactly when each of its calls keeps them.
-/

namespace AutoLoop.Rag.GraphModule

variable {graph : GraphModule}

structure Kept (graph : GraphModule) : Prop where
  sound : graph.Sound
  documents : graph.DocumentsSound
  exact : graph.ExactStatistics

theorem exactStatistics_iff : graph.ExactStatistics ↔
    graph.MentionsExact ∧ graph.DegreesExact ∧ graph.WeightsExact ∧
      ∀ document ∈ graph.documents, graph.DocumentExact document :=
  ⟨fun exact => ⟨exact.mentionCounts, exact.degrees, exact.weights, exact.documents⟩,
    fun all => ⟨all.1, all.2.1, all.2.2.1, all.2.2.2⟩⟩

/-! ## Documents with their chunks -/

section Chunks

variable (graph : GraphModule) (context : ReducerContext) (title sourceUri rawText : String)
variable (chunkSize overlap : Nat)

theorem withChunks_fields :
    (graph.withChunks context title sourceUri rawText chunkSize overlap).2.entities =
        graph.entities ∧
      (graph.withChunks context title sourceUri rawText chunkSize overlap).2.mentions =
        graph.mentions ∧
      (graph.withChunks context title sourceUri rawText chunkSize overlap).2.relationships =
        graph.relationships ∧
      (graph.withChunks context title sourceUri rawText chunkSize overlap).2.nextEntityId =
        graph.nextEntityId ∧
      (graph.withChunks context title sourceUri rawText chunkSize overlap).2.nextDocumentId =
        graph.nextDocumentId + 1 :=
  ⟨rfl, rfl, rfl, rfl, rfl⟩

theorem ids_withChunks :
    (graph.withChunks context title sourceUri rawText chunkSize overlap).2.documents.map (·.id) =
      graph.documents.map (·.id) ++ [graph.nextDocumentId + 1] := by
  refine (map_modifyFirst ?_ _).trans ?_
  · intro document
    rfl
  · simp [insertDocument]

theorem sound_withChunks (sound : graph.Sound) :
    (graph.withChunks context title sourceUri rawText chunkSize overlap).2.Sound :=
  ⟨sound.ids, sound.bounded, sound.names, sound.mentioned, sound.covered, sound.related⟩

theorem documentsSound_withChunks (sound : graph.DocumentsSound) :
    (graph.withChunks context title sourceUri rawText chunkSize overlap).2.DocumentsSound := by
  constructor
  · rw [ids_withChunks]
    refine List.nodup_append.mpr ⟨sound.ids, by simp, ?_⟩
    intro id isId other isOther
    rw [List.mem_singleton.mp isOther]
    have := sound.bounded id isId
    omega
  · rw [ids_withChunks]
    intro id isId
    rw [(withChunks_fields graph context title sourceUri rawText chunkSize overlap).2.2.2.2]
    cases List.mem_append.mp isId with
    | inl isOld => exact Nat.le_succ_of_le (sound.bounded id isOld)
    | inr isNew => rw [List.mem_singleton.mp isNew]

theorem others_withChunks (exact : ∀ document ∈ graph.documents, graph.DocumentExact document) :
    ∀ document ∈
        (graph.withChunks context title sourceUri rawText chunkSize overlap).2.documents,
      document.id ≠ graph.nextDocumentId + 1 →
        (graph.withChunks context title sourceUri rawText chunkSize overlap).2.DocumentExact
          document := by
  intro document isDocument other
  obtain ⟨old, isOld, shape⟩ := exists_of_mem_modifyFirst isDocument
  cases List.mem_append.mp isOld with
  | inl wasThere =>
    have oldExact := exact old wasThere
    cases shape with
    | inl same => exact same ▸ oldExact
    | inr changed => exact changed ▸ oldExact
  | inr isNew =>
    rw [List.mem_singleton.mp isNew] at shape
    cases shape with
    | inl same => exact absurd (same ▸ rfl) other
    | inr changed => exact absurd (changed ▸ rfl) other

theorem nodup_withChunks :
    ((graph.withChunks context title sourceUri rawText chunkSize overlap).1.map (·.id)).Nodup := by
  simp only [withChunks, insertChunks, numberedChunks, List.map_map]
  rw [List.Nodup, List.pairwise_map]
  generalize chunkText _ _ _ _ = drafts
  rw [List.pairwise_iff_getElem]
  intro first second isFirst isSecond below
  simp only [Function.comp_def, List.getElem_zipIdx]
  omega

end Chunks

/-! ## Calls -/

section
variable (documentId : Nat)

theorem sound_rebuild :
    (graph.rebuildCommunities documentId).2.Sound ↔ graph.Sound :=
  ⟨fun sound => ⟨sound.ids, sound.bounded, sound.names, sound.mentioned, sound.covered,
      sound.related⟩,
    fun sound => ⟨sound.ids, sound.bounded, sound.names, sound.mentioned, sound.covered,
      sound.related⟩⟩

theorem exactStatistics_updateStats :
    (graph.updateDocumentStats documentId).ExactStatistics ↔
      graph.MentionsExact ∧ graph.DegreesExact ∧ graph.WeightsExact ∧
        ∀ document ∈ (graph.updateDocumentStats documentId).documents,
          (graph.updateDocumentStats documentId).DocumentExact document :=
  exactStatistics_iff

theorem exact_rebuild :
    (graph.rebuildCommunities documentId).2.MentionsExact ∧
        (graph.rebuildCommunities documentId).2.DegreesExact ∧
        (graph.rebuildCommunities documentId).2.WeightsExact ↔
      graph.MentionsExact ∧ graph.DegreesExact ∧ graph.WeightsExact := Iff.rfl

theorem kept_rebuild :
    (graph.rebuildCommunities documentId).2.Kept ↔ graph.Kept := by
  constructor
  · intro kept
    exact ⟨⟨kept.sound.ids, kept.sound.bounded, kept.sound.names, kept.sound.mentioned,
      kept.sound.covered, kept.sound.related⟩, ⟨kept.documents.ids, kept.documents.bounded⟩,
      ⟨kept.exact.mentionCounts, kept.exact.degrees, kept.exact.weights, kept.exact.documents⟩⟩
  · intro kept
    exact ⟨⟨kept.sound.ids, kept.sound.bounded, kept.sound.names, kept.sound.mentioned,
      kept.sound.covered, kept.sound.related⟩, ⟨kept.documents.ids, kept.documents.bounded⟩,
      ⟨kept.exact.mentionCounts, kept.exact.degrees, kept.exact.weights, kept.exact.documents⟩⟩

end

theorem kept_step (kept : graph.Kept) (call : GraphCall) :
    (knowledgeGraph.step graph call).2.Sound ∧
      (knowledgeGraph.step graph call).2.DocumentsSound ∧
      ((knowledgeGraph.step graph call).2.ExactStatistics ↔ graph.KeepsStatistics call) := by
  obtain ⟨mentions, degrees, weights, documents⟩ := exactStatistics_iff.mp kept.exact
  cases call with
  | attachChunk documentId chunkId extracted =>
    obtain ⟨laterSound, laterWeights, laterMentions, laterDegrees⟩ :=
      attachChunkGraph_spec kept.sound documentId chunkId extracted
    obtain ⟨laterIds, laterDocuments⟩ := @attachChunkGraph_documents graph documentId chunkId
      kept.documents extracted (fun document isDocument _ => documents document isDocument)
    refine ⟨laterSound, ⟨?_, ?_⟩, ?_⟩
    · exact laterIds ▸ kept.documents.ids
    · simp only [knowledgeGraph]
      rw [laterIds, nextDocumentId_attach]
      exact kept.documents.bounded
    · refine exactStatistics_iff.trans ?_
      rw [KeepsStatistics, ← laterDegrees]
      exact ⟨fun all => ⟨(laterMentions.mp all.1).2, all.2.1⟩,
        fun both => ⟨laterMentions.mpr ⟨mentions, both.1⟩, both.2, laterWeights, laterDocuments⟩⟩
  | rebuildCommunities documentId =>
    have later := (kept_rebuild documentId).mpr kept
    exact ⟨later.sound, later.documents, iff_of_true later.exact trivial⟩
  | ingestDocument context title sourceUri rawText chunkSize overlap =>
    have spec := ingestChunks_spec
      (graph.withChunks context title sourceUri rawText chunkSize overlap).1
      (nodup_withChunks graph context title sourceUri rawText chunkSize overlap)
      (graph.nextDocumentId + 1)
      ([], [], (graph.withChunks context title sourceUri rawText chunkSize overlap).2)
      (sound_withChunks graph context title sourceUri rawText chunkSize overlap kept.sound)
      (documentsSound_withChunks graph context title sourceUri rawText chunkSize overlap
        kept.documents)
      weights
      (others_withChunks graph context title sourceUri rawText chunkSize overlap documents) _ rfl
    have isNext := nextDocumentId_ingestChunks
      (graph.withChunks context title sourceUri rawText chunkSize overlap).1
      (graph.nextDocumentId + 1)
      ([], [], (graph.withChunks context title sourceUri rawText chunkSize overlap).2)
    generalize isIngested : (List.foldl (ingestChunk (graph.nextDocumentId + 1))
      ([], [], (graph.withChunks context title sourceUri rawText chunkSize overlap).2)
      (graph.withChunks context title sourceUri rawText chunkSize overlap).1).2.2 = ingested
      at spec isNext
    obtain ⟨laterSound, laterWeights, laterIds, laterOthers, laterMentions, laterDegrees⟩ := spec
    have isStep : (knowledgeGraph.step graph (.ingestDocument context title sourceUri rawText
        chunkSize overlap)).2 = ((ingested.rebuildCommunities
          (graph.nextDocumentId + 1)).2).updateDocumentStats (graph.nextDocumentId + 1) := by
      rw [← isIngested]
      rfl
    have ids : (ingested.documents.map (·.id)).Nodup := by
      rw [laterIds]
      exact (documentsSound_withChunks graph context title sourceUri rawText chunkSize overlap
        kept.documents).ids
    rw [isStep]
    refine ⟨?_, ⟨?_, ?_⟩, ?_⟩
    · exact (sound_updateStats _).mpr ((sound_rebuild _).mpr laterSound)
    · rw [ids_updateStats]
      exact ids
    · rw [ids_updateStats]
      change ∀ id ∈ ingested.documents.map (·.id), id ≤ ingested.nextDocumentId
      rw [laterIds, isNext]
      exact (documentsSound_withChunks graph context title sourceUri rawText chunkSize overlap
        kept.documents).bounded
    · have laterDocuments := @documentsExact_updateStats
        (ingested.rebuildCommunities (graph.nextDocumentId + 1)).2 (graph.nextDocumentId + 1)
        ids laterOthers
      rw [exactStatistics_updateStats, ← and_assoc, ← and_assoc, @and_assoc (MentionsExact _),
        exact_rebuild, laterMentions, laterDegrees]
      simp only [KeepsStatistics]
      constructor
      · intro all
        refine ⟨all.1.1.2, fun some => ?_⟩
        have only := all.1.2.1
        rw [if_neg some] at only
        exact only
      · intro both
        refine ⟨⟨⟨mentions, both.1⟩, ?_, laterWeights⟩, laterDocuments⟩
        split
        · exact degrees
        · next some => exact both.2 some

theorem kept_empty : Kept .empty where
  sound := by constructor <;> simp [empty]
  documents := by constructor <;> simp [empty]
  exact := by constructor <;> simp [empty]

/-- The statistics are exact throughout a run exactly when each call keeps them. -/
theorem statistics_always_exact_iff (calls : List GraphCall) :
    knowledgeGraph.Always ExactStatistics .empty calls ↔
      knowledgeGraph.EachStep KeepsStatistics .empty calls := by
  refine Component.always_iff_of_invariant
    (fun (graph : GraphModule) (kept : graph.Kept) => kept.exact) ?_ ?_ kept_empty
  · intro graph call kept keeps
    obtain ⟨sound, documents, exact⟩ := kept_step kept call
    exact ⟨sound, documents, exact.mpr keeps⟩
  · intro graph call kept exact
    exact (kept_step kept call).2.2.mp exact

/-! ## An entity of two documents -/

/-- Two chunks of different documents relate a common entity. -/
def sharedEntity : List GraphCall :=
  [.attachChunk 1 1 ⟨[⟨"Alice", "Concept", ""⟩, ⟨"Bob", "Concept", ""⟩],
      [⟨"Alice", "Bob", "USES", ""⟩]⟩,
    .attachChunk 2 2 ⟨[⟨"Alice", "Concept", ""⟩, ⟨"Carol", "Concept", ""⟩],
      [⟨"Alice", "Carol", "USES", ""⟩]⟩]

theorem shared_degree_lost :
    (∃ entity ∈ (knowledgeGraph.run .empty sharedEntity).2.entities,
      entity.normalizedName = "alice" ∧ entity.degree = 1 ∧
        (knowledgeGraph.run .empty sharedEntity).2.incident entity.id = 2) ∧
      ¬(knowledgeGraph.run .empty sharedEntity).2.ExactStatistics := by
  have found : ∃ entity ∈ (knowledgeGraph.run .empty sharedEntity).2.entities,
      entity.normalizedName = "alice" ∧ entity.degree = 1 ∧
        (knowledgeGraph.run .empty sharedEntity).2.incident entity.id = 2 := by decide +kernel
  refine ⟨found, ?_⟩
  intro exact
  obtain ⟨entity, isEntity, -, degree, incident⟩ := found
  have same := exact.degrees entity isEntity
  rw [degree, incident] at same
  cases same

end AutoLoop.Rag.GraphModule
