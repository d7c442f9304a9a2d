import AutoLoop.Runtime.StageAppends
import AutoLoop.Skills.FoundryFeedback
import AutoLoop.StateAdapter.StoredTexts

/-!
# What feedback writes

Over a store without a mirror a feedback event that is persisted goes under its own key and
under that of the latest event of its trace.  One that is refused leaves evidence only.
-/

namespace AutoLoop.Skills

open StateAdapter
open AutoLoop.Runtime (EvidenceLedgerWriter EvidenceStage)
open Runtime.EvidenceLedgerWriter (stageKey isEvidence_stageKey)
open StateStore (isEvidence)
open StateStore Effect Text Future Knowledge

/-- Rows were put into the store, and sequence numbers were drawn. -/
structure Leaves (rows : List (String × String)) (drawn : Nat) (before after : Shared) :
    Prop where
  texts : after.repo.knowledge.texts = before.repo.knowledge.texts.insertAll rows
  seq : after.evidenceSeq = before.evidenceSeq + UInt64.ofNat drawn

namespace Leaves

variable {rows others : List (String × String)} {drawn more : Nat}
variable {before middle after : Shared}

theorem trans (first : Leaves rows drawn before middle) (second : Leaves others more middle after) :
    Leaves (rows ++ others) (drawn + more) before after where
  texts := by rw [second.texts, first.texts, Table.insertAll_append]
  seq := by rw [second.seq, first.seq, UInt64.ofNat_add, UInt64.add_assoc]

end Leaves

/-! ## One call -/

section Unmirrored

variable {store : StateStore} {ledger : EvidenceLedgerWriter String}

theorem leaves_upsert (unmirrored : store.mirror = none) {key : String}
    (plain : isEvidence key = false) (text source : String) (shared : Shared) :
    ∃ record later, (store.upsertJsonKnowledge key (.ok text) source).run shared =
      (.ok record, later) ∧ Leaves [(key, text)] 0 shared later := by
  obtain ⟨id, nextId, ran⟩ :=
    run_upsertKnowledge_plain unmirrored plain text source shared
  exact ⟨_, _, ran, texts_put _ _, (UInt64.add_zero _).symm⟩

/-- A write under the write-once rule puts its row when there is none. -/
theorem leaves_upsert_evidence (unmirrored : store.mirror = none) {key : String}
    (protects : isEvidence key = true) (text source : String) (shared : Shared) :
    ∃ answer later, (store.upsertJsonKnowledge key (.ok text) source).run shared =
        (answer, later) ∧
      ((shared.repo.knowledge.get key = none ∧ (∃ record, answer = .ok record) ∧
          Leaves [(key, text)] 0 shared later) ∨
        (shared.repo.knowledge.get key ≠ none ∧ (∃ message, answer = .error message) ∧
          Leaves [] 0 shared later)) := by
  have probed : (repoGet key).run shared =
      (.ok (shared.repo.knowledge.get key), shared.after 1) := rfl
  have upserts : (store.upsertJsonKnowledge key (.ok text) source).run =
      (store.enforceEvidenceWormWrite key text).run >>= fun _ =>
        (store.writeKnowledge key text source).run := run_bind _ _
  rw [upserts]
  cases found : shared.repo.knowledge.get key with
  | some existing =>
    have refused : (store.enforceEvidenceWormWrite key text).run shared =
        (.error (wormViolation existing.value text key ""), shared.after 1) := by
      rw [found] at probed
      simp [enforceEvidenceWormWrite, protects, probed, bind_apply]
    refine ⟨_, _, bind_of_error refused, Or.inr ⟨?_, ⟨_, rfl⟩, rfl, ?_⟩⟩
    · exact Option.some_ne_none existing
    · exact (UInt64.add_zero _).symm
  | none =>
    have passed : (store.enforceEvidenceWormWrite key text).run shared =
        (.ok (), shared.after 1) := by
      rw [found] at probed
      simp [enforceEvidenceWormWrite, protects, probed, bind_apply, unmirrored]
    obtain ⟨id, nextId, ran, -⟩ :=
      InMemory.upsertKnowledge_apply key text source (shared.after 1).repo
    rw [bind_of_ok passed, writeKnowledge, unmirrored, repoUpsert,
      run_call, Shared.onRepo_apply, ran]
    refine ⟨_, _, rfl, Or.inl ⟨rfl, ⟨_, rfl⟩, ?_, ?_⟩⟩
    · exact texts_put _ _
    · exact (UInt64.add_zero _).symm

theorem leaves_appendStage (unmirrored : ledger.store.mirror = none)
    (sessionId traceId : String) (stage : EvidenceStage) (payload : String) (shared : Shared) :
    ∃ answer later key text,
      (ledger.appendStage sessionId traceId stage payload none).run shared = (answer, later) ∧
      key = stageKey sessionId traceId shared.moment.nowMs shared.evidenceSeq stage ∧
      ((shared.repo.knowledge.get key = none ∧ answer = .ok key ∧
          Leaves [(key, text)] 1 shared later) ∨
        (shared.repo.knowledge.get key ≠ none ∧ (∃ message, answer = .error message) ∧
          Leaves [] 1 shared later)) := by
  have clock : StateStore.nowMs.run shared = (.ok shared.moment.nowMs, shared.after 1) := rfl
  have latest : ∃ found, (ledger.latestStageRecord sessionId traceId).run (shared.after 1) =
      (.ok found, shared.after 2) := by
    have listed := run_listKnowledgeByPrefix_unmirrored unmirrored
      (EvidenceLedgerWriter.streamPrefix sessionId traceId) (shared.after 1)
    unfold EvidenceLedgerWriter.latestStageRecord EvidenceLedgerWriter.listStageRecords
    rw [run_bind, run_bind, bind_apply, bind_of_ok listed]
    exact ⟨_, rfl⟩
  obtain ⟨found, latest⟩ := latest
  let drawn : Shared := EvidenceLedgerWriter.drawn (shared.after 2)
  let key := stageKey sessionId traceId shared.moment.nowMs shared.evidenceSeq stage
  let record := ledger.stageRecord {
    sessionId, traceId, stage, payload := ledger.sanitize payload
    prevHash := (found.map (·.recordHash)).getD "genesis", createdAtMs := shared.moment.nowMs }
  have protects : isEvidence key = true := isEvidence_stageKey _ _ _ _ _
  obtain ⟨answer, later, ran, outcome⟩ :=
    leaves_upsert_evidence unmirrored protects (ledger.encode record) "evidence-ledger" drawn
  have reached : (ledger.appendStage sessionId traceId stage payload none).run shared =
      (((ledger.store.upsertJsonKnowledge key (.ok (ledger.encode record))
          "evidence-ledger").run >>= fun _ => (pure key : Effect Shared String)) drawn) := by
    unfold EvidenceLedgerWriter.appendStage EvidenceLedgerWriter.appendRecord
    have wrote : (ledger.store.upsertJsonKnowledge (stageKey sessionId traceId
        shared.moment.nowMs (shared.after 2).evidenceSeq stage) (.ok (ledger.encode record))
        "evidence-ledger").run (EvidenceLedgerWriter.drawn (shared.after 2)) =
        (answer, later) := ran
    simp only [run_bind, bind_apply, clock, latest, run_pure,
      EvidenceLedgerWriter.checkPrevHash, EvidenceLedgerWriter.run_drawSequence,
      pure_apply, ran, record] at wrote ⊢
    rw [wrote]
    cases answer <;> rfl
  rw [reached]
  rcases outcome with ⟨free, ⟨written, rfl⟩, leaves⟩ | ⟨taken, ⟨message, rfl⟩, leaves⟩
  · refine ⟨_, later, key, ledger.encode record, bind_of_ok ran, rfl, Or.inl ⟨free, rfl, ?_⟩⟩
    exact ⟨leaves.texts, leaves.seq.trans (UInt64.add_zero _)⟩
  · refine ⟨_, later, key, ledger.encode record, bind_of_error ran, rfl,
      Or.inr ⟨taken, ⟨_, rfl⟩, ?_⟩⟩
    exact ⟨leaves.texts, leaves.seq.trans (UInt64.add_zero _)⟩

end Unmirrored

/-! ## Keys -/

def GoesOn (start text : String) : Prop := ∃ rest, text = start ++ rest

namespace GoesOn

variable {start text : String}

theorem refl (start : String) : GoesOn start start := ⟨"", String.append_empty.symm⟩

theorem append (goes : GoesOn start text) (more : String) : GoesOn start (text ++ more) := by
  obtain ⟨rest, rfl⟩ := goes
  exact ⟨rest ++ more, String.append_assoc⟩

theorem plain (goes : GoesOn start text)
    (apart : ¬start.toList <+: "evidence:".toList ∧ ¬"evidence:".toList <+: start.toList) :
    isEvidence text = false := by
  obtain ⟨rest, rfl⟩ := goes
  exact isEvidence_append apart rest

theorem apart {other : String} (goes : GoesOn start text)
    (differ : ¬start.toList <+: other.toList ∧ ¬other.toList <+: start.toList) :
    ¬startsWith text other = true := by
  obtain ⟨rest, rfl⟩ := goes
  rw [startsWith_iff_exists]
  rintro ⟨more, same⟩
  exact append_ne_append differ _ _ same

end GoesOn

theorem goesOn_feedbackPrefix (sessionId : String) :
    GoesOn "foundry:feedback:" (feedbackPrefix sessionId) :=
  ((GoesOn.refl _).append _).append _

theorem plain_feedbackKey (sessionId traceId : String) (nowMs : UInt64)
    (kind : FoundryFeedbackKind) :
    isEvidence (feedbackKey sessionId traceId nowMs kind) = false :=
  (((((goesOn_feedbackPrefix sessionId).append _).append _).append _).append _).append _
    |>.plain (by decide)

theorem plain_latestKey (sessionId traceId : String) :
    isEvidence (latestKey sessionId traceId) = false :=
  ((((goesOn_feedbackPrefix sessionId).append _).append _).append _).plain (by decide)

theorem goesOn_conversation (sessionId nowMs suffix : String) :
    GoesOn "conversation:"
      ("conversation:" ++ sessionId ++ ":execution-feedback:" ++ nowMs ++ suffix) :=
  ((((GoesOn.refl _).append _).append _).append _).append _

/-! ## One event -/

/-- The arguments of `persist_feedback_event`, for the skill that the operation is of. -/
structure FeedbackCall where
  skillName : String
  traceId : String
  operation : String
  kind : FoundryFeedbackKind
  message : String
  detail : String
  nowMs : UInt64
  deriving DecidableEq, Repr

namespace FeedbackCall

variable (call : FeedbackCall) (sessionId : String)

/-- The event that is stored. -/
def event : FoundryFeedbackEvent :=
  let event := feedbackEvent sessionId call.traceId call.operation call.kind call.message
    call.detail call.nowMs
  { event with evidenceRef := some (foundryEvidenceKey sessionId event.evidence) }

def perform (ledger : EvidenceLedgerWriter String) (forms : FoundryForms) :
    StoreCall FoundryFeedbackEvent :=
  persistFeedbackEvent ledger forms sessionId call.traceId call.operation call.kind call.message
    call.detail call.nowMs

end FeedbackCall

def FoundryFeedbackEvent.rows (forms : FoundryForms) (event : FoundryFeedbackEvent) :
    List (String × String) :=
  let text := forms.event.encode event
  [(feedbackKey event.sessionId event.traceId event.createdAtMs event.kind, text),
    (latestKey event.sessionId event.traceId, text),
    ("conversation:" ++ event.sessionId ++ ":execution-feedback:" ++
      event.createdAtMs.toNat.repr ++ ":foundry", text)]

open List

theorem plain_rows {forms : FoundryForms} {event : FoundryFeedbackEvent} :
    ∀ row ∈ event.rows forms, isEvidence row.1 = false := by
  intro row membership
  rcases mem_cons.mp membership with rfl | membership
  · exact plain_feedbackKey _ _ _ _
  · rcases mem_pair.mp membership with rfl | rfl
    · exact plain_latestKey _ _
    · exact (goesOn_conversation _ _ _).plain (by decide)

theorem starts_stageKey (session trace : String) (ms seq : UInt64) (stage : EvidenceStage) :
    startsWith (stageKey session trace ms seq stage) "evidence:stage:" = true := by
  have lowered : "evidence:stage:".toList = "evidence:stage:".toList.map Char.toLower := by
    decide
  rw [startsWith_iff, stageKey, toAsciiLowercase]
  simp only [String.toList_ofList, String.toList_append, map_append, append_assoc]
  rw [← lowered]
  exact prefix_append _ _

theorem not_stage_of_plain {key : String} (plain : isEvidence key = false) :
    ¬startsWith key "evidence:stage:" = true := by
  have split : "evidence:stage:" = "evidence:" ++ "stage:" := rfl
  intro isStage
  obtain ⟨rest, rfl⟩ := startsWith_iff_exists.mp isStage
  have protects : isEvidence ("evidence:stage:" ++ rest) = true := by
    rw [isEvidence, startsWith_iff_exists, split, String.append_assoc]
    exact ⟨_, rfl⟩
  rw [protects] at plain
  cases plain

/-- Rows under the write-once rule, of which those of stages have the number that is drawn. -/
def Evidences (rows : List (String × String)) (drawn : Nat) (shared : Shared) : Prop :=
  ∀ row ∈ rows, isEvidence row.1 = true ∧
    (startsWith row.1 "evidence:stage:" = true → drawn = 1 ∧ ∃ sessionId traceId createdAtMs stage,
        row.1 = stageKey sessionId traceId createdAtMs shared.evidenceSeq stage)

section Unmirrored

variable {ledger : EvidenceLedgerWriter String} (unmirrored : ledger.store.mirror = none)
variable {forms : FoundryForms} {sessionId : String}

variable (record : FoundryFeedbackEvidenceRecord)

theorem goesOn_foundryEvidenceKey :
    GoesOn "evidence:foundry:" (foundryEvidenceKey sessionId record) :=
  (((((GoesOn.refl _).append _).append _).append _).append _).append _

theorem isEvidence_foundryEvidenceKey :
    isEvidence (foundryEvidenceKey sessionId record) = true := by
  have split : "evidence:foundry:" = "evidence:" ++ "foundry:" := rfl
  obtain ⟨rest, same⟩ := @goesOn_foundryEvidenceKey sessionId record
  rw [isEvidence, startsWith_iff_exists, same, split, String.append_assoc]
  exact ⟨_, rfl⟩

include unmirrored

theorem leaves_storeFeedback (event : FoundryFeedbackEvent) (shared : Shared) :
    ∃ later, (storeFeedback ledger forms event).run shared = (.ok event, later) ∧
      Leaves (event.rows forms) 0 shared later := by
  obtain ⟨_, one, ranOne, oneLeaves⟩ := leaves_upsert unmirrored
    (plain_feedbackKey event.sessionId event.traceId event.createdAtMs event.kind)
    (forms.event.encode event) "foundry-feedback" shared
  obtain ⟨_, two, ranTwo, twoLeaves⟩ := leaves_upsert unmirrored
    (plain_latestKey event.sessionId event.traceId) (forms.event.encode event)
    "foundry-feedback" one
  obtain ⟨_, three, ranThree, threeLeaves⟩ := leaves_upsert unmirrored
    ((goesOn_conversation event.sessionId event.createdAtMs.toNat.repr ":foundry").plain
      (by decide)) (forms.event.encode event) "execution-feedback" two
  refine ⟨three, ?_, (oneLeaves.trans twoLeaves).trans threeLeaves⟩
  unfold storeFeedback
  simp only [run_bind, bind_of_ok ranOne, bind_of_ok ranTwo, bind_of_ok ranThree]
  rfl

theorem evidenced_cases {key : String} (protects : isEvidence key = true)
    (notStage : ¬startsWith key "evidence:stage:" = true) (text : String)
    (traceId : String) (payload : String → String) {α : Type} {next : String → StoreCall α}
    {value : α} {rows : List (String × String)}
    (stores : ∀ shared, ∃ later, (next key).run shared = (.ok value, later) ∧
      Leaves rows 0 shared later) (shared : Shared) :
    ∃ evidence drawn later, drawn ≤ 1 ∧ Evidences evidence drawn shared ∧
      (((do
          let evidenceRef ← (do
            let _ ← ledger.store.upsertJsonKnowledge key (.ok text) "evidence-ledger"
            return key : StoreCall String)
          let _ ← ledger.appendStage sessionId traceId .learn (payload evidenceRef) none
          next evidenceRef : StoreCall α).run shared = (.ok value, later) ∧
          Leaves (evidence ++ rows) drawn shared later) ∨
        ∃ message, (do
          let evidenceRef ← (do
            let _ ← ledger.store.upsertJsonKnowledge key (.ok text) "evidence-ledger"
            return key : StoreCall String)
          let _ ← ledger.appendStage sessionId traceId .learn (payload evidenceRef) none
          next evidenceRef : StoreCall α).run shared = (.error message, later) ∧
          Leaves evidence drawn shared later ∧
          ∃ other, shared.repo.knowledge.get other ≠ none) := by
  simp only [run_bind]
  obtain ⟨answer, noted, ranNote, outcome⟩ :=
    leaves_upsert_evidence unmirrored protects text "evidence-ledger" shared
  have noteEvidences : ∀ drawn, Evidences [(key, text)] drawn shared := by
    intro drawn row membership
    rw [mem_singleton.mp membership]
    exact ⟨protects, fun isStage => absurd isStage notStage⟩
  rcases outcome with ⟨-, ⟨record, rfl⟩, noteLeaves⟩ | ⟨taken, ⟨message, rfl⟩, noteLeaves⟩
  · have ranRef : (((ledger.store.upsertJsonKnowledge key (.ok text) "evidence-ledger").run >>=
        fun _ => (pure key : StoreCall String).run) shared) = (.ok key, noted) :=
      bind_of_ok ranNote
    rw [bind_of_ok ranRef]
    obtain ⟨answer, staged, stageName, stageText, ranStage, isKey, outcome⟩ :=
      leaves_appendStage unmirrored sessionId traceId .learn (payload key) noted
    rcases outcome with ⟨-, rfl, stageLeaves⟩ | ⟨taken, ⟨message, rfl⟩, stageLeaves⟩
    · rw [bind_of_ok ranStage]
      obtain ⟨later, ran, leaves⟩ := stores staged
      have evidences : Evidences ([(key, text)] ++ [(stageName, stageText)]) 1 shared := by
        intro row membership
        rcases mem_append.mp membership with isNote | isStage
        · exact noteEvidences 1 row isNote
        · rw [mem_singleton.mp isStage]
          have sameSeq : noted.evidenceSeq = shared.evidenceSeq :=
            noteLeaves.seq.trans (UInt64.add_zero _)
          rw [sameSeq] at isKey
          rw [isKey]
          exact ⟨isEvidence_stageKey _ _ _ _ _, fun _ => ⟨rfl, _, _, _, _, rfl⟩⟩
      exact ⟨_, 1, later, le_rfl, evidences,
        Or.inl ⟨ran, (noteLeaves.trans stageLeaves).trans leaves⟩⟩
    · have different : stageName ≠ key := by
        rintro rfl
        rw [isKey] at notStage
        exact notStage (starts_stageKey _ _ _ _ _)
      have takenBefore : shared.repo.knowledge.get stageName ≠ none := by
        rw [ne_eq, ← Option.map_eq_none_iff, ← get_texts, noteLeaves.texts,
          Table.insertAll_cons, Table.insertAll_nil, Table.get_insert_of_ne _ _ different,
          get_texts, Option.map_eq_none_iff] at taken
        exact taken
      exact ⟨_, 1, staged, le_rfl, noteEvidences 1, Or.inr ⟨message,
        bind_of_error ranStage, noteLeaves.trans stageLeaves, stageName, takenBefore⟩⟩
  · refine ⟨[], 0, noted, Nat.zero_le 1, ?_, Or.inr ⟨message,
      bind_of_error (bind_of_error ranNote), noteLeaves, key, taken⟩⟩
    intro row membership
    cases membership

theorem perform_cases (call : FeedbackCall) (shared : Shared) :
    ∃ evidence drawn later, drawn ≤ 1 ∧ Evidences evidence drawn shared ∧
      (((call.perform sessionId ledger forms).run shared = (.ok (call.event sessionId), later) ∧
          Leaves (evidence ++ (call.event sessionId).rows forms) drawn shared later) ∨
        ∃ message, (call.perform sessionId ledger forms).run shared = (.error message, later) ∧
          Leaves evidence drawn shared later ∧
          ∃ other, shared.repo.knowledge.get other ≠ none) := by
  have stores := @leaves_storeFeedback ledger unmirrored forms (call.event sessionId)
  unfold FeedbackCall.perform persistFeedbackEvent appendFoundryFeedback
  unfold FeedbackCall.event at stores ⊢
  dsimp only at stores ⊢
  generalize feedbackEvent sessionId call.traceId call.operation call.kind call.message
    call.detail call.nowMs = event at stores ⊢
  have protects := @isEvidence_foundryEvidenceKey sessionId event.evidence
  have notStage : ¬startsWith (foundryEvidenceKey sessionId event.evidence)
    "evidence:stage:" = true := (goesOn_foundryEvidenceKey _).apart (by decide +kernel)
  generalize foundryEvidenceKey sessionId event.evidence = key at *
  have parts := @evidenced_cases ledger unmirrored sessionId key protects notStage
    (forms.evidence.encode event.evidence) call.traceId
    (fun evidenceRef => Json.object [("detail", call.detail),
      ("foundry_evidence_ref", Json.quote evidenceRef), ("kind", Json.quote call.kind.json),
      ("message", Json.quote call.message), ("operation", Json.quote call.operation)]) _
    (fun evidenceRef => storeFeedback ledger forms { event with evidenceRef := some evidenceRef })
    _ _ stores shared
  exact parts

end Unmirrored

end AutoLoop.Skills

/-!
## Runs of feedback

After any feedback calls on a session, with a clock that never stands still, the listing of
the session has each recorded event under its own key, and the last one of each trace once
more.
-/

namespace AutoLoop.Skills

open StateAdapter
open AutoLoop.Runtime (EvidenceLedgerWriter)
open Runtime.EvidenceLedgerWriter (stageKey)
open StateStore (isEvidence)
open Text List Table

/-- A store, and the calls whose events were recorded. -/
structure FoundryRun where
  shared : Shared
  recorded : List FeedbackCall

variable (ledger : EvidenceLedgerWriter String) (forms : FoundryForms) (sessionId : String)

/-- After one more call. -/
def FoundryRun.next (run : FoundryRun) (call : FeedbackCall) : FoundryRun :=
  let ran := (call.perform sessionId ledger forms).run run.shared
  ⟨ran.2, match ran.1 with
    | .ok _ => run.recorded ++ [call]
    | .error _ => run.recorded⟩

/-- The calls one after another on a new store. -/
def feedbackRun (host : Nat → Moment) (calls : List FeedbackCall) : FoundryRun :=
  calls.foldl (FoundryRun.next ledger forms sessionId) ⟨Shared.started host, []⟩

/-- The clock goes on from call to call. -/
def Ticking (calls : List FeedbackCall) : Prop :=
  calls.Pairwise fun call later => call.nowMs < later.nowMs

/-- No recorded event of the trace is later. -/
def IsLast (recorded : List FeedbackCall) (call : FeedbackCall) : Prop :=
  ∀ other ∈ recorded, other.traceId = call.traceId → other.nowMs ≤ call.nowMs

instance (recorded : List FeedbackCall) : DecidablePred (IsLast recorded) := fun call =>
  inferInstanceAs (Decidable (∀ other ∈ recorded, other.traceId = call.traceId →
    other.nowMs ≤ call.nowMs))

namespace FeedbackCall

variable (call : FeedbackCall)

def ownKey : String := feedbackKey sessionId call.traceId call.nowMs call.kind

def text : String := forms.event.encode (call.event sessionId)

end FeedbackCall

def Stored (recorded : List FeedbackCall) (key value : String) : Prop :=
  (∃ call ∈ recorded, key = call.ownKey sessionId ∧ value = call.text forms sessionId) ∨
    ∃ call ∈ recorded, IsLast recorded call ∧ key = latestKey sessionId call.traceId ∧
      value = call.text forms sessionId

/-! ## Keys -/

variable {ledger forms sessionId}
variable {recorded : List FeedbackCall} {call other : FeedbackCall}

theorem ownKey_inj (same : call.ownKey sessionId = other.ownKey sessionId) :
    call.nowMs = other.nowMs := by
  have clean : ∀ kind : FoundryFeedbackKind, ':' ∉ (kindSlug kind).toList := by
    intro kind
    cases kind <;> decide
  have spelled := congrArg String.toList same
  simp only [FeedbackCall.ownKey, feedbackKey, String.toList_append] at spelled
  have slugs := after_last_separator spelled (clean _) (clean _)
  rw [slugs, append_cancel_right_eq, append_cancel_right_eq] at spelled
  have numbers := after_last_separator spelled (not_mem_repr rfl _)
    (not_mem_repr rfl _)
  exact UInt64.toNat_inj.mp (repr_inj.mp (String.toList_inj.mp numbers))

theorem latestKey_inj {traceId otherTrace : String}
    (same : latestKey sessionId traceId = latestKey sessionId otherTrace) :
    traceId = otherTrace := by
  have spelled := congrArg String.toList same
  simp only [latestKey, String.toList_append] at spelled
  rw [append_cancel_right_eq, append_cancel_right_eq] at spelled
  exact String.toList_inj.mp (append_cancel_left spelled)

theorem ownKey_ne_latestKey {traceId : String} :
    call.ownKey sessionId ≠ latestKey sessionId traceId := by
  intro same
  have clean : ∀ kind : FoundryFeedbackKind, ':' ∉ (kindSlug kind).toList ∧
      (kindSlug kind).toList ≠ "latest".toList := by
    intro kind
    cases kind <;> decide
  have spelled := congrArg String.toList same
  simp only [FeedbackCall.ownKey, feedbackKey, latestKey, String.toList_append] at spelled
  exact (clean call.kind).2 (after_last_separator spelled (clean _).1 (by decide))

theorem keys_start (sessionId : String) (call : FeedbackCall) :
    startsWith (call.ownKey sessionId) (feedbackPrefix sessionId) = true ∧
      startsWith (latestKey sessionId call.traceId) (feedbackPrefix sessionId) = true := by
  simp only [startsWith_iff_exists]
  exact ⟨(((((GoesOn.refl _).append _).append _).append _).append _).append _,
    (((GoesOn.refl _).append _).append _).append _⟩

/-! ## What is stored -/

theorem IsLast.mono {more : List FeedbackCall} (isLast : IsLast (recorded ++ more) call) :
    IsLast recorded call :=
  fun other membership => isLast other (mem_append_left _ membership)

theorem stored_snoc_iff (newest : ∀ other ∈ recorded, other.nowMs < call.nowMs)
    (key value : String) :
    Stored forms sessionId (recorded ++ [call]) key value ↔
      if key = latestKey sessionId call.traceId then value = call.text forms sessionId
      else if key = call.ownKey sessionId then value = call.text forms sessionId
      else Stored forms sessionId recorded key value := by
  have isLast : IsLast (recorded ++ [call]) call := by
    intro other membership _
    rcases mem_append.mp membership with earlier | isCall
    · exact UInt64.le_of_lt (newest other earlier)
    · rw [mem_singleton.mp isCall]
      exact UInt64.le_refl _
  have ofCall : call ∈ recorded ++ [call] := mem_append_right _ (mem_singleton_self _)
  split
  · next isLatest =>
    subst isLatest
    constructor
    · rintro (⟨other, -, isOwn, -⟩ | ⟨other, membership, otherLast, isLatest, rfl⟩)
      · exact absurd isOwn.symm ownKey_ne_latestKey
      · rcases mem_append.mp membership with earlier | isCall
        · have reached := otherLast call ofCall (latestKey_inj isLatest)
          exact absurd (newest other earlier) (UInt64.not_lt.mpr reached)
        · rw [mem_singleton.mp isCall]
    · rintro rfl
      exact Or.inr ⟨call, ofCall, isLast, rfl, rfl⟩
  · next notLatest =>
    split
    · next isOwn =>
      subst isOwn
      constructor
      · rintro (⟨other, membership, isOwn, rfl⟩ | ⟨other, -, -, isLatest, -⟩)
        · rcases mem_append.mp membership with earlier | isCall
          · have below := newest other earlier
            rw [ownKey_inj isOwn] at below
            exact absurd below (UInt64.lt_irrefl _)
          · rw [mem_singleton.mp isCall]
        · exact absurd isLatest ownKey_ne_latestKey
      · rintro rfl
        exact Or.inl ⟨call, ofCall, rfl, rfl⟩
    · next notOwn =>
      constructor
      · rintro (⟨other, membership, isOwn, rfl⟩ | ⟨other, membership, otherLast, isLatest, rfl⟩)
        · rcases mem_append.mp membership with earlier | isCall
          · exact Or.inl ⟨other, earlier, isOwn, rfl⟩
          · rw [mem_singleton.mp isCall] at isOwn
            exact absurd isOwn notOwn
        · rcases mem_append.mp membership with earlier | isCall
          · exact Or.inr ⟨other, earlier, otherLast.mono, isLatest, rfl⟩
          · rw [mem_singleton.mp isCall] at isLatest
            exact absurd isLatest notLatest
      · rintro (⟨other, membership, isOwn, rfl⟩ | ⟨other, membership, otherLast, isLatest, rfl⟩)
        · exact Or.inl ⟨other, mem_append_left _ membership, isOwn, rfl⟩
        · refine Or.inr ⟨other, mem_append_left _ membership, ?_, isLatest, rfl⟩
          intro third inAll sameTrace
          rcases mem_append.mp inAll with earlier | isCall
          · exact otherLast third earlier sameTrace
          · rw [mem_singleton.mp isCall] at sameTrace
            rw [← sameTrace] at isLatest
            exact absurd isLatest notLatest

/-! ## Runs -/

/-- The numbers of the stages in the store are below those to come. -/
structure Numbered (drawn : Nat) (shared : Shared) : Prop where
  seq : shared.evidenceSeq = UInt64.ofNat (1 + drawn)
  stages : ∀ key, shared.repo.knowledge.texts.get key ≠ none →
    startsWith key "evidence:stage:" = true →
    ∃ earlier < drawn, ∃ sessionId traceId createdAtMs stage,
      key = stageKey sessionId traceId createdAtMs (UInt64.ofNat (1 + earlier)) stage

/-- What is known after some calls. -/
structure Keeps (forms : FoundryForms) (sessionId : String) (calls : List FeedbackCall)
    (run : FoundryRun) : Prop where
  recorded : run.recorded.Sublist calls
  stored : ∀ key value, startsWith key (feedbackPrefix sessionId) = true →
    (run.shared.repo.knowledge.texts.get key = some value ↔
      Stored forms sessionId run.recorded key value)
  numbered : ∃ drawn ≤ calls.length, Numbered drawn run.shared

theorem keeps_start (host : Nat → Moment) :
    Keeps forms sessionId [] ⟨Shared.started host, []⟩ where
  recorded := List.Sublist.refl _
  stored := by
    intro key value _
    constructor
    · intro found
      rw [Knowledge.get_texts] at found
      cases found
    · rintro (⟨call, membership, -⟩ | ⟨call, membership, -⟩)
      · cases membership
      · cases membership
  numbered := by
    refine ⟨0, Nat.le_refl 0, rfl, ?_⟩
    intro key found
    rw [Knowledge.get_texts] at found
    exact absurd rfl found

theorem Numbered.leaves {drawn more : Nat} {before after : Shared}
    {evidence rows : List (String × String)} (numbered : Numbered drawn before)
    (evidences : Evidences evidence more before) (few : more ≤ 1)
    (noStages : ∀ row ∈ rows, ¬startsWith row.1 "evidence:stage:" = true)
    (leaves : Leaves (evidence ++ rows) more before after) : Numbered (drawn + more) after where
  seq := by
    rw [leaves.seq, numbered.seq, ← UInt64.ofNat_add, Nat.add_assoc]
  stages := by
    intro key found isStage
    by_cases wrote : ∃ row ∈ evidence ++ rows, row.1 = key
    · obtain ⟨row, membership, rfl⟩ := wrote
      rcases mem_append.mp membership with isEvidence | isRow
      · obtain ⟨rfl, session, trace, createdAtMs, stage, isKey⟩ :=
          (evidences row isEvidence).2 isStage
        rw [numbered.seq] at isKey
        exact ⟨drawn, Nat.lt_succ_self drawn, session, trace, createdAtMs, stage, isKey⟩
      · exact absurd isStage (noStages row isRow)
    · have absent : ∀ row ∈ evidence ++ rows, row.1 ≠ key :=
        fun row membership isKey => wrote ⟨row, membership, isKey⟩
      rw [leaves.texts, get_insertAll_of_absent absent] at found
      obtain ⟨earlier, below, isStageKey⟩ := numbered.stages key found isStage
      exact ⟨earlier, Nat.lt_add_right more below, isStageKey⟩

variable {calls : List FeedbackCall} {run : FoundryRun}

theorem Keeps.next (unmirrored : ledger.store.mirror = none) (keeps : Keeps forms sessionId calls run)
    (newest : ∀ other ∈ calls, other.nowMs < call.nowMs) :
    Keeps forms sessionId (calls ++ [call]) (run.next ledger forms sessionId call) := by
  obtain ⟨drawn, few, numbered⟩ := keeps.numbered
  obtain ⟨evidence, more, later, atMostOne, evidences, outcome⟩ :=
    @perform_cases ledger unmirrored forms sessionId call run.shared
  have keptEvidence : ∀ key, startsWith key (feedbackPrefix sessionId) = true →
      (run.shared.repo.knowledge.texts.insertAll evidence).get key =
        run.shared.repo.knowledge.texts.get key := by
    intro key starts
    apply get_insertAll_of_absent
    rintro row membership rfl
    have plain : isEvidence row.1 = false := by
      obtain ⟨rest, isKey⟩ := startsWith_iff_exists.mp starts
      rw [isKey]
      exact ((goesOn_feedbackPrefix sessionId).append rest).plain (by decide)
    rw [(evidences row membership).1] at plain
    cases plain
  have fewMore : drawn + more ≤ (calls ++ [call]).length := by
    rw [length_append, length_singleton]
    exact Nat.add_le_add few atMostOne
  unfold FoundryRun.next
  rcases outcome with ⟨ran, leaves⟩ | ⟨message, ran, leaves, -⟩
  · simp only [ran]
    refine ⟨keeps.recorded.append (List.Sublist.refl _), ?_, drawn + more, fewMore, ?_⟩
    · intro key value starts
      have notConversation : key ≠ "conversation:" ++ sessionId ++ ":execution-feedback:" ++
          call.nowMs.toNat.repr ++ ":foundry" := by
        rintro rfl
        have goes := goesOn_conversation sessionId call.nowMs.toNat.repr ":foundry"
        obtain ⟨rest, isKey⟩ := startsWith_iff_exists.mp starts
        apply goes.apart (by decide : ¬"conversation:".toList <+: "foundry:feedback:".toList ∧
          ¬"foundry:feedback:".toList <+: "conversation:".toList)
        rw [isKey, startsWith_iff_exists]
        exact (goesOn_feedbackPrefix sessionId).append rest
      have rows : (call.event sessionId).rows forms =
          [(call.ownKey sessionId, call.text forms sessionId),
            (latestKey sessionId call.traceId, call.text forms sessionId),
            ("conversation:" ++ sessionId ++ ":execution-feedback:" ++ call.nowMs.toNat.repr ++
              ":foundry", call.text forms sessionId)] := rfl
      have earlier : ∀ other ∈ run.recorded, other.nowMs < call.nowMs :=
        fun other membership => newest other (keeps.recorded.subset membership)
      rw [leaves.texts, insertAll_append, rows, insertAll_cons, insertAll_cons,
        insertAll_cons, insertAll_nil, get_insert_of_ne _ _ notConversation,
        get_insert, get_insert, keptEvidence key starts, stored_snoc_iff earlier]
      split
      · rw [Option.some.injEq, eq_comm]
      · split
        · rw [Option.some.injEq, eq_comm]
        · exact keeps.stored key value starts
    · refine numbered.leaves evidences atMostOne ?_ leaves
      intro row membership
      exact not_stage_of_plain (plain_rows row membership)
  · simp only [ran]
    refine ⟨keeps.recorded.trans (sublist_append_left _ _), ?_, drawn + more, fewMore, ?_⟩
    · intro key value starts
      rw [leaves.texts, keptEvidence key starts]
      exact keeps.stored key value starts
    · have leaves : Leaves (evidence ++ []) more run.shared later := by
        rw [append_nil]
        exact leaves
      refine numbered.leaves evidences atMostOne ?_ leaves
      intro row membership
      cases membership

theorem keeps_run (unmirrored : ledger.store.mirror = none) (host : Nat → Moment)
    (ticking : Ticking calls) :
    Keeps forms sessionId calls (feedbackRun ledger forms sessionId host calls) := by
  induction calls using List.reverseRecOn with
  | nil => exact keeps_start host
  | append_singleton calls call ih =>
    obtain ⟨earlier, -, below⟩ := pairwise_append.mp ticking
    have ran : feedbackRun ledger forms sessionId host (calls ++ [call]) =
        (feedbackRun ledger forms sessionId host calls).next ledger forms sessionId call := by
      simp only [feedbackRun, foldl_append, foldl_cons, foldl_nil]
    rw [ran]
    exact (ih earlier).next unmirrored fun other membership =>
      below other membership call (mem_singleton_self call)

/-! ## Listings -/

theorem Ticking.nodup (ticking : Ticking recorded) : recorded.Nodup := by
  apply List.Pairwise.imp ?_ ticking
  rintro call _ below rfl
  exact UInt64.lt_irrefl _ below

theorem Ticking.eq_of_nowMs (ticking : Ticking recorded) (isRecorded : call ∈ recorded)
    (otherRecorded : other ∈ recorded) (same : call.nowMs = other.nowMs) : call = other := by
  induction recorded with
  | nil => cases isRecorded
  | cons head rest ih =>
    obtain ⟨below, later⟩ := pairwise_cons.mp ticking
    rcases mem_cons.mp isRecorded with rfl | inRest
    · rcases mem_cons.mp otherRecorded with rfl | otherInRest
      · rfl
      · have strictly := below other otherInRest
        rw [same] at strictly
        exact absurd strictly (UInt64.lt_irrefl _)
    · rcases mem_cons.mp otherRecorded with rfl | otherInRest
      · have strictly := below call inRest
        rw [same] at strictly
        exact absurd strictly (UInt64.lt_irrefl _)
      · exact ih later inRest otherInRest

def listedRows (forms : FoundryForms) (sessionId : String) (recorded : List FeedbackCall) :
    List (String × String) :=
  recorded.map (fun call => (call.ownKey sessionId, call.text forms sessionId)) ++
    (recorded.filter (IsLast recorded)).map fun call =>
      (latestKey sessionId call.traceId, call.text forms sessionId)

theorem mem_listedRows_iff {key value : String} :
    (key, value) ∈ listedRows forms sessionId recorded ↔
      Stored forms sessionId recorded key value := by
  simp only [listedRows, mem_append, mem_map, mem_filter, Prod.mk.injEq,
    decide_eq_true_eq, Stored, and_assoc, @eq_comm _ key, @eq_comm _ value]

theorem nodup_listedRows (ticking : Ticking recorded) :
    (listedRows forms sessionId recorded).Nodup := by
  rw [listedRows, nodup_append]
  refine ⟨?_, ?_, ?_⟩
  · refine List.Nodup.map_on ?_ ticking.nodup
    intro call isRecorded other otherRecorded same
    exact ticking.eq_of_nowMs isRecorded otherRecorded (ownKey_inj (Prod.mk.inj same).1)
  · refine List.Nodup.map_on ?_ (ticking.nodup.filter _)
    intro call isRecorded other otherRecorded same
    have sameTrace := latestKey_inj (Prod.mk.inj same).1
    obtain ⟨isRecorded, isLast⟩ := mem_filter.mp isRecorded
    obtain ⟨otherRecorded, otherLast⟩ := mem_filter.mp otherRecorded
    refine ticking.eq_of_nowMs isRecorded otherRecorded (UInt64.le_antisymm ?_ ?_)
    · exact of_decide_eq_true otherLast call isRecorded sameTrace
    · exact of_decide_eq_true isLast other otherRecorded sameTrace.symm
  · intro row isOwn other isLatest same
    obtain ⟨call, -, rfl⟩ := mem_map.mp isOwn
    obtain ⟨last, -, rfl⟩ := mem_map.mp isLatest
    exact absurd (Prod.mk.inj same).1 ownKey_ne_latestKey

def listedEvents (forms : FoundryForms) (sessionId : String) (knowledge : Knowledge) :
    List FoundryFeedbackEvent :=
  (knowledge.select (startsWith · (feedbackPrefix sessionId))).filterMap fun record =>
    forms.event.decode record.value

theorem listedEvents_perm (keeps : Keeps forms sessionId calls run)
    (ticking : Ticking run.recorded) :
    (listedEvents forms sessionId run.shared.repo.knowledge).Perm
      ((run.recorded ++ run.recorded.filter (IsLast run.recorded)).map (·.event sessionId)) := by
  let keep : String → Bool := (startsWith · (feedbackPrefix sessionId))
  have rows : (run.shared.repo.knowledge.texts.select keep).Perm
      (listedRows forms sessionId run.recorded) := by
    have nodup := nodup_of_increasing
      (run.shared.repo.knowledge.texts.increasing_select keep)
    apply (perm_ext_iff_of_nodup nodup (nodup_listedRows ticking)).mpr
    rintro ⟨key, value⟩
    rw [mem_select_iff, mem_listedRows_iff]
    constructor
    · rintro ⟨found, starts⟩
      exact (keeps.stored key value starts).mp found
    · intro stored
      have starts : keep key = true := by
        rcases stored with ⟨call, -, rfl, -⟩ | ⟨call, -, -, rfl, -⟩
        · exact (keys_start sessionId call).1
        · exact (keys_start sessionId call).2
      exact ⟨(keeps.stored key value starts).mpr stored, starts⟩
  have events : listedEvents forms sessionId run.shared.repo.knowledge =
      (run.shared.repo.knowledge.texts.select keep).filterMap fun row =>
        forms.event.decode row.2 := by
    rw [Knowledge.select_texts, filterMap_map]
    rfl
  rw [events]
  apply (rows.filterMap fun row => forms.event.decode row.2).trans
  have decoded : (listedRows forms sessionId run.recorded).filterMap
      (fun row => forms.event.decode row.2) =
      (run.recorded ++ run.recorded.filter (IsLast run.recorded)).map (·.event sessionId) := by
    have decodes : ∀ recorded : List FeedbackCall,
        recorded.filterMap (fun call => forms.event.decode (call.text forms sessionId)) =
          recorded.map (·.event sessionId) := by
      intro recorded
      simp only [FeedbackCall.text, forms.event.decode_encode]
      exact congrFun filterMap_eq_map' recorded
    rw [listedRows, filterMap_append, filterMap_map, filterMap_map, map_append]
    exact congrArg₂ _ (decodes _) (decodes _)
  rw [decoded]

end AutoLoop.Skills
