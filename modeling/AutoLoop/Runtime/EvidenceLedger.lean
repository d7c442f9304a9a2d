import AutoLoop.StateAdapter.StateStore

/-!
# The evidence ledger

The stage records of `EvidenceLedgerWriter` over the state store.  Each record names
the hash of the record before it in its stream, which is looked up by a prefix scan
of the keys and a stable sort by time.
-/

namespace AutoLoop.Runtime

open StateAdapter
open StateStore (isEvidence)
open Json

/-! ## Replay fingerprints -/

/-- `{:016x}`. -/
def hex64 (word : UInt64) : String :=
  String.ofList ((List.range 16).map fun place =>
    HexCodec.digit (word.toNat / 16 ^ (15 - place) % 16))

def digestOfParts (parts : List String) : String :=
  let payload := String.intercalate "::" parts
  hex64 (payload.toUTF8.toList.foldl
    (fun hash byte => (hash ^^^ byte.toUInt64) * 0x100000001b3) 0xcbf29ce484222325)

/-- `build_fingerprint` of a payload in canonical JSON. -/
def buildFingerprint (space schemaVersion seedVersion replayVersion payload : String) :
    String :=
  let canonicalPayload := object [("payload", payload), ("replay_version", quote replayVersion),
    ("schema_version", quote schemaVersion), ("seed_version", quote seedVersion)]
  space ++ ":" ++
    digestOfParts [space, schemaVersion, seedVersion, replayVersion, canonicalPayload]

def evidenceEventReplaySchemaVersion : String := "evidence-event-replay/v1"

def evidenceEventReplaySeedVersion : String := "evidence-event-seed/v1"

def evidenceEventReplayVersion : String := "evidence-event-replay-contract/v1"

/-! ## Records -/

inductive EvidenceStage where
  | admission
  | execution
  | budget
  | verify
  | learn
  | promotion
  | replay
  deriving DecidableEq, Repr

/-- `{:?}`. -/
def EvidenceStage.debug : EvidenceStage → String
  | .admission => "Admission"
  | .execution => "Execution"
  | .budget => "Budget"
  | .verify => "Verify"
  | .learn => "Learn"
  | .promotion => "Promotion"
  | .replay => "Replay"

/-- The JSON form, in snake case. -/
def EvidenceStage.json (stage : EvidenceStage) : String :=
  quote (Text.toAsciiLowercase stage.debug)

/-- The fields under the hash of a record. -/
structure StageContent (Payload : Type) where
  sessionId : String
  traceId : String
  stage : EvidenceStage
  prevHash : String
  payload : Payload
  createdAtMs : UInt64
  deriving DecidableEq

structure StageEvidenceRecord (Payload : Type) extends StageContent Payload where
  recordHash : String
  replayFingerprint : String
  replaySchemaVersion : String
  replaySeedVersion : String
  replayVersion : String
  deriving DecidableEq

/-- The writer over a store, with the functions it is built on. -/
structure EvidenceLedgerWriter (Payload : Type) where
  store : StateStore
  /-- The payload that `sanitize_decision_payload` leaves. -/
  sanitize : Payload → Payload
  /-- `canonical_json_string`. -/
  canonicalJson : Payload → String
  /-- `hash_value` of the JSON object of the fields. -/
  hashValue : StageContent Payload → String
  /-- `serde_json::to_string`. -/
  encode : StageEvidenceRecord Payload → String
  /-- `serde_json::from_str`. -/
  decode : String → Option (StageEvidenceRecord Payload)

namespace EvidenceLedgerWriter

variable {Payload : Type} (ledger : EvidenceLedgerWriter Payload)

/-! ## Reading -/

section
variable (sessionId traceId : String)

/-- What the keys of a stream begin with. -/
def streamPrefix : String :=
  "evidence:stage:" ++ sessionId ++ ":" ++ traceId ++ ":"

def listStageRecords :
    StoreCall (List (StageEvidenceRecord Payload)) := do
  let rows ← ledger.store.listKnowledgeByPrefix (streamPrefix sessionId traceId)
  return sortByKey (fun record => record.createdAtMs.toNat)
    (rows.filterMap fun row => ledger.decode row.value)

def latestStageRecord :
    StoreCall (Option (StageEvidenceRecord Payload)) := do
  return (← ledger.listStageRecords sessionId traceId).getLast?

end

/-- The loop of `verify_stage_chain`. -/
def verifyRecords (hashValue : StageContent Payload → String) :
    Nat → String → List (StageEvidenceRecord Payload) → Except String Unit
  | _, _, [] => .ok ()
  | index, prevHash, record :: rest =>
    if record.prevHash ≠ prevHash then
      .error ("evidence worm chain broken at index=" ++ index.repr ++
        ": expected prev_hash=" ++ prevHash ++ ", got=" ++ record.prevHash)
    else if hashValue record.toStageContent ≠ record.recordHash then
      .error ("evidence worm chain broken at index=" ++ index.repr ++
        ": record_hash mismatch (expected=" ++ hashValue record.toStageContent ++
        ", got=" ++ record.recordHash ++ ")")
    else
      verifyRecords hashValue (index + 1) record.recordHash rest

def verifyStageChain (sessionId traceId : String) : StoreCall Unit := do
  let records ← ledger.listStageRecords sessionId traceId
  Future.done (verifyRecords ledger.hashValue 0 "genesis" records)

/-! ## Writing -/

/-- `fetch_add(1)` on `EVIDENCE_SEQ`, which wraps around. -/
def drawSequence : StoreCall UInt64 :=
  Future.call (fun shared => .drawSequence shared.evidenceSeq) fun shared =>
    (.ok shared.evidenceSeq,
      { shared with evidenceSeq := shared.evidenceSeq + 1, tick := shared.tick + 1 })

def auditWormViolation (sessionId traceId reason detail : String) : StoreCall String := do
  let ts ← StateStore.nowMs
  let key := "audit:evidence:worm:" ++ sessionId ++ ":" ++ traceId ++ ":" ++
    ts.toNat.repr ++ ":" ++ reason
  let _ ← ledger.store.upsertJsonKnowledge key
    (.ok (object [("created_at_ms", ts.toNat.repr), ("detail", detail),
      ("reason", quote reason), ("session_id", quote sessionId),
      ("trace_id", quote traceId)])) "evidence-worm-audit"
  return key

/-- Refuse a previous hash that is not the one of the latest record. -/
def checkPrevHash (sessionId traceId : String) (stage : EvidenceStage)
    (prevHash : Option String) (expectedPrevHash : String) : StoreCall Unit :=
  match prevHash with
  | none => return ()
  | some providedPrevHash =>
    if providedPrevHash ≠ expectedPrevHash then do
      let auditRef ← ledger.auditWormViolation sessionId traceId "prev_hash_mismatch"
        (object [("expected_prev_hash", quote expectedPrevHash),
          ("provided_prev_hash", quote providedPrevHash), ("stage", stage.json)])
      Future.fail ("evidence worm violation: prev_hash mismatch (audit_ref=" ++ auditRef ++ ")")
    else
      return ()

/-- The record that an append writes. -/
def stageRecord (content : StageContent Payload) : StageEvidenceRecord Payload where
  toStageContent := content
  recordHash := ledger.hashValue content
  replayFingerprint := buildFingerprint "evidenceeventfp" evidenceEventReplaySchemaVersion
    evidenceEventReplaySeedVersion evidenceEventReplayVersion
    (object [("payload", ledger.canonicalJson content.payload), ("stage", content.stage.json)])
  replaySchemaVersion := evidenceEventReplaySchemaVersion
  replaySeedVersion := evidenceEventReplaySeedVersion
  replayVersion := evidenceEventReplayVersion

section
variable (sessionId traceId : String)

/-- The key that an append writes to. -/
def stageKey (createdAtMs seq : UInt64) (stage : EvidenceStage) :
    String :=
  Text.toAsciiLowercase ("evidence:stage:" ++ sessionId ++ ":" ++ traceId ++ ":" ++
    createdAtMs.toNat.repr ++ ":" ++ seq.toNat.repr ++ ":" ++ stage.debug)

section
variable (stage : EvidenceStage) (payload : Payload) (prevHash : Option String)

/-- `append_stage`, with the record it wrote. -/
def appendRecord : StoreCall (String × StageEvidenceRecord Payload) := do
  let payload := ledger.sanitize payload
  let createdAtMs ← StateStore.nowMs
  let latest ← ledger.latestStageRecord sessionId traceId
  let expectedPrevHash := (latest.map (·.recordHash)).getD "genesis"
  ledger.checkPrevHash sessionId traceId stage prevHash expectedPrevHash
  let record := ledger.stageRecord
    { sessionId, traceId, stage, prevHash := expectedPrevHash, payload, createdAtMs }
  let seq ← drawSequence
  let key := stageKey sessionId traceId createdAtMs seq stage
  let _ ← ledger.store.upsertJsonKnowledge key (.ok (ledger.encode record)) "evidence-ledger"
  return (key, record)

def appendStage : StoreCall String := do
  return (← ledger.appendRecord sessionId traceId stage payload prevHash).1

end

end

end EvidenceLedgerWriter

end AutoLoop.Runtime
