import AutoLoop.Foundation.LinkedChain
import AutoLoop.Foundation.Text
import AutoLoop.NoumenonCore.Ledger.Evidence
import AutoLoop.NoumenonCore.Ir

/-!
# Fingerprints and replay

The digest of the outputs of an execution is computed twice: from the step
records when it completes, and from the evidence when it is replayed.  The
second computation follows the `prev_hash` links from `genesis` until it has
passed as many events as there are, and reads the events by time otherwise.
`readOrder` is the order in which it reads them.
-/

namespace AutoLoop.NoumenonCore

open Text LinkedChain

/-- The method `digest_hex` of a `CryptoService`. -/
abbrev CryptoService := String → String

def buildFingerprintMaterial (closure : ReproducibleClosure)
    (supplyChain : SupplyChainEnvelope) (crypto : CryptoService) : FingerprintMaterial :=
  let canonicalStorePaths := closure.storePaths.insertionSort (· ≤ ·)
  { flakeLockDigest := closure.flakeLockDigest
    derivationDigest := closure.derivationDigest
    canonicalStorePaths := canonicalStorePaths
    storePathsDigest := crypto (joinWith '|' canonicalStorePaths)
    runtimeClosureHash := closure.runtimeClosureHash
    policyBundleDigest := supplyChain.policyBundleDigest
    wasmPluginDigest := supplyChain.capabilityPackageDigest
    verifierDigest := supplyChain.verifierDigest
    configDigest := closure.configDigest
    generationId := closure.generationId }

section
variable (material : FingerprintMaterial) (outputChainDigest : String)

/-- The text whose digest is the execution fingerprint. -/
def fingerprintPayload :
    String :=
  joinWith '|'
    [material.flakeLockDigest, material.derivationDigest,
      joinWith '|' material.canonicalStorePaths, material.storePathsDigest,
      material.runtimeClosureHash, material.policyBundleDigest,
      material.wasmPluginDigest, material.verifierDigest, material.configDigest,
      material.generationId, outputChainDigest]

def computeExecutionFingerprint (crypto : CryptoService) : String :=
  crypto (fingerprintPayload material outputChainDigest)

end

def outputChainDigestFromStepRecords (stepRecords : List StepRecord)
    (crypto : CryptoService) : String :=
  crypto (stepRecords.foldl (fun chain step => chain ++ step.outputDigest) "")

/-- What an event adds to the chain text. -/
def pushPayload (chain : String) (event : EvidenceRecord) : String :=
  if event.eventType = "STEP_EXECUTED" then chain ++ event.payloadDigest else chain

/-- The loop along the `prev_hash` links: `remaining` events are still to be
visited.  There is no result when a link leads nowhere. -/
def followChain (byPrevHash : HashMap String EvidenceRecord) :
    Nat → String → String → Option String
  | 0, _, _ => none
  | remaining + 1, chain, nextPrevHash =>
    match byPrevHash.get nextPrevHash with
    | none => none
    | some event =>
      let chain := pushPayload chain event
      if remaining = 0 then some chain
      else followChain byPrevHash remaining chain event.recordHash

/-- The order of the fallback: by time, then by record id. -/
def byTimestamp (left right : EvidenceRecord) : Prop :=
  left.timestampMs < right.timestampMs ∨
    (left.timestampMs = right.timestampMs ∧ left.recordId ≤ right.recordId)

instance : DecidableRel byTimestamp :=
  fun _ _ => inferInstanceAs (Decidable (_ ∨ _))

section
variable (events : List EvidenceRecord)

def outputChainDigestFromEvidence (crypto : CryptoService) : String :=
  let byPrevHash : HashMap String EvidenceRecord :=
    events.foldl (fun map event => map.insert event.prevHash event) HashMap.empty
  match followChain byPrevHash events.length "" "genesis" with
  | some chain => crypto chain
  | none => crypto ((events.insertionSort byTimestamp).foldl pushPayload "")

/-! ## The order in which evidence is read -/

def stepPayloads : List String :=
  (events.filter (·.eventType = "STEP_EXECUTED")).map (·.payloadDigest)

/-- The walk of the replay along the links. -/
def chainWalk : Option (List EvidenceRecord) :=
  walk (byFollowed (·.prevHash) events) (·.recordHash) events.length "genesis"

def readOrder : List EvidenceRecord :=
  (chainWalk events).getD (events.insertionSort byTimestamp)

theorem foldl_pushPayload (chain : String) :
    events.foldl pushPayload chain = chain ++ String.join (stepPayloads events) := by
  induction events generalizing chain with
  | nil => simp [stepPayloads]
  | cons event rest ih =>
    rw [List.foldl_cons, ih, pushPayload]
    by_cases isStep : event.eventType = "STEP_EXECUTED"
    · simp [stepPayloads, isStep, String.append_assoc]
    · simp [stepPayloads, isStep]

end

theorem foldl_outputDigest (stepRecords : List StepRecord) (chain : String) :
    stepRecords.foldl (fun chain step => chain ++ step.outputDigest) chain =
      chain ++ String.join (stepRecords.map (·.outputDigest)) := by
  induction stepRecords generalizing chain with
  | nil => simp
  | cons step rest ih => simp [ih, String.append_assoc]

theorem followChain_eq_walk (byPrevHash : HashMap String EvidenceRecord)
    (remaining : Nat) (chain nextPrevHash : String) :
    followChain byPrevHash (remaining + 1) chain nextPrevHash =
      (walk byPrevHash (·.recordHash) (remaining + 1) nextPrevHash).map
        fun passed => chain ++ String.join (stepPayloads passed) := by
  induction remaining generalizing chain nextPrevHash with
  | zero =>
    rw [followChain, walk]
    cases byPrevHash.get nextPrevHash with
    | none => rfl
    | some event =>
      simp only [if_true, walk, Option.map_some]
      exact congrArg some (foldl_pushPayload [event] chain)
  | succ remaining ih =>
    rw [followChain, walk]
    cases byPrevHash.get nextPrevHash with
    | none => rfl
    | some event =>
      simp only [Nat.add_one_ne_zero, if_false, ih, Option.map_map]
      congr 1
      funext passed
      rw [Function.comp_apply, ← foldl_pushPayload passed, ← foldl_pushPayload]
      rfl

theorem outputChainDigestFromStepRecords_eq (stepRecords : List StepRecord)
    (crypto : CryptoService) :
    outputChainDigestFromStepRecords stepRecords crypto =
      crypto (String.join (stepRecords.map (·.outputDigest))) := by
  rw [outputChainDigestFromStepRecords, foldl_outputDigest, String.empty_append]

theorem outputChainDigestFromEvidence_eq (events : List EvidenceRecord) (crypto : CryptoService) :
    outputChainDigestFromEvidence events crypto =
      crypto (String.join (stepPayloads (readOrder events))) := by
  cases events with
  | nil => rfl
  | cons first rest =>
    rw [outputChainDigestFromEvidence, List.length_cons, followChain_eq_walk]
    change (match (chainWalk (first :: rest)).map _ with
      | some chain => crypto chain
      | none => _) = _
    rw [readOrder]
    cases chainWalk (first :: rest) with
    | none => exact congrArg crypto (foldl_pushPayload _ _)
    | some passed => rfl

end AutoLoop.NoumenonCore
