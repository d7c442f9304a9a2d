import AutoLoop.NoumenonCore.Kernel.EvidenceChain
import AutoLoop.NoumenonCore.Kernel.Progress

/-!
# What the replay check detects

The replay check compares the chain text of an execution with the text it reads
from whatever evidence the ledger holds.  It reads along the links until it has
passed as many events as there are, whether or not it has passed all of them, so
evidence can be arranged such that a step is read twice and another one never.
This module determines for which evidence no completed record is taken in.
-/

namespace AutoLoop.NoumenonCore

open World LinkedChain KernelExecutor List EvidenceLedger SyscallScheduler

variable {Env Evidence Budget Governor : Type}
variable {core : NoumenonCore Env} {request : TrustedExecutionRequest}

/-! ## Chain texts -/

def readText (events : List EvidenceRecord) : String :=
  String.join (stepPayloads (readOrder events))

def recordedText (record : ExecutionRecord) : String :=
  String.join (record.stepRecords.map (·.outputDigest))

structure FixedLength (digest : CryptoService) (size : Nat) : Prop where
  positive : 0 < size
  length_eq : ∀ text, (digest text).length = size

/-- The digest tells the two texts apart. -/
def NoCollision (digest : CryptoService) (first second : String) : Prop :=
  digest first = digest second → first = second

structure CollisionFree (digest : CryptoService) (record : ExecutionRecord)
    (events : List EvidenceRecord) : Prop where
  chainTexts : NoCollision digest (readText events) (recordedText record)
  payloads : NoCollision digest
    (fingerprintPayload record.evidenceBundle.fingerprintMaterial (digest (readText events)))
    (fingerprintPayload record.evidenceBundle.fingerprintMaterial (digest (recordedText record)))

/-- No completed record is taken in by this evidence: when the replay accepts it,
the executed steps among the evidence are those that were recorded. -/
def TamperEvident (digest : CryptoService) (executionId : String)
    (events : List EvidenceRecord) : Prop :=
  ∀ {Env Evidence Budget Governor : Type} [EvidenceLedger Evidence] [BudgetLedger Budget]
    [ResourceGovernor Governor] (core : NoumenonCore Env) (request : TrustedExecutionRequest)
    (before later : World Env Evidence Budget Governor) (record : ExecutionRecord),
    core.crypto = digest → request.executionId = executionId →
    (core.execute request before).1 = .ok record → record.finalStatus = "Completed" →
    byExecution executionId later.evidence = events →
    CollisionFree digest record events →
    (∃ fingerprint, (core.replayCheck record later).1 = .ok fingerprint) →
      (stepPayloads events).Perm (record.stepRecords.map (·.outputDigest))

/-- The text a replay reads could be the chain text of some plan. -/
def ReadsAsRun (digest : CryptoService) (events : List EvidenceRecord) : Prop :=
  ∃ outputs : List String, outputs.length < 2 ^ 63 ∧
    readText events = String.join (outputs.map digest)

section
variable (events : List EvidenceRecord)

/-- The replay reads every executed step among the evidence once. -/
def ReadsEachStepOnce : Prop :=
  (stepPayloads (readOrder events)).Perm (stepPayloads events)

theorem readOrder_subset : readOrder events ⊆ events := by
  rw [readOrder]
  cases walked : chainWalk events with
  | none => exact (perm_insertionSort byTimestamp events).subset
  | some passed => exact (of_walk walked).2

theorem stepPayloads_readOrder_subset :
    stepPayloads (readOrder events) ⊆ stepPayloads events :=
  map_subset _ (filter_subset _ (readOrder_subset events))

end

/-! ## The comparison -/

theorem fingerprintPayload_injective (material : FingerprintMaterial) :
    Function.Injective (fingerprintPayload material) := by
  intro first second same
  simpa only [fingerprintPayload, Text.joinWith, String.append_right_inj] using same

theorem replayCheck_ok_iff [EvidenceLedger Evidence] {run : RecordedRun}
    {record : ExecutionRecord} (completed : record = completedRecord core request run)
    {later : World Env Evidence Budget Governor} {events : List EvidenceRecord}
    (held : byExecution request.executionId later.evidence = events) :
    (∃ fingerprint, (core.replayCheck record later).1 = .ok fingerprint) ↔
      events ≠ [] ∧
        core.crypto (fingerprintPayload record.evidenceBundle.fingerprintMaterial
            (core.crypto (readText events))) =
          core.crypto (fingerprintPayload record.evidenceBundle.fingerprintMaterial
            (core.crypto (recordedText record))) := by
  have id : record.executionId = request.executionId :=
    congrArg (·.executionId) completed
  have fingerprint : record.evidenceBundle.executionFingerprint =
      core.crypto (fingerprintPayload record.evidenceBundle.fingerprintMaterial
        (core.crypto (recordedText record))) := by
    have chained := outputChainDigestFromStepRecords_eq run.stepRecords core.crypto
    rw [completed]
    exact congrArg (computeExecutionFingerprint _ · core.crypto) chained
  rw [replayCheck, id, held, ← fingerprint, outputChainDigestFromEvidence_eq, ← readText]
  cases events with
  | nil => simp
  | cons first rest =>
    simp only [isEmpty_cons, Bool.false_eq_true, if_false, ne_eq, reduceCtorEq,
      not_false_eq_true, true_and, computeExecutionFingerprint]
    by_cases agree : core.crypto (fingerprintPayload
        record.evidenceBundle.fingerprintMaterial (core.crypto (readText (first :: rest)))) =
        record.evidenceBundle.executionFingerprint
    · simp [agree]
    · simp [agree]

theorem Completion.outputDigests [EvidenceLedger Evidence]
    {before after : World Env Evidence Budget Governor} {record : ExecutionRecord}
    (completion : Completion core request before after record) :
    ∃ outputs : List String, outputs.length < 2 ^ 63 ∧
      record.stepRecords.map (·.outputDigest) = outputs.map core.crypto := by
  refine ⟨completion.outputs.map (·.output), ?bound, ?digests⟩
  case bound =>
    rw [length_map, ← completion.outputsOf.length_eq, completion.order.length_eq]
    exact request.plan.steps_lt
  case digests =>
    rw [completion.stepRecords_eq, stepsRecorded_outputDigests completion.recorded, map_map]
    rfl

section
variable {digest : CryptoService} {size : Nat} (fixed : FixedLength digest size)
include fixed

theorem stepPayloads_of_readText {events : List EvidenceRecord} {outputs : List String}
    (digests : ∀ payload ∈ stepPayloads events, ∃ output, payload = digest output)
    (same : readText events = String.join (outputs.map digest)) :
    stepPayloads (readOrder events) = outputs.map digest := by
  apply Text.join_injective_of_length fixed.positive ?read ?recorded same
  case read =>
    intro payload membership
    obtain ⟨output, rfl⟩ := digests payload (stepPayloads_readOrder_subset events membership)
    exact fixed.length_eq output
  case recorded =>
    intro payload membership
    obtain ⟨output, -, rfl⟩ := mem_map.mp membership
    exact fixed.length_eq output

theorem tamperEvident_of_readsEachStepOnce {executionId : String} {events : List EvidenceRecord}
    (readable : ReadsAsRun digest events →
      (∀ payload ∈ stepPayloads events, ∃ output, payload = digest output) ∧
        ReadsEachStepOnce events) : TamperEvident digest executionId events := by
  intro Env Evidence Budget Governor _ _ _ core request before later record
  rintro rfl rfl succeeded completed held collisionFree accepted
  obtain ⟨completion⟩ := execute_completed succeeded completed
  obtain ⟨outputs, bound, recorded⟩ := completion.outputDigests
  obtain ⟨-, fingerprints⟩ := (replayCheck_ok_iff completion.record_eq held).mp accepted
  have sameDigest := fingerprintPayload_injective _ (collisionFree.payloads fingerprints)
  have sameText := collisionFree.chainTexts sameDigest
  rw [recordedText, recorded] at sameText
  obtain ⟨digests, once⟩ := readable ⟨outputs, bound, sameText⟩
  rw [recorded, ← stepPayloads_of_readText fixed digests sameText]
  exact once.symm

end

/-! ## Every chain text is that of a run -/

def relayCapability : CapabilityAdapter (List String) where
  capabilityName := "relay"
  execute _ := fun prepared =>
    match prepared with
    | output :: rest => (.ok output, rest)
    | [] => (.error "nothing to relay", [])

def relayKernel (digest : CryptoService) : NoumenonCore (List String) :=
  stockKernel digest (fun _ => pure ()) (CapabilityRegistry.new.register relayCapability)

def relayStep : ExecutionStep where
  stepId := "s"
  capabilityRef := some "relay"
  input := ""

/-- Any number of calls of the relay. -/
def relayRequest (executionId : String) {count : Nat} (bound : count < 2 ^ 63) :
    TrustedExecutionRequest :=
  stockRequest executionId
    { steps := List.replicate count relayStep
      steps_lt := by rwa [length_replicate] }
    false

section Relay

variable (digest : CryptoService) (executionId : String) {count : Nat}

theorem relay_admissible (bound : count < 2 ^ 63) (prepared : List String) :
    Admissible (relayKernel digest) (relayRequest executionId bound) prepared where
  operation := (by decide : ¬("execute" = "replay_only" ∨ "execute" = "audit_only"))
  identity := rfl
  supplyChain := rfl
  rollout := rfl
  attestation _ := rfl
  tenant step membership capability named := by
    obtain rfl := eq_of_mem_replicate membership
    cases named
    rfl
  hardening step membership := by
    obtain rfl := eq_of_mem_replicate membership
    rfl

theorem executeRequest_relay {steps : List ExecutionStep} {request : SyscallRequest}
    {output : String} {rest : List String} {before : KernelRuntime (List String)}
    (found : (findStep steps request.stepId).isSome = true)
    (capability : request.capability = "relay") (prepared : before.env = output :: rest) :
    ∃ after, executeRequest (relayKernel digest).capabilities steps request before =
      (.ok (output, 1), after) ∧ after.env = rest := by
  obtain ⟨step, foundStep⟩ := Option.isSome_iff_exists.mp found
  rw [executeRequest, foundStep]
  dsimp only [CapabilityRegistry.executeSyscall]
  rw [capability, if_neg (by decide)]
  obtain ⟨env, routerCursor, trace⟩ := before
  cases prepared
  exact ⟨_, rfl, rfl⟩

theorem executeAll_relay {steps : List ExecutionStep} {requests : List SyscallRequest}
    {outputs : List String} {before : KernelRuntime (List String)}
    (found : ∀ request ∈ requests, (findStep steps request.stepId).isSome = true)
    (capability : ∀ request ∈ requests, request.capability = "relay")
    (enough : outputs.length = requests.length) (prepared : before.env = outputs) :
    ∃ responses after, executeAll
        (executeRequest (relayKernel digest).capabilities steps) requests before =
        (.ok responses, after) ∧ responses.map (·.output) = outputs := by
  induction requests generalizing outputs before with
  | nil => exact ⟨[], before, rfl, (length_eq_zero_iff.mp enough).symm⟩
  | cons request rest ih =>
    cases outputs with
    | nil => cases enough
    | cons output later =>
      obtain ⟨middle, executed, remaining⟩ := executeRequest_relay digest
        (found request (by simp)) (capability request (by simp)) prepared
      obtain ⟨responses, after, ranRest, relayed⟩ := ih
        (fun other membership => found other (by simp [membership]))
        (fun other membership => capability other (by simp [membership]))
        (Nat.succ.inj enough) remaining
      refine ⟨respond request (output, 1) :: responses, after, ?_, ?_⟩
      · rw [executeAll, Effect.bind_of_ok executed, Effect.bind_of_ok ranRest]
        rfl
      · rw [map_cons, relayed]
        rfl

theorem runPlan_relay (bound : count < 2 ^ 63) {before : KernelRuntime (List String)}
    (prepared : before.env.length = count) :
    ∃ outputs after, runPlan (relayKernel digest).capabilities
        (relayRequest executionId bound) before = (.ok outputs, after) ∧
      outputs.map (·.output) = before.env := by
  have isRelay : ∀ step ∈ (relayRequest executionId bound).plan.steps, step = relayStep :=
    fun _ membership => eq_of_mem_replicate membership
  have named : ∀ step ∈ (relayRequest executionId bound).plan.steps,
      step.capabilityRef.isSome = true := by
    intro step membership
    rw [isRelay step membership]
    rfl
  obtain ⟨requests, order, runs⟩ :=
    runPlan_of_executeAll (relayKernel digest).capabilities named
  have submitted : ∀ call ∈ requests, SubmittedFor relayStep call := by
    intro call membership
    obtain ⟨step, stepMem, submitted⟩ := exists_step_of_mem order membership
    rwa [isRelay step stepMem] at submitted
  have found : ∀ call ∈ requests,
      (findStep (relayRequest executionId bound).plan.steps call.stepId).isSome = true := by
    intro call membership
    obtain ⟨step, stepMem, submitted⟩ := exists_step_of_mem order membership
    exact find?_isSome.mpr ⟨step, stepMem, decide_eq_true submitted.stepId.symm⟩
  have relays : ∀ call ∈ requests, call.capability = "relay" := by
    intro call membership
    exact (Option.some.inj (submitted call membership).capability).symm
  have enough : before.env.length = requests.length := by
    rw [prepared, order.length_eq]
    exact (length_replicate ..).symm
  obtain ⟨responses, after, executed, relayed⟩ :=
    executeAll_relay digest found relays enough rfl
  refine ⟨_, after, runs executed, ?_⟩
  rw [map_map]
  exact relayed

theorem relay_completes (outputs : List String) (bound : outputs.length < 2 ^ 63) :
    ∃ run, ((relayKernel digest).execute (relayRequest executionId bound)
        (freshWorld outputs)).1 = .ok (completedRecord (relayKernel digest)
          (relayRequest executionId bound) run) ∧
      run.stepRecords.map (·.outputDigest) = outputs.map digest := by
  have routedNone : routedSteps (relayRequest executionId bound).plan.steps = 0 := by
    rw [routedSteps, countP_eq_zero]
    intro step membership
    rw [eq_of_mem_replicate membership]
    decide
  have unsaturated : Unsaturated (relayRequest executionId bound) (freshWorld outputs) := by
    have length : (relayRequest executionId bound).plan.steps.length = outputs.length :=
      length_replicate ..
    rw [Unsaturated, length]
    simp only [u64Max]
    have none : reservedFor (relayRequest executionId bound) (freshWorld outputs) = 0 := rfl
    omega
  obtain ⟨entered, passed, sameEnv⟩ := entry_accepts (freshWorld outputs)
    (relay_admissible digest executionId bound outputs) rfl rfl
  obtain ⟨entry, -⟩ := execute_of_entered passed
  obtain ⟨ran, runtime, planRan, relayed⟩ :=
    runPlan_relay digest executionId bound (congrArg List.length sameEnv)
  obtain ⟨requests, order, outputsOf, -⟩ := runPlan_ok planRan
  have accepting : AcceptsRecords InMemoryEvidenceLedger := fun _ _ => rfl
  obtain ⟨run, recorded, written⟩ := recordEvidence_run (relayKernel digest) accepting
    (outputs_found order outputsOf) (withRuntime entered runtime)
  have charged := charge_of_unrouted entry unsaturated routedNone planRan written
  refine ⟨run, execute_completes passed planRan written charged rfl fun _ => rfl, ?_⟩
  obtain ⟨_, _, steps, -⟩ := recordEvidence_ok written
  rw [stepsRecorded_outputDigests steps]
  calc ran.map (fun output => (relayKernel digest).crypto output.output)
      = (ran.map (·.output)).map digest := (map_map ..).symm
    _ = outputs.map digest := by rw [relayed, sameEnv]; rfl

end Relay

/-- Which evidence takes no completed record in: that whose text is not the chain
text of any plan, and that which carries digests only and is read with each step
once. -/
theorem tamperEvident_iff {digest : CryptoService} {size : Nat}
    (fixed : FixedLength digest size) {executionId : String} {events : List EvidenceRecord}
    (own : ∀ event ∈ events, event.executionId = executionId) :
    TamperEvident digest executionId events ↔
      (ReadsAsRun digest events →
        (∀ payload ∈ stepPayloads events, ∃ output, payload = digest output) ∧
          ReadsEachStepOnce events) := by
  refine ⟨?readable, tamperEvident_of_readsEachStepOnce fixed⟩
  rintro evident ⟨outputs, bound, sameText⟩
  by_cases empty : events = []
  · subst empty
    exact ⟨by simp [stepPayloads], List.Perm.refl _⟩
  · obtain ⟨run, succeeded, recorded⟩ :=
      relay_completes digest executionId outputs bound
    generalize shape : completedRecord (relayKernel digest)
      (relayRequest executionId bound) run = record at succeeded
    have digests : record.stepRecords.map (·.outputDigest) = outputs.map digest := by
      rw [← shape]
      exact recorded
    -- the ledger now holds the evidence in question instead of the one written
    let later : World (List String) InMemoryEvidenceLedger InMemoryBudgetLedger
        SimpleResourceGovernor := { freshWorld [] with evidence := ⟨events⟩ }
    have held : byExecution executionId later.evidence = events :=
      ofExecution_eq_self own
    have agree : readText events = recordedText record := by
      rw [sameText, recordedText, digests]
    have accepted : ∃ fingerprint, ((relayKernel digest).replayCheck record later).1 =
        .ok fingerprint :=
      (replayCheck_ok_iff shape.symm held).mpr ⟨empty, by rw [agree]⟩
    have completed : record.finalStatus = "Completed" := by
      rw [← shape]
      rfl
    have perm := evident (relayKernel digest) (relayRequest executionId bound)
      (freshWorld outputs) later record rfl rfl succeeded completed held
      ⟨fun _ => agree, fun _ => by rw [agree]⟩ accepted
    rw [digests] at perm
    have carriesDigests : ∀ payload ∈ stepPayloads events, ∃ output, payload = digest output := by
      intro payload membership
      obtain ⟨output, -, same⟩ := mem_map.mp (perm.mem_iff.mp membership)
      exact ⟨output, same.symm⟩
    refine ⟨carriesDigests, ?_⟩
    rw [ReadsEachStepOnce, stepPayloads_of_readText fixed carriesDigests sameText]
    exact perm.symm

/-! ## A forged step -/

/-- The low hexadecimal digits of a number, the lowest one first. -/
def lowHexDigits : Nat → Nat → List Char
  | 0, _ => []
  | count + 1, value => Nat.digitChar (value % 16) :: lowHexDigits count (value / 16)

/-- A digest of sixteen hexadecimal digits. -/
def checksum (text : String) : String :=
  String.ofList (lowHexDigits 16 (text.toUTF8.data.toList.foldl
      (fun sum byte => (sum * 1099511628211 + byte.toNat) % 2 ^ 64) 1469598103934665603))

theorem checksum_fixedLength : FixedLength checksum 16 where
  positive := by decide
  length_eq text := by
    rw [checksum, String.length_ofList]
    rfl

def checksumKernel : NoumenonCore Unit := readKernel checksum fun _ => pure ()

/-- The world after one call of `read`. -/
def readWorld : World Unit InMemoryEvidenceLedger InMemoryBudgetLedger SimpleResourceGovernor :=
  (checksumKernel.execute (readRequest "e" true) (freshWorld ())).2

/-- The evidence that an execution writes is read with each step once. -/
theorem readWorld_tamperEvident : TamperEvident checksum "e" readWorld.evidence.records := by
  refine (tamperEvident_iff checksum_fixedLength (by decide +kernel)).mpr fun _ => ⟨?_, ?_⟩
  · have payloads : stepPayloads readWorld.evidence.records = [checksum "echo:a"] := by
      decide +kernel
    rw [payloads]
    exact fun payload membership => ⟨"echo:a", mem_singleton.mp membership⟩
  · rw [ReadsEachStepOnce]
    decide +kernel

/-- Two more records: one that follows the last event and itself, and a step that
nobody executed, outside of the chain. -/
def forgedRecords : List EvidenceRecord :=
  let lastHash := (readWorld.evidence.records.getLast?.map (·.recordHash)).getD "genesis"
  [{ recordId := "e:loop", streamId := "evidence:e", executionId := "e", stepId := "loop",
     eventType := "EXECUTION_CONTEXT_BOUND", payloadDigest := checksum "loop",
     prevHash := lastHash, recordHash := lastHash, timestampMs := 0 },
    { recordId := "e:forged", streamId := "evidence:e", executionId := "e",
      stepId := "forged", eventType := "STEP_EXECUTED",
      payloadDigest := checksum "never returned", prevHash := checksum "nowhere",
      recordHash := checksum "nowhere", timestampMs := 0 }]

/-- The ledger of `readWorld` with the forged records appended. -/
def forgedWorld : World Unit InMemoryEvidenceLedger InMemoryBudgetLedger
    SimpleResourceGovernor :=
  { readWorld with evidence := ⟨readWorld.evidence.records ++ forgedRecords⟩ }

def digestedTexts : List String :=
  let request := readRequest "e" true
  let contextPayload := buildExecutionContextPayload request
  let contextHashed := recordHashPayload "e" "admission-context" "context"
    (checksum contextPayload) "genesis"
  let material := buildFingerprintMaterial request.closure request.supplyChain checksum
  [contextPayload, contextHashed, "a", "echo:a",
    recordHashPayload "e" "s" (checksum "a") (checksum "echo:a") (checksum contextHashed),
    Text.joinWith '|' material.canonicalStorePaths, checksum "echo:a",
    fingerprintPayload material (checksum (checksum "echo:a")),
    "loop", "never returned", "nowhere"]

/-- The replay passes the loop twice and accepts the record, although a step was
added that nobody executed. -/
theorem forgedStep_unnoticed :
    FixedLength checksum 16 ∧ (digestedTexts.map checksum).Nodup ∧
      ∃ record, (checksumKernel.execute (readRequest "e" true) (freshWorld ())).1 = .ok record ∧
        record.finalStatus = "Completed" ∧
        (checksumKernel.replayCheck record forgedWorld).1.isOk = true ∧
        ¬(stepPayloads (byExecution "e" forgedWorld.evidence)).Perm
          (record.stepRecords.map (·.outputDigest)) := by
  refine ⟨checksum_fixedLength, by decide +kernel, ?_⟩
  have facts : (checksumKernel.execute (readRequest "e" true) (freshWorld ())).1.map
      (fun record => (record.finalStatus,
        (checksumKernel.replayCheck record forgedWorld).1.isOk, record.stepRecords.length)) =
      .ok ("Completed", true, 1) := by
    decide +kernel
  have twoSteps :
      (stepPayloads (byExecution "e" forgedWorld.evidence)).length = 2 := by
    decide +kernel
  obtain ⟨record, succeeded, values⟩ := Check.map_eq_ok.mp facts
  simp only [Prod.mk.injEq] at values
  obtain ⟨completed, replayed, oneStep⟩ := values
  refine ⟨record, succeeded, completed, replayed, fun perm => ?_⟩
  have sameLength := perm.length_eq
  rw [twoSteps, length_map, oneStep] at sameLength
  cases sameLength

end AutoLoop.NoumenonCore
