import AutoLoop.NoumenonCore.Execution
import AutoLoop.NoumenonCore.Ledger.Budget
import AutoLoop.NoumenonCore.Replay
import AutoLoop.NoumenonCore.Resource.Governor
import AutoLoop.NoumenonCore.Resource.Hardening

/-!
# The world of the kernel

The runtime together with the two ledgers and the resource governor.  A
computation on one of the parts runs in the world through `onRuntime`,
`onEvidence`, `onBudget` or `onResources`, so what it leaves alone is visible in
its type.
-/

namespace AutoLoop.NoumenonCore

open KernelRuntime Effect

structure World (Env Evidence Budget Governor : Type) where
  runtime : KernelRuntime Env
  evidence : Evidence
  budget : Budget
  resources : Governor

variable {Env Evidence Budget Governor α : Type}

namespace World

def onRuntime (action : Effect (KernelRuntime Env) α) :
    Effect (World Env Evidence Budget Governor) α :=
  zoom (·.runtime) (fun runtime world => { world with runtime }) action

def onEvidence (action : Effect Evidence α) :
    Effect (World Env Evidence Budget Governor) α :=
  zoom (·.evidence) (fun evidence world => { world with evidence }) action

def onBudget (action : Effect Budget α) :
    Effect (World Env Evidence Budget Governor) α :=
  zoom (·.budget) (fun budget world => { world with budget }) action

def onResources (action : Effect Governor α) :
    Effect (World Env Evidence Budget Governor) α :=
  zoom (·.resources) (fun resources world => { world with resources }) action

/-- Run code behind a trait object that is neither a ledger nor the governor. -/
def onEnv (action : Effect Env α) : Effect (World Env Evidence Budget Governor) α :=
  onRuntime (KernelRuntime.onEnv action)

def log (event : Event) : Effect (World Env Evidence Budget Governor) Unit :=
  onRuntime (KernelRuntime.log event)

/-- The world after an event was written to the trace. -/
def logged (event : Event) (world : World Env Evidence Budget Governor) :
    World Env Evidence Budget Governor :=
  (log event world).2

section
variable (event : Event) (world : World Env Evidence Budget Governor)

theorem log_apply :
    log event world = (.ok (), logged event world) := rfl

theorem saw_logged :
    Saw [event] world.runtime (logged event world).runtime := rfl

end

def withResources (world : World Env Evidence Budget Governor) (resources : Governor) :
    World Env Evidence Budget Governor :=
  { world with resources }

def newEvents (before after : World Env Evidence Budget Governor) : List Event :=
  after.runtime.trace.drop before.runtime.trace.length

theorem newEvents_of_saw {before after : World Env Evidence Budget Governor}
    {events : List Event} (saw : Saw events before.runtime after.runtime) :
    newEvents before after = events := by
  rw [newEvents, saw, List.drop_left]

/-! ## Frames -/

/-- Only the runtime has changed, and what the trace gained satisfies the
property. -/
structure OnlyRuntime (property : Event → Prop)
    (before after : World Env Evidence Budget Governor) : Prop where
  trace : Only property before.runtime after.runtime
  evidence : after.evidence = before.evidence
  budget : after.budget = before.budget
  resources : after.resources = before.resources

namespace OnlyRuntime

variable {property weaker : Event → Prop}

theorem refl (world : World Env Evidence Budget Governor) :
    OnlyRuntime property world world :=
  ⟨KernelRuntime.Only.refl _, rfl, rfl, rfl⟩

theorem trans (before middle after : World Env Evidence Budget Governor)
    (earlier : OnlyRuntime property before middle)
    (later : OnlyRuntime property middle after) : OnlyRuntime property before after :=
  ⟨KernelRuntime.Only.trans _ _ _ earlier.trace later.trace,
    later.evidence.trans earlier.evidence, later.budget.trans earlier.budget,
    later.resources.trans earlier.resources⟩

theorem onRuntime {action : Effect (KernelRuntime Env) α} (kept : Keeps (Only property) action) :
    Keeps (OnlyRuntime property)
      (World.onRuntime action : Effect (World Env Evidence Budget Governor) α) :=
  fun world => ⟨kept world.runtime, rfl, rfl, rfl⟩

end OnlyRuntime

/-- Only the runtime and the evidence ledger have changed, and the trace gained
nothing but appends. -/
structure OnlyRecords (before after : World Env Evidence Budget Governor) : Prop where
  trace : Only (·.isAppend) before.runtime after.runtime
  budget : after.budget = before.budget
  resources : after.resources = before.resources

namespace OnlyRecords

theorem refl (world : World Env Evidence Budget Governor) : OnlyRecords world world :=
  ⟨KernelRuntime.Only.refl _, rfl, rfl⟩

theorem trans (before middle after : World Env Evidence Budget Governor)
    (earlier : OnlyRecords before middle) (later : OnlyRecords middle after) :
    OnlyRecords before after :=
  ⟨KernelRuntime.Only.trans _ _ _ earlier.trace later.trace,
    later.budget.trans earlier.budget, later.resources.trans earlier.resources⟩

end OnlyRecords

/-- Exactly these records were handed to the evidence ledger, which accepted them;
a lawful ledger then holds them. -/
structure Recorded [EvidenceLedger Evidence] (events : List EvidenceRecord)
    (before after : World Env Evidence Budget Governor) : Prop where
  saw : Saw (events.map .appended) before.runtime after.runtime
  appended : LawfulEvidenceLedger Evidence → Appended events before.evidence after.evidence
  budget : after.budget = before.budget
  resources : after.resources = before.resources

namespace Recorded

variable [EvidenceLedger Evidence] {first second : List EvidenceRecord}
variable {before middle after : World Env Evidence Budget Governor}

theorem refl (world : World Env Evidence Budget Governor) : Recorded [] world world :=
  ⟨KernelRuntime.Saw.refl _, fun _ => Appended.refl _, rfl, rfl⟩

theorem trans (earlier : Recorded first before middle) (later : Recorded second middle after) :
    Recorded (first ++ second) before after := by
  refine ⟨?saw, fun lawful => (earlier.appended lawful).trans (later.appended lawful),
    later.budget.trans earlier.budget, later.resources.trans earlier.resources⟩
  rw [List.map_append]
  exact earlier.saw.trans later.saw

end Recorded

end World

end AutoLoop.NoumenonCore

/-!
## The mandatory state machine

Statuses of an execution and the transitions between them.  A machine can only
be built by `new` and `transit`, so every reachable machine has followed allowed
transitions from `PendingAdmission`.
-/

namespace AutoLoop.NoumenonCore

inductive ExecutionStatus where
  | pendingAdmission
  | admitted
  | enforcing
  | executing
  | recordingEvidence
  | verifying
  | rejected
  | failed
  | rolledBack
  | completed
  deriving DecidableEq, Repr

/-- `{:?}` of a status. -/
def ExecutionStatus.debug : ExecutionStatus → String
  | .pendingAdmission => "PendingAdmission"
  | .admitted => "Admitted"
  | .enforcing => "Enforcing"
  | .executing => "Executing"
  | .recordingEvidence => "RecordingEvidence"
  | .verifying => "Verifying"
  | .rejected => "Rejected"
  | .failed => "Failed"
  | .rolledBack => "RolledBack"
  | .completed => "Completed"

structure StateMachine where
  state : ExecutionStatus
  deriving DecidableEq, Repr

namespace StateMachine

def new : StateMachine := ⟨.pendingAdmission⟩

def canTransition : ExecutionStatus → ExecutionStatus → Bool
  | .pendingAdmission, .admitted
  | .pendingAdmission, .rejected
  | .admitted, .enforcing
  | .enforcing, .executing
  | .enforcing, .rejected
  | .executing, .recordingEvidence
  | .executing, .failed
  | .recordingEvidence, .verifying
  | .recordingEvidence, .failed
  | .verifying, .completed
  | .verifying, .failed
  | .failed, .rolledBack => true
  | _, _ => false

section
variable (machine : StateMachine)

def transit (next : ExecutionStatus) :
    Except String StateMachine :=
  if canTransition machine.state next then
    .ok ⟨next⟩
  else
    .error ("invalid state transition: " ++ machine.state.debug ++ " -> " ++ next.debug)

def isTerminal : Bool :=
  match machine.state with
  | .completed | .rejected | .failed | .rolledBack => true
  | _ => false

def allowsSideEffect : Bool :=
  machine.state = .executing

def allowsLedgerWrite : Bool :=
  machine.state = .recordingEvidence

end

@[simp] theorem transit_of_allowed {machine : StateMachine} {next : ExecutionStatus}
    (allowed : canTransition machine.state next = true) :
    machine.transit next = .ok ⟨next⟩ := by
  rw [transit, if_pos allowed]

end StateMachine

end AutoLoop.NoumenonCore

/-!
## The trust kernel

`NoumenonCore::execute` and `NoumenonCore::replay_check`.  The pluggable
authorities are arbitrary effectful functions on an environment, the clock and
the probing of the host machine included; the ledgers and the governor are given
through their traits.  The stages of `execute` are functions of their own, in the
order of the source.
-/

namespace AutoLoop

open NoumenonCore Text Effect

/-- The authorities and services behind a kernel. -/
structure NoumenonCore (Env : Type) where
  identityAuthority : IdentityContext → Effect Env Unit
  tenantAuthority : IdentityContext → String → Effect Env Unit
  attestationVerifier : Effect Env Unit
  supplyChainVerifier : TrustedExecutionRequest → Effect Env Unit
  crypto : CryptoService
  resultValidator : ExecutionRecord → Effect Env Unit
  learningGate : ExecutionRecord → Effect Env Unit
  recovery : ExecutionRecord → Effect Env Unit
  rolloutGate : TrustedExecutionRequest → Effect Env Unit
  replayExplainer : ExecutionRecord → String → Env → String × Env
  capabilities : CapabilityRegistry Env
  host : Env → Host
  nowMs : Env → U128 × Env

namespace NoumenonCore

open World

variable {Env Evidence Budget Governor α : Type}

/-! ## Texts -/

section
variable (request : TrustedExecutionRequest)

def budgetAccountId : String :=
  "budget:" ++ request.identity.tenantId

def evidenceStreamId : String :=
  "evidence:" ++ request.executionId

def evidenceId (stepId : String) : String :=
  request.executionId ++ ":" ++ stepId

end

def recordHashPayload (executionId stepId inputDigest outputDigest prevHash : String) :
    String :=
  joinWith ':' [executionId, stepId, inputDigest, outputDigest, prevHash]

/-- `Vec::dedup`: of equal neighbours only the first is kept. -/
def dedup : List String → List String
  | [] => []
  | [only] => [only]
  | first :: second :: rest =>
    if first = second then dedup (second :: rest) else first :: dedup (second :: rest)

/-- `{}` of a flag. -/
def displayBool (flag : Bool) : String := if flag then "true" else "false"

/-- A step's entry in the hardening part of the context. -/
def hardeningEntry (step : ExecutionStep) : String :=
  joinWith ':'
    [step.stepId, step.capabilityRef.getD "<missing-capability>", step.runtimeIsland.debug,
      step.hardening.hardeningProfile.getD "<none>",
      step.hardening.seccompProfileRef.getD "<none>",
      step.hardening.syscallPolicyRef.getD "<none>",
      displayBool step.hardening.enforceNamespaceIsolation,
      displayBool step.hardening.enforceCgroupIsolation,
      displayBool step.hardening.enforceFsIsolation,
      displayBool step.hardening.enforceNetworkIsolation]

def buildExecutionContextPayload (request : TrustedExecutionRequest) : String :=
  let storePaths := request.closure.storePaths.insertionSort (· ≤ ·)
  let capabilitySet :=
    dedup ((request.plan.steps.filterMap (·.capabilityRef)).insertionSort (· ≤ ·))
  let hardeningView := (request.plan.steps.map hardeningEntry).insertionSort (· ≤ ·)
  joinWith '|'
    ["exec_id=" ++ request.executionId, "tenant=" ++ request.identity.tenantId,
      "principal=" ++ request.identity.principal,
      "operation=" ++ request.intent.operation,
      "policy=" ++ request.supplyChain.policyBundleDigest,
      "executor=" ++ request.supplyChain.executorDigest,
      "verifier=" ++ request.supplyChain.verifierDigest,
      "wasm_plugin=" ++ request.supplyChain.capabilityPackageDigest,
      "provenance=" ++ request.supplyChain.provenanceDigest,
      "rekor_ref=" ++ request.supplyChain.rekorLogRef,
      "rekor_proof=" ++ request.supplyChain.rekorInclusionProof,
      "flake_lock=" ++ request.closure.flakeLockDigest,
      "drv=" ++ request.closure.derivationDigest,
      "closure=" ++ request.closure.runtimeClosureHash,
      "config=" ++ request.closure.configDigest,
      "generation=" ++ request.closure.generationId,
      "profile=" ++ request.closure.profileId,
      "store_paths=" ++ joinWith ',' storePaths,
      "capability_set=" ++ joinWith ',' capabilitySet,
      "hardening=" ++ joinWith ';' hardeningView]

def emptyRecord (request : TrustedExecutionRequest) (status : String) : ExecutionRecord where
  executionId := request.executionId
  finalStatus := status
  finalOutput := none
  stepRecords := []
  evidenceBundle :=
    { evidenceRecordIds := []
      executionFingerprint := ""
      fingerprintMaterial := {}
      mismatchExplanation := none }
  ledgerRefs :=
    { budgetAccountId := budgetAccountId request
      evidenceStreamId := evidenceStreamId request }

/-! ## Gates -/

inductive TrustLevel where
  | soft
  | hard
  deriving DecidableEq, Repr

/-- `sm.transit(…)?`. -/
def transit (machine : StateMachine) (next : ExecutionStatus) :
    Effect (World Env Evidence Budget Governor) StateMachine :=
  ofExcept (machine.transit next)

section
variable (machine : StateMachine)

/-- Leave `execute` with a rejection. -/
def reject (message : String) :
    Effect (World Env Evidence Budget Governor) α := do
  let _ ← transit machine .rejected
  fail message

/-- A gate: reject the execution when its check fails. -/
def guarded (gate : Gate)
    (check : Effect (World Env Evidence Budget Governor) Unit)
    (refusal : String → String) : Effect (World Env Evidence Budget Governor) Unit := do
  match ← attempt check with
  | .ok () => log (.accepted gate)
  | .error message => do
      log (.refused gate)
      reject machine (refusal message)

def guardOperation (request : TrustedExecutionRequest) :
    Effect (World Env Evidence Budget Governor) Unit :=
  if request.intent.operation = "replay_only" ∨ request.intent.operation = "audit_only" then
    reject machine
      "execution rejected: operation mode is outside mandatory kernel path"
  else
    pure ()

end

def trustLevel (spec : VerificationSpec) : TrustLevel :=
  if eqIgnoreAsciiCase spec.trustLevel "hard" then .hard else .soft

/-- The environment must be attested before this execution. -/
def needsAttestation (request : TrustedExecutionRequest) : Prop :=
  request.verificationSpec.verifyEnvironment = true ∧
    trustLevel request.verificationSpec = .hard

instance (request : TrustedExecutionRequest) : Decidable (needsAttestation request) :=
  inferInstanceAs (Decidable (_ ∧ _))

section
variable (core : NoumenonCore Env) (machine : StateMachine) (request : TrustedExecutionRequest)

def attest : Effect (World Env Evidence Budget Governor) Unit :=
  if needsAttestation request then
    guarded machine .attestation (onEnv core.attestationVerifier)
      ("execution rejected by attestation verifier: " ++ ·)
  else
    pure ()

def authorizeStep (step : ExecutionStep) :
    Effect (World Env Evidence Budget Governor) Unit :=
  match step.capabilityRef with
  | some capability =>
    guarded machine (.tenant capability)
      (onEnv (core.tenantAuthority request.identity capability))
      ("execution rejected by tenant authority: " ++ ·)
  | none => pure ()

end

/-- `enforce_runtime_island_hardening` on the machine the kernel runs on. -/
def hardeningCheck (core : NoumenonCore Env) (request : TrustedExecutionRequest)
    (step : ExecutionStep) : Effect Env Unit := fun env =>
  (enforceRuntimeIslandHardening (core.host env) step request.constraints, env)

def enforceSteps (core : NoumenonCore Env) (machine : StateMachine)
    (request : TrustedExecutionRequest) :
    List ExecutionStep → Effect (World Env Evidence Budget Governor) Unit
  | [] => pure ()
  | step :: rest => do
      authorizeStep core machine request step
      guarded machine (.hardening step.stepId) (onEnv (hardeningCheck core request step))
        ("execution rejected by runtime hardening gate: " ++ ·)
      enforceSteps core machine request rest

/-- Everything up to the resource reservation. -/
def admission (core : NoumenonCore Env) (request : TrustedExecutionRequest) :
    Effect (World Env Evidence Budget Governor) StateMachine := do
  let machine := StateMachine.new
  guardOperation machine request
  guarded machine .identity (onEnv (core.identityAuthority request.identity))
    ("execution rejected by identity authority: " ++ ·)
  guarded machine .supplyChain (onEnv (core.supplyChainVerifier request))
    ("execution rejected by supply-chain verifier: " ++ ·)
  guarded machine .rollout (onEnv (core.rolloutGate request))
    ("execution rejected by rollout gate: " ++ ·)
  let machine ← transit machine .admitted
  let machine ← transit machine .enforcing
  attest core machine request
  enforceSteps core machine request request.plan.steps
  pure machine

/-- Hold a `ResourceReservation` while the body runs.  It is dropped however the
body ends. -/
def withReservation [ResourceGovernor Governor] (machine : StateMachine)
    (requirement : ResourceRequirement) (body : Effect (World Env Evidence Budget Governor) α) :
    Effect (World Env Evidence Budget Governor) α := do
  guarded machine .resource (onResources (ResourceGovernor.reserve requirement))
    (fun _ => "execution rejected by resource governor")
  let result ← attempt body
  onResources (Effect.modify (ResourceGovernor.release requirement))
  ofExcept result

def reserveBudget [BudgetLedger Budget] (machine : StateMachine)
    (request : TrustedExecutionRequest) : Effect (World Env Evidence Budget Governor) Unit :=
  guarded machine .budget
    (onBudget (BudgetLedger.reserve (budgetAccountId request) request.identity.tenantId
      (UInt64.ofNat request.plan.steps.length)))
    ("execution rejected by budget ledger reservation: " ++ ·)

/-! ## Evidence -/

def now (core : NoumenonCore Env) : Effect (World Env Evidence Budget Governor) U128 :=
  onEnv fun env => (.ok (core.nowMs env).1, (core.nowMs env).2)

def appendEvidence [EvidenceLedger Evidence] (record : EvidenceRecord) :
    Effect (World Env Evidence Budget Governor) Unit := do
  log (.appended record)
  onEvidence (EvidenceLedger.append record)

section
variable (core : NoumenonCore Env) (request : TrustedExecutionRequest)

def contextEvidence (timestampMs : U128) : EvidenceRecord :=
  let payloadDigest := core.crypto (buildExecutionContextPayload request)
  { recordId := evidenceId request "admission-context"
    streamId := evidenceStreamId request
    executionId := request.executionId
    stepId := "admission-context"
    eventType := "EXECUTION_CONTEXT_BOUND"
    payloadDigest := payloadDigest
    prevHash := "genesis"
    recordHash := core.crypto (recordHashPayload request.executionId "admission-context"
      "context" payloadDigest "genesis")
    timestampMs := timestampMs }

/-- The event of an output that is attributed to a step. -/
def stepEvidence (step : ExecutionStep) (output : StepExecutionOutput) (prevHash : String)
    (timestampMs : U128) : EvidenceRecord :=
  let inputDigest := core.crypto step.input
  let outputDigest := core.crypto output.output
  { recordId := evidenceId request output.stepId
    streamId := evidenceStreamId request
    executionId := request.executionId
    stepId := output.stepId
    eventType := "STEP_EXECUTED"
    payloadDigest := outputDigest
    prevHash := prevHash
    recordHash := core.crypto (recordHashPayload request.executionId output.stepId
      inputDigest outputDigest prevHash)
    timestampMs := timestampMs }

end

def stepRecord (core : NoumenonCore Env) (step : ExecutionStep)
    (output : StepExecutionOutput) (timestampMs : U128) : StepRecord where
  stepId := output.stepId
  capabilityRef := step.capabilityRef
  inputDigest := core.crypto step.input
  outputDigest := core.crypto output.output
  success := true
  error := none
  costUnits := output.costUnits
  timestampMs := timestampMs

def recordContext [EvidenceLedger Evidence] (core : NoumenonCore Env)
    (request : TrustedExecutionRequest) :
    Effect (World Env Evidence Budget Governor) EvidenceRecord := do
  let timestampMs ← now core
  let event := contextEvidence core request timestampMs
  appendEvidence event
  pure event

def recordSteps [EvidenceLedger Evidence] (core : NoumenonCore Env)
    (request : TrustedExecutionRequest) :
    String → List StepExecutionOutput →
      Effect (World Env Evidence Budget Governor) (List (String × StepRecord))
  | _, [] => pure []
  | prevHash, output :: rest =>
    match KernelExecutor.findStep request.plan.steps output.stepId with
    | none => fail "step not found during record build"
    | some step => do
        let timestampMs ← now core
        let event := stepEvidence core request step output prevHash timestampMs
        appendEvidence event
        let recordedAt ← now core
        let later ← recordSteps core request event.recordHash rest
        pure ((event.recordId, stepRecord core step output recordedAt) :: later)

/-- What the evidence phase hands on. -/
structure RecordedRun where
  evidenceIds : List String
  stepRecords : List StepRecord
  deriving DecidableEq, Repr

def recordEvidence [EvidenceLedger Evidence] (core : NoumenonCore Env)
    (request : TrustedExecutionRequest) (outputs : List StepExecutionOutput) :
    Effect (World Env Evidence Budget Governor) RecordedRun := do
  let context ← recordContext core request
  let recorded ← recordSteps core request context.recordHash outputs
  pure
    { evidenceIds := context.recordId :: recorded.map (·.1)
      stepRecords := recorded.map (·.2) }

/-! ## Execution -/

def totalCost (stepRecords : List StepRecord) : UInt64 :=
  (stepRecords.map (·.costUnits)).sum

def completedRecord (core : NoumenonCore Env) (request : TrustedExecutionRequest)
    (run : RecordedRun) : ExecutionRecord :=
  let fingerprintMaterial :=
    buildFingerprintMaterial request.closure request.supplyChain core.crypto
  let outputChainDigest := outputChainDigestFromStepRecords run.stepRecords core.crypto
  { executionId := request.executionId
    finalStatus := "Completed"
    finalOutput := run.stepRecords.getLast?.map fun last =>
      "output_digest:" ++ last.outputDigest
    stepRecords := run.stepRecords
    evidenceBundle :=
      { evidenceRecordIds := run.evidenceIds
        executionFingerprint :=
          computeExecutionFingerprint fingerprintMaterial outputChainDigest core.crypto
        fingerprintMaterial := fingerprintMaterial
        mismatchExplanation := none }
    ledgerRefs :=
      { budgetAccountId := budgetAccountId request
        evidenceStreamId := evidenceStreamId request } }

/-- The exit of an execution whose plan failed. -/
def abort (core : NoumenonCore Env) (machine : StateMachine)
    (request : TrustedExecutionRequest) (message : String) :
    Effect (World Env Evidence Budget Governor) ExecutionRecord := do
  let machine ← transit machine .failed
  let record := { emptyRecord request "Failed" with finalOutput := some message }
  onEnv (core.recovery record)
  let _ ← transit machine .rolledBack
  pure { record with finalStatus := "RolledBack" }

def rolledBackRecord (record : ExecutionRecord) (message : String) : ExecutionRecord :=
  { record with
    finalStatus := "RolledBack"
    evidenceBundle :=
      { record.evidenceBundle with mismatchExplanation := some message } }

section
variable (core : NoumenonCore Env)

/-- The exit of an execution that a validator or the learning gate refused. -/
def rollBack (machine : StateMachine) (record : ExecutionRecord)
    (message : String) : Effect (World Env Evidence Budget Governor) ExecutionRecord := do
  let machine ← transit machine .failed
  let record := rolledBackRecord record message
  onEnv (core.recovery record)
  let _ ← transit machine .rolledBack
  pure record

def validate (request : TrustedExecutionRequest)
    (record : ExecutionRecord) :
    Effect (World Env Evidence Budget Governor) (Except String Unit) :=
  if request.verificationSpec.validateOutput then do
    let result ← attempt (onEnv (core.resultValidator record))
    log (.validated record result)
    pure result
  else
    pure (.ok ())

def allowLearning (machine : StateMachine) (record : ExecutionRecord) :
    Effect (World Env Evidence Budget Governor) ExecutionRecord := do
  match ← attempt (onEnv (core.learningGate record)) with
  | .error message => rollBack core machine record message
  | .ok () => do
      let _ ← transit machine .completed
      pure record

def verify (machine : StateMachine)
    (request : TrustedExecutionRequest) (record : ExecutionRecord) :
    Effect (World Env Evidence Budget Governor) ExecutionRecord := do
  let machine ← transit machine .verifying
  match ← validate core request record with
  | .error message => rollBack core machine record message
  | .ok () => allowLearning core machine record

end

section Execute

variable [EvidenceLedger Evidence] [BudgetLedger Budget] [ResourceGovernor Governor]

section
variable (core : NoumenonCore Env)

/-- Everything after a successful run of the plan. -/
def settle (machine : StateMachine)
    (request : TrustedExecutionRequest) (outputs : List StepExecutionOutput) :
    Effect (World Env Evidence Budget Governor) ExecutionRecord := do
  let machine ← transit machine .recordingEvidence
  let run ← recordEvidence core request outputs
  onBudget (BudgetLedger.consume (budgetAccountId request) (totalCost run.stepRecords))
  verify core machine request (completedRecord core request run)

/-- Everything after the budget reservation. -/
def perform (machine : StateMachine) (request : TrustedExecutionRequest) :
    Effect (World Env Evidence Budget Governor) ExecutionRecord := do
  let machine ← transit machine .executing
  match ← attempt (onRuntime (KernelExecutor.runPlan core.capabilities request)) with
  | .error message => abort core machine request message
  | .ok outputs => settle core machine request outputs

def execute (request : TrustedExecutionRequest) :
    Effect (World Env Evidence Budget Governor) ExecutionRecord := do
  let machine ← admission core request
  withReservation machine (.fromConstraints request.constraints) do
    reserveBudget machine request
    perform core machine request

def replayCheck (record : ExecutionRecord) :
    Effect (World Env Evidence Budget Governor) String := fun world =>
  let events := EvidenceLedger.byExecution record.executionId world.evidence
  if events.isEmpty then
    (.error "no evidence records for execution", world)
  else
    let outputChainDigest := outputChainDigestFromEvidence events core.crypto
    let replay := computeExecutionFingerprint record.evidenceBundle.fingerprintMaterial
      outputChainDigest core.crypto
    if replay = record.evidenceBundle.executionFingerprint then
      (.ok replay, world)
    else
      let explained := core.replayExplainer record replay world.runtime.env
      (.error explained.1, { world with runtime := { world.runtime with env := explained.2 } })

def kernelComponent (initial : World Env Evidence Budget Governor) :
    Component (World Env Evidence Budget Governor) TrustedExecutionRequest
      (Except String ExecutionRecord) where
  initial := initial
  step world request := core.execute request world

end

end Execute

end NoumenonCore

end AutoLoop
