import AutoLoop.NoumenonCore.Kernel.BudgetConservation

/-!
# When an execution completes

Conditions under which each stage of `execute` succeeds, from the gates to the
verification, and from them the completion of the whole execution.
-/

namespace AutoLoop.NoumenonCore

open World KernelExecutor Effect Effect

variable {Env Evidence Budget Governor : Type}
variable {core : NoumenonCore Env} {request : TrustedExecutionRequest}

/-! ## Gates that accept -/

/-- The environment of the authorities is in this state. -/
def InEnv (env : Env) (world : World Env Evidence Budget Governor) : Prop :=
  world.runtime.env = env

/-- Every authority that an execution has to ask accepts it in this environment
and leaves it alone. -/
structure Admissible (core : NoumenonCore Env) (request : TrustedExecutionRequest)
    (env : Env) : Prop where
  operation : ¬(request.intent.operation = "replay_only" ∨ request.intent.operation = "audit_only")
  identity : core.identityAuthority request.identity env = (.ok (), env)
  supplyChain : core.supplyChainVerifier request env = (.ok (), env)
  rollout : core.rolloutGate request env = (.ok (), env)
  attestation : needsAttestation request → core.attestationVerifier env = (.ok (), env)
  tenant : ∀ step ∈ request.plan.steps, ∀ capability, step.capabilityRef = some capability →
    core.tenantAuthority request.identity capability env = (.ok (), env)
  hardening : ∀ step ∈ request.plan.steps,
    enforceRuntimeIslandHardening (core.host env) step request.constraints = .ok ()

section
variable {machine : StateMachine}

theorem guarded_maintains {gate : Gate} {check : Effect Env Unit}
    {refusal : String → String} {env : Env} (passes : check env = (.ok (), env)) :
    Maintains (InEnv env) (guarded machine gate (onEnv check) refusal :
      Effect (World Env Evidence Budget Governor) Unit) := by
  rintro before rfl
  have asked : onEnv check before = (.ok (), before) := by
    rw [World.onEnv, onRuntime, KernelRuntime.onEnv, zoom_apply, zoom_apply, passes]
  rw [guarded_of_ok asked]
  rfl

theorem authorizeStep_maintains {step : ExecutionStep} {env : Env}
    (granted : ∀ capability, step.capabilityRef = some capability →
      core.tenantAuthority request.identity capability env = (.ok (), env)) :
    Maintains (InEnv env) (core.authorizeStep machine request step :
      Effect (World Env Evidence Budget Governor) Unit) := by
  rw [authorizeStep]
  cases named : step.capabilityRef with
  | none => exact Effect.Maintains.pure ()
  | some capability => exact guarded_maintains (granted capability named)

theorem enforceSteps_maintains {env : Env}
    {steps : List ExecutionStep}
    (granted : ∀ step ∈ steps, ∀ capability, step.capabilityRef = some capability →
      core.tenantAuthority request.identity capability env = (.ok (), env))
    (hardened : ∀ step ∈ steps,
      enforceRuntimeIslandHardening (core.host env) step request.constraints = .ok ()) :
    Maintains (InEnv env) (core.enforceSteps machine request steps :
      Effect (World Env Evidence Budget Governor) Unit) := by
  induction steps with
  | nil => exact Effect.Maintains.pure ()
  | cons step rest ih =>
    have enforced : core.hardeningCheck request step env = (.ok (), env) := by
      rw [hardeningCheck, hardened step (by simp)]
    refine Effect.Maintains.bind (authorizeStep_maintains (granted step (by simp))) ?_
    intro _
    apply Effect.Maintains.bind (guarded_maintains enforced)
    intro _
    apply ih
    · exact fun other membership => granted other (by simp [membership])
    · exact fun other membership => hardened other (by simp [membership])

theorem attest_maintains {env : Env}
    (attested : needsAttestation request → core.attestationVerifier env = (.ok (), env)) :
    Maintains (InEnv env) (core.attest machine request :
      Effect (World Env Evidence Budget Governor) Unit) := by
  rw [attest]
  split
  · next needed => exact guarded_maintains (attested needed)
  · exact Effect.Maintains.pure ()

end

theorem admission_maintains {env : Env} (admissible : Admissible core request env) :
    Maintains (InEnv env) (core.admission request :
      Effect (World Env Evidence Budget Governor) StateMachine) := by
  have allowed : (guardOperation StateMachine.new request :
      Effect (World Env Evidence Budget Governor) Unit) = pure () :=
    if_neg admissible.operation
  rw [admission]
  refine Effect.Maintains.bind ?operation fun _ => ?_
  case operation =>
    rw [allowed]
    exact Effect.Maintains.pure ()
  apply Effect.Maintains.bind (guarded_maintains admissible.identity)
  intro _
  apply Effect.Maintains.bind (guarded_maintains admissible.supplyChain)
  intro _
  apply Effect.Maintains.bind (guarded_maintains admissible.rollout)
  intro _
  rw [transit_bind rfl, transit_bind rfl]
  apply Effect.Maintains.bind (attest_maintains admissible.attestation)
  intro _
  refine Effect.Maintains.bind ?steps fun _ => Effect.Maintains.pure _
  exact enforceSteps_maintains admissible.tenant admissible.hardening

section Entry

variable [BudgetLedger Budget] [ResourceGovernor Governor]

/-- An admissible execution for which both reservations succeed gets past its
gates. -/
theorem entry_accepts (before : World Env Evidence Budget Governor)
    (admissible : Admissible core request before.runtime.env)
    (fits : (ResourceGovernor.reserve (requirementOf request) before.resources).1 = .ok ())
    (books : (bookBudget request before.budget).1 = .ok ()) :
    ∃ entered, core.entry request before = (.ok (), entered) ∧
      entered.runtime.env = before.runtime.env := by
  have inEnv : InEnv before.runtime.env before := rfl
  obtain ⟨machine, middle, admitted, sameEnv⟩ :=
    (admission_maintains admissible).exists_run inEnv
  have passed := admission_gated core request before
  rw [admitted] at passed
  obtain rfl := admission_machine admitted
  obtain ⟨held, reserved⟩ := exists_run fits
  obtain ⟨budget, booked⟩ := exists_run books
  rw [← passed.resources] at reserved
  rw [← passed.budget] at booked
  refine ⟨logged (.accepted .budget)
    { logged (.accepted .resource) (withResources middle held) with budget }, ?entered, sameEnv⟩
  rw [entry, bind_of_ok admitted, bind_of_ok (resourceGate_of_held reserved)]
  exact budgetGate_of_booked (logged (.accepted .resource) (withResources middle held)) booked

end Entry

/-! ## Evidence that is written -/

theorem now_maintains (core : NoumenonCore Env) :
    Maintains (fun _ : World Env Evidence Budget Governor => True) (now core) :=
  fun _ _ => trivial

section Evidence

variable [EvidenceLedger Evidence]

def AcceptsRecords (Evidence : Type) [EvidenceLedger Evidence] : Prop :=
  ∀ (record : EvidenceRecord) (ledger : Evidence), (EvidenceLedger.append record ledger).1 =
    .ok ()

theorem appendEvidence_maintains (accepting : AcceptsRecords Evidence) (event : EvidenceRecord) :
    Maintains (fun _ : World Env Evidence Budget Governor => True)
      (appendEvidence event) := by
  intro before _
  obtain ⟨ledger, stored⟩ := exists_run (accepting event before.evidence)
  have appended : onEvidence (EvidenceLedger.append event) (logged (.appended event) before) =
      (.ok (), { logged (.appended event) before with evidence := ledger }) := by
    rw [onEvidence, zoom_apply]
    rw [show (logged (.appended event) before).evidence = before.evidence from rfl, stored]
  rw [appendEvidence, bind_of_ok (log_apply _ _), appended]
  trivial

theorem recordSteps_maintains (accepting : AcceptsRecords Evidence)
    {outputs : List StepExecutionOutput}
    (found : ∀ output ∈ outputs, (findStep request.plan.steps output.stepId).isSome = true)
    (prevHash : String) :
    Maintains (fun _ : World Env Evidence Budget Governor => True)
      (core.recordSteps request prevHash outputs) := by
  induction outputs generalizing prevHash with
  | nil => exact Effect.Maintains.pure []
  | cons output rest ih =>
    obtain ⟨step, foundStep⟩ := Option.isSome_iff_exists.mp (found output (by simp))
    rw [recordSteps, foundStep]
    apply Effect.Maintains.bind (now_maintains core)
    intro _
    apply Effect.Maintains.bind (appendEvidence_maintains accepting _)
    intro _
    apply Effect.Maintains.bind (now_maintains core)
    intro _
    refine Effect.Maintains.bind ?_ fun _ => Effect.Maintains.pure _
    exact ih (fun other membership => found other (by simp [membership])) _

theorem recordEvidence_run (core : NoumenonCore Env) (accepting : AcceptsRecords Evidence)
    {outputs : List StepExecutionOutput}
    (found : ∀ output ∈ outputs, (findStep request.plan.steps output.stepId).isSome = true)
    (before : World Env Evidence Budget Governor) :
    ∃ run after, core.recordEvidence request outputs before = (.ok run, after) := by
  have maintained : Maintains (fun _ : World Env Evidence Budget Governor => True)
      (core.recordEvidence request outputs) := by
    refine Effect.Maintains.bind ?context fun _ => ?steps
    case context =>
      apply Effect.Maintains.bind (now_maintains core)
      intro _
      apply Effect.Maintains.bind (appendEvidence_maintains accepting _)
      intro _
      exact Effect.Maintains.pure _
    case steps =>
      apply Effect.Maintains.bind (recordSteps_maintains accepting found _)
      intro _
      exact Effect.Maintains.pure _
  obtain ⟨run, after, written, -⟩ := maintained.exists_run (trivial : (fun _ => True) before)
  exact ⟨run, after, written⟩

end Evidence

/-! ## Verification -/

theorem verify_accepts {record : ExecutionRecord} {before : World Env Evidence Budget Governor}
    (unvalidated : request.verificationSpec.validateOutput = false)
    (learned : (core.learningGate record before.runtime.env).1 = .ok ()) :
    (core.verify ⟨.recordingEvidence⟩ request record before).1 = .ok record := by
  have skipped : core.validate request record before = (.ok (.ok ()), before) := by
    rw [validate, if_neg (by rw [unvalidated]; decide)]
    rfl
  obtain ⟨env, learned⟩ := exists_run learned
  have allowed : attempt (onEnv (core.learningGate record)) before =
      (.ok (.ok ()), withRuntime before { before.runtime with env }) := by
    rw [attempt_apply, World.onEnv, onRuntime, KernelRuntime.onEnv, zoom_apply, zoom_apply, learned]
    rfl
  rw [verify, transit_bind rfl, bind_of_ok skipped]
  dsimp only
  rw [allowLearning, bind_of_ok allowed]
  dsimp only
  rw [transit_bind rfl]
  rfl

/-! ## Completion -/

section Completion

variable [EvidenceLedger Evidence] [BudgetLedger Budget] [ResourceGovernor Governor]

theorem execute_completes {before entered recorded : World Env Evidence Budget Governor}
    {outputs : List StepExecutionOutput} {runtime : KernelRuntime Env} {run : RecordedRun}
    (passed : core.entry request before = (.ok (), entered))
    (planRan : runPlan core.capabilities request entered.runtime = (.ok outputs, runtime))
    (written : core.recordEvidence request outputs (withRuntime entered runtime) =
      (.ok run, recorded))
    (charged : (charge request run recorded.budget).1 = .ok ())
    (unvalidated : request.verificationSpec.validateOutput = false)
    (learned : ∀ env, (core.learningGate (completedRecord core request run) env).1 = .ok ()) :
    (core.execute request before).1 = .ok (completedRecord core request run) := by
  obtain ⟨-, shape⟩ := execute_of_entered passed
  obtain ⟨budget, charged⟩ := exists_run charged
  rw [shape, perform_of_ran planRan, settle_of_charged written charged]
  exact verify_accepts unvalidated (learned _)

end Completion

end AutoLoop.NoumenonCore
