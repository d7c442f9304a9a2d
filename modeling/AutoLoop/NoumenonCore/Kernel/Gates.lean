import AutoLoop.NoumenonCore.Kernel

/-!
# The mandatory gates

What the part of `execute` up to the budget reservation does: it passes every
required gate, in order, and touches nothing but the two reservations, or it
ends the execution.  `entry` is that part, and `execute` is described by how its
entry ends.
-/

namespace AutoLoop.NoumenonCore

open World KernelRuntime StateMachine ResourceGovernor Effect

variable {Env Evidence Budget Governor α β : Type}

/-! ## Single gates -/

/-- In every state before the execution starts a rejection is allowed. -/
def Rejectable (machine : StateMachine) : Prop :=
  canTransition machine.state .rejected = true

theorem rejectable_new : Rejectable new := rfl

theorem rejectable_enforcing : Rejectable ⟨.enforcing⟩ := rfl

section
variable {machine : StateMachine}

theorem transit_bind {next : ExecutionStatus} (allowed : canTransition machine.state next = true)
    (rest : StateMachine → Effect (World Env Evidence Budget Governor) α) :
    (transit machine next >>= rest) = rest ⟨next⟩ := by
  rw [transit, transit_of_allowed allowed]
  rfl

theorem reject_apply (rejectable : Rejectable machine)
    (message : String) (world : World Env Evidence Budget Governor) :
    reject (α := α) machine message world = (.error message, world) := by
  rw [reject, transit_bind rejectable]
  rfl

theorem guarded_of_ok {gate : Gate} {check : Effect (World Env Evidence Budget Governor) Unit}
    {refusal : String → String} {before checked : World Env Evidence Budget Governor}
    (passes : check before = (.ok (), checked)) :
    guarded machine gate check refusal before = log (.accepted gate) checked := by
  have attempted : Effect.attempt check before = (.ok (.ok ()), checked) := by
    rw [attempt_apply, passes]
  rw [guarded, bind_of_ok attempted]

theorem guarded_of_error (rejectable : Rejectable machine)
    {gate : Gate} {check : Effect (World Env Evidence Budget Governor) Unit}
    {refusal : String → String} {before checked : World Env Evidence Budget Governor}
    {message : String} (refuses : check before = (.error message, checked)) :
    guarded machine gate check refusal before =
      (.error (refusal message), (log (.refused gate) checked).2) := by
  have attempted : Effect.attempt check before = (.ok (.error message), checked) := by
    rw [attempt_apply, refuses]
  have logged : log (.refused gate) checked =
      (.ok (), (log (.refused gate) checked).2) := rfl
  rw [guarded, bind_of_ok attempted]
  dsimp only
  rw [bind_of_ok logged, reject_apply rejectable]

end

/-! ## Passing gates -/

/-- These gates were passed, in order, and nothing but the runtime changed. -/
structure Passed (gates : List Gate) (before after : World Env Evidence Budget Governor) :
    Prop where
  saw : Saw (gates.map .accepted) before.runtime after.runtime
  evidence : after.evidence = before.evidence
  budget : after.budget = before.budget
  resources : after.resources = before.resources

namespace Passed

variable {first second : List Gate} {before middle after : World Env Evidence Budget Governor}

theorem refl (world : World Env Evidence Budget Governor) : Passed [] world world :=
  ⟨Saw.refl _, rfl, rfl, rfl⟩

theorem trans (earlier : Passed first before middle) (later : Passed second middle after) :
    Passed (first ++ second) before after := by
  refine ⟨?saw, later.evidence.trans earlier.evidence, later.budget.trans earlier.budget,
    later.resources.trans earlier.resources⟩
  rw [List.map_append]
  exact earlier.saw.trans later.saw

theorem onlyRuntime {gates : List Gate} (passed : Passed gates before after) :
    OnlyRuntime (·.isGate) before after := by
  refine ⟨⟨_, passed.saw, ?_⟩, passed.evidence, passed.budget, passed.resources⟩
  intro event membership
  obtain ⟨gate, -, rfl⟩ := List.mem_map.mp membership
  rfl

end Passed

/-- The computation passes these gates, or fails having touched the runtime only. -/
def Gated (gates : List Gate) (action : Effect (World Env Evidence Budget Governor) α) :
    Prop :=
  ∀ before, match action before with
    | (.ok _, after) => Passed gates before after
    | (.error _, after) => OnlyRuntime (·.isGate) before after

namespace Gated

variable {first second : List Gate}

theorem pure (value : α) :
    Gated [] (Pure.pure value : Effect (World Env Evidence Budget Governor) α) :=
  fun world => Passed.refl world

theorem bind {action : Effect (World Env Evidence Budget Governor) α}
    {next : α → Effect (World Env Evidence Budget Governor) β}
    (opening : Gated first action) (rest : ∀ value, Gated second (next value)) :
    Gated (first ++ second) (action >>= next) := by
  intro before
  have opened := opening before
  rw [bind_apply]
  generalize action before = outcome at opened ⊢
  obtain ⟨result, middle⟩ := outcome
  cases result with
  | error message => exact opened
  | ok value =>
    have ended := rest value middle
    dsimp only at opened ⊢
    generalize next value middle = final at ended ⊢
    obtain ⟨result, after⟩ := final
    cases result with
    | error message => exact OnlyRuntime.trans _ _ _ opened.onlyRuntime ended
    | ok value => exact opened.trans ended

theorem reject {machine : StateMachine} (rejectable : Rejectable machine) (message : String) :
    Gated [] (NoumenonCore.reject machine message :
      Effect (World Env Evidence Budget Governor) α) := by
  intro before
  rw [reject_apply rejectable]
  exact OnlyRuntime.refl before

theorem guarded {machine : StateMachine} (rejectable : Rejectable machine) (gate : Gate)
    (check : Effect Env Unit) (refusal : String → String) :
    Gated [gate] (NoumenonCore.guarded machine gate (onEnv check) refusal :
      Effect (World Env Evidence Budget Governor) Unit) := by
  intro before
  cases asked : onEnv check before with
  | mk answer checked =>
    have env : OnlyRuntime (fun _ => False) before checked := by
      have kept : OnlyRuntime (fun _ => False) before
          (World.onRuntime (KernelRuntime.onEnv check) before).2 :=
        OnlyRuntime.onRuntime (Only.onEnv check) before
      rwa [show World.onRuntime (KernelRuntime.onEnv check) before = (answer, checked)
        from asked] at kept
    obtain ⟨events, saw, none⟩ := env.trace
    obtain rfl := List.eq_nil_iff_forall_not_mem.mpr none
    cases answer with
    | ok _ =>
      rw [guarded_of_ok asked]
      exact ⟨saw.trans rfl, env.evidence, env.budget, env.resources⟩
    | error message =>
      rw [guarded_of_error rejectable asked]
      refine ⟨⟨[.refused gate], saw.trans rfl, ?_⟩, env.evidence, env.budget, env.resources⟩
      simp [Event.isGate]

end Gated

/-! ## Admission -/

def stepGates (step : ExecutionStep) : List Gate :=
  (step.capabilityRef.map Gate.tenant).toList ++ [.hardening step.stepId]

section
variable (request : TrustedExecutionRequest)

/-- The gates before any reservation. -/
def admissionGates : List Gate :=
  [.identity, .supplyChain, .rollout] ++
    (if needsAttestation request then [.attestation] else []) ++
    request.plan.steps.flatMap stepGates

/-- Every gate that has to accept before an execution runs. -/
def requiredGates : List Gate :=
  admissionGates request ++ [.resource, .budget]

theorem guardOperation_gated :
    Gated [] (guardOperation new request : Effect (World Env Evidence Budget Governor) Unit) := by
  rw [guardOperation]
  split
  · exact Gated.reject rejectable_new _
  · exact Gated.pure ()

end

section
variable (core : NoumenonCore Env) (request : TrustedExecutionRequest)

theorem attest_gated :
    Gated (if needsAttestation request then [.attestation] else [])
      (core.attest ⟨.enforcing⟩ request : Effect (World Env Evidence Budget Governor) Unit) := by
  rw [attest]
  split
  · exact Gated.guarded rejectable_enforcing _ _ _
  · exact Gated.pure ()

theorem authorizeStep_gated (step : ExecutionStep) :
    Gated (step.capabilityRef.map Gate.tenant).toList
      (core.authorizeStep ⟨.enforcing⟩ request step :
        Effect (World Env Evidence Budget Governor) Unit) := by
  rw [authorizeStep]
  cases step.capabilityRef with
  | none => exact Gated.pure ()
  | some capability => exact Gated.guarded rejectable_enforcing _ _ _

theorem enforceSteps_gated (steps : List ExecutionStep) :
    Gated (steps.flatMap stepGates)
      (core.enforceSteps ⟨.enforcing⟩ request steps :
        Effect (World Env Evidence Budget Governor) Unit) := by
  induction steps with
  | nil => exact Gated.pure ()
  | cons step rest ih =>
    rw [List.flatMap_cons, stepGates, List.append_assoc]
    apply Gated.bind (authorizeStep_gated core request step)
    intro _
    exact Gated.bind (Gated.guarded rejectable_enforcing _ _ _) fun _ => ih

theorem admission_gated :
    Gated (admissionGates request)
      (core.admission request : Effect (World Env Evidence Budget Governor) StateMachine) := by
  have guards : ∀ (gate : Gate) (check : Effect Env Unit) (refusal : String → String),
      Gated [gate] (guarded new gate (onEnv check) refusal :
        Effect (World Env Evidence Budget Governor) Unit) :=
    fun gate check refusal => Gated.guarded rejectable_new gate check refusal
  have stepsDone : Gated (request.plan.steps.flatMap stepGates ++ [])
      (do
        core.enforceSteps ⟨.enforcing⟩ request request.plan.steps
        pure (⟨.enforcing⟩ : StateMachine) :
        Effect (World Env Evidence Budget Governor) StateMachine) :=
    Gated.bind (enforceSteps_gated core request request.plan.steps) fun _ => Gated.pure _
  rw [List.append_nil] at stepsDone
  rw [admissionGates, List.append_assoc]
  show Gated ([] ++ ([.identity] ++ ([.supplyChain] ++ ([.rollout] ++
    ((if needsAttestation request then [.attestation] else []) ++
      request.plan.steps.flatMap stepGates))))) (core.admission request)
  apply Gated.bind (guardOperation_gated request)
  intro _
  apply Gated.bind (guards _ _ _)
  intro _
  apply Gated.bind (guards _ _ _)
  intro _
  apply Gated.bind (guards _ _ _)
  intro _
  rw [transit_bind rfl, transit_bind rfl]
  exact Gated.bind (attest_gated core request) fun _ => stepsDone

end

theorem admission_machine {core : NoumenonCore Env} {request : TrustedExecutionRequest}
    {machine : StateMachine} {before after : World Env Evidence Budget Governor}
    (admitted : core.admission request before = (.ok machine, after)) :
    machine = ⟨.enforcing⟩ := by
  obtain ⟨_, _, _, identified⟩ := bind_eq_ok.mp admitted
  obtain ⟨_, _, _, supplied⟩ := bind_eq_ok.mp identified
  obtain ⟨_, _, _, rolledOut⟩ := bind_eq_ok.mp supplied
  obtain ⟨_, _, _, transitions⟩ := bind_eq_ok.mp rolledOut
  rw [transit_bind rfl, transit_bind rfl] at transitions
  obtain ⟨_, _, _, attested⟩ := bind_eq_ok.mp transitions
  obtain ⟨_, _, _, returned⟩ := bind_eq_ok.mp attested
  cases returned
  rfl

/-! ## Entry -/

/-- What an execution asks of the resource governor. -/
def requirementOf (request : TrustedExecutionRequest) : ResourceRequirement :=
  .fromConstraints request.constraints

/-- All gates of an execution, without what follows them. -/
def entry [BudgetLedger Budget] [ResourceGovernor Governor] (core : NoumenonCore Env)
    (request : TrustedExecutionRequest) :
    Effect (World Env Evidence Budget Governor) Unit := do
  let machine ← core.admission request
  guarded machine .resource (onResources (reserve (requirementOf request)))
    (fun _ => "execution rejected by resource governor")
  reserveBudget machine request

def bookBudget [BudgetLedger Budget] (request : TrustedExecutionRequest) : Effect Budget Unit :=
  BudgetLedger.reserve (budgetAccountId request) request.identity.tenantId
    (UInt64.ofNat request.plan.steps.length)

section Reservations

variable [BudgetLedger Budget] [ResourceGovernor Governor]

/-- All gates have accepted, and both reservations are made. -/
structure Entered (request : TrustedExecutionRequest)
    (before entered : World Env Evidence Budget Governor) : Prop where
  saw : Saw ((requiredGates request).map .accepted) before.runtime entered.runtime
  evidence : entered.evidence = before.evidence
  budget : bookBudget request before.budget = (.ok (), entered.budget)
  resources : reserve (requirementOf request) before.resources =
    (.ok (), entered.resources)

inductive Rejected (request : TrustedExecutionRequest)
    (before after : World Env Evidence Budget Governor) : Prop where
  | atAdmission (kept : OnlyRuntime (·.isGate) before after)
  | byResources (reason : String)
      (saw : Saw ((admissionGates request).map .accepted ++ [.refused .resource])
        before.runtime after.runtime)
      (evidence : after.evidence = before.evidence) (budget : after.budget = before.budget)
      (refused : reserve (requirementOf request) before.resources =
        (.error reason, after.resources))
  | byBudget (reason : String) (held : Governor)
      (saw : Saw ((admissionGates request).map .accepted ++
          [.accepted .resource, .refused .budget]) before.runtime after.runtime)
      (evidence : after.evidence = before.evidence)
      (refused : bookBudget request before.budget = (.error reason, after.budget))
      (reserved : reserve (requirementOf request) before.resources = (.ok (), held))
      (released : after.resources = release (requirementOf request) held)

end Reservations

section ResourceGate

variable [ResourceGovernor Governor]

def dropped (request : TrustedExecutionRequest)
    (world : World Env Evidence Budget Governor) : World Env Evidence Budget Governor :=
  withResources world (release (requirementOf request) world.resources)

theorem resourceGate_of_refused {machine : StateMachine} (rejectable : Rejectable machine)
    {request : TrustedExecutionRequest} {before : World Env Evidence Budget Governor}
    {reason : String} {resources : Governor}
    (refused : reserve (requirementOf request) before.resources = (.error reason, resources)) :
    guarded machine .resource
        (onResources (reserve (requirementOf request)))
        (fun _ => "execution rejected by resource governor") before =
      (.error "execution rejected by resource governor",
        logged (.refused .resource) (withResources before resources)) := by
  have asked : onResources (reserve (requirementOf request)) before =
      (.error reason, withResources before resources) := by
    rw [onResources, zoom_apply, refused]
    rfl
  rw [guarded_of_error rejectable asked]
  rfl

section
variable {machine : StateMachine} {request : TrustedExecutionRequest}

theorem resourceGate_of_held
    {before : World Env Evidence Budget Governor} {held : Governor} {refusal : String → String}
    (reserved : reserve (requirementOf request) before.resources = (.ok (), held)) :
    guarded machine .resource
        (onResources (reserve (requirementOf request))) refusal before =
      (.ok (), logged (.accepted .resource) (withResources before held)) := by
  have asked : onResources (reserve (requirementOf request)) before =
      (.ok (), withResources before held) := by
    rw [onResources, zoom_apply, reserved]
    rfl
  rw [guarded_of_ok asked]
  rfl

theorem withReservation_of_held {body : Effect (World Env Evidence Budget Governor) α}
    {before : World Env Evidence Budget Governor} {held : Governor}
    (reserved : reserve (requirementOf request) before.resources = (.ok (), held)) :
    withReservation machine (requirementOf request) body before =
      ((body (logged (.accepted .resource) (withResources before held))).1, dropped request
          (body (logged (.accepted .resource) (withResources before held))).2) := by
  rw [withReservation, bind_of_ok (resourceGate_of_held reserved)]
  rfl

end

end ResourceGate

section
variable [BudgetLedger Budget] {request : TrustedExecutionRequest}
  (before : World Env Evidence Budget Governor)

theorem budgetGate_of_refused {reason : String} {budget : Budget}
    (refused : bookBudget request before.budget = (.error reason, budget)) :
    reserveBudget ⟨.enforcing⟩ request before =
      (.error ("execution rejected by budget ledger reservation: " ++ reason),
        logged (.refused .budget) { before with budget }) := by
  have asked : onBudget (bookBudget request) before =
      (.error reason, { before with budget }) := by
    rw [onBudget, zoom_apply, refused]
  rw [reserveBudget, ← bookBudget, guarded_of_error rejectable_enforcing asked]
  rfl

theorem budgetGate_of_booked {budget : Budget}
    (booked : bookBudget request before.budget = (.ok (), budget)) :
    reserveBudget ⟨.enforcing⟩ request before =
      (.ok (), logged (.accepted .budget) { before with budget }) := by
  have asked : onBudget (bookBudget request) before = (.ok (), { before with budget }) := by
    rw [onBudget, zoom_apply, booked]
  rw [reserveBudget, ← bookBudget, guarded_of_ok asked]
  rfl

end

/-! ## Execution by how its entry ends -/

section Execute

variable [EvidenceLedger Evidence] [BudgetLedger Budget] [ResourceGovernor Governor]
variable {core : NoumenonCore Env} {request : TrustedExecutionRequest}

theorem execute_of_rejected {before stopped : World Env Evidence Budget Governor}
    {message : String} (rejected : core.entry request before = (.error message, stopped)) :
    ∃ after, core.execute request before = (.error message, after) ∧
      Rejected request before after := by
  have gated := admission_gated core request before
  cases admitted : core.admission request before with
  | mk answer middle =>
    rw [admitted] at gated
    cases answer with
    | error reason =>
      rw [entry, bind_of_error admitted] at rejected
      cases rejected
      refine ⟨stopped, ?_, .atAdmission gated⟩
      rw [execute, bind_of_error admitted]
    | ok machine =>
      obtain rfl := admission_machine admitted
      rw [entry, bind_of_ok admitted] at rejected
      rw [execute, bind_of_ok admitted, ← requirementOf]
      cases reserved : reserve (requirementOf request) middle.resources with
      | mk answer held =>
        cases answer with
        | error reason =>
          have refusal := resourceGate_of_refused rejectable_enforcing reserved
          rw [bind_of_error refusal] at rejected
          cases rejected
          rw [withReservation, bind_of_error refusal]
          rw [gated.resources] at reserved
          refine ⟨_, rfl, .byResources reason ?_ gated.evidence gated.budget reserved⟩
          exact gated.saw.trans (saw_logged _ _)
        | ok _ =>
          rw [bind_of_ok (resourceGate_of_held reserved)] at rejected
          rw [withReservation_of_held reserved]
          cases booked : bookBudget request middle.budget with
          | mk answer budget =>
            cases answer with
            | ok _ =>
              have passes := budgetGate_of_booked
                (logged (.accepted .resource) (withResources middle held)) booked
              rw [passes] at rejected
              cases rejected
            | error reason =>
              have refusal := budgetGate_of_refused
                (logged (.accepted .resource) (withResources middle held)) booked
              rw [refusal] at rejected
              cases rejected
              rw [bind_of_error refusal]
              rw [gated.resources] at reserved
              rw [gated.budget] at booked
              refine ⟨_, rfl, .byBudget reason held ?_ gated.evidence booked reserved rfl⟩
              exact gated.saw.trans
                ((saw_logged _ (withResources middle held)).trans (saw_logged _ _))

/-- An execution that gets past its gates holds both reservations while it runs. -/
theorem execute_of_entered {before entered : World Env Evidence Budget Governor}
    (passed : core.entry request before = (.ok (), entered)) :
    Entered request before entered ∧
      core.execute request before =
        ((core.perform ⟨.enforcing⟩ request entered).1,
          dropped request (core.perform ⟨.enforcing⟩ request entered).2) := by
  obtain ⟨machine, middle, admitted, reservations⟩ := bind_eq_ok.mp passed
  have gated := admission_gated core request before
  rw [admitted] at gated
  obtain rfl := admission_machine admitted
  rw [execute, bind_of_ok admitted, ← requirementOf]
  cases reserved : reserve (requirementOf request) middle.resources with
  | mk answer held =>
    cases answer with
    | error reason =>
      rw [bind_of_error (resourceGate_of_refused rejectable_enforcing reserved)]
        at reservations
      cases reservations
    | ok _ =>
      rw [bind_of_ok (resourceGate_of_held reserved)] at reservations
      rw [withReservation_of_held reserved]
      cases booked : bookBudget request middle.budget with
      | mk answer budget =>
        cases answer with
        | error reason =>
          have refusal := budgetGate_of_refused
            (logged (.accepted .resource) (withResources middle held)) booked
          rw [refusal] at reservations
          cases reservations
        | ok _ =>
          have passes := budgetGate_of_booked
            (logged (.accepted .resource) (withResources middle held)) booked
          rw [passes] at reservations
          cases reservations
          rw [bind_of_ok passes]
          rw [gated.resources] at reserved
          rw [gated.budget] at booked
          refine ⟨⟨?saw, gated.evidence, booked, reserved⟩, rfl⟩
          rw [requiredGates, List.map_append]
          exact gated.saw.trans
            ((saw_logged _ (withResources middle held)).trans (saw_logged _ _))

end Execute

end AutoLoop.NoumenonCore
