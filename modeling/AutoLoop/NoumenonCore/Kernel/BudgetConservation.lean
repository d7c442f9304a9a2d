import AutoLoop.NoumenonCore.Authorities
import AutoLoop.NoumenonCore.Kernel.Settlement

/-!
# What becomes of reserved budget

An execution reserves one unit for each step before its plan runs, and after the
run consumes what the syscalls cost: one unit for each step, two for a call that
is routed to a model.  Nothing is refunded.  This module determines when the
charge succeeds, and which calls leave the reserved units of the account as they
were.
-/

namespace AutoLoop.NoumenonCore

open World KernelExecutor InMemoryBudgetLedger

variable {Env Evidence Governor : Type}
variable {core : NoumenonCore Env} {request : TrustedExecutionRequest}

/-! ## The charge -/

theorem stepsRecorded_costUnits {prevHash : String} {outputs : List StepExecutionOutput}
    {events : List EvidenceRecord} {records : List StepRecord}
    (recorded : StepsRecorded core request prevHash outputs events records) :
    records.map (·.costUnits) = outputs.map (·.costUnits) := by
  induction recorded with
  | nil => rfl
  | cons _ _ _ _ ih => rw [List.map_cons, List.map_cons, ih]; rfl

theorem totalCost_toNat [EvidenceLedger Evidence] {outputs : List StepExecutionOutput}
    {entered : World Env Evidence InMemoryBudgetLedger Governor} {runtime : KernelRuntime Env}
    {run : RecordedRun} {before after : World Env Evidence InMemoryBudgetLedger Governor}
    (planRan : runPlan core.capabilities request entered.runtime = (.ok outputs, runtime))
    (written : core.recordEvidence request outputs before = (.ok run, after)) :
    (totalCost run.stepRecords).toNat =
      request.plan.steps.length + routedSteps request.plan.steps := by
  obtain ⟨requests, order, outputsOf, -⟩ := runPlan_ok planRan
  obtain ⟨_, _, recorded, -⟩ := recordEvidence_ok written
  have cost := outputs_cost order outputsOf
  have bound := request.plan.steps_lt
  have routed := routedSteps_le_length request.plan.steps
  have shape : ((outputs.map (·.costUnits)).map UInt64.toNat).sum =
      request.plan.steps.length + routedSteps request.plan.steps := by
    rw [List.map_map, ← cost]
    rfl
  rw [totalCost, stepsRecorded_costUnits recorded, toNat_sum (by omega), shape]

section
variable (request : TrustedExecutionRequest)

def reservedFor (world : World Env Evidence InMemoryBudgetLedger Governor) : Nat :=
  world.budget.reservedUnits (budgetAccountId request)

theorem reservedFor_congr {before after : World Env Evidence InMemoryBudgetLedger Governor}
    (budget : after.budget = before.budget) :
    reservedFor request after = reservedFor request before := by
  rw [reservedFor, reservedFor, budget]

/-- The booking of an execution does not saturate its account. -/
def Unsaturated (world : World Env Evidence InMemoryBudgetLedger Governor) : Prop :=
  reservedFor request world + request.plan.steps.length ≤ u64Max

end

instance (request : TrustedExecutionRequest)
    (world : World Env Evidence InMemoryBudgetLedger Governor) :
    Decidable (Unsaturated request world) :=
  inferInstanceAs (Decidable (_ ≤ _))

/-- An execution that has passed its gates has booked its steps. -/
theorem entered_booked [ResourceGovernor Governor]
    {before entered : World Env Evidence InMemoryBudgetLedger Governor}
    (entry : Entered request before entered) (unsaturated : Unsaturated request before) :
    (entered.budget.accounts.get (budgetAccountId request)).isSome = true ∧
      reservedFor request entered =
        reservedFor request before + request.plan.steps.length := by
  have length : (UInt64.ofNat request.plan.steps.length).toNat =
      request.plan.steps.length := by
    have bound := request.plan.steps_lt
    rw [UInt64.toNat_ofNat', Nat.mod_eq_of_lt (by omega)]
  have booked := reserve_ok entry.budget (by rw [length]; exact unsaturated)
  rw [length] at booked
  exact booked

theorem rejected_budget [ResourceGovernor Governor]
    {before after : World Env Evidence InMemoryBudgetLedger Governor}
    (rejected : Rejected request before after) : after.budget = before.budget := by
  cases rejected with
  | atAdmission kept => exact kept.budget
  | byResources _ _ _ budget _ => exact budget
  | byBudget _ _ _ _ refused _ _ => exact LawfulBudgetLedger.reserve_error refused

section Charge

variable [EvidenceLedger Evidence]

theorem charge_cases {entered recorded : World Env Evidence InMemoryBudgetLedger Governor}
    {outputs : List StepExecutionOutput} {runtime : KernelRuntime Env} {run : RecordedRun}
    (account : (entered.budget.accounts.get (budgetAccountId request)).isSome = true)
    (planRan : runPlan core.capabilities request entered.runtime = (.ok outputs, runtime))
    (written : core.recordEvidence request outputs (withRuntime entered runtime) =
      (.ok run, recorded)) :
    (request.plan.steps.length + routedSteps request.plan.steps ≤ reservedFor request entered ∧
      ∃ charged, charge request run recorded.budget = (.ok (), charged) ∧
        charged.reservedUnits (budgetAccountId request) = reservedFor request entered -
          (request.plan.steps.length + routedSteps request.plan.steps)) ∨
    (reservedFor request entered < request.plan.steps.length + routedSteps request.plan.steps ∧
      charge request run recorded.budget =
        (.error "insufficient reserved budget", recorded.budget)) := by
  have sameBudget : recorded.budget = entered.budget :=
    ((recordEvidence_onlyRecords core request outputs).of_run written).budget
  rw [← totalCost_toNat planRan written, reservedFor, ← sameBudget]
  rw [← sameBudget] at account
  exact consume_cases account (totalCost run.stepRecords)

variable [ResourceGovernor Governor]

theorem charge_of_unrouted
    {before entered recorded : World Env Evidence InMemoryBudgetLedger Governor}
    {outputs : List StepExecutionOutput} {runtime : KernelRuntime Env} {run : RecordedRun}
    (entry : Entered request before entered) (unsaturated : Unsaturated request before)
    (unrouted : routedSteps request.plan.steps = 0)
    (planRan : runPlan core.capabilities request entered.runtime = (.ok outputs, runtime))
    (written : core.recordEvidence request outputs (withRuntime entered runtime) =
      (.ok run, recorded)) :
    (charge request run recorded.budget).1 = .ok () := by
  obtain ⟨account, booked⟩ := entered_booked entry unsaturated
  rcases charge_cases account planRan written with ⟨-, charged, succeeds, -⟩ | ⟨short, -⟩
  · exact congrArg Prod.fst succeeds
  · omega

/-- For an admitted execution on an account without reserved units, whose plan ran
and whose evidence is written, the charge succeeds exactly when no step is routed
to a model; otherwise the execution ends in an error. -/
theorem charge_succeeds_iff_no_routedSteps
    {before entered recorded : World Env Evidence InMemoryBudgetLedger Governor}
    {outputs : List StepExecutionOutput} {runtime : KernelRuntime Env} {run : RecordedRun}
    (admitted : core.entry request before = (.ok (), entered))
    (unreserved : reservedFor request before = 0)
    (planRan : runPlan core.capabilities request entered.runtime = (.ok outputs, runtime))
    (written : core.recordEvidence request outputs (withRuntime entered runtime) =
      (.ok run, recorded)) :
    ((charge request run recorded.budget).1 = .ok () ↔
        ∀ step ∈ request.plan.steps, step.capabilityRef ≠ some "llm.route") ∧
      ((∃ step ∈ request.plan.steps, step.capabilityRef = some "llm.route") →
        (core.execute request before).1 = .error "insufficient reserved budget") := by
  obtain ⟨entry, shape⟩ := execute_of_entered admitted
  have bound := request.plan.steps_lt
  have unsaturated : Unsaturated request before := by
    rw [Unsaturated, unreserved]
    simp only [u64Max]
    omega
  obtain ⟨account, booked⟩ := entered_booked entry unsaturated
  rw [unreserved, Nat.zero_add] at booked
  have noneRouted := routedSteps_eq_zero_iff request.plan.steps
  rcases charge_cases account planRan written with
    ⟨enough, charged, succeeds, -⟩ | ⟨short, fails⟩
  · have unrouted : routedSteps request.plan.steps = 0 := by omega
    constructor
    · exact ⟨fun _ => noneRouted.mp unrouted, fun _ => congrArg Prod.fst succeeds⟩
    · rintro ⟨step, stepMem, routed⟩
      exact absurd routed (noneRouted.mp unrouted step stepMem)
  · have someRouted : routedSteps request.plan.steps ≠ 0 := by omega
    constructor
    · rw [fails]
      constructor
      · intro isOk
        cases isOk
      · intro none
        exact absurd (noneRouted.mpr none) someRouted
    · intro _
      rw [shape, perform_of_ran planRan, settle_of_uncharged written fails]

end Charge

def routingKernel : NoumenonCore Unit :=
  stockKernel id (fun _ => pure ())
    (((CapabilityRegistry.new.register (echoCapability "read")).registerLlmBackend
      (echoModelBackend "m")).setRouter ModelRouter.sequential)

/-- The unit that is reserved for a step pays for a capability call. -/
theorem readRequest_charged :
    ∃ entered outputs runtime run recorded,
      routingKernel.entry (readRequest "e" true) (freshWorld ()) = (.ok (), entered) ∧
        runPlan routingKernel.capabilities (readRequest "e" true) entered.runtime =
          (.ok outputs, runtime) ∧
        routingKernel.recordEvidence (readRequest "e" true) outputs
          (withRuntime entered runtime) = (.ok run, recorded) ∧
        (charge (readRequest "e" true) run recorded.budget).1 = .ok () := by
  have admitted : (routingKernel.entry (readRequest "e" true) (freshWorld ())).1 = .ok () := by
    decide +kernel
  have planRan : (runPlan routingKernel.capabilities (readRequest "e" true)
      (routingKernel.entry (readRequest "e" true) (freshWorld ())).2.runtime).1 =
      .ok [⟨"s", "echo:a", 1⟩] := by
    decide +kernel
  have written : (routingKernel.recordEvidence (readRequest "e" true) [⟨"s", "echo:a", 1⟩]
      (withRuntime (routingKernel.entry (readRequest "e" true) (freshWorld ())).2
        (runPlan routingKernel.capabilities (readRequest "e" true)
          (routingKernel.entry (readRequest "e" true) (freshWorld ())).2.runtime).2)).1.map
      (fun _ => ()) = .ok () := by
    decide +kernel
  obtain ⟨entered, admitted⟩ := Effect.exists_run admitted
  rw [admitted] at planRan written
  obtain ⟨runtime, planRan⟩ := Effect.exists_run planRan
  rw [planRan] at written
  obtain ⟨run, written, -⟩ := Check.map_eq_ok.mp written
  obtain ⟨recorded, written⟩ := Effect.exists_run written
  refine ⟨entered, _, runtime, run, recorded, admitted, planRan, written, ?_⟩
  have charged := charge_succeeds_iff_no_routedSteps admitted rfl planRan written
  exact charged.1.mpr (by decide)

/-- One call of the routed model. -/
def routedRequest : TrustedExecutionRequest :=
  stockRequest "e"
    (.single { stepId := "s", capabilityRef := some "llm.route", input := "a" }) true

/-- The one unit that is reserved for a routed step does not pay for it: the model
has answered and the evidence is written, and the execution ends in an error. -/
theorem routedRequest_not_charged :
    reservedFor routedRequest (freshWorld ()) = 0 ∧
      (routingKernel.entry routedRequest (freshWorld ())).1 = .ok () ∧
      (runPlan routingKernel.capabilities routedRequest
        (routingKernel.entry routedRequest (freshWorld ())).2.runtime).1 =
        .ok [⟨"s", "model=m output=a", 2⟩] ∧
      EvidenceLedger.byExecution "e"
        (routingKernel.execute routedRequest (freshWorld ())).2.evidence ≠ [] ∧
      (routingKernel.execute routedRequest (freshWorld ())).1.map (·.finalStatus) =
        .error "insufficient reserved budget" := by
  refine ⟨rfl, ?entry, ?plan, ?evidence, ?answer⟩ <;> decide +kernel

/-! ## Conservation over runs -/

section Conservation

variable [EvidenceLedger Evidence]

section
variable (core : NoumenonCore Env) (request : TrustedExecutionRequest)

/-- Behind its gates the execution runs, is recorded, and costs what was booked. -/
def PaysItsSteps (entered : World Env Evidence InMemoryBudgetLedger Governor) : Prop :=
  (∀ step ∈ request.plan.steps, step.capabilityRef ≠ some "llm.route") ∧
    ∃ outputs runtime run recorded,
      runPlan core.capabilities request entered.runtime = (.ok outputs, runtime) ∧
      core.recordEvidence request outputs (withRuntime entered runtime) = (.ok run, recorded)

/-- The units taken off an account by an execution behind its gates are those of
its steps exactly when there are none or the execution pays for them. -/
def Spends (entered after : World Env Evidence InMemoryBudgetLedger Governor) : Prop :=
  ∃ spent, reservedFor request after + spent = reservedFor request entered ∧
    (spent = request.plan.steps.length ↔
      request.plan.steps.length = 0 ∨ PaysItsSteps core request entered)

end

/-- An exit that leaves the account alone. -/
theorem spends_nothing {entered after : World Env Evidence InMemoryBudgetLedger Governor}
    (kept : after.budget = entered.budget) (unpaid : ¬PaysItsSteps core request entered) :
    Spends core request entered after := by
  refine ⟨0, ?_, ?_⟩
  · rw [reservedFor_congr request kept, Nat.add_zero]
  · rw [or_iff_left unpaid]
    exact eq_comm

variable [ResourceGovernor Governor]

/-- What an execution behind its gates takes off its account, however it ends. -/
theorem performed_spends {before entered : World Env Evidence InMemoryBudgetLedger Governor}
    (entry : Entered request before entered) (unsaturated : Unsaturated request before)
    {outcome : Except String ExecutionRecord × World Env Evidence InMemoryBudgetLedger Governor}
    (performed : Performed core request entered outcome) :
    Spends core request entered outcome.2 := by
  obtain ⟨account, booked⟩ := entered_booked entry unsaturated
  have noneRouted := routedSteps_eq_zero_iff request.plan.steps
  cases performed with
  | failed planFailed =>
    rename_i message runtime
    have quiet := abort_quiet core request message (fun _ => True)
      (withRuntime entered runtime)
    have kept : (core.abort ⟨.executing⟩ request message
        (withRuntime entered runtime)).2.budget = entered.budget := quiet.budget
    apply spends_nothing kept
    rintro ⟨-, outputs, _, _, _, planRan, -⟩
    rw [planFailed] at planRan
    cases planRan
  | unrecorded planRan notWritten =>
    rename_i outputs runtime message stopped
    have onlyRecords := (recordEvidence_onlyRecords core request _).of_run notWritten
    have kept : stopped.budget = entered.budget := onlyRecords.budget
    apply spends_nothing kept
    rintro ⟨-, outputs, _, _, _, planRanToo, written⟩
    rw [planRan] at planRanToo
    cases planRanToo
    rw [notWritten] at written
    cases written
  | uncharged planRan written refused =>
    rename_i outputs runtime run recorded message budget
    have onlyRecords := (recordEvidence_onlyRecords core request _).of_run written
    have found := charge_cases account planRan written
    rcases found with ⟨-, charged, succeeds, -⟩ | ⟨short, fails⟩
    · cases refused.symm.trans succeeds
    · have sameLedger : budget = recorded.budget :=
        congrArg Prod.snd (refused.symm.trans fails)
      have kept : (withBudget recorded budget).budget = entered.budget :=
        sameLedger.trans onlyRecords.budget
      apply spends_nothing kept
      rintro ⟨none, -⟩
      rw [noneRouted.mpr none, booked] at short
      omega
  | settled planRan written charged =>
    rename_i outputs runtime run recorded budget
    have found := charge_cases account planRan written
    rcases found with ⟨enough, spent, succeeds, left⟩ | ⟨-, fails⟩
    · have sameLedger : budget = spent :=
        congrArg Prod.snd (charged.symm.trans succeeds)
      have verified := (verify_onlyVerdicts core request (completedRecord core request run)
        (withBudget recorded budget)).budget
      have kept : reservedFor request (core.verify ⟨.recordingEvidence⟩ request
          (completedRecord core request run) (withBudget recorded budget)).2 =
          reservedFor request entered -
            (request.plan.steps.length + routedSteps request.plan.steps) := by
        rw [reservedFor, verified]
        exact sameLedger ▸ left
      have routedFew := routedSteps_le_length request.plan.steps
      have pays : PaysItsSteps core request entered ↔
          routedSteps request.plan.steps = 0 :=
        ⟨fun paid => noneRouted.mpr paid.1, fun none =>
          ⟨noneRouted.mp none, outputs, runtime, run, recorded, planRan, written⟩⟩
      refine ⟨request.plan.steps.length + routedSteps request.plan.steps, ?_, ?_⟩
      · rw [kept]
        omega
      · rw [pays]
        omega
    · cases charged.symm.trans fails

/-- The call does not strand a reservation: when the gates let it in, its plan is
empty, or no step is routed to a model, the plan runs and its evidence is
written. -/
def SpendsReservation (core : NoumenonCore Env)
    (world : World Env Evidence InMemoryBudgetLedger Governor)
    (request : TrustedExecutionRequest) : Prop :=
  ∀ entered, core.entry request world = (.ok (), entered) →
    request.plan.steps = [] ∨ PaysItsSteps core request entered

theorem reserved_kept_iff {before : World Env Evidence InMemoryBudgetLedger Governor}
    (unsaturated : Unsaturated request before) :
    reservedFor request (core.execute request before).2 = reservedFor request before ↔
      SpendsReservation core before request := by
  cases passed : core.entry request before with
  | mk answer entered =>
    cases answer with
    | error message =>
      obtain ⟨after, shape, rejected⟩ := execute_of_rejected passed
      rw [shape, SpendsReservation, passed]
      constructor
      · intro _ _ accepted
        cases accepted
      · intro _
        exact reservedFor_congr request (rejected_budget rejected)
    | ok _ =>
      obtain ⟨entry, shape⟩ := execute_of_entered passed
      obtain ⟨-, booked⟩ := entered_booked entry unsaturated
      obtain ⟨spent, balance, exactly⟩ := performed_spends entry unsaturated
        (perform_performed core request entered)
      have dropsNothing : reservedFor request (dropped request
          (core.perform ⟨.enforcing⟩ request entered).2) =
          reservedFor request (core.perform ⟨.enforcing⟩ request entered).2 := rfl
      rw [shape, SpendsReservation, passed, dropsNothing]
      rw [List.length_eq_zero_iff] at exactly
      constructor
      · intro same other sameEntered
        cases sameEntered
        exact exactly.mp (by omega)
      · intro spends
        have paid := exactly.mpr (spends entered rfl)
        omega

def reservedOf (tenantId : String) (world : World Env Evidence InMemoryBudgetLedger Governor) :
    Nat :=
  world.budget.reservedUnits ("budget:" ++ tenantId)

/-- Over every sequence of calls of one tenant that does not saturate its account,
the reserved units are what they were in every state reached exactly when no call
strands its reservation. -/
theorem reserved_conserved_iff (core : NoumenonCore Env) (tenantId : String)
    (initial : World Env Evidence InMemoryBudgetLedger Governor)
    {requests : List TrustedExecutionRequest}
    (ofTenant : (kernelComponent core initial).EachStep (fun world request =>
      request.identity.tenantId = tenantId ∧ Unsaturated request world) initial requests) :
    (kernelComponent core initial).Always
        (fun world => reservedOf tenantId world = reservedOf tenantId initial)
        initial requests ↔
      (kernelComponent core initial).EachStep (SpendsReservation core) initial requests := by
  have step : ∀ (world : World Env Evidence InMemoryBudgetLedger Governor) request,
      reservedOf tenantId world = reservedOf tenantId initial →
      request.identity.tenantId = tenantId ∧ Unsaturated request world →
      (reservedOf tenantId ((kernelComponent core initial).step world request).2 =
        reservedOf tenantId initial ↔ SpendsReservation core world request) := by
    rintro world request same ⟨rfl, unsaturated⟩
    rw [← same]
    exact reserved_kept_iff unsaturated
  exact Component.always_iff_eachStep step rfl ofTenant

end Conservation

/-- Two paid executions leave nothing reserved. -/
theorem readRequests_conserve :
    (kernelComponent routingKernel (freshWorld ())).Always
        (fun world => reservedOf "tenant-1" world = reservedOf "tenant-1" (freshWorld ()))
        (freshWorld ()) [readRequest "e1" true, readRequest "e2" true] ∧
      (kernelComponent routingKernel (freshWorld ())).EachStep
        (SpendsReservation routingKernel) (freshWorld ())
        [readRequest "e1" true, readRequest "e2" true] := by
  have always : (kernelComponent routingKernel (freshWorld ())).Always
      (fun world => reservedOf "tenant-1" world = reservedOf "tenant-1" (freshWorld ()))
      (freshWorld ()) [readRequest "e1" true, readRequest "e2" true] := by
    decide +kernel
  refine ⟨always, ?_⟩
  exact (reserved_conserved_iff routingKernel "tenant-1" (freshWorld ())
    (by decide +kernel)).mp always

def unnamedRequest : TrustedExecutionRequest :=
  stockRequest "e" (.single { stepId := "s", capabilityRef := none, input := "a" }) true

/-- The plan does not run, the execution is rolled back, and its unit stays
reserved. -/
theorem unnamedRequest_strands :
    (routingKernel.execute unnamedRequest (freshWorld ())).1.map (·.finalStatus) =
        .ok "RolledBack" ∧
      reservedOf "tenant-1" (freshWorld ()) = 0 ∧
      Unsaturated unnamedRequest (freshWorld ()) ∧
      reservedOf "tenant-1" (routingKernel.execute unnamedRequest (freshWorld ())).2 = 1 := by
  refine ⟨?status, rfl, ?unsaturated, ?left⟩ <;> decide +kernel

end AutoLoop.NoumenonCore
