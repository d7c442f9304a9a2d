import AutoLoop.NoumenonCore.Kernel.Gates

/-!
# The evidence phase

What `recordEvidence` writes when it succeeds: the context event, and one event
and one step record for each output, in order, each event linked to the one
before.  However it ends, it changes nothing but the evidence.
-/

namespace AutoLoop.NoumenonCore

open World KernelRuntime KernelExecutor OnlyRecords Effect

variable {Env Evidence Budget Governor : Type}
variable {core : NoumenonCore Env} {request : TrustedExecutionRequest}

inductive StepsRecorded (core : NoumenonCore Env) (request : TrustedExecutionRequest) :
    String → List StepExecutionOutput → List EvidenceRecord → List StepRecord → Prop
  | nil (prevHash : String) : StepsRecorded core request prevHash [] [] []
  | cons {prevHash : String} {output : StepExecutionOutput}
      {rest : List StepExecutionOutput} {events : List EvidenceRecord}
      {records : List StepRecord} {step : ExecutionStep} (timestampMs recordedAt : U128)
      (found : findStep request.plan.steps output.stepId = some step)
      (later : StepsRecorded core request
        (stepEvidence core request step output prevHash timestampMs).recordHash
        rest events records) :
      StepsRecorded core request prevHash (output :: rest)
        (stepEvidence core request step output prevHash timestampMs :: events)
        (stepRecord core step output recordedAt :: records)

theorem stepsRecorded_outputDigests {prevHash : String} {outputs : List StepExecutionOutput}
    {events : List EvidenceRecord} {records : List StepRecord}
    (recorded : StepsRecorded core request prevHash outputs events records) :
    records.map (·.outputDigest) = outputs.map fun output => core.crypto output.output := by
  induction recorded with
  | nil => rfl
  | cons _ _ _ _ ih => rw [List.map_cons, List.map_cons, ih]; rfl

section
variable [EvidenceLedger Evidence] {before after : World Env Evidence Budget Governor}

theorem now_recorded {timestampMs : U128}
    (read : now core before = (.ok timestampMs, after)) : Recorded [] before after := by
  cases read
  exact ⟨Saw.refl _, fun _ => Appended.refl _, rfl, rfl⟩

theorem appendEvidence_recorded {event : EvidenceRecord}
    (appended : appendEvidence event before = (.ok (), after)) :
    Recorded [event] before after := by
  rw [appendEvidence, bind_of_ok (log_apply _ _)] at appended
  obtain ⟨isOk, rfl⟩ := Prod.mk.inj appended
  refine ⟨saw_logged _ _, fun _ => ?_, rfl, rfl⟩
  exact LawfulEvidenceLedger.append_ok (Prod.ext isOk rfl)

end

section
variable [EvidenceLedger Evidence] {outputs : List StepExecutionOutput}

theorem recordSteps_ok {prevHash : String} {before after : World Env Evidence Budget Governor}
    {recorded : List (String × StepRecord)}
    (ran : recordSteps core request prevHash outputs before = (.ok recorded, after)) :
    ∃ events, StepsRecorded core request prevHash outputs events (recorded.map (·.2)) ∧
      recorded.map (·.1) = events.map (·.recordId) ∧ Recorded events before after := by
  induction outputs generalizing prevHash before recorded with
  | nil =>
    cases ran
    exact ⟨[], .nil _, rfl, Recorded.refl _⟩
  | cons output rest ih =>
    rw [recordSteps] at ran
    cases found : findStep request.plan.steps output.stepId with
    | none =>
      rw [found] at ran
      cases ran
    | some step =>
      rw [found] at ran
      obtain ⟨timestampMs, ticked, read, ran⟩ := bind_eq_ok.mp ran
      obtain ⟨_, stored, appended, ran⟩ := bind_eq_ok.mp ran
      obtain ⟨recordedAt, tickedAgain, readAgain, ran⟩ := bind_eq_ok.mp ran
      obtain ⟨later, ended, ranRest, returned⟩ := bind_eq_ok.mp ran
      cases returned
      obtain ⟨events, steps, ids, recordedRest⟩ := ih ranRest
      refine ⟨_ :: events, .cons timestampMs recordedAt found steps, ?_, ?_⟩
      · rw [List.map_cons, List.map_cons, ids]
      · exact (now_recorded read).trans ((appendEvidence_recorded appended).trans
          ((now_recorded readAgain).trans recordedRest))

theorem recordEvidence_ok {before after : World Env Evidence Budget Governor} {run : RecordedRun}
    (ran : recordEvidence core request outputs before = (.ok run, after)) :
    ∃ timestampMs events,
      StepsRecorded core request (contextEvidence core request timestampMs).recordHash
        outputs events run.stepRecords ∧
      run.evidenceIds =
        (contextEvidence core request timestampMs :: events).map (·.recordId) ∧
      Recorded (contextEvidence core request timestampMs :: events) before after := by
  obtain ⟨context, bound, boundContext, ran⟩ := bind_eq_ok.mp ran
  obtain ⟨recorded, ended, ranSteps, returned⟩ := bind_eq_ok.mp ran
  obtain ⟨timestampMs, ticked, read, boundContext⟩ := bind_eq_ok.mp boundContext
  obtain ⟨_, stored, appended, returnedContext⟩ := bind_eq_ok.mp boundContext
  cases returned
  cases returnedContext
  obtain ⟨events, steps, ids, recordedSteps⟩ := recordSteps_ok ranSteps
  refine ⟨timestampMs, events, steps, ?_, ?_⟩
  · rw [List.map_cons, ids]
  · exact (now_recorded read).trans ((appendEvidence_recorded appended).trans recordedSteps)

end

/-! ## Frame -/

theorem now_onlyRecords (core : NoumenonCore Env) :
    Effect.Keeps OnlyRecords (now core : Effect (World Env Evidence Budget Governor) U128) :=
  fun _ => ⟨⟨[], Saw.refl _, by simp⟩, rfl, rfl⟩

theorem appendEvidence_onlyRecords [EvidenceLedger Evidence] (event : EvidenceRecord) :
    Effect.Keeps OnlyRecords
      (appendEvidence event : Effect (World Env Evidence Budget Governor) Unit) :=
  fun _ => ⟨⟨[.appended event], rfl, by simp [Event.isAppend]⟩, rfl, rfl⟩

section
variable [EvidenceLedger Evidence] (core : NoumenonCore Env) (request : TrustedExecutionRequest)

theorem recordSteps_onlyRecords (prevHash : String) (outputs : List StepExecutionOutput) :
    Effect.Keeps OnlyRecords
      (recordSteps core request prevHash outputs :
        Effect (World Env Evidence Budget Governor) (List (String × StepRecord))) := by
  induction outputs generalizing prevHash with
  | nil => exact Effect.Keeps.pure OnlyRecords.refl _
  | cons output rest ih =>
    rw [recordSteps]
    split
    · exact Effect.Keeps.fail OnlyRecords.refl _
    · apply Effect.Keeps.bind OnlyRecords.trans (now_onlyRecords core)
      intro _
      apply Effect.Keeps.bind OnlyRecords.trans (appendEvidence_onlyRecords _)
      intro _
      apply Effect.Keeps.bind OnlyRecords.trans (now_onlyRecords core)
      intro _
      apply Effect.Keeps.bind OnlyRecords.trans (ih _)
      intro _
      exact Effect.Keeps.pure OnlyRecords.refl _

theorem recordEvidence_onlyRecords (outputs : List StepExecutionOutput) :
    Effect.Keeps OnlyRecords
      (recordEvidence core request outputs :
        Effect (World Env Evidence Budget Governor) RecordedRun) := by
  refine Effect.Keeps.bind OnlyRecords.trans ?context fun context => ?steps
  case context =>
    apply Effect.Keeps.bind OnlyRecords.trans (now_onlyRecords core)
    intro _
    apply Effect.Keeps.bind OnlyRecords.trans (appendEvidence_onlyRecords _)
    intro _
    exact Effect.Keeps.pure OnlyRecords.refl _
  case steps =>
    apply Effect.Keeps.bind OnlyRecords.trans (recordSteps_onlyRecords _ _ _ _)
    intro _
    exact Effect.Keeps.pure OnlyRecords.refl _

end

end AutoLoop.NoumenonCore

/-!
## Running and settling an execution

What `execute` does once its gates have accepted: the run of the plan, and after
a successful run the evidence, the charge and the verification.  `Completion`
collects everything that is known of an execution that completed.
-/

namespace AutoLoop.NoumenonCore

open World KernelRuntime KernelExecutor Effect Effect

variable {Env Evidence Budget Governor α : Type}
variable {core : NoumenonCore Env} {request : TrustedExecutionRequest}

/-! ## Verification -/

theorem onEnv_quiet (property : Event → Prop) (action : Effect Env α) :
    Keeps (OnlyRuntime property)
      (World.onEnv action : Effect (World Env Evidence Budget Governor) α) :=
  OnlyRuntime.onRuntime (Only.onEnv action)

theorem rollBack_ok {machine : StateMachine} {record result : ExecutionRecord}
    {message : String} {before after : World Env Evidence Budget Governor}
    (fallible : StateMachine.canTransition machine.state .failed = true)
    (ran : core.rollBack machine record message before = (.ok result, after)) :
    result = rolledBackRecord record message := by
  rw [rollBack, transit_bind fallible] at ran
  obtain ⟨_, recovered, _, ran⟩ := bind_eq_ok.mp ran
  rw [transit_bind rfl] at ran
  cases ran
  rfl

theorem rollBack_quiet {machine : StateMachine} (record : ExecutionRecord) (message : String)
    (property : Event → Prop) (fallible : StateMachine.canTransition machine.state .failed = true) :
    Keeps (OnlyRuntime property)
      (core.rollBack machine record message :
        Effect (World Env Evidence Budget Governor) ExecutionRecord) := by
  rw [rollBack, transit_bind fallible]
  apply Effect.Keeps.bind OnlyRuntime.trans (onEnv_quiet property _)
  intro _
  rw [transit_bind rfl]
  exact Effect.Keeps.pure OnlyRuntime.refl _

theorem abort_quiet (core : NoumenonCore Env) (request : TrustedExecutionRequest)
    (message : String) (property : Event → Prop) :
    Keeps (OnlyRuntime property)
      (core.abort ⟨.executing⟩ request message :
        Effect (World Env Evidence Budget Governor) ExecutionRecord) := by
  rw [abort, transit_bind rfl]
  apply Effect.Keeps.bind OnlyRuntime.trans (onEnv_quiet property _)
  intro _
  rw [transit_bind rfl]
  exact Effect.Keeps.pure OnlyRuntime.refl _

/-- An execution whose plan failed never completes. -/
theorem abort_ok {record : ExecutionRecord} {message : String}
    {before after : World Env Evidence Budget Governor}
    (ran : core.abort ⟨.executing⟩ request message before = (.ok record, after)) :
    record.finalStatus = "RolledBack" := by
  rw [abort, transit_bind rfl] at ran
  obtain ⟨_, recovered, _, ran⟩ := bind_eq_ok.mp ran
  rw [transit_bind rfl] at ran
  cases ran
  rfl

section
variable (core : NoumenonCore Env) (request : TrustedExecutionRequest) (record : ExecutionRecord)

theorem validate_onlyVerdicts :
    Keeps (OnlyRuntime (·.isVerdict))
      (core.validate request record :
        Effect (World Env Evidence Budget Governor) (Except String Unit)) := by
  rw [validate]
  split
  · refine Effect.Keeps.bind OnlyRuntime.trans
      (Effect.Keeps.attempt (onEnv_quiet _ _)) fun result => ?_
    refine Effect.Keeps.bind OnlyRuntime.trans
      (OnlyRuntime.onRuntime (Only.log rfl)) fun _ => ?_
    exact Effect.Keeps.pure OnlyRuntime.refl _
  · exact Effect.Keeps.pure OnlyRuntime.refl _

theorem verify_onlyVerdicts :
    Keeps (OnlyRuntime (·.isVerdict))
      (core.verify ⟨.recordingEvidence⟩ request record :
        Effect (World Env Evidence Budget Governor) ExecutionRecord) := by
  rw [verify, transit_bind rfl]
  apply Effect.Keeps.bind OnlyRuntime.trans (validate_onlyVerdicts _ _ _)
  intro verdict
  cases verdict with
  | error message => exact rollBack_quiet _ _ _ rfl
  | ok _ =>
    rw [allowLearning]
    refine Effect.Keeps.bind OnlyRuntime.trans
      (Effect.Keeps.attempt (onEnv_quiet _ _)) fun allowed => ?_
    cases allowed with
    | error message => exact rollBack_quiet _ _ _ rfl
    | ok _ =>
      dsimp only
      rw [transit_bind rfl]
      exact Effect.Keeps.pure OnlyRuntime.refl _

end

/-- What the validator said before the answer is in the trace. -/
theorem validate_ok {record : ExecutionRecord} {verdict : Except String Unit}
    {before after : World Env Evidence Budget Governor}
    (ran : core.validate request record before = (.ok verdict, after))
    (validates : request.verificationSpec.validateOutput = true) :
    Saw [.validated record verdict] before.runtime after.runtime := by
  rw [validate, if_pos validates] at ran
  obtain ⟨result, asked, attempted, ran⟩ := bind_eq_ok.mp ran
  rw [bind_of_ok (log_apply _ _)] at ran
  cases attempted
  cases ran
  rfl

/-- A verification returns the record itself, which the validator has accepted if
it was asked, or a rolled back one. -/
theorem verify_ok {record result : ExecutionRecord}
    {before after : World Env Evidence Budget Governor}
    (ran : core.verify ⟨.recordingEvidence⟩ request record before = (.ok result, after)) :
    (result = record ∧ (request.verificationSpec.validateOutput = true →
          Saw [.validated record (.ok ())] before.runtime after.runtime)) ∨
      result.finalStatus = "RolledBack" := by
  rw [verify, transit_bind rfl] at ran
  obtain ⟨verdict, judged, validated, ran⟩ := bind_eq_ok.mp ran
  cases verdict with
  | error message =>
    rw [rollBack_ok rfl ran]
    exact Or.inr rfl
  | ok _ =>
    dsimp only at ran
    rw [allowLearning] at ran
    obtain ⟨allowed, asked, attempted, ran⟩ := bind_eq_ok.mp ran
    cases allowed with
    | error message =>
      rw [rollBack_ok rfl ran]
      exact Or.inr rfl
    | ok _ =>
      dsimp only at ran
      rw [transit_bind rfl] at ran
      obtain ⟨-, rfl⟩ := Prod.mk.inj attempted
      cases ran
      refine Or.inl ⟨rfl, fun validates => ?_⟩
      -- the learning gate has no access to the trace
      have accepted := validate_ok validated validates
      exact accepted

/-! ## Running and settling -/

section Perform

variable [EvidenceLedger Evidence] [BudgetLedger Budget]

def withRuntime (world : World Env Evidence Budget Governor) (runtime : KernelRuntime Env) :
    World Env Evidence Budget Governor :=
  { world with runtime }

/-- The world with its budget ledger replaced. -/
def withBudget (world : World Env Evidence Budget Governor) (budget : Budget) :
    World Env Evidence Budget Governor :=
  { world with budget }

def charge (request : TrustedExecutionRequest) (run : RecordedRun) : Effect Budget Unit :=
  BudgetLedger.consume (budgetAccountId request) (totalCost run.stepRecords)

variable {entered : World Env Evidence Budget Governor}

theorem perform_of_failed {message : String} {runtime : KernelRuntime Env}
    (failed : runPlan core.capabilities request entered.runtime = (.error message, runtime)) :
    core.perform ⟨.enforcing⟩ request entered =
      core.abort ⟨.executing⟩ request message (withRuntime entered runtime) := by
  have attempted : attempt (onRuntime (runPlan core.capabilities request)) entered =
      (.ok (.error message), withRuntime entered runtime) := by
    rw [attempt_apply, onRuntime, zoom_apply, failed]
    rfl
  rw [perform, transit_bind rfl, bind_of_ok attempted]

theorem perform_of_ran {outputs : List StepExecutionOutput} {runtime : KernelRuntime Env}
    (ran : runPlan core.capabilities request entered.runtime = (.ok outputs, runtime)) :
    core.perform ⟨.enforcing⟩ request entered =
      core.settle ⟨.executing⟩ request outputs (withRuntime entered runtime) := by
  have attempted : attempt (onRuntime (runPlan core.capabilities request)) entered =
      (.ok (.ok outputs), withRuntime entered runtime) := by
    rw [attempt_apply, onRuntime, zoom_apply, ran]
    rfl
  rw [perform, transit_bind rfl, bind_of_ok attempted]

section
variable {outputs : List StepExecutionOutput}

theorem settle_of_unrecorded {message : String} {before after : World Env Evidence Budget Governor}
    (failed : core.recordEvidence request outputs before = (.error message, after)) :
    core.settle ⟨.executing⟩ request outputs before = (.error message, after) := by
  rw [settle, transit_bind rfl, bind_of_error failed]

section
variable {run : RecordedRun} {before recorded : World Env Evidence Budget Governor}

theorem settle_of_uncharged {message : String} {budget : Budget}
    (written : core.recordEvidence request outputs before = (.ok run, recorded))
    (refused : charge request run recorded.budget = (.error message, budget)) :
    core.settle ⟨.executing⟩ request outputs before =
      (.error message, withBudget recorded budget) := by
  have asked : onBudget (charge request run) recorded =
      (.error message, withBudget recorded budget) := by
    rw [onBudget, zoom_apply, refused]
    rfl
  rw [settle, transit_bind rfl, bind_of_ok written, ← charge, bind_of_error asked]

theorem settle_of_charged
    {budget : Budget} (written : core.recordEvidence request outputs before = (.ok run, recorded))
    (charged : charge request run recorded.budget = (.ok (), budget)) :
    core.settle ⟨.executing⟩ request outputs before =
      core.verify ⟨.recordingEvidence⟩ request (completedRecord core request run)
        (withBudget recorded budget) := by
  have asked : onBudget (charge request run) recorded =
      (.ok (), withBudget recorded budget) := by
    rw [onBudget, zoom_apply, charged]
    rfl
  rw [settle, transit_bind rfl, bind_of_ok written, ← charge, bind_of_ok asked]

end

end

/-- How an execution behind its gates can end. -/
inductive Performed (core : NoumenonCore Env) (request : TrustedExecutionRequest)
    (entered : World Env Evidence Budget Governor) :
    Except String ExecutionRecord × World Env Evidence Budget Governor → Prop
  | failed {message : String} {runtime : KernelRuntime Env}
      (planFailed : runPlan core.capabilities request entered.runtime = (.error message, runtime)) :
      Performed core request entered
        (core.abort ⟨.executing⟩ request message (withRuntime entered runtime))
  | unrecorded {outputs : List StepExecutionOutput} {runtime : KernelRuntime Env}
      {message : String} {stopped : World Env Evidence Budget Governor}
      (planRan : runPlan core.capabilities request entered.runtime = (.ok outputs, runtime))
      (notWritten : core.recordEvidence request outputs (withRuntime entered runtime) =
        (.error message, stopped)) :
      Performed core request entered (.error message, stopped)
  | uncharged {outputs : List StepExecutionOutput} {runtime : KernelRuntime Env}
      {run : RecordedRun} {recorded : World Env Evidence Budget Governor}
      {message : String} {budget : Budget}
      (planRan : runPlan core.capabilities request entered.runtime = (.ok outputs, runtime))
      (written : core.recordEvidence request outputs (withRuntime entered runtime) =
        (.ok run, recorded))
      (refused : charge request run recorded.budget = (.error message, budget)) :
      Performed core request entered (.error message, withBudget recorded budget)
  | settled {outputs : List StepExecutionOutput} {runtime : KernelRuntime Env}
      {run : RecordedRun} {recorded : World Env Evidence Budget Governor} {budget : Budget}
      (planRan : runPlan core.capabilities request entered.runtime = (.ok outputs, runtime))
      (written : core.recordEvidence request outputs (withRuntime entered runtime) =
        (.ok run, recorded))
      (charged : charge request run recorded.budget = (.ok (), budget)) :
      Performed core request entered
        (core.verify ⟨.recordingEvidence⟩ request (completedRecord core request run)
          (withBudget recorded budget))

theorem perform_performed (core : NoumenonCore Env) (request : TrustedExecutionRequest)
    (entered : World Env Evidence Budget Governor) :
    Performed core request entered (core.perform ⟨.enforcing⟩ request entered) := by
  cases planRan : runPlan core.capabilities request entered.runtime with
  | mk answer runtime =>
    cases answer with
    | error message =>
      rw [perform_of_failed planRan]
      exact .failed planRan
    | ok outputs =>
      rw [perform_of_ran planRan]
      cases written : core.recordEvidence request outputs (withRuntime entered runtime) with
      | mk answer recorded =>
        cases answer with
        | error message =>
          rw [settle_of_unrecorded written]
          exact .unrecorded planRan written
        | ok run =>
          cases charged : charge request run recorded.budget with
          | mk answer budget =>
            cases answer with
            | error message =>
              rw [settle_of_uncharged written charged]
              exact .uncharged planRan written charged
            | ok _ =>
              rw [settle_of_charged written charged]
              exact .settled planRan written charged

end Perform

/-! ## Completed executions -/

structure Completion [EvidenceLedger Evidence] (core : NoumenonCore Env)
    (request : TrustedExecutionRequest) (before after : World Env Evidence Budget Governor)
    (record : ExecutionRecord) where
  requests : List SyscallRequest
  outputs : List StepExecutionOutput
  boundAt : U128
  events : List EvidenceRecord
  run : RecordedRun
  verdicts : List Event
  order : ExecutionOrder request.plan.steps requests
  outputsOf : List.Forall₂ OutputOf requests outputs
  recorded : StepsRecorded core request (contextEvidence core request boundAt).recordHash
    outputs events run.stepRecords
  evidenceIds : run.evidenceIds =
    (contextEvidence core request boundAt :: events).map (·.recordId)
  record_eq : record = completedRecord core request run
  onlyVerdicts : ∀ event ∈ verdicts, event.isVerdict = true
  validated : request.verificationSpec.validateOutput = true →
    verdicts = [.validated record (.ok ())]
  trace : Saw ((requiredGates request).map .accepted ++ (List.zipWith callOf requests outputs ++
        ((contextEvidence core request boundAt :: events).map .appended ++ verdicts)))
    before.runtime after.runtime
  appended : LawfulEvidenceLedger Evidence →
    Appended (contextEvidence core request boundAt :: events) before.evidence after.evidence

namespace Completion

variable [EvidenceLedger Evidence] {before after : World Env Evidence Budget Governor}
variable {record : ExecutionRecord}

section
variable (completion : Completion core request before after record)

theorem stepRecords_eq :
    record.stepRecords = completion.run.stepRecords :=
  congrArg (·.stepRecords) completion.record_eq

theorem evidenceRecordIds_eq :
    record.evidenceBundle.evidenceRecordIds =
      (contextEvidence core request completion.boundAt :: completion.events).map
        (·.recordId) :=
  (congrArg (·.evidenceBundle.evidenceRecordIds) completion.record_eq).trans
    completion.evidenceIds

end

end Completion

theorem execute_completed [EvidenceLedger Evidence] [BudgetLedger Budget]
    [ResourceGovernor Governor] {before : World Env Evidence Budget Governor}
    {record : ExecutionRecord} (succeeded : (core.execute request before).1 = .ok record)
    (completed : record.finalStatus = "Completed") :
    Nonempty (Completion core request before (core.execute request before).2 record) := by
  obtain ⟨after, ran⟩ := exists_run succeeded
  rw [ran]
  have notRolledBack : record.finalStatus ≠ "RolledBack" := by
    rw [completed]
    decide
  cases passed : core.entry request before with
  | mk answer entered =>
    cases answer with
    | error message =>
      obtain ⟨stopped, rejected, -⟩ := execute_of_rejected passed
      rw [rejected] at ran
      cases ran
    | ok _ =>
      obtain ⟨entry, shape⟩ := execute_of_entered passed
      rw [shape] at ran
      obtain ⟨returned, rfl⟩ := Prod.mk.inj ran
      have performed := perform_performed core request entered
      generalize core.perform ⟨.enforcing⟩ request entered = outcome at performed returned ⊢
      cases performed with
      | failed planFailed =>
        have rolledBack := abort_ok (Prod.ext returned rfl)
        exact absurd rolledBack notRolledBack
      | unrecorded planRan notWritten => cases returned
      | uncharged planRan written refused => cases returned
      | settled planRan written charged =>
        rename_i outputs runtime run recorded budget
        rcases verify_ok (Prod.ext returned rfl) with ⟨same, accepted⟩ | rolledBack
        · obtain ⟨requests, order, outputsOf, sawCalls⟩ := runPlan_ok planRan
          obtain ⟨boundAt, events, steps, ids, wrote⟩ := recordEvidence_ok written
          have verdict := verify_onlyVerdicts core request
            (completedRecord core request run) (withBudget recorded budget)
          obtain ⟨verdicts, sawVerdicts, onlyVerdicts⟩ := verdict.trace
          refine ⟨requests, outputs, boundAt, events, run, verdicts, order, outputsOf,
            steps, ids, same, onlyVerdicts, ?validated, ?trace, ?appended⟩
          case validated =>
            intro validates
            rw [same]
            exact sawVerdicts.unique (accepted validates)
          case trace =>
            exact entry.saw.trans (sawCalls.trans (wrote.saw.trans sawVerdicts))
          case appended =>
            intro lawful
            have grown := wrote.appended lawful
            have unchanged := verdict.evidence
            rw [dropped, withResources, unchanged, withBudget, ← entry.evidence]
            exact grown
        · exact absurd rolledBack notRolledBack

end AutoLoop.NoumenonCore
