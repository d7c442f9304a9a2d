import AutoLoop.Foundation.Text
import AutoLoop.NoumenonCore.Runtime
import AutoLoop.NoumenonCore.Syscall
import Mathlib.Algebra.BigOperators.Group.List.Basic

/-!
# Model routing

A router selects one of the candidate models of a step, either in turn or always
the pinned one.  Its cursor is the state it works on.
-/

namespace AutoLoop.NoumenonCore

open Text

/-- The trait `LlmBackend`. -/
structure LlmBackend (Env : Type) where
  name : String
  infer : String → Effect Env String

inductive RoutingStrategy where
  | sequential
  | pinned
  deriving DecidableEq, Repr

structure ModelRouter where
  strategy : RoutingStrategy
  pinnedModel : Option String
  deriving DecidableEq, Repr

namespace ModelRouter

def sequential : ModelRouter := ⟨.sequential, none⟩

def pinned (model : String) : ModelRouter := ⟨.pinned, some model⟩

def select (router : ModelRouter) (candidates : List String) : Effect UInt64 String :=
  fun cursor =>
    match candidates with
    | [] => (.error "no candidate models available", cursor)
    | first :: rest =>
      match router.strategy with
      | .pinned =>
        match router.pinnedModel with
        | none => (.error "pinned model missing", cursor)
        | some model =>
          if model ∈ candidates then
            (.ok model, cursor)
          else
            (.error "pinned model not found in candidates", cursor)
      | .sequential =>
        let index := cursor.toNat % candidates.length
        (.ok ((first :: rest).getD index first), saturatingAdd cursor 1)

end ModelRouter

def parseModelCandidates (localConstraints : HashMap String String)
    (allModels : List String) : List String :=
  match localConstraints.get "model_candidates" with
  | some raw =>
    let listed := ((split ',' raw).map trim).filter (· ≠ "")
    if listed.isEmpty then allModels else listed
  | none => allModels

end AutoLoop.NoumenonCore

/-!
## Execution of a plan

The capability registry and `run_plan`, which queues one syscall for each step
and executes them in drain order.  A successful run is described by the requests
in the order of execution: they are the submitted steps in some order, each of
them was called exactly once with the step's own input, and the outputs stand in
the same order.
-/

namespace AutoLoop.NoumenonCore

open SyscallScheduler List Effect Effect Effect.Keeps

variable {Env : Type}

/-- The trait `CapabilityAdapter`. -/
structure CapabilityAdapter (Env : Type) where
  capabilityName : String
  execute : String → Effect Env String

/-- Adapters and model backends.  The backends of the source's hash map are
listed in the order in which its iterator visits them. -/
structure CapabilityRegistry (Env : Type) where
  adapters : List (CapabilityAdapter Env)
  llmBackends : List (LlmBackend Env)
  llmBackends_nodup : (llmBackends.map (·.name)).Nodup
  router : Option ModelRouter

namespace CapabilityRegistry

def new : CapabilityRegistry Env where
  adapters := []
  llmBackends := []
  llmBackends_nodup := nodup_nil
  router := none

section
variable (registry : CapabilityRegistry Env)

def register (adapter : CapabilityAdapter Env) :
    CapabilityRegistry Env :=
  { registry with adapters := registry.adapters ++ [adapter] }

/-- A backend replaces an earlier one of the same name. -/
def registerLlmBackend (backend : LlmBackend Env) :
    CapabilityRegistry Env :=
  { registry with
    llmBackends := registry.llmBackends.filter (·.name ≠ backend.name) ++ [backend]
    llmBackends_nodup := by
      rw [map_append, nodup_append]
      refine ⟨registry.llmBackends_nodup.sublist (filter_sublist.map _), by simp, ?_⟩
      intro name nameMem other otherMem
      obtain ⟨kept, keptMem, rfl⟩ := mem_map.mp nameMem
      obtain rfl : other = backend.name := by simpa using otherMem
      exact of_decide_eq_true (mem_filter.mp keptMem).2 }

def setRouter (router : ModelRouter) :
    CapabilityRegistry Env :=
  { registry with router := some router }

end

/-- Run an adapter or backend, which the trace records. -/
def invoke (capability input : String) (action : Effect Env String) :
    Effect (KernelRuntime Env) String := do
  let result ← attempt (KernelRuntime.onEnv action)
  KernelRuntime.log (.called capability input result)
  ofExcept result

def execute (registry : CapabilityRegistry Env) (capability input : String) :
    Effect (KernelRuntime Env) String :=
  match registry.adapters.find? (·.capabilityName = capability) with
  | some adapter => invoke capability input (adapter.execute input)
  | none => fail ("capability not found: " ++ capability)

def executeLlmRouted (registry : CapabilityRegistry Env) (step : ExecutionStep)
    (input : String) : Effect (KernelRuntime Env) String :=
  if registry.llmBackends.isEmpty then
    fail "no llm backends registered"
  else
    let allModels := registry.llmBackends.map (·.name)
    let candidates := parseModelCandidates step.localConstraints allModels
    match registry.router with
    | none => fail "model router is not configured"
    | some router => do
        let selected ← zoom (·.routerCursor)
          (fun routerCursor runtime => { runtime with routerCursor })
          (router.select candidates)
        match registry.llmBackends.find? (·.name = selected) with
        | some backend => invoke "llm.route" input (backend.infer input)
        | none => fail ("selected model backend not found: " ++ selected)

/-- What `execute_syscall` charges for a capability. -/
def syscallCost (capability : String) : UInt64 :=
  if capability = "llm.route" then 2 else 1

def executeSyscall (registry : CapabilityRegistry Env) (request : SyscallRequest)
    (step : ExecutionStep) : Effect (KernelRuntime Env) (String × UInt64) :=
  if request.capability = "llm.route" then do
    let output ← registry.executeLlmRouted step request.input
    pure (output, 2)
  else do
    let output ← registry.execute request.capability request.input
    pure (output, 1)

end CapabilityRegistry

structure StepExecutionOutput where
  stepId : String
  output : String
  costUnits : UInt64
  deriving DecidableEq, Repr

namespace KernelExecutor

def stepPriority (step : ExecutionStep) : UInt8 :=
  (((step.localConstraints.get "priority").bind (Text.parseUnsigned (2 ^ 8))).map
    UInt8.ofNat).getD 1

/-- The first loop of `run_plan`: queue a request for every step. -/
def submitSteps : SyscallScheduler → List ExecutionStep → Except String SyscallScheduler
  | scheduler, [] => .ok scheduler
  | scheduler, step :: rest =>
    match step.capabilityRef with
    | none => .error ("step " ++ step.stepId ++ " missing capability_ref")
    | some capability =>
      submitSteps
        (scheduler.submit step.stepId capability step.input (stepPriority step)) rest

/-- The step that a syscall or an output is attributed to: the first one with
its id. -/
def findStep (steps : List ExecutionStep) (stepId : String) : Option ExecutionStep :=
  steps.find? (·.stepId = stepId)

/-- The executor that `run_plan` hands to the scheduler. -/
def executeRequest (registry : CapabilityRegistry Env) (steps : List ExecutionStep)
    (request : SyscallRequest) : Effect (KernelRuntime Env) (String × UInt64) :=
  match findStep steps request.stepId with
  | some step => registry.executeSyscall request step
  | none => fail ("step not found for syscall: " ++ request.stepId)

def toOutput (response : SyscallResponse) : StepExecutionOutput where
  stepId := response.stepId
  output := response.output
  costUnits := response.costUnits

def runPlan (registry : CapabilityRegistry Env) (request : TrustedExecutionRequest) :
    Effect (KernelRuntime Env) (List StepExecutionOutput) := do
  let steps := request.plan.steps
  let scheduler ← ofExcept (submitSteps {} steps)
  let responses ← scheduler.drain (executeRequest registry steps)
  pure (responses.map toOutput)

/-! ## What a run does -/

open CapabilityRegistry KernelRuntime

structure SubmittedFor (step : ExecutionStep) (request : SyscallRequest) : Prop where
  capability : step.capabilityRef = some request.capability
  stepId : request.stepId = step.stepId
  input : request.input = step.input

/-- The requests are those of the steps, each exactly once, in some order. -/
def ExecutionOrder (steps : List ExecutionStep) (requests : List SyscallRequest) : Prop :=
  ∃ queued, List.Forall₂ SubmittedFor steps queued ∧ requests.Perm queued

theorem ExecutionOrder.length_eq {steps : List ExecutionStep}
    {requests : List SyscallRequest} (order : ExecutionOrder steps requests) :
    requests.length = steps.length := by
  obtain ⟨queued, submitted, perm⟩ := order
  exact perm.length_eq.trans submitted.length_eq.symm

structure OutputOf (request : SyscallRequest) (output : StepExecutionOutput) : Prop where
  stepId : output.stepId = request.stepId
  costUnits : output.costUnits = syscallCost request.capability

def callOf (request : SyscallRequest) (output : StepExecutionOutput) : Event :=
  .called request.capability request.input (.ok output.output)

theorem isCall_of_mem_zipWith {requests : List SyscallRequest}
    {outputs : List StepExecutionOutput} {event : Event}
    (membership : event ∈ List.zipWith callOf requests outputs) : event.isCall = true := by
  rw [← map_uncurry_zip_eq_zipWith] at membership
  obtain ⟨pair, -, rfl⟩ := mem_map.mp membership
  rfl

theorem submitSteps_ok {scheduler final : SyscallScheduler} {steps : List ExecutionStep}
    (submitted : submitSteps scheduler steps = .ok final) :
    ∃ queued, final.queue = scheduler.queue ++ queued ∧
      List.Forall₂ SubmittedFor steps queued := by
  induction steps generalizing scheduler with
  | nil =>
    cases submitted
    exact ⟨[], by simp, .nil⟩
  | cons step rest ih =>
    rw [submitSteps] at submitted
    split at submitted
    · cases submitted
    · next capability hasCapability =>
      obtain ⟨queued, shape, matched⟩ := ih submitted
      rw [submit, append_assoc] at shape
      exact ⟨_, shape, .cons ⟨hasCapability, rfl, rfl⟩ matched⟩

theorem invoke_ok {capability input output : String} {action : Effect Env String}
    {before after : KernelRuntime Env}
    (ran : invoke capability input action before = (.ok output, after)) :
    Saw [.called capability input (.ok output)] before after := by
  obtain ⟨result, middle, attempted, rest⟩ := bind_eq_ok.mp ran
  obtain ⟨_, logged, wrote, returned⟩ := bind_eq_ok.mp rest
  cases attempted
  cases wrote
  obtain ⟨isOk, rfl⟩ := Prod.mk.inj returned
  rw [isOk]
  rfl

section
variable {registry : CapabilityRegistry Env}

theorem execute_ok {capability input output : String} {before after : KernelRuntime Env}
    (ran : registry.execute capability input before = (.ok output, after)) :
    Saw [.called capability input (.ok output)] before after := by
  rw [CapabilityRegistry.execute] at ran
  cases found : registry.adapters.find? (·.capabilityName = capability) with
  | none =>
    rw [found] at ran
    cases ran
  | some adapter =>
    rw [found] at ran
    exact invoke_ok ran

theorem executeLlmRouted_ok {step : ExecutionStep}
    {input output : String} {before after : KernelRuntime Env}
    (ran : registry.executeLlmRouted step input before = (.ok output, after)) :
    Saw [.called "llm.route" input (.ok output)] before after := by
  rw [executeLlmRouted] at ran
  by_cases noBackends : registry.llmBackends.isEmpty
  · rw [if_pos noBackends] at ran
    cases ran
  · rw [if_neg noBackends] at ran
    cases hasRouter : registry.router with
    | none =>
      simp only [hasRouter] at ran
      cases ran
    | some router =>
      simp only [hasRouter] at ran
      obtain ⟨selected, middle, chose, inferred⟩ := bind_eq_ok.mp ran
      obtain ⟨-, rfl⟩ := Prod.mk.inj chose
      cases found : registry.llmBackends.find? (·.name = selected) with
      | none =>
        rw [found] at inferred
        cases inferred
      | some backend =>
        rw [found] at inferred
        have called := invoke_ok inferred
        exact called

theorem executeRequest_ok {steps : List ExecutionStep}
    {request : SyscallRequest} {result : String × UInt64} {before after : KernelRuntime Env}
    (ran : executeRequest registry steps request before = (.ok result, after)) :
    Saw [.called request.capability request.input (.ok result.1)] before after ∧
      result.2 = syscallCost request.capability := by
  rw [executeRequest] at ran
  cases found : findStep steps request.stepId with
  | none =>
    rw [found] at ran
    cases ran
  | some step =>
    rw [found] at ran
    simp only [executeSyscall] at ran
    by_cases routed : request.capability = "llm.route"
    · rw [if_pos routed] at ran
      obtain ⟨output, middle, inferred, returned⟩ := bind_eq_ok.mp ran
      cases returned
      rw [syscallCost, if_pos routed, routed]
      exact ⟨executeLlmRouted_ok inferred, rfl⟩
    · rw [if_neg routed] at ran
      obtain ⟨output, middle, executed, returned⟩ := bind_eq_ok.mp ran
      cases returned
      rw [syscallCost, if_neg routed]
      exact ⟨execute_ok executed, rfl⟩

theorem executeAll_ok {steps : List ExecutionStep} {requests : List SyscallRequest}
    {responses : List SyscallResponse} {before after : KernelRuntime Env}
    (ran : executeAll (executeRequest registry steps) requests before = (.ok responses, after)) :
    List.Forall₂ OutputOf requests (responses.map toOutput) ∧
      Saw (List.zipWith callOf requests (responses.map toOutput)) before after := by
  induction requests generalizing responses before with
  | nil =>
    cases ran
    exact ⟨.nil, Saw.refl _⟩
  | cons request rest ih =>
    obtain ⟨result, middle, executed, continued⟩ := bind_eq_ok.mp ran
    obtain ⟨later, last, ranRest, returned⟩ := bind_eq_ok.mp continued
    cases returned
    obtain ⟨called, charged⟩ := executeRequest_ok executed
    obtain ⟨outputs, sawRest⟩ := ih ranRest
    exact ⟨.cons ⟨rfl, charged⟩ outputs, called.trans sawRest⟩

theorem runPlan_ok {request : TrustedExecutionRequest}
    {outputs : List StepExecutionOutput} {before after : KernelRuntime Env}
    (ran : runPlan registry request before = (.ok outputs, after)) :
    ∃ requests, ExecutionOrder request.plan.steps requests ∧
      List.Forall₂ OutputOf requests outputs ∧
      Saw (List.zipWith callOf requests outputs) before after := by
  obtain ⟨scheduler, start, submitted, drained⟩ := bind_eq_ok.mp ran
  obtain ⟨isOk, rfl⟩ := Prod.mk.inj submitted
  obtain ⟨responses, finish, executed, returned⟩ := bind_eq_ok.mp drained
  cases returned
  obtain ⟨queued, shape, matched⟩ := submitSteps_ok isOk
  rw [nil_append] at shape
  rw [drain_eq_executeAll, shape] at executed
  obtain ⟨outputsOf, saw⟩ := executeAll_ok executed
  exact ⟨_, ⟨queued, matched, SyscallQueue.drainOrder_perm queued⟩, outputsOf, saw⟩

end

section
variable {steps : List ExecutionStep} {requests : List SyscallRequest}
  (order : ExecutionOrder steps requests)
include order

theorem stepIds_perm :
    (requests.map (·.stepId)).Perm (steps.map (·.stepId)) := by
  obtain ⟨queued, submitted, perm⟩ := order
  have sameIds : queued.map (·.stepId) = steps.map (·.stepId) := by
    clear perm
    induction submitted with
    | nil => rfl
    | cons submitted _ ih => rw [map_cons, map_cons, ih, submitted.stepId]
  rw [← sameIds]
  exact perm.map _

theorem exists_step_of_mem {call : SyscallRequest}
    (membership : call ∈ requests) : ∃ step ∈ steps, SubmittedFor step call := by
  obtain ⟨queued, submitted, perm⟩ := order
  have queuedMem := perm.mem_iff.mp membership
  clear perm membership
  induction submitted with
  | nil => cases queuedMem
  | cons submitted _ ih =>
    rcases mem_cons.mp queuedMem with rfl | inRest
    · exact ⟨_, by simp, submitted⟩
    · obtain ⟨step, stepMem, stepSubmitted⟩ := ih inRest
      exact ⟨step, by simp [stepMem], stepSubmitted⟩

end

theorem outputs_stepIds {requests : List SyscallRequest} {outputs : List StepExecutionOutput}
    (outputsOf : List.Forall₂ OutputOf requests outputs) :
    outputs.map (·.stepId) = requests.map (·.stepId) := by
  induction outputsOf with
  | nil => rfl
  | cons outputOf _ ih => rw [map_cons, map_cons, ih, outputOf.stepId]

theorem outputs_found {steps : List ExecutionStep} {requests : List SyscallRequest}
    {outputs : List StepExecutionOutput} (order : ExecutionOrder steps requests)
    (outputsOf : List.Forall₂ OutputOf requests outputs) :
    ∀ output ∈ outputs, (findStep steps output.stepId).isSome = true := by
  intro output membership
  have ran : output.stepId ∈ requests.map (·.stepId) := by
    rw [← outputs_stepIds outputsOf]
    exact mem_map_of_mem membership
  obtain ⟨step, stepMem, sameId⟩ := mem_map.mp ((stepIds_perm order).mem_iff.mp ran)
  exact find?_isSome.mpr ⟨step, stepMem, decide_eq_true sameId⟩

theorem submitSteps_accepts {steps : List ExecutionStep}
    (named : ∀ step ∈ steps, step.capabilityRef.isSome = true) (scheduler : SyscallScheduler) :
    ∃ final, submitSteps scheduler steps = .ok final := by
  induction steps generalizing scheduler with
  | nil => exact ⟨scheduler, rfl⟩
  | cons step rest ih =>
    obtain ⟨capability, hasCapability⟩ := Option.isSome_iff_exists.mp (named step (by simp))
    rw [submitSteps, hasCapability]
    exact ih (fun other membership => named other (by simp [membership])) _

theorem runPlan_of_executeAll (registry : CapabilityRegistry Env)
    {request : TrustedExecutionRequest}
    (named : ∀ step ∈ request.plan.steps, step.capabilityRef.isSome = true) :
    ∃ requests, ExecutionOrder request.plan.steps requests ∧
      ∀ {responses : List SyscallResponse} {before after : KernelRuntime Env},
        executeAll (executeRequest registry request.plan.steps) requests
          before = (.ok responses, after) →
        runPlan registry request before = (.ok (responses.map toOutput), after) := by
  obtain ⟨scheduler, submitted⟩ := submitSteps_accepts named {}
  obtain ⟨queued, shape, matched⟩ := submitSteps_ok submitted
  rw [nil_append] at shape
  refine ⟨_, ⟨queued, matched, SyscallQueue.drainOrder_perm queued⟩, ?_⟩
  intro responses before after executed
  rw [← shape, ← drain_eq_executeAll] at executed
  rw [runPlan, submitted, bind_of_ok (ofExcept_apply _ _), bind_of_ok executed]
  rfl

/-! ## Costs -/

/-- The number of steps that call a model through the router. -/
def routedSteps (steps : List ExecutionStep) : Nat :=
  steps.countP fun step => step.capabilityRef = some "llm.route"

theorem syscallCost_toNat (capability : String) :
    (syscallCost capability).toNat = 1 + if capability = "llm.route" then 1 else 0 := by
  rw [syscallCost]
  split
  · rfl
  · rfl

theorem outputs_cost {steps : List ExecutionStep} {requests : List SyscallRequest}
    {outputs : List StepExecutionOutput} (order : ExecutionOrder steps requests)
    (outputsOf : List.Forall₂ OutputOf requests outputs) :
    (outputs.map (·.costUnits.toNat)).sum = steps.length + routedSteps steps := by
  obtain ⟨queued, submitted, perm⟩ := order
  have charged : outputs.map (·.costUnits.toNat) =
      requests.map fun request => (syscallCost request.capability).toNat := by
    clear perm
    induction outputsOf with
    | nil => rfl
    | cons outputOf _ ih => rw [map_cons, map_cons, ih, outputOf.costUnits]
  have ofSteps : (queued.map fun request => (syscallCost request.capability).toNat).sum =
      steps.length + routedSteps steps := by
    clear perm
    induction submitted with
    | nil => rfl
    | cons submitted _ ih =>
      rw [map_cons, sum_cons, ih, syscallCost_toNat, routedSteps, routedSteps,
        countP_cons, submitted.capability, length_cons]
      simp only [Option.some.injEq, decide_eq_true_eq]
      omega
  rw [charged, (perm.map _).sum_eq, ofSteps]

theorem routedSteps_eq_zero_iff (steps : List ExecutionStep) :
    routedSteps steps = 0 ↔ ∀ step ∈ steps, step.capabilityRef ≠ some "llm.route" := by
  rw [routedSteps, countP_eq_zero]
  simp only [decide_eq_true_eq]

theorem routedSteps_le_length (steps : List ExecutionStep) :
    routedSteps steps ≤ steps.length :=
  countP_le_length

/-! ## Frames -/

theorem invoke_onlyCalls (capability input : String) (action : Effect Env String) :
    Keeps (Only (·.isCall)) (invoke capability input action) := by
  refine bind Only.trans (attempt (Only.onEnv action)) ?_
  intro result
  refine bind Only.trans (Only.log rfl) ?_
  exact fun _ => ofExcept Only.refl result

section
variable (registry : CapabilityRegistry Env)

theorem execute_onlyCalls (capability input : String) :
    Keeps (Only (·.isCall)) (registry.execute capability input) := by
  rw [CapabilityRegistry.execute]
  split
  · exact invoke_onlyCalls _ _ _
  · exact fail Only.refl _

theorem executeLlmRouted_onlyCalls (step : ExecutionStep) (input : String) :
    Keeps (Only (·.isCall)) (registry.executeLlmRouted step input) := by
  rw [executeLlmRouted]
  split
  · exact fail Only.refl _
  · dsimp only
    split
    · exact fail Only.refl _
    · refine bind Only.trans ?select ?infer
      case select => exact fun runtime => ⟨[], Saw.refl runtime, by simp⟩
      case infer =>
        intro selected
        split
        · exact invoke_onlyCalls _ _ _
        · exact fail Only.refl _

theorem executeRequest_onlyCalls (steps : List ExecutionStep) (request : SyscallRequest) :
    Keeps (Only (·.isCall)) (executeRequest registry steps request) := by
  rw [executeRequest]
  split
  · rw [executeSyscall]
    split
    · refine bind Only.trans (executeLlmRouted_onlyCalls _ _ _) ?_
      exact fun output => Effect.Keeps.pure Only.refl _
    · refine bind Only.trans (execute_onlyCalls _ _ _) ?_
      exact fun output => Effect.Keeps.pure Only.refl _
  · exact fail Only.refl _

theorem executeAll_onlyCalls (steps : List ExecutionStep) (requests : List SyscallRequest) :
    Keeps (Only (·.isCall))
      (executeAll (executeRequest registry steps) requests) := by
  induction requests with
  | nil => exact Effect.Keeps.pure Only.refl _
  | cons request rest ih =>
    refine bind Only.trans (executeRequest_onlyCalls _ _ _) ?_
    intro result
    refine bind Only.trans ih ?_
    exact fun later => Effect.Keeps.pure Only.refl _

theorem runPlan_onlyCalls (request : TrustedExecutionRequest) :
    Keeps (Only (·.isCall)) (runPlan registry request) := by
  refine bind Only.trans (ofExcept Only.refl _) ?_
  intro scheduler
  rw [drain_eq_executeAll]
  refine bind Only.trans (executeAll_onlyCalls _ _ _) ?_
  exact fun responses => Effect.Keeps.pure Only.refl _

end

end KernelExecutor

end AutoLoop.NoumenonCore
