import AutoLoop.NoumenonCore.Authorities
import AutoLoop.NoumenonCore.Kernel.Settlement

/-!
# Soundness of the mandatory path

The order of effects in every call of `execute`, for arbitrary authorities: all
gates accept before anything is called or recorded, a rejected execution leaves
the ledgers and the governor as they were, evidence follows a complete run, and a
completed execution has been validated if its request asks for it.
-/

namespace AutoLoop.NoumenonCore

open World KernelRuntime KernelExecutor List

variable {Env Evidence Budget Governor : Type}
variable {core : NoumenonCore Env} {request : TrustedExecutionRequest}

/-! ## Observations on a trace -/

namespace Event

def accepted? : Event → Option Gate
  | .accepted gate => some gate
  | _ => none

/-- A call or an append: what the gates protect. -/
def isEffect (event : Event) : Bool := event.isCall || event.isAppend

def succeeded? : Event → Option (Option String × String)
  | .called capability input (.ok _) => some (some capability, input)
  | _ => none

def isFailedCall : Event → Bool
  | .called _ _ (.error _) => true
  | _ => false

end Event

def RanWholePlan (request : TrustedExecutionRequest) (events : List Event) : Prop :=
  (events.filterMap Event.succeeded?).Perm
      (request.plan.steps.map fun step => (step.capabilityRef, step.input)) ∧
    ∀ event ∈ events, event.isFailedCall = false

theorem split_after {first rest pre post : List Event} {event : Event}
    (split : first ++ rest = pre ++ event :: post) (notInFirst : event ∉ first) :
    ∃ middle, pre = first ++ middle ∧ rest = middle ++ event :: post := by
  rcases append_eq_append_iff.mp split with ⟨gap, shape, tail⟩ | ⟨gap, shape, tail⟩
  · exact ⟨gap, shape, tail⟩
  · cases gap with
    | nil =>
      rw [append_nil] at shape
      exact ⟨[], by simp [shape], by simpa using tail.symm⟩
    | cons head gap =>
      obtain ⟨rfl, -⟩ := List.cons.inj tail
      exact absurd (by simp [shape]) notInFirst

/-! ## The trace behind the gates -/

structure RunTrace (request : TrustedExecutionRequest) (events : List Event) where
  calls : List Event
  appends : List Event
  verdicts : List Event
  shape : events = calls ++ (appends ++ verdicts)
  onlyCalls : ∀ event ∈ calls, event.isCall = true
  onlyAppends : ∀ event ∈ appends, event.isAppend = true
  onlyVerdicts : ∀ event ∈ verdicts, event.isVerdict = true
  complete : appends ≠ [] → RanWholePlan request calls

theorem ranWholePlan_of_run {requests : List SyscallRequest} {outputs : List StepExecutionOutput}
    (order : ExecutionOrder request.plan.steps requests)
    (outputsOf : List.Forall₂ OutputOf requests outputs) :
    RanWholePlan request (List.zipWith callOf requests outputs) := by
  obtain ⟨queued, submitted, perm⟩ := order
  constructor
  · have called : (List.zipWith callOf requests outputs).filterMap Event.succeeded? =
        requests.map fun call => (some call.capability, call.input) := by
      clear perm
      induction outputsOf with
      | nil => rfl
      | cons _ _ ih => exact congrArg (_ :: ·) ih
    have planned : (queued.map fun call => (some call.capability, call.input)) =
        request.plan.steps.map fun step => (step.capabilityRef, step.input) := by
      clear perm
      generalize request.plan.steps = steps at submitted
      induction submitted with
      | nil => rfl
      | cons submitted _ ih =>
        rw [map_cons, map_cons, ih, submitted.capability, submitted.input]
    rw [called, ← planned]
    exact perm.map _
  · intro event membership
    rw [← map_uncurry_zip_eq_zipWith] at membership
    obtain ⟨pair, -, rfl⟩ := mem_map.mp membership
    rfl

section Trace

variable [EvidenceLedger Evidence] [BudgetLedger Budget]

theorem performed_trace {entered : World Env Evidence Budget Governor}
    {outcome : Except String ExecutionRecord × World Env Evidence Budget Governor}
    (performed : Performed core request entered outcome) :
    ∃ events, Saw events entered.runtime outcome.2.runtime ∧
      Nonempty (RunTrace request events) := by
  cases performed with
  | failed planFailed =>
    rename_i message runtime
    obtain ⟨calls, sawCalls, onlyCalls⟩ :=
      (runPlan_onlyCalls core.capabilities request).of_run planFailed
    obtain ⟨verdicts, sawVerdicts, onlyVerdicts⟩ := (abort_quiet core request message
      (·.isVerdict) (withRuntime entered runtime)).trace
    refine ⟨_, sawCalls.trans sawVerdicts, ⟨calls, [], verdicts, rfl, onlyCalls, ?_,
      onlyVerdicts, ?_⟩⟩
    · simp
    · simp
  | unrecorded planRan notWritten =>
    obtain ⟨requests, order, outputsOf, sawCalls⟩ := runPlan_ok planRan
    obtain ⟨appends, sawAppends, onlyAppends⟩ :=
      ((recordEvidence_onlyRecords core request _).of_run notWritten).trace
    refine ⟨_, sawCalls.trans sawAppends, ⟨_, appends, [], ?_, fun _ => ?_, onlyAppends, ?_,
      fun _ => ranWholePlan_of_run order outputsOf⟩⟩
    · rw [append_nil]
    · exact isCall_of_mem_zipWith
    · simp
  | uncharged planRan written refused =>
    obtain ⟨requests, order, outputsOf, sawCalls⟩ := runPlan_ok planRan
    obtain ⟨appends, sawAppends, onlyAppends⟩ :=
      ((recordEvidence_onlyRecords core request _).of_run written).trace
    refine ⟨_, sawCalls.trans sawAppends, ⟨_, appends, [], ?_, fun _ => ?_, onlyAppends, ?_,
      fun _ => ranWholePlan_of_run order outputsOf⟩⟩
    · rw [append_nil]
    · exact isCall_of_mem_zipWith
    · simp
  | settled planRan written charged =>
    rename_i outputs runtime run recorded budget
    obtain ⟨requests, order, outputsOf, sawCalls⟩ := runPlan_ok planRan
    obtain ⟨appends, sawAppends, onlyAppends⟩ :=
      ((recordEvidence_onlyRecords core request _).of_run written).trace
    obtain ⟨verdicts, sawVerdicts, onlyVerdicts⟩ := (verify_onlyVerdicts core request
      (completedRecord core request run) (withBudget recorded budget)).trace
    exact ⟨_, sawCalls.trans (sawAppends.trans sawVerdicts),
      ⟨_, appends, verdicts, rfl, fun _ => isCall_of_mem_zipWith, onlyAppends,
        onlyVerdicts, fun _ => ranWholePlan_of_run order outputsOf⟩⟩

end Trace

/-! ## Parts of a trace -/

theorem not_isCall_of_isAppend {event : Event} (isAppend : event.isAppend = true) :
    event.isCall = false := by
  cases event with
  | appended record => rfl
  | accepted | refused | called | validated => cases isAppend

theorem not_isCall_of_isVerdict {event : Event} (isVerdict : event.isVerdict = true) :
    event.isCall = false := by
  cases event with
  | validated record result => rfl
  | accepted | refused | called | appended => cases isVerdict

theorem not_isEffect_of_isGate {event : Event} (isGate : event.isGate = true) :
    event.isEffect = false := by
  cases event with
  | accepted gate => rfl
  | refused gate => rfl
  | called | appended | validated => cases isGate

theorem ranWholePlan_iff_calls {events : List Event} :
    RanWholePlan request events ↔ RanWholePlan request (events.filter (·.isCall)) := by
  have sameSuccesses : (events.filter (·.isCall)).filterMap Event.succeeded? =
      events.filterMap Event.succeeded? := by
    rw [filterMap_filter]
    congr 1
    funext event
    cases event with
    | called capability input result => rfl
    | accepted | refused | appended | validated => rfl
  have sameFailures : (∀ event ∈ events.filter (·.isCall), event.isFailedCall = false) ↔
      ∀ event ∈ events, event.isFailedCall = false := by
    constructor
    · intro none event membership
      cases event with
      | called capability input result =>
        exact none _ (mem_filter.mpr ⟨membership, rfl⟩)
      | accepted | refused | appended | validated => rfl
    · exact fun none event membership => none event (mem_filter.mp membership).1
  rw [RanWholePlan, RanWholePlan, sameSuccesses, sameFailures]

namespace RunTrace

variable {events : List Event}

section
variable (run : RunTrace request events)
include run

theorem after_calls :
    ∀ event ∈ run.appends ++ run.verdicts, event.isCall = false := by
  intro event membership
  rcases mem_append.mp membership with inAppends | inVerdicts
  · exact not_isCall_of_isAppend (run.onlyAppends event inAppends)
  · exact not_isCall_of_isVerdict (run.onlyVerdicts event inVerdicts)

theorem noGates :
    ∀ event ∈ events, event.isGate = false := by
  intro event membership
  rw [run.shape] at membership
  rcases mem_append.mp membership with inCalls | later
  · have isCall := run.onlyCalls event inCalls
    cases event with
    | called capability input result => rfl
    | accepted | refused | appended | validated => cases isCall
  · rcases mem_append.mp later with inAppends | inVerdicts
    · have isAppend := run.onlyAppends event inAppends
      cases event with
      | appended record => rfl
      | accepted | refused | called | validated => cases isAppend
    · have isVerdict := run.onlyVerdicts event inVerdicts
      cases event with
      | validated record result => rfl
      | accepted | refused | called | appended => cases isVerdict

theorem around_append {pre post : List Event}
    {record : EvidenceRecord} (split : events = pre ++ .appended record :: post) :
    RanWholePlan request pre ∧ ∀ event ∈ post, event.isCall = false := by
  have notCall : Event.appended record ∉ run.calls :=
    fun membership => Bool.noConfusion (run.onlyCalls _ membership)
  obtain ⟨middle, preShape, rest⟩ := split_after (run.shape ▸ split) notCall
  have later := run.after_calls
  rw [rest] at later
  have nonempty : run.appends ≠ [] := by
    intro empty
    have isVerdict : Event.appended record ∈ run.verdicts := by
      rw [empty, nil_append] at rest
      rw [rest]
      simp
    exact Bool.noConfusion (run.onlyVerdicts _ isVerdict)
  constructor
  · have noCalls : middle.filter (·.isCall) = [] := by
      apply filter_eq_nil_iff.mpr
      intro event membership
      rw [later event (by simp [membership])]
      exact Bool.false_ne_true
    have allCalls : run.calls.filter (·.isCall) = run.calls :=
      filter_eq_self.mpr run.onlyCalls
    rw [preShape, ranWholePlan_iff_calls, filter_append, noCalls, allCalls, append_nil]
    exact run.complete nonempty
  · exact fun event membership => later event (by simp [membership])

end

end RunTrace

/-! ## The law -/

/-- What holds of every call of `execute`. -/
structure GateSound (request : TrustedExecutionRequest)
    (before after : World Env Evidence Budget SimpleResourceGovernor)
    (result : Except String ExecutionRecord) : Prop where
  /-- The trace is extended, never rewritten. -/
  extended : after.runtime.trace = before.runtime.trace ++ newEvents before after
  /-- Before anything is called or recorded, all required gates have accepted. -/
  gatesFirst : ∀ pre event post, newEvents before after = pre ++ event :: post →
    event.isEffect = true → pre.filterMap Event.accepted? = requiredGates request
  /-- A rejection is an error and changes neither a ledger nor the governor; for a
  rejection by the budget gate, the held reservation must not have overflown. -/
  rejectedUnchanged : ∀ gate, .refused gate ∈ newEvents before after →
    (∃ message, result = .error message) ∧ after.evidence = before.evidence ∧
      after.budget = before.budget ∧
      ((gate = .budget → before.resources.NoOverflow (requirementOf request)) →
        after.resources = before.resources)
  /-- Evidence comes after the complete run of the plan. -/
  evidenceLast : ∀ pre record post, newEvents before after = pre ++ .appended record :: post →
    RanWholePlan request pre ∧ ∀ event ∈ post, event.isCall = false
  /-- What completed was accepted by the validator, if it was to be asked. -/
  validated : ∀ record, result = .ok record → record.finalStatus = "Completed" →
    request.verificationSpec.validateOutput = true →
    .validated record (.ok ()) ∈ newEvents before after

theorem gateSound_of_noEffect {before after : World Env Evidence Budget SimpleResourceGovernor}
    {events : List Event} {message : String} (saw : Saw events before.runtime after.runtime)
    (noEffect : ∀ event ∈ events, event.isEffect = false)
    (unchanged : ∀ gate, .refused gate ∈ events → after.evidence = before.evidence ∧
      after.budget = before.budget ∧
      ((gate = .budget → before.resources.NoOverflow (requirementOf request)) →
        after.resources = before.resources)) :
    GateSound request before after (.error message) := by
  have gained := newEvents_of_saw saw
  constructor
  case extended => rw [gained, saw]
  case gatesFirst =>
    intro pre event post split isEffect
    rw [gained] at split
    have quiet := noEffect event (by simp [split])
    rw [isEffect] at quiet
    cases quiet
  case rejectedUnchanged =>
    intro gate membership
    rw [gained] at membership
    exact ⟨⟨message, rfl⟩, unchanged gate membership⟩
  case evidenceLast =>
    intro pre record post split
    rw [gained] at split
    exact Bool.noConfusion (noEffect (.appended record) (by simp [split]))
  case validated =>
    intro record isOk
    cases isOk

theorem gateSound_of_rejected [BudgetLedger Budget] [LawfulBudgetLedger Budget]
    {before after : World Env Evidence Budget SimpleResourceGovernor} {message : String}
    (rejected : Rejected request before after) :
    GateSound request before after (.error message) := by
  have gatesOnly : ∀ events : List Event, (∀ event ∈ events, event.isGate = true) →
      ∀ event ∈ events, event.isEffect = false :=
    fun _ onlyGates event membership => not_isEffect_of_isGate (onlyGates event membership)
  have accepts : ∀ gates : List Gate,
      ∀ event ∈ gates.map Event.accepted, event.isGate = true ∧ ∀ gate, event ≠ .refused gate := by
    intro gates event membership
    obtain ⟨gate, -, rfl⟩ := mem_map.mp membership
    exact ⟨rfl, by simp⟩
  cases rejected with
  | atAdmission kept =>
    obtain ⟨events, saw, onlyGates⟩ := kept.trace
    exact gateSound_of_noEffect saw (gatesOnly _ onlyGates) fun _ _ =>
      ⟨kept.evidence, kept.budget, fun _ => kept.resources⟩
  | byResources reason saw evidence budget refused =>
    refine gateSound_of_noEffect saw (gatesOnly _ ?_) fun _ _ =>
      ⟨evidence, budget, fun _ => SimpleResourceGovernor.reserve_error refused⟩
    intro event membership
    rcases mem_append.mp membership with isAccepted | isRefused
    · exact (accepts _ event isAccepted).1
    · rw [mem_singleton.mp isRefused]
      rfl
  | byBudget reason held saw evidence refused reserved released =>
    refine gateSound_of_noEffect saw (gatesOnly _ ?_) fun gate membership => ?_
    · intro event membership
      rcases mem_append.mp membership with isAccepted | isLast
      · exact (accepts _ event isAccepted).1
      · rcases mem_pair.mp isLast with rfl | rfl
        · rfl
        · rfl
    · have isBudget : gate = .budget := by
        rcases mem_append.mp membership with isAccepted | isLast
        · exact absurd rfl ((accepts _ _ isAccepted).2 gate)
        · simpa using isLast
      refine ⟨evidence, LawfulBudgetLedger.reserve_error refused, fun noOverflow => ?_⟩
      rw [released]
      exact SimpleResourceGovernor.release_reserve (noOverflow isBudget) reserved

/-- For every behaviour of the authorities, every call of `execute` goes the
mandatory path. -/
theorem execute_gateSound [EvidenceLedger Evidence] [BudgetLedger Budget]
    [LawfulBudgetLedger Budget] (core : NoumenonCore Env) (request : TrustedExecutionRequest)
    (before : World Env Evidence Budget SimpleResourceGovernor) :
    GateSound request before (core.execute request before).2
      (core.execute request before).1 := by
  cases passed : core.entry request before with
  | mk answer entered =>
    cases answer with
    | error message =>
      obtain ⟨after, shape, rejected⟩ := execute_of_rejected passed
      rw [shape]
      exact gateSound_of_rejected rejected
    | ok _ =>
      obtain ⟨entry, shape⟩ := execute_of_entered passed
      obtain ⟨events, sawRun, ⟨run⟩⟩ :=
        performed_trace (perform_performed core request entered)
      have gained : newEvents before (core.execute request before).2 =
          (requiredGates request).map .accepted ++ events := by
        apply newEvents_of_saw
        rw [shape]
        exact entry.saw.trans sawRun
      have gates : ∀ event ∈ (requiredGates request).map Event.accepted,
          event.isEffect = false ∧ event.isCall = false ∧
            ∀ gate, event ≠ .refused gate := by
        intro event membership
        obtain ⟨gate, -, rfl⟩ := mem_map.mp membership
        exact ⟨rfl, rfl, by simp⟩
      constructor
      case extended =>
        rw [gained, shape]
        exact entry.saw.trans sawRun
      case gatesFirst =>
        intro pre event post split isEffect
        rw [gained] at split
        have notGate : event ∉ (requiredGates request).map Event.accepted := by
          intro membership
          have quiet := (gates event membership).1
          rw [isEffect] at quiet
          cases quiet
        obtain ⟨middle, rfl, rest⟩ := split_after split notGate
        have noGates : middle.filterMap Event.accepted? = [] := by
          apply filterMap_eq_nil_iff.mpr
          intro other membership
          have notGate := run.noGates other (by simp [rest, membership])
          cases other with
          | called | appended | validated => rfl
          | accepted | refused => cases notGate
        rw [filterMap_append, noGates, append_nil, filterMap_map]
        exact filterMap_some
      case rejectedUnchanged =>
        intro gate membership
        rw [gained] at membership
        rcases mem_append.mp membership with isGate | inRun
        · exact absurd rfl ((gates _ isGate).2.2 gate)
        · have notGate := run.noGates _ inRun
          cases notGate
      case evidenceLast =>
        intro pre record post split
        rw [gained] at split
        have notGate : Event.appended record ∉
            (requiredGates request).map Event.accepted := by
          intro membership
          have quiet := (gates _ membership).1
          cases quiet
        obtain ⟨middle, rfl, rest⟩ := split_after split notGate
        obtain ⟨complete, noneAfter⟩ := run.around_append rest
        refine ⟨?_, noneAfter⟩
        have noCalls : ((requiredGates request).map Event.accepted).filter (·.isCall) =
            [] := by
          apply filter_eq_nil_iff.mpr
          intro event membership
          rw [(gates event membership).2.1]
          exact Bool.false_ne_true
        rw [ranWholePlan_iff_calls, filter_append, noCalls, nil_append, ← ranWholePlan_iff_calls]
        exact complete
      case validated =>
        intro record succeeded completed validates
        obtain ⟨completion⟩ := execute_completed succeeded completed
        rw [newEvents_of_saw completion.trace, completion.validated validates]
        simp

/-- A kernel whose validator accepts nothing. -/
def strictKernel : NoumenonCore Unit :=
  readKernel id fun _ => Effect.fail "result policy violation"

theorem singleRead_gateSound :
    GateSound (readRequest "e" true) (freshWorld ())
      (strictKernel.execute (readRequest "e" true) (freshWorld ())).2
      (strictKernel.execute (readRequest "e" true) (freshWorld ())).1 :=
  execute_gateSound strictKernel (readRequest "e" true) (freshWorld ())

/-- Without a demand for validation the validator is not asked, and an execution
completes whose record it does not accept. -/
theorem singleRead_completes_unvalidated :
    ∃ record, (strictKernel.execute (readRequest "e" false) (freshWorld ())).1 =
        .ok record ∧
      record.finalStatus = "Completed" ∧
      (strictKernel.resultValidator record ()).1 = .error "result policy violation" ∧
      .validated record (.ok ()) ∉ newEvents (freshWorld ())
        (strictKernel.execute (readRequest "e" false) (freshWorld ())).2 := by
  have status : (strictKernel.execute (readRequest "e" false) (freshWorld ())).1.map
      (·.finalStatus) = .ok "Completed" := by
    decide +kernel
  have noVerdict : (newEvents (freshWorld ()) (strictKernel.execute (readRequest "e" false)
      (freshWorld ())).2).all (fun event => !event.isVerdict) = true := by
    decide +kernel
  obtain ⟨record, succeeded, completed⟩ := Check.map_eq_ok.mp status
  refine ⟨record, succeeded, completed, rfl, fun membership => ?_⟩
  have isNone := all_eq_true.mp noVerdict _ membership
  cases isNone

end AutoLoop.NoumenonCore
