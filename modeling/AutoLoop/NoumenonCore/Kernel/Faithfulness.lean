import AutoLoop.NoumenonCore.Authorities
import AutoLoop.NoumenonCore.Kernel.Settlement

/-!
# Faithfulness of step records

Syscalls and outputs are attributed to steps by looking up the step id.  This
module shows for which plans the lookup finds the step that was executed: those
whose step ids are distinct.  Then the k-th step record describes the k-th call.
-/

namespace AutoLoop.NoumenonCore

open World KernelRuntime KernelExecutor List

variable {Env Evidence Budget Governor : Type}
variable {core : NoumenonCore Env} {request : TrustedExecutionRequest}

def DescribesCall (core : NoumenonCore Env) (record : StepRecord) (call : Event) : Prop :=
  ∃ capability input output, call = .called capability input (.ok output) ∧
    record.capabilityRef = some capability ∧ record.inputDigest = core.crypto input ∧
    record.outputDigest = core.crypto output

def FaithfulEvidence (core : NoumenonCore Env)
    (before after : World Env Evidence Budget Governor) (record : ExecutionRecord) : Prop :=
  List.Forall₂ (DescribesCall core) record.stepRecords
      ((newEvents before after).filter (·.isCall)) ∧
    record.evidenceBundle.evidenceRecordIds.Nodup

def DistinctStepIds (request : TrustedExecutionRequest) : Prop :=
  ("admission-context" :: request.plan.steps.map (·.stepId)).Nodup

instance (request : TrustedExecutionRequest) : Decidable (DistinctStepIds request) :=
  inferInstanceAs (Decidable (List.Nodup _))

/-! ## Lookups -/

theorem findStep_submitted {steps : List ExecutionStep} {requests : List SyscallRequest}
    (order : ExecutionOrder steps requests) (distinct : (steps.map (·.stepId)).Nodup)
    {call : SyscallRequest} (membership : call ∈ requests) {found : ExecutionStep}
    (lookup : findStep steps call.stepId = some found) : SubmittedFor found call := by
  obtain ⟨step, stepMem, submitted⟩ := exists_step_of_mem order membership
  have foundMem := mem_of_find?_eq_some lookup
  have foundId : found.stepId = call.stepId := by
    simpa using find?_some lookup
  have same : found = step := by
    apply inj_on_of_nodup_map distinct foundMem stepMem
    rw [foundId, submitted.stepId]
  rw [same]
  exact submitted

/-! ## Records -/

theorem stepsRecorded_recordIds {prevHash : String} {outputs : List StepExecutionOutput}
    {events : List EvidenceRecord} {records : List StepRecord}
    (recorded : StepsRecorded core request prevHash outputs events records) :
    events.map (·.recordId) = outputs.map fun output => evidenceId request output.stepId := by
  induction recorded with
  | nil => rfl
  | cons _ _ _ _ ih => rw [map_cons, map_cons, ih]; rfl

theorem records_describe {prevHash : String} {requests : List SyscallRequest}
    {outputs : List StepExecutionOutput} {events : List EvidenceRecord}
    {records : List StepRecord} (outputsOf : List.Forall₂ OutputOf requests outputs)
    (recorded : StepsRecorded core request prevHash outputs events records)
    (lookups : ∀ call ∈ requests, ∀ found,
      findStep request.plan.steps call.stepId = some found → SubmittedFor found call) :
    List.Forall₂ (DescribesCall core) records (List.zipWith callOf requests outputs) := by
  induction recorded generalizing requests with
  | nil =>
    cases outputsOf
    exact .nil
  | cons timestampMs recordedAt found later ih =>
    cases outputsOf with
    | cons outputOf outputsRest =>
      rw [outputOf.stepId] at found
      have submitted := lookups _ (by simp) _ found
      refine .cons ?here (ih outputsRest ?later)
      case here =>
        exact ⟨_, _, _, rfl, submitted.capability,
          congrArg core.crypto submitted.input.symm, rfl⟩
      case later =>
        exact fun call membership => lookups call (by simp [membership])

theorem evidenceId_injective (request : TrustedExecutionRequest) :
    Function.Injective (evidenceId request) := by
  intro first second same
  exact (String.append_right_inj _).mp same

theorem calls_of_completion [EvidenceLedger Evidence]
    {before after : World Env Evidence Budget Governor} {record : ExecutionRecord}
    (completion : Completion core request before after record) :
    (newEvents before after).filter (·.isCall) =
      List.zipWith callOf completion.requests completion.outputs := by
  have noCalls : completion.verdicts.filter (·.isCall) = [] := by
    apply filter_eq_nil_iff.mpr
    intro event membership
    have isVerdict := completion.onlyVerdicts event membership
    cases event <;> simp_all [Event.isVerdict, Event.isCall]
  have allCalls : (List.zipWith callOf completion.requests completion.outputs).filter
      (·.isCall) = List.zipWith callOf completion.requests completion.outputs := by
    apply filter_eq_self.mpr
    exact fun event membership => isCall_of_mem_zipWith membership
  rw [newEvents_of_saw completion.trace]
  simp only [filter_append, allCalls, noCalls, append_nil]
  simp [filter_map, Function.comp_def, Event.isCall]

section Claim

variable [EvidenceLedger Evidence] [BudgetLedger Budget] [ResourceGovernor Governor]

/-- A completed execution is recorded faithfully exactly when the step ids of its
plan are pairwise distinct and none of them is the id of the context event. -/
theorem faithfulEvidence_iff_distinctStepIds {before : World Env Evidence Budget Governor}
    {record : ExecutionRecord} (succeeded : (core.execute request before).1 = .ok record)
    (completed : record.finalStatus = "Completed") :
    FaithfulEvidence core before (core.execute request before).2 record ↔
      DistinctStepIds request := by
  obtain ⟨completion⟩ := execute_completed succeeded completed
  have idsShape : record.evidenceBundle.evidenceRecordIds =
      ("admission-context" :: completion.outputs.map (·.stepId)).map
        (evidenceId request) := by
    rw [completion.evidenceRecordIds_eq, map_cons, map_cons,
      stepsRecorded_recordIds completion.recorded, map_map]
    rfl
  have idsPerm : ("admission-context" :: completion.outputs.map (·.stepId)).Perm
      ("admission-context" :: request.plan.steps.map (·.stepId)) := by
    rw [outputs_stepIds completion.outputsOf]
    exact (stepIds_perm completion.order).cons _
  have idsDistinct : record.evidenceBundle.evidenceRecordIds.Nodup ↔
      DistinctStepIds request := by
    rw [idsShape, nodup_map_iff (evidenceId_injective request)]
    exact idsPerm.nodup_iff
  constructor
  · exact fun faithful => idsDistinct.mp faithful.2
  · intro distinct
    refine ⟨?_, idsDistinct.mpr distinct⟩
    have stepsDistinct := (nodup_cons.mp distinct).2
    rw [calls_of_completion completion, completion.stepRecords_eq]
    apply records_describe completion.outputsOf completion.recorded
    intro call membership found lookup
    exact findStep_submitted completion.order stepsDistinct membership lookup

end Claim

/-- A kernel with two capabilities. -/
def readWriteKernel : NoumenonCore Unit :=
  stockKernel id (fun _ => pure ())
    ((CapabilityRegistry.new.register (echoCapability "read")).register (echoCapability "write"))

/-- Read `a`, then write `b`. -/
def readWriteRequest (readId writeId : String) : TrustedExecutionRequest :=
  stockRequest "e"
    (.pair { stepId := readId, capabilityRef := some "read", input := "a" }
      { stepId := writeId, capabilityRef := some "write", input := "b" })
    true

/-- Two steps with distinct ids are recorded faithfully. -/
theorem distinctIds_faithful :
    ∃ record, (readWriteKernel.execute (readWriteRequest "s1" "s2") (freshWorld ())).1 =
        .ok record ∧
      record.finalStatus = "Completed" ∧
      FaithfulEvidence readWriteKernel (freshWorld ())
        (readWriteKernel.execute (readWriteRequest "s1" "s2") (freshWorld ())).2 record := by
  have status : (readWriteKernel.execute (readWriteRequest "s1" "s2")
      (freshWorld ())).1.map (·.finalStatus) = .ok "Completed" := by
    decide +kernel
  obtain ⟨record, succeeded, completed⟩ := Check.map_eq_ok.mp status
  refine ⟨record, succeeded, completed, ?_⟩
  exact (faithfulEvidence_iff_distinctStepIds succeeded completed).mpr (by decide)

/-- Two steps that share an id: both records name the capability of the first
one, and their evidence ids are equal. -/
theorem sharedId_unfaithful :
    ∃ record, (readWriteKernel.execute (readWriteRequest "s" "s") (freshWorld ())).1 =
        .ok record ∧
      record.finalStatus = "Completed" ∧
      record.stepRecords.map (·.capabilityRef) = [some "read", some "read"] ∧
      ¬FaithfulEvidence readWriteKernel (freshWorld ())
        (readWriteKernel.execute (readWriteRequest "s" "s") (freshWorld ())).2 record := by
  have facts : (readWriteKernel.execute (readWriteRequest "s" "s") (freshWorld ())).1.map
      (fun record => (record.finalStatus, record.stepRecords.map (·.capabilityRef),
        record.evidenceBundle.evidenceRecordIds)) =
      .ok ("Completed", [some "read", some "read"], ["e:admission-context", "e:s", "e:s"]) := by
    decide +kernel
  obtain ⟨record, succeeded, values⟩ := Check.map_eq_ok.mp facts
  simp only [Prod.mk.injEq] at values
  obtain ⟨completed, capabilities, ids⟩ := values
  refine ⟨record, succeeded, completed, capabilities, ?_⟩
  rintro ⟨-, distinct⟩
  rw [ids] at distinct
  revert distinct
  decide

end AutoLoop.NoumenonCore
