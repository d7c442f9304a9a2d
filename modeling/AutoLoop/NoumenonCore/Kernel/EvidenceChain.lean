import AutoLoop.NoumenonCore.Kernel.Settlement

/-!
# The evidence of an execution as a chain

The events that an execution writes form one chain of links from `genesis`, all
of them under its own execution id, and carry the output digests of its step
records in order.
-/

namespace AutoLoop.NoumenonCore

open World KernelRuntime KernelExecutor LinkedChain EvidenceLedger Effect

variable {Env Evidence Budget Governor : Type}
variable {core : NoumenonCore Env} {request : TrustedExecutionRequest}

/-! ## The events of one execution -/

section Events

variable {prevHash : String} {outputs : List StepExecutionOutput}
variable {events : List EvidenceRecord} {records : List StepRecord}

section
variable (recorded : StepsRecorded core request prevHash outputs events records)
include recorded

theorem stepsRecorded_linked :
    Linked (·.prevHash) (·.recordHash) prevHash events := by
  induction recorded with
  | nil => trivial
  | cons _ _ _ _ ih => exact ⟨rfl, ih⟩

theorem stepsRecorded_stepPayloads :
    stepPayloads events = records.map (·.outputDigest) := by
  induction recorded with
  | nil => rfl
  | cons _ _ _ _ ih => exact congrArg (_ :: ·) ih

end

def Hashed (core : NoumenonCore Env) (request : TrustedExecutionRequest)
    (event : EvidenceRecord) : Prop :=
  event.executionId = request.executionId ∧ ∃ stepId inputDigest outputDigest,
    event.recordHash = core.crypto
      (recordHashPayload request.executionId stepId inputDigest outputDigest event.prevHash)

theorem stepsRecorded_hashed
    (recorded : StepsRecorded core request prevHash outputs events records) :
    ∀ event ∈ events, Hashed core request event := by
  induction recorded with
  | nil => simp
  | cons timestampMs recordedAt found later ih =>
    intro event membership
    rcases List.mem_cons.mp membership with rfl | inRest
    · exact ⟨rfl, _, _, _, rfl⟩
    · exact ih event inRest

theorem contextEvidence_hashed (core : NoumenonCore Env) (request : TrustedExecutionRequest)
    (timestampMs : U128) : Hashed core request (contextEvidence core request timestampMs) :=
  ⟨rfl, _, _, _, rfl⟩

end Events

namespace Completion

variable [EvidenceLedger Evidence] {before after : World Env Evidence Budget Governor}
variable {record : ExecutionRecord}

def chain (completion : Completion core request before after record) :
    List EvidenceRecord :=
  contextEvidence core request completion.boundAt :: completion.events

section
variable (completion : Completion core request before after record)

theorem chain_linked :
    Linked (·.prevHash) (·.recordHash) "genesis" completion.chain :=
  ⟨rfl, stepsRecorded_linked completion.recorded⟩

theorem chain_hashed :
    ∀ event ∈ completion.chain, Hashed core request event := by
  intro event membership
  rcases List.mem_cons.mp membership with rfl | isStep
  · exact contextEvidence_hashed core request _
  · exact stepsRecorded_hashed completion.recorded event isStep

theorem chain_stepPayloads :
    stepPayloads completion.chain = record.stepRecords.map (·.outputDigest) := by
  rw [completion.stepRecords_eq, ← stepsRecorded_stepPayloads completion.recorded]
  rfl

end

end Completion

/-! ## Only own evidence -/

section Own

variable [EvidenceLedger Evidence]

def GainedOnly (executionId : String) (before after : World Env Evidence Budget Governor) :
    Prop :=
  ∃ records, Appended records before.evidence after.evidence ∧
    ∀ record ∈ records, record.executionId = executionId

namespace GainedOnly

variable {executionId : String}

theorem refl (world : World Env Evidence Budget Governor) :
    GainedOnly executionId world world :=
  ⟨[], Appended.refl _, by simp⟩

theorem trans (before middle after : World Env Evidence Budget Governor)
    (earlier : GainedOnly executionId before middle)
    (later : GainedOnly executionId middle after) : GainedOnly executionId before after := by
  obtain ⟨first, firstAppended, firstOwn⟩ := earlier
  obtain ⟨second, secondAppended, secondOwn⟩ := later
  refine ⟨first ++ second, firstAppended.trans secondAppended, ?_⟩
  intro record membership
  rcases List.mem_append.mp membership with inFirst | inSecond
  · exact firstOwn record inFirst
  · exact secondOwn record inSecond

section
variable {before after : World Env Evidence Budget Governor}

theorem of_evidence
    (unchanged : after.evidence = before.evidence) : GainedOnly executionId before after := by
  refine ⟨[], ?_, by simp⟩
  rw [unchanged]
  exact Appended.refl _

/-- The answers about other executions are as before. -/
theorem byExecution_other (gained : GainedOnly executionId before after) {other : String}
    (different : other ≠ executionId) :
    byExecution other after.evidence =
      byExecution other before.evidence := by
  obtain ⟨records, appended, own⟩ := gained
  have foreign : ofExecution other records = [] := by
    apply ofExecution_eq_nil
    intro record membership same
    exact different (same.symm.trans (own record membership))
  rw [appended other, foreign, List.append_nil]

end

end GainedOnly

theorem appendEvidence_gainedOnly [LawfulEvidenceLedger Evidence] (event : EvidenceRecord) :
    Keeps (GainedOnly event.executionId)
      (appendEvidence event : Effect (World Env Evidence Budget Governor) Unit) := by
  intro before
  rw [appendEvidence, bind_of_ok (log_apply _ _)]
  cases stored : append event before.evidence with
  | mk answer ledger =>
    have shape : (onEvidence (append event)
        (logged (.appended event) before)).2.evidence = ledger :=
      congrArg Prod.snd stored
    cases answer with
    | ok _ =>
      have appended := LawfulEvidenceLedger.append_ok stored
      rw [← shape] at appended
      exact ⟨[event], appended, by simp⟩
    | error message =>
      have appended := LawfulEvidenceLedger.append_error stored
      rw [← shape] at appended
      exact ⟨[], appended, by simp⟩

theorem now_gainedOnly (core : NoumenonCore Env) (executionId : String) :
    Keeps (GainedOnly executionId)
      (now core : Effect (World Env Evidence Budget Governor) U128) :=
  fun _ => GainedOnly.of_evidence rfl

section
variable [LawfulEvidenceLedger Evidence] (core : NoumenonCore Env)
  (request : TrustedExecutionRequest)

theorem recordSteps_gainedOnly (prevHash : String) (outputs : List StepExecutionOutput) :
    Keeps (GainedOnly request.executionId)
      (recordSteps core request prevHash outputs :
        Effect (World Env Evidence Budget Governor) (List (String × StepRecord))) := by
  induction outputs generalizing prevHash with
  | nil => exact Effect.Keeps.pure GainedOnly.refl _
  | cons output rest ih =>
    rw [recordSteps]
    split
    · exact Effect.Keeps.fail GainedOnly.refl _
    · apply Effect.Keeps.bind GainedOnly.trans (now_gainedOnly core _)
      intro _
      apply Effect.Keeps.bind GainedOnly.trans (appendEvidence_gainedOnly _)
      intro _
      apply Effect.Keeps.bind GainedOnly.trans (now_gainedOnly core _)
      intro _
      apply Effect.Keeps.bind GainedOnly.trans (ih _)
      intro _
      exact Effect.Keeps.pure GainedOnly.refl _

theorem recordEvidence_gainedOnly (outputs : List StepExecutionOutput) :
    Keeps (GainedOnly request.executionId)
      (recordEvidence core request outputs :
        Effect (World Env Evidence Budget Governor) RecordedRun) := by
  refine Effect.Keeps.bind GainedOnly.trans ?context fun context => ?steps
  case context =>
    apply Effect.Keeps.bind GainedOnly.trans (now_gainedOnly core _)
    intro _
    apply Effect.Keeps.bind GainedOnly.trans (appendEvidence_gainedOnly _)
    intro _
    exact Effect.Keeps.pure GainedOnly.refl _
  case steps =>
    apply Effect.Keeps.bind GainedOnly.trans (recordSteps_gainedOnly _ _ _ _)
    intro _
    exact Effect.Keeps.pure GainedOnly.refl _

end

theorem execute_gainedOnly [LawfulEvidenceLedger Evidence] [BudgetLedger Budget]
    [ResourceGovernor Governor] (core : NoumenonCore Env) (request : TrustedExecutionRequest) :
    Keeps (GainedOnly request.executionId)
      (core.execute request : Effect (World Env Evidence Budget Governor) ExecutionRecord) := by
  intro before
  cases passed : core.entry request before with
  | mk answer entered =>
    cases answer with
    | error message =>
      obtain ⟨after, shape, rejected⟩ := execute_of_rejected passed
      rw [shape]
      cases rejected with
      | atAdmission kept => exact GainedOnly.of_evidence kept.evidence
      | byResources _ _ evidence _ _ => exact GainedOnly.of_evidence evidence
      | byBudget _ _ _ evidence _ _ _ => exact GainedOnly.of_evidence evidence
    | ok _ =>
      obtain ⟨entry, shape⟩ := execute_of_entered passed
      rw [shape]
      refine GainedOnly.trans _ entered _ (GainedOnly.of_evidence entry.evidence) ?_
      have performed := perform_performed core request entered
      generalize core.perform ⟨.enforcing⟩ request entered = outcome at performed
      -- dropping the reservation does not touch the ledger
      suffices GainedOnly request.executionId entered outcome.2 from this
      cases performed with
      | failed planFailed =>
        exact GainedOnly.of_evidence (abort_quiet core request _ (fun _ => True) _).evidence
      | unrecorded planRan notWritten =>
        have gained := (recordEvidence_gainedOnly core request _).of_run notWritten
        exact gained
      | uncharged planRan written refused =>
        have gained := (recordEvidence_gainedOnly core request _).of_run written
        exact gained
      | settled planRan written charged =>
        rename_i outputs runtime run recorded budget
        obtain ⟨records, appended, own⟩ :=
          (recordEvidence_gainedOnly core request _).of_run written
        have unchanged := (verify_onlyVerdicts core request
          (completedRecord core request run) (withBudget recorded budget)).evidence
        refine ⟨records, ?_, own⟩
        rw [unchanged]
        exact appended

end Own

end AutoLoop.NoumenonCore
