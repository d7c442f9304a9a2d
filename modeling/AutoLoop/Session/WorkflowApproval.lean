import AutoLoop.Session.Workflow

/-!
# Approval of what is executed

A workflow that executes stands on an approval that no rejection has followed, unless
it went back to planning without a review: it was rejected while executing, or it was
closed and reopened.
-/

namespace AutoLoop.Session

open WorkflowMachine (apply applied Applied)

/-! ## Accepted signals -/

/-- The signals that have been accepted, each with the state it was accepted in. -/
abbrev SignalHistory : Type := List (WorkflowState × WorkflowSignal)

namespace SignalHistory

/-- An approval was accepted, and no rejection after it. -/
def Approved (history : SignalHistory) : Prop :=
  ∃ earlier state later, history = earlier ++ (state, .policyApproved) :: later ∧
    ∀ entry ∈ later, entry.2 ≠ .policyRejected

/-- The signal leads back to planning without a review. -/
def SkipsReview (entry : WorkflowState × WorkflowSignal) : Prop :=
  entry = (.executing, .policyRejected) ∨ entry = (.closed, .verifyRejected)

def Unreviewed (history : SignalHistory) : Prop :=
  ∃ earlier entry later, history = earlier ++ entry :: later ∧ SkipsReview entry ∧
    ∀ other ∈ later, other.2 ≠ .policyApproved ∧ other.2 ≠ .policyRejected

variable {history : SignalHistory} {entry : WorkflowState × WorkflowSignal}

theorem approved_snoc_of_approval (isApproval : entry.2 = .policyApproved) :
    Approved (history ++ [entry]) := by
  refine ⟨history, entry.1, [], ?_, nofun⟩
  rw [← isApproval]

theorem Approved.snoc (approved : Approved history) (kept : entry.2 ≠ .policyRejected) :
    Approved (history ++ [entry]) := by
  obtain ⟨earlier, state, later, rfl, unrejected⟩ := approved
  refine ⟨earlier, state, later ++ [entry], by simp, ?_⟩
  intro other membership
  rcases List.mem_append.mp membership with before | isLast
  · exact unrejected other before
  · rw [List.mem_singleton.mp isLast]
    exact kept

theorem unreviewed_snoc_of_skipsReview (skips : SkipsReview entry) :
    Unreviewed (history ++ [entry]) :=
  ⟨history, entry, [], rfl, skips, nofun⟩

theorem Unreviewed.snoc (unreviewed : Unreviewed history)
    (kept : entry.2 ≠ .policyApproved ∧ entry.2 ≠ .policyRejected) :
    Unreviewed (history ++ [entry]) := by
  obtain ⟨earlier, skipping, later, rfl, skips, unpoliced⟩ := unreviewed
  refine ⟨earlier, skipping, later ++ [entry], by simp, skips, ?_⟩
  intro other membership
  rcases List.mem_append.mp membership with before | isLast
  · exact unpoliced other before
  · rw [List.mem_singleton.mp isLast]
    exact kept

/-- Without an accepted approval nothing is approved. -/
theorem not_approved (never : ∀ entry ∈ history, entry.2 ≠ .policyApproved) :
    ¬Approved history := by
  rintro ⟨earlier, state, later, rfl, -⟩
  exact never (state, .policyApproved) (by simp) rfl

end SignalHistory

structure WorkflowRun where
  machine : WorkflowMachine
  accepted : SignalHistory

/-- Signals applied one after another; one without an edge is not accepted. -/
def workflowRuns (sessionId : String) (host : Nat → AuditMoment) :
    Component WorkflowRun (WorkflowSignal × Option String)
      (Except String TransitionRecord) where
  initial := ⟨.new sessionId host, []⟩
  step := fun run call =>
    ((apply call.1 call.2 run.machine).1,
      { machine := (apply call.1 call.2 run.machine).2
        accepted :=
          match nextState run.machine.state call.1 with
          | .ok _ => run.accepted ++ [(run.machine.state, call.1)]
          | .error _ => run.accepted })

/-! ## The states behind the review -/

/-- The states that follow an approval. -/
def PastReview : WorkflowState → Prop
  | .planned | .scheduled | .executing | .verifying | .blocked => True
  | .intake | .policyReview | .closed => False

/-- What leads to a state behind the review. -/
inductive Reaches (origin : WorkflowState) (signal : WorkflowSignal) : Prop where
  | approval (isApproval : signal = .policyApproved)
  | skip (skips : SignalHistory.SkipsReview (origin, signal))
  | within (past : PastReview origin) (unrejected : signal ≠ .policyRejected)

theorem reaches_of_nextState {origin target : WorkflowState} {signal : WorkflowSignal}
    (edge : nextState origin signal = .ok target) (past : PastReview target) :
    Reaches origin signal := by
  cases origin <;> cases signal <;> cases edge <;>
    first
    | exact past.elim
    | exact .approval rfl
    | exact .skip (.inl rfl)
    | exact .skip (.inr rfl)
    | exact .within trivial nofun

theorem reaches_of_applied {machine after : WorkflowMachine} {signal : WorkflowSignal}
    {reason : Option String} {answer : Except String TransitionRecord}
    (outcome : Applied signal reason machine answer after) (past : PastReview after.state) :
    (nextState machine.state signal).isOk = false ∧ after = machine ∨
      (nextState machine.state signal).isOk = true ∧ Reaches machine.state signal := by
  have verdict : ∀ {state : WorkflowState}, WorkflowMachine.Verifies state signal →
      (nextState state signal).isOk = true ∧ Reaches state signal := by
    rintro state ⟨rfl, isVerdict⟩
    cases isVerdict with
    | inl passed =>
      subst passed
      exact ⟨rfl, .within trivial nofun⟩
    | inr rejected =>
      subst rejected
      exact ⟨rfl, .within trivial nofun⟩
  cases outcome with
  | refused error =>
    rw [error]
    exact Or.inl ⟨rfl, rfl⟩
  | hop target isNext single =>
    rw [isNext]
    exact Or.inr ⟨rfl, reaches_of_nextState isNext past⟩
  | unverified verifies refused => exact Or.inr (verdict verifies)
  | verified verifies accepted target isNext => exact Or.inr (verdict verifies)

/-! ## Runs -/

/-- Behind the review there is an approval, or the review was skipped. -/
def Reviewed (run : WorkflowRun) : Prop :=
  PastReview run.machine.state → run.accepted.Approved ∨ run.accepted.Unreviewed

theorem Reviewed.step {run : WorkflowRun} (reviewed : Reviewed run) {sessionId : String}
    {host : Nat → AuditMoment} (call : WorkflowSignal × Option String) :
    Reviewed ((workflowRuns sessionId host).step run call).2 := by
  intro past
  obtain ⟨signal, reason⟩ := call
  have outcome := applied signal reason run.machine
  simp only [workflowRuns] at past ⊢
  rcases reaches_of_applied outcome past with ⟨notNext, isMachine⟩ | ⟨isNext, reaches⟩
  · cases answered : nextState run.machine.state signal with
    | ok target =>
      rw [answered] at notNext
      cases notNext
    | error message =>
      rw [isMachine] at past
      exact reviewed past
  · cases answered : nextState run.machine.state signal with
    | error message =>
      rw [answered] at isNext
      cases isNext
    | ok target =>
      simp only
      cases reaches with
      | approval isApproval => exact Or.inl (SignalHistory.approved_snoc_of_approval isApproval)
      | skip skips => exact Or.inr (SignalHistory.unreviewed_snoc_of_skipsReview skips)
      | within pastBefore unrejected =>
        cases reviewed pastBefore with
        | inl approved => exact Or.inl (approved.snoc unrejected)
        | inr unreviewed =>
          by_cases isApproval : signal = .policyApproved
          · exact Or.inl (SignalHistory.approved_snoc_of_approval isApproval)
          · exact Or.inr (unreviewed.snoc ⟨isApproval, unrejected⟩)

/-- Whenever a workflow is executing, it stands on an approval, or it went back to
planning without a review and no policy signal was accepted since. -/
theorem executing_approved_or_unreviewed (sessionId : String) (host : Nat → AuditMoment)
    (calls : List (WorkflowSignal × Option String)) :
    (workflowRuns sessionId host).Always
      (fun run => run.machine.state = .executing →
        run.accepted.Approved ∨ run.accepted.Unreviewed)
      (workflowRuns sessionId host).initial calls := by
  have reviewed : (workflowRuns sessionId host).Always Reviewed
      (workflowRuns sessionId host).initial calls := by
    apply Component.Always.of_step
    · exact False.elim
    · intro run call reviewed
      exact reviewed.step call
  apply reviewed.mono
  intro run holds isExecuting
  apply holds
  rw [isExecuting]
  trivial

def Enters (run : WorkflowRun) (call : WorkflowSignal × Option String) : Prop :=
  run.machine.state ≠ .executing ∧ (apply call.1 call.2 run.machine).2.state = .executing

/-- A workflow that is closed at its start, reopened, planned and executed. -/
def reopenedCalls : List (WorkflowSignal × Option String) :=
  [(.closed, none), (.verifyRejected, none), (.planCommitted, none), (.taskScheduled, none)]

theorem reopened_executes_unapproved :
    ¬∀ (sessionId : String) (host : Nat → AuditMoment)
        (calls : List (WorkflowSignal × Option String)),
      (workflowRuns sessionId host).EachStep
        (fun run call => Enters run call →
          ((workflowRuns sessionId host).step run call).2.accepted.Approved)
        (workflowRuns sessionId host).initial calls := by
  intro always
  obtain ⟨-, -, -, enters, -⟩ := always "s" (fun _ => ⟨0, true⟩) reopenedCalls
  have approved := enters (by constructor <;> decide)
  revert approved
  apply SignalHistory.not_approved
  decide

end AutoLoop.Session
