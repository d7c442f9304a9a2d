import AutoLoop.Foundation.Text

/-!
# Hooks

The rules of a phase are applied in order to what a capability is called with, puts out
or fails with.  The first rule that denies ends the phase.
-/

namespace AutoLoop.Runtime

inductive HookPhase where
  | before
  | step
  | stream
  | return
  | throws
  | timeout
  | kill
  deriving DecidableEq, Repr

inductive HookAction where
  | allow
  | deny
  | rewrite
  | mutate
  deriving DecidableEq, Repr

inductive HookChannel where
  | command
  | http
  | prompt
  | agent
  deriving DecidableEq, Repr

structure HookRule where
  id : String
  phase : HookPhase
  action : HookAction
  channel : Option HookChannel
  toolContains : Option String
  value : Option String
  reason : String
  deriving DecidableEq, Repr

structure HookTrace where
  ruleId : String
  phase : HookPhase
  channel : HookChannel
  action : HookAction
  reason : String
  deriving DecidableEq, Repr

structure HookOutcome where
  allowed : Bool
  channel : HookChannel
  toolName : String
  arguments : String
  output : Option String
  error : Option String
  traces : List HookTrace
  deriving DecidableEq, Repr

structure HookRuntime where
  rules : List HookRule := []
  deriving DecidableEq, Repr

/-- Which text the rules of a phase change. -/
inductive HookSubject where
  | arguments
  | output
  | error
  deriving DecidableEq, Repr

def HookPhase.subject : HookPhase → HookSubject
  | before | step => .arguments
  | stream | «return» => .output
  | throws | timeout | kill => .error

namespace HookOutcome

variable (outcome : HookOutcome)

/-- What a rule that rewrites does. -/
def rewritten (subject : HookSubject) (value : String) : HookOutcome :=
  match subject with
  | .arguments => { outcome with arguments := value }
  | .output => { outcome with output := some value }
  | .error => { outcome with error := some value }

/-- What a rule that mutates does. -/
def mutated (subject : HookSubject) (value : String) : HookOutcome :=
  match subject with
  | .arguments => { outcome with arguments := outcome.arguments ++ value }
  | .output => { outcome with output := some (outcome.output.getD "" ++ value) }
  | .error => { outcome with error := some (outcome.error.getD "" ++ value) }

def denied (reason : String) : HookOutcome :=
  { outcome with allowed := false, error := some (outcome.error.getD reason) }

def traced (phase : HookPhase) (rule : HookRule) : HookOutcome :=
  { outcome with
    traces := outcome.traces ++
      [⟨rule.id, phase, outcome.channel, rule.action, rule.reason⟩] }

def applyRules (phase : HookPhase) : HookOutcome → List HookRule → HookOutcome
  | outcome, [] => outcome
  | outcome, rule :: rest =>
    let outcome := outcome.traced phase rule
    match rule.action, rule.value with
    | .allow, _ => applyRules phase outcome rest
    | .deny, _ => outcome.denied rule.reason
    | .rewrite, some value => applyRules phase (outcome.rewritten phase.subject value) rest
    | .mutate, some value => applyRules phase (outcome.mutated phase.subject value) rest
    | _, none => applyRules phase outcome rest

end HookOutcome

namespace HookRuntime

variable (hooks : HookRuntime)

section
variable (phase : HookPhase) (channel : HookChannel)

def applicable (toolName : String) : List HookRule :=
  hooks.rules.filter fun rule =>
    rule.phase = phase ∧ (rule.channel = none ∨ rule.channel = some channel) ∧
      rule.toolContains.all (Text.contains toolName)

def applyPhaseOnly (toolName arguments : String)
    (output error : Option String) : HookOutcome :=
  HookOutcome.applyRules phase
    { allowed := true, channel, toolName, arguments, output, error, traces := [] }
    (hooks.applicable phase channel toolName)

def Permits (toolName : String) : Prop :=
  ∀ rule ∈ hooks.applicable phase channel toolName, rule.action ≠ .deny

end

instance (phase : HookPhase) (channel : HookChannel) (toolName : String) :
    Decidable (hooks.Permits phase channel toolName) :=
  inferInstanceAs (Decidable (∀ rule ∈ _, _))

end HookRuntime

section Rules

variable {phase : HookPhase} {outcome : HookOutcome} {rules : List HookRule}

theorem HookOutcome.allowed_rewritten (subject : HookSubject) (value : String) :
    (outcome.rewritten subject value).allowed = outcome.allowed := by
  cases subject <;> rfl

theorem HookOutcome.allowed_mutated (subject : HookSubject) (value : String) :
    (outcome.mutated subject value).allowed = outcome.allowed := by
  cases subject <;> rfl

theorem HookOutcome.allowed_applyRules :
    (HookOutcome.applyRules phase outcome rules).allowed = true ↔
      outcome.allowed = true ∧ ∀ rule ∈ rules, rule.action ≠ .deny := by
  induction rules generalizing outcome with
  | nil => simp [applyRules]
  | cons rule rest ih =>
    rw [applyRules, List.forall_mem_cons]
    cases action : rule.action <;> cases value : rule.value <;>
      simp [ih, allowed_rewritten, allowed_mutated, traced, denied]

theorem HookRuntime.allowed_iff_permits (hooks : HookRuntime) (phase : HookPhase)
    (channel : HookChannel) (toolName arguments : String) (output error : Option String) :
    (hooks.applyPhaseOnly phase channel toolName arguments output error).allowed = true ↔
      hooks.Permits phase channel toolName := by
  rw [applyPhaseOnly, HookOutcome.allowed_applyRules]
  exact and_iff_right rfl

end Rules

end AutoLoop.Runtime
