import AutoLoop.NoumenonCore.Ledger.Evidence
import AutoLoop.NoumenonCore.Ir

/-!
# The runtime of an execution

Everything outside the ledgers and the governor that an execution touches: the
environment behind the pluggable authorities, adapters and the clock, and the
cursor of the model router.  Besides, a runtime records a trace of what the
kernel does, in order.  The trace is not part of the program; it is what the
properties about the order of effects speak of.
-/

namespace AutoLoop.NoumenonCore

/-- The checks that an execution has to pass before it runs. -/
inductive Gate where
  | identity
  | supplyChain
  | rollout
  | attestation
  | tenant (capability : String)
  | hardening (stepId : String)
  | resource
  | budget
  deriving DecidableEq, Repr

/-- One observable action of the kernel. -/
inductive Event where
  /-- A gate let the execution pass. -/
  | accepted (gate : Gate)
  /-- A gate rejected the execution. -/
  | refused (gate : Gate)
  /-- An adapter or model backend was run for a capability. -/
  | called (capability input : String) (result : Except String String)
  /-- A record was handed to the evidence ledger. -/
  | appended (record : EvidenceRecord)
  /-- The result validator answered. -/
  | validated (record : ExecutionRecord) (result : Except String Unit)

namespace Event

def isGate : Event → Bool
  | .accepted _ | .refused _ => true
  | _ => false

def isCall : Event → Bool
  | .called .. => true
  | _ => false

def isAppend : Event → Bool
  | .appended _ => true
  | _ => false

def isVerdict : Event → Bool
  | .validated .. => true
  | _ => false

end Event

structure KernelRuntime (Env : Type) where
  env : Env
  routerCursor : UInt64 := 0
  trace : List Event := []

namespace KernelRuntime

variable {Env α : Type}

/-- Run code behind a trait object. -/
def onEnv (action : Effect Env α) : Effect (KernelRuntime Env) α :=
  Effect.zoom (·.env) (fun env runtime => { runtime with env }) action

def log (event : Event) : Effect (KernelRuntime Env) Unit :=
  Effect.modify fun runtime => { runtime with trace := runtime.trace ++ [event] }

/-- The later runtime has seen the additional events, in order. -/
def Saw (events : List Event) (before after : KernelRuntime Env) : Prop :=
  after.trace = before.trace ++ events

theorem Saw.refl (runtime : KernelRuntime Env) : Saw [] runtime runtime :=
  (List.append_nil _).symm

theorem Saw.trans {first second : List Event} {before middle after : KernelRuntime Env}
    (earlier : Saw first before middle) (later : Saw second middle after) :
    Saw (first ++ second) before after := by
  rw [Saw, later, earlier, List.append_assoc]

theorem Saw.unique {first second : List Event} {before after : KernelRuntime Env}
    (saw : Saw first before after) (sawToo : Saw second before after) : first = second :=
  List.append_cancel_left (saw.symm.trans sawToo)

/-- Every event seen in between satisfies the property. -/
def Only (property : Event → Prop) (before after : KernelRuntime Env) : Prop :=
  ∃ events, Saw events before after ∧ ∀ event ∈ events, property event

namespace Only

variable {property : Event → Prop}

theorem refl (runtime : KernelRuntime Env) : Only property runtime runtime :=
  ⟨[], Saw.refl runtime, by simp⟩

theorem trans (before middle after : KernelRuntime Env) (earlier : Only property before middle)
    (later : Only property middle after) : Only property before after := by
  obtain ⟨first, sawFirst, firstOnly⟩ := earlier
  obtain ⟨second, sawSecond, secondOnly⟩ := later
  refine ⟨first ++ second, sawFirst.trans sawSecond, ?_⟩
  intro event membership
  rcases List.mem_append.mp membership with inFirst | inSecond
  · exact firstOnly event inFirst
  · exact secondOnly event inSecond

theorem onEnv (action : Effect Env α) :
    Effect.Keeps (Only property) (KernelRuntime.onEnv action) :=
  fun runtime => ⟨[], Saw.refl runtime, by simp⟩

theorem log {event : Event} (holds : property event) :
    Effect.Keeps (Only property)
      (KernelRuntime.log event : Effect (KernelRuntime Env) Unit) := by
  intro runtime
  refine ⟨[event], rfl, ?_⟩
  simpa using holds

end Only

end KernelRuntime

end AutoLoop.NoumenonCore
