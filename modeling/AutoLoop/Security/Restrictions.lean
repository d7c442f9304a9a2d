import AutoLoop.Runtime.BudgetBooks
import AutoLoop.Security.ExecutionIdentity

/-!
# Suspended and downgraded identities

An administrator restricts a tenant, a principal or the role of a principal under a
policy by what he stores.  While the restriction is in force nobody it concerns is
validated.  Issuing an identity writes the same records, so that a restriction stays
in force exactly as long as nothing is issued that writes over it.
-/

namespace AutoLoop.Security

open StateAdapter
open AutoLoop.Runtime (still unmirroredStore)
open FieldWrite RecordForms IdentityOp

inductive Restriction where
  | tenant (tenantId : String)
  | principal (tenantId principalId : String)
  | role (tenantId principalId policyId : String)
  deriving DecidableEq, Repr

/-- The operation sets the text under these identifiers. -/
def FieldWrite.Sets {Record : Type} (table : TypedTable Record) (columns : List String)
    (text : String) : FieldWrite → Prop
  | none => False
  | some (written, stored) => table.key columns = table.key written ∧ stored = text

instance {Record : Type} (table : TypedTable Record) (columns : List String)
    (text : String) : ∀ write, Decidable (Sets table columns text write)
  | none => inferInstanceAs (Decidable False)
  | some _ => inferInstanceAs (Decidable (_ ∧ _))

namespace Restriction

section
variable (forms : JsonForms) (knowledge : Knowledge)

/-- What is stored restricts. -/
def InForce : Restriction → Prop
  | .tenant tenantId =>
    tenantStatus forms knowledge [tenantId] ≠ none ∧
      tenantStatus forms knowledge [tenantId] ≠ some "active"
  | .principal tenantId principalId =>
    principalStatus forms knowledge [tenantId, principalId] ≠ none ∧
      principalStatus forms knowledge [tenantId, principalId] ≠ some "active"
  | .role tenantId principalId policyId =>
    boundRole forms knowledge [tenantId, principalId] ≠ none ∧
      policyRole forms knowledge [tenantId, policyId] ≠ none ∧
      boundRole forms knowledge [tenantId, principalId] ≠
        policyRole forms knowledge [tenantId, policyId]

/-- An administrator stores another status than `active`, or another role than the
policy has. -/
def ImposedBy : Restriction → IdentityOp → Prop
  | .tenant tenantId, .storeTenant record =>
    record.tenantId = tenantId ∧ record.status ≠ "active"
  | .principal tenantId principalId, .storePrincipal record =>
    record.tenantId = tenantId ∧ record.principalId = principalId ∧
      record.status ≠ "active"
  | .role tenantId principalId policyId, .storeRoleBinding record =>
    record.tenantId = tenantId ∧ record.principalId = principalId ∧
      policyRole forms knowledge [tenantId, policyId] ≠ none ∧
      policyRole forms knowledge [tenantId, policyId] ≠ some record.role
  | _, _ => False

/-- The operation sets an active status, or makes the role and that of the policy the
same. -/
def EndedBy (op : IdentityOp) :
    Restriction → Prop
  | .tenant tenantId => op.tenantWrite.Sets (tenants forms.tenant) [tenantId] "active"
  | .principal tenantId principalId =>
    op.principalWrite.Sets (principals forms.principal) [tenantId, principalId] "active"
  | .role tenantId principalId policyId =>
    op.roleWrite.onto (roleBindings forms.roleBinding) [tenantId, principalId]
        (boundRole forms knowledge [tenantId, principalId]) =
      op.policyWrite.onto (policyBindings forms.policyBinding) [tenantId, policyId]
        (policyRole forms knowledge [tenantId, policyId])

end

def ByAdministrator : Restriction → IdentityOp → Prop
  | .tenant tenantId, .storeTenant record => record.tenantId = tenantId
  | .principal tenantId principalId, .storePrincipal record =>
    record.tenantId = tenantId ∧ record.principalId = principalId
  | .role tenantId principalId _, .storeRoleBinding record =>
    record.tenantId = tenantId ∧ record.principalId = principalId
  | .role tenantId _ policyId, .storePolicyBinding record =>
    record.tenantId = tenantId ∧ record.policyId = policyId
  | _, _ => False

def Concerns : Restriction → ExecutionIdentity → Prop
  | .tenant tenantId, identity => identity.tenantId = tenantId
  | .principal tenantId principalId, identity =>
    identity.tenantId = tenantId ∧ identity.principalId = principalId
  | .role tenantId principalId policyId, identity =>
    identity.tenantId = tenantId ∧ identity.principalId = principalId ∧
      identity.policyId = policyId

def PresentedTo (restriction : Restriction) : IdentityOp → Prop
  | .validate _ identity _ _ _ => restriction.Concerns identity
  | _ => False

instance (forms : JsonForms) (knowledge : Knowledge) :
    ∀ restriction op, Decidable (ImposedBy forms knowledge restriction op) := by
  intro restriction op
  cases restriction
  all_goals cases op
  all_goals (simp only [ImposedBy]; infer_instance)

instance (forms : JsonForms) (knowledge : Knowledge) (op : IdentityOp) :
    ∀ restriction, Decidable (EndedBy forms knowledge op restriction)
  | .tenant _ => inferInstanceAs (Decidable (Sets _ _ _ _))
  | .principal _ _ => inferInstanceAs (Decidable (Sets _ _ _ _))
  | .role _ _ _ => inferInstanceAs (Decidable (_ = _))

instance : ∀ restriction op, Decidable (ByAdministrator restriction op) := by
  intro restriction op
  cases restriction
  all_goals cases op
  all_goals (simp only [ByAdministrator]; infer_instance)

end Restriction

/-! ## Steps -/

section Steps

variable {forms : JsonForms} {before after : Knowledge} {op : IdentityOp}

section
variable {Record : Type} {table : TypedTable Record} {columns : List String}
  {stored : Option String}
include Record

theorem onto_eq_none (write : FieldWrite) (held : stored ≠ none) :
    write.onto table columns stored ≠ none := by
  cases write with
  | none => exact held
  | some written =>
    rw [onto]
    split
    · exact Option.some_ne_none written.2
    · exact held

theorem onto_eq_iff {text : String} (write : FieldWrite) (other : stored ≠ some text) :
    write.onto table columns stored = some text ↔ write.Sets table columns text := by
  cases write with
  | none => exact iff_of_false other id
  | some written =>
    rw [onto, Sets]
    split
    · next same => simp [same]
    · next different => simp [different, other]

end

theorem Restriction.inForce_step_iff (standing : Standing forms op before after)
    (restriction : Restriction) (inForce : restriction.InForce forms before) :
    restriction.InForce forms after ↔ ¬restriction.EndedBy forms before op := by
  cases restriction with
  | tenant tenantId =>
    obtain ⟨held, inactive⟩ := inForce
    rw [InForce, EndedBy, standing.tenant, ← onto_eq_iff _ inactive]
    exact and_iff_right (onto_eq_none _ held)
  | principal tenantId principalId =>
    obtain ⟨held, inactive⟩ := inForce
    rw [InForce, EndedBy, standing.principal, ← onto_eq_iff _ inactive]
    exact and_iff_right (onto_eq_none _ held)
  | role tenantId principalId policyId =>
    obtain ⟨bound, required, different⟩ := inForce
    rw [InForce, EndedBy, standing.role, standing.policy]
    rw [and_iff_right (onto_eq_none _ bound), and_iff_right (onto_eq_none _ required)]

theorem Restriction.inForce_of_imposed (standing : Standing forms op before after)
    {restriction : Restriction} (imposed : restriction.ImposedBy forms before op) :
    restriction.InForce forms after := by
  cases restriction with
  | tenant tenantId =>
    cases op with
    | storeTenant record =>
      obtain ⟨rfl, inactive⟩ := imposed
      rw [InForce, standing.tenant]
      simp [tenantWrite, onto, inactive]
    | _ => cases imposed
  | principal tenantId principalId =>
    cases op with
    | storePrincipal record =>
      obtain ⟨rfl, rfl, inactive⟩ := imposed
      rw [InForce, standing.principal]
      simp [principalWrite, onto, inactive]
    | _ => cases imposed
  | role tenantId principalId policyId =>
    cases op with
    | storeRoleBinding record =>
      obtain ⟨rfl, rfl, required, different⟩ := imposed
      rw [InForce, standing.role, standing.policy]
      simp only [roleWrite, policyWrite, onto, if_true]
      exact ⟨Option.some_ne_none _, required, different.symm⟩
    | _ => cases imposed

theorem Restriction.refused_of_inForce {store : StateStore} (unmirrored : store.mirror = none)
    (host : Nat → Moment) {shared : Shared} {restriction : Restriction}
    (inForce : restriction.InForce forms shared.repo.knowledge)
    (presented : restriction.PresentedTo op) :
    ((identityRuns store forms host).step shared op).1 ≠ .validated := by
  cases op with
  | validate sessionId identity capabilityId requestedMemoryMb requestedTokens =>
    intro validated
    change IdentityAnswer.of _ ((SecurityPolicy.validateExecutionIdentity store forms sessionId
      identity capabilityId requestedMemoryMb requestedTokens).run shared).1 = _ at validated
    cases answered : ((SecurityPolicy.validateExecutionIdentity store forms sessionId identity
        capabilityId requestedMemoryMb requestedTokens).run shared).1 with
    | error message =>
      rw [answered] at validated
      cases validated
    | ok value =>
      obtain ⟨tenantActive, principalActive, sameRole⟩ :=
        standing_of_validated unmirrored forms (Prod.ext answered rfl)
      cases restriction with
      | tenant tenantId =>
        cases presented
        exact inForce.2 tenantActive
      | principal tenantId principalId =>
        obtain ⟨rfl, rfl⟩ := presented
        exact inForce.2 principalActive
      | role tenantId principalId policyId =>
        obtain ⟨rfl, rfl, rfl⟩ := presented
        exact inForce.2.2 sameRole
  | _ => cases presented

end Steps

/-! ## Runs -/

section Runs

variable {forms : JsonForms} {store : StateStore} (unmirrored : store.mirror = none)
variable (host : Nat → Moment)
include unmirrored

/-- The policies stand under their own keys. -/
def PoliciesKept (forms : JsonForms) (shared : Shared) : Prop :=
  (policyBindings forms.policyBinding).Kept shared.repo.knowledge

theorem policiesKept_step (shared : Shared) (op : IdentityOp) (kept : PoliciesKept forms shared) :
    PoliciesKept forms ((identityRuns store forms host).step shared op).2 :=
  (standing_step unmirrored forms host op shared kept).kept

theorem policiesKept_run (ops : List IdentityOp) :
    PoliciesKept forms
      ((identityRuns store forms host).run (identityRuns store forms host).initial ops).2 := by
  have each : (identityRuns store forms host).EachStep (fun _ _ => True)
      (identityRuns store forms host).initial ops := .of_forall (fun _ _ => trivial) _ _
  apply each.run_invariant
  · exact TypedTable.kept_empty _
  · intro shared op kept _
    exact policiesKept_step unmirrored host shared op kept

end Runs

/-- The identity that `still` issues for a session. -/
def sessionIdentity : ExecutionIdentity := ⟨"t", "ada", "p", "lease:s:7"⟩

def presentIdentity : IdentityOp := .validate "s" sessionIdentity "read" 1 1

def readOnly : PolicyBinding := ⟨"p", "t", "operator", [.read], ["r"], 1, 1, 7⟩

def suspension : Tenant := ⟨"t", "t", "suspended", 7⟩

end AutoLoop.Security
