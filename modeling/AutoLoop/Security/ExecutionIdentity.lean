import AutoLoop.Foundation.Word
import AutoLoop.StateAdapter.RecordForms
import AutoLoop.StateAdapter.TableReads

/-!
# Execution identities

A session is issued an identity, which each execution presents again.  Validation
reads the tenant, the principal, the role binding, the policy and the lease from
their tables; issuance writes all five of them.
-/

namespace AutoLoop.Security

open StateAdapter
open AutoLoop (saturatingAdd)
open TypedTable StateStore Future Effect

structure ExecutionIdentity where
  tenantId : String
  principalId : String
  policyId : String
  leaseToken : String
  deriving DecidableEq, Repr

namespace SecurityPolicy

variable (store : StateStore) (forms : JsonForms)

def newPolicyBinding (tenantId policyId : String) (now : UInt64) : PolicyBinding where
  policyId
  tenantId
  role := "operator"
  allowedActions := [.read, .write, .dispatch]
  capabilityPrefixes :=
    ["provider:", "mcp::", "cli::", "read_", "write_", "tool:", "tools::", "shell"]
  maxMemoryMb := 2048
  maxTokens := 32000
  updatedAtMs := now

def issuedPolicyBinding (stored : Option PolicyBinding) (tenantId policyId : String)
    (now : UInt64) : PolicyBinding :=
  match stored with
  | some existing => { existing with role := "operator", updatedAtMs := now }
  | none => newPolicyBinding tenantId policyId now

def issueSessionIdentity (sessionId tenantId principalId policyId : String)
    (leaseTtlMs : UInt64) : StoreCall ExecutionIdentity := do
  let now ← nowMs
  let leaseToken := s!"lease:{sessionId}:{now}"
  let _ ← store.upsertTenant forms ⟨tenantId, tenantId, "active", now⟩
  let _ ← store.upsertPrincipal forms ⟨principalId, tenantId, "user", "active", now⟩
  let _ ← store.upsertRoleBinding forms ⟨tenantId, principalId, "operator", now⟩
  let stored ← store.getPolicyBinding forms tenantId policyId
  let _ ← store.upsertPolicyBinding forms (issuedPolicyBinding stored tenantId policyId now)
  let _ ← store.upsertSessionLease forms
    { leaseToken, sessionId, tenantId, principalId, policyId
      expiresAtMs := saturatingAdd now leaseTtlMs
      issuedAtMs := now }
  return ⟨tenantId, principalId, policyId, leaseToken⟩

/-- `bail!` unless the condition holds. -/
def ensure (condition : Prop) [Decidable condition] (message : String) : StoreCall Unit :=
  if condition then pure () else fail message

/-- `ok_or_else`. -/
def orFail {α : Type} (value : Option α) (message : String) : StoreCall α :=
  match value with
  | some found => pure found
  | none => fail message

def validateExecutionIdentity (sessionId : String) (identity : ExecutionIdentity)
    (capabilityId : String) (requestedMemoryMb requestedTokens : UInt32) :
    StoreCall Unit := do
  let tenant ← orFail (← store.getTenant forms identity.tenantId) "tenant not found"
  ensure (tenant.status = "active") "tenant is not active"
  let principal ← orFail (← store.getPrincipal forms identity.tenantId identity.principalId)
    "principal not found"
  ensure (principal.status = "active") "principal is not active"
  let roleBinding ← orFail
    (← store.getRoleBinding forms identity.tenantId identity.principalId)
    "role binding not found"
  let policy ← orFail (← store.getPolicyBinding forms identity.tenantId identity.policyId)
    "policy binding not found"
  ensure (roleBinding.role = policy.role) "role downgraded or mismatched with policy"
  let lease ← orFail (← store.getSessionLease forms sessionId) "session lease not found"
  let now ← nowMs
  ensure (now < lease.expiresAtMs) "session lease expired"
  ensure (lease.leaseToken = identity.leaseToken ∧ lease.tenantId = identity.tenantId ∧
      lease.principalId = identity.principalId ∧ lease.policyId = identity.policyId)
    "session lease identity mismatch"
  ensure (policy.capabilityPrefixes.any (Text.startsWith capabilityId ·) = true)
    "capability not allowed by policy"
  ensure (requestedMemoryMb ≤ policy.maxMemoryMb) "requested memory exceeds policy max"
  ensure (requestedTokens ≤ policy.maxTokens) "requested tokens exceeds policy max"

end SecurityPolicy

/-! ## Runs -/

inductive IdentityOp where
  | issue (sessionId tenantId principalId policyId : String) (leaseTtlMs : UInt64)
  | validate (sessionId : String) (identity : ExecutionIdentity) (capabilityId : String)
      (requestedMemoryMb requestedTokens : UInt32)
  | storeTenant (record : Tenant)
  | storePrincipal (record : Principal)
  | storeRoleBinding (record : RoleBinding)
  | storePolicyBinding (record : PolicyBinding)
  deriving DecidableEq, Repr

inductive IdentityAnswer where
  | issued (identity : ExecutionIdentity)
  | validated
  | stored
  | refused (message : String)
  deriving DecidableEq, Repr

def IdentityAnswer.of {α : Type} (answer : α → IdentityAnswer) :
    Except String α → IdentityAnswer
  | .ok value => answer value
  | .error message => .refused message

/-- Issuance and validation, and what administrators store, one after another. -/
def identityRuns (store : StateStore) (forms : JsonForms) (host : Nat → Moment) :
    Component Shared IdentityOp IdentityAnswer where
  initial := Shared.started host
  step shared op :=
    match op with
    | .issue sessionId tenantId principalId policyId leaseTtlMs =>
      let ran := (SecurityPolicy.issueSessionIdentity store forms sessionId tenantId
        principalId policyId leaseTtlMs).run shared
      (.of .issued ran.1, ran.2)
    | .validate sessionId identity capabilityId requestedMemoryMb requestedTokens =>
      let ran := (SecurityPolicy.validateExecutionIdentity store forms sessionId identity
        capabilityId requestedMemoryMb requestedTokens).run shared
      (.of (fun _ => .validated) ran.1, ran.2)
    | .storeTenant record =>
      let ran := (store.upsertTenant forms record).run shared
      (.of (fun _ => .stored) ran.1, ran.2)
    | .storePrincipal record =>
      let ran := (store.upsertPrincipal forms record).run shared
      (.of (fun _ => .stored) ran.1, ran.2)
    | .storeRoleBinding record =>
      let ran := (store.upsertRoleBinding forms record).run shared
      (.of (fun _ => .stored) ran.1, ran.2)
    | .storePolicyBinding record =>
      let ran := (store.upsertPolicyBinding forms record).run shared
      (.of (fun _ => .stored) ran.1, ran.2)

/-! ## What decides about access -/

section Standing

variable (forms : JsonForms) (knowledge : Knowledge)

section
variable (columns : List String)

def tenantStatus : Option String :=
  ((tenants forms.tenant).read knowledge columns).map (·.status)

def principalStatus : Option String :=
  ((principals forms.principal).read knowledge columns).map (·.status)

def boundRole : Option String :=
  ((roleBindings forms.roleBinding).read knowledge columns).map (·.role)

def policyRole : Option String :=
  ((policyBindings forms.policyBinding).read knowledge columns).map (·.role)

end

end Standing

/-- The identifiers and the text of a field that an operation writes to a table. -/
abbrev FieldWrite : Type := Option (List String × String)

namespace IdentityOp

def tenantWrite : IdentityOp → FieldWrite
  | .issue _ tenantId _ _ _ => some ([tenantId], "active")
  | .storeTenant record => some ([record.tenantId], record.status)
  | _ => none

def principalWrite : IdentityOp → FieldWrite
  | .issue _ tenantId principalId _ _ => some ([tenantId, principalId], "active")
  | .storePrincipal record => some ([record.tenantId, record.principalId], record.status)
  | _ => none

def roleWrite : IdentityOp → FieldWrite
  | .issue _ tenantId principalId _ _ => some ([tenantId, principalId], "operator")
  | .storeRoleBinding record => some ([record.tenantId, record.principalId], record.role)
  | _ => none

def policyWrite : IdentityOp → FieldWrite
  | .issue _ tenantId _ policyId _ => some ([tenantId, policyId], "operator")
  | .storePolicyBinding record => some ([record.tenantId, record.policyId], record.role)
  | _ => none

end IdentityOp

def FieldWrite.onto {Record : Type} (table : TypedTable Record) (columns : List String)
    (stored : Option String) : FieldWrite → Option String
  | none => stored
  | some (written, text) => if table.key columns = table.key written then some text else stored

/-- Each table holds what the operation wrote to it, and else what it held. -/
structure Standing (forms : JsonForms) (op : IdentityOp) (before after : Knowledge) : Prop where
  tenant : ∀ columns, tenantStatus forms after columns =
    op.tenantWrite.onto (tenants forms.tenant) columns (tenantStatus forms before columns)
  principal : ∀ columns, principalStatus forms after columns =
    op.principalWrite.onto (principals forms.principal) columns
      (principalStatus forms before columns)
  role : ∀ columns, boundRole forms after columns =
    op.roleWrite.onto (roleBindings forms.roleBinding) columns (boundRole forms before columns)
  policy : ∀ columns, policyRole forms after columns =
    op.policyWrite.onto (policyBindings forms.policyBinding) columns
      (policyRole forms before columns)
  kept : (policyBindings forms.policyBinding).Kept after

open FieldWrite

section Tables

variable {forms : JsonForms} {before after : Knowledge}

theorem tenants_apart :
    NamesApart (tenants forms.tenant).name (principals forms.principal).name ∧
      NamesApart (tenants forms.tenant).name
        (roleBindings forms.roleBinding).name ∧
      NamesApart (tenants forms.tenant).name
        (policyBindings forms.policyBinding).name ∧
      NamesApart (tenants forms.tenant).name
        (sessionLeases forms.sessionLease).name := by
  simp only [tenants, principals, roleBindings, policyBindings, sessionLeases]
  decide

theorem principals_apart :
    NamesApart (principals forms.principal).name
        (roleBindings forms.roleBinding).name ∧
      NamesApart (principals forms.principal).name
        (policyBindings forms.policyBinding).name ∧
      NamesApart (principals forms.principal).name
        (sessionLeases forms.sessionLease).name := by
  simp only [principals, roleBindings, policyBindings, sessionLeases]
  decide

theorem bindings_apart :
    NamesApart (roleBindings forms.roleBinding).name
        (policyBindings forms.policyBinding).name ∧
      NamesApart (roleBindings forms.roleBinding).name
        (sessionLeases forms.sessionLease).name ∧
      NamesApart (policyBindings forms.policyBinding).name
        (sessionLeases forms.sessionLease).name := by
  simp only [roleBindings, policyBindings, sessionLeases]
  decide

theorem map_read_put {Record : Type} {table : TypedTable Record} {record : Record}
    (field : Record → String) (put : table.Put record before after) (columns : List String) :
    (table.read after columns).map field =
      onto table columns ((table.read before columns).map field)
        (some (table.columns record, field record)) := by
  rw [read_put put, onto]
  split
  · rfl
  · rfl

theorem Standing.of_tenant {record : Tenant}
    (kept : (policyBindings forms.policyBinding).Kept before)
    (put : (tenants forms.tenant).Put record before after) :
    Standing forms (.storeTenant record) before after where
  tenant := map_read_put Tenant.status put
  principal columns := by
    rw [principalStatus, read_put_apart tenants_apart.1.symm put]
    rfl
  role columns := by
    rw [boundRole, read_put_apart tenants_apart.2.1.symm put]
    rfl
  policy columns := by
    rw [policyRole, read_put_apart tenants_apart.2.2.1.symm put]
    rfl
  kept := kept_put_apart tenants_apart.2.2.1.symm kept put

theorem Standing.of_principal {record : Principal}
    (kept : (policyBindings forms.policyBinding).Kept before)
    (put : (principals forms.principal).Put record before after) :
    Standing forms (.storePrincipal record) before after where
  tenant columns := by
    rw [tenantStatus, read_put_apart tenants_apart.1 put]
    rfl
  principal := map_read_put Principal.status put
  role columns := by
    rw [boundRole, read_put_apart principals_apart.1.symm put]
    rfl
  policy columns := by
    rw [policyRole, read_put_apart principals_apart.2.1.symm put]
    rfl
  kept := kept_put_apart principals_apart.2.1.symm kept put

theorem Standing.of_roleBinding {record : RoleBinding}
    (kept : (policyBindings forms.policyBinding).Kept before)
    (put : (roleBindings forms.roleBinding).Put record before after) :
    Standing forms (.storeRoleBinding record) before after where
  tenant columns := by
    rw [tenantStatus, read_put_apart tenants_apart.2.1 put]
    rfl
  principal columns := by
    rw [principalStatus, read_put_apart principals_apart.1 put]
    rfl
  role := map_read_put RoleBinding.role put
  policy columns := by
    rw [policyRole, read_put_apart bindings_apart.1.symm put]
    rfl
  kept := kept_put_apart bindings_apart.1.symm kept put

theorem Standing.of_policyBinding {record : PolicyBinding}
    (kept : (policyBindings forms.policyBinding).Kept before)
    (put : (policyBindings forms.policyBinding).Put record before after) :
    Standing forms (.storePolicyBinding record) before after where
  tenant columns := by
    rw [tenantStatus, read_put_apart tenants_apart.2.2.1 put]
    rfl
  principal columns := by
    rw [principalStatus, read_put_apart principals_apart.2.1 put]
    rfl
  role columns := by
    rw [boundRole, read_put_apart bindings_apart.1 put]
    rfl
  policy := map_read_put PolicyBinding.role put
  kept := kept_put kept put

theorem standing_lease {record : SessionLease}
    (put : (sessionLeases forms.sessionLease).Put record before after) :
    tenantStatus forms after = tenantStatus forms before ∧
      principalStatus forms after = principalStatus forms before ∧
      boundRole forms after = boundRole forms before ∧
      policyRole forms after = policyRole forms before := by
  refine ⟨?_, ?_, ?_, ?_⟩
  · funext columns
    rw [tenantStatus, read_put_apart tenants_apart.2.2.2 put, tenantStatus]
  · funext columns
    rw [principalStatus, read_put_apart principals_apart.2.2 put, principalStatus]
  · funext columns
    rw [boundRole, read_put_apart bindings_apart.2.1 put, boundRole]
  · funext columns
    rw [policyRole, read_put_apart bindings_apart.2.2 put, policyRole]

end Tables

/-! ## Steps -/

section Steps

variable {store : StateStore} (unmirrored : store.mirror = none) (forms : JsonForms)
include unmirrored

omit unmirrored in
/-- The policy is stored again under the identifiers that it was asked for. -/
theorem key_issuedPolicyBinding {knowledge : Knowledge}
    (kept : (policyBindings forms.policyBinding).Kept knowledge)
    (tenantId policyId : String) (now : UInt64) :
    (policyBindings forms.policyBinding).key
        ((policyBindings forms.policyBinding).columns (SecurityPolicy.issuedPolicyBinding
            ((policyBindings forms.policyBinding).read knowledge [tenantId, policyId])
            tenantId policyId now)) =
      (policyBindings forms.policyBinding).key [tenantId, policyId] := by
  cases found : (policyBindings forms.policyBinding).read knowledge [tenantId, policyId] with
  | none => rfl
  | some existing =>
    have same := key_of_read kept found
    exact same

omit unmirrored in
theorem role_issuedPolicyBinding (stored : Option PolicyBinding) (tenantId policyId : String)
    (now : UInt64) :
    (SecurityPolicy.issuedPolicyBinding stored tenantId policyId now).role = "operator" := by
  cases stored with
  | none => rfl
  | some existing => rfl

/-- Issuance writes an active tenant and principal and the role of an operator,
whatever stood there. -/
theorem standing_issue (sessionId tenantId principalId policyId : String) (leaseTtlMs : UInt64)
    (shared : Shared) (kept : (policyBindings forms.policyBinding).Kept shared.repo.knowledge) :
    Standing forms (.issue sessionId tenantId principalId policyId leaseTtlMs)
      shared.repo.knowledge
      ((SecurityPolicy.issueSessionIdentity store forms sessionId tenantId principalId policyId
        leaseTtlMs).run shared).2.repo.knowledge := by
  let now := shared.moment.nowMs
  obtain ⟨first, ranTenant, putTenant⟩ := (tenants forms.tenant).run_upsert_put unmirrored
    ⟨tenantId, tenantId, "active", now⟩ (shared.after 1)
  obtain ⟨second, ranPrincipal, putPrincipal⟩ :=
    (principals forms.principal).run_upsert_put unmirrored
      ⟨principalId, tenantId, "user", "active", now⟩ first
  obtain ⟨third, ranRole, putRole⟩ :=
    (roleBindings forms.roleBinding).run_upsert_put unmirrored
      ⟨tenantId, principalId, "operator", now⟩ second
  have ranRead := (policyBindings forms.policyBinding).run_get_read unmirrored
    [tenantId, policyId] third
  have standsTenant := Standing.of_tenant kept putTenant
  have standsPrincipal := Standing.of_principal standsTenant.kept putPrincipal
  have standsRole := Standing.of_roleBinding standsPrincipal.kept putRole
  let policy := SecurityPolicy.issuedPolicyBinding
    ((policyBindings forms.policyBinding).read third.repo.knowledge [tenantId, policyId])
    tenantId policyId now
  have sameKey := key_issuedPolicyBinding forms standsRole.kept tenantId policyId now
  have operator := role_issuedPolicyBinding
    ((policyBindings forms.policyBinding).read third.repo.knowledge [tenantId, policyId])
    tenantId policyId now
  obtain ⟨fourth, ranPolicy, putPolicy⟩ :=
    (policyBindings forms.policyBinding).run_upsert_put unmirrored policy (third.after 1)
  have standsPolicy := Standing.of_policyBinding standsRole.kept putPolicy
  obtain ⟨last, ranLease, putLease⟩ :=
    (sessionLeases forms.sessionLease).run_upsert_put unmirrored
      ⟨s!"lease:{sessionId}:{now}", sessionId, tenantId, principalId, policyId,
        saturatingAdd now leaseTtlMs, now⟩ fourth
  have ran : (SecurityPolicy.issueSessionIdentity store forms sessionId tenantId principalId
      policyId leaseTtlMs).run shared =
        (.ok ⟨tenantId, principalId, policyId, s!"lease:{sessionId}:{now}"⟩, last) := by
    have ranClock : nowMs.run shared = (.ok now, shared.after 1) := rfl
    refine (run_bind_of_ok ranClock).trans ?_
    refine (run_bind_of_ok ranTenant).trans ?_
    refine (run_bind_of_ok ranPrincipal).trans ?_
    refine (run_bind_of_ok ranRole).trans ?_
    refine (run_bind_of_ok ranRead).trans ?_
    refine (run_bind_of_ok ranPolicy).trans ?_
    exact run_bind_of_ok ranLease
  rw [ran]
  obtain ⟨sameTenants, samePrincipals, sameRoles, samePolicies⟩ := standing_lease putLease
  constructor
  · intro columns
    rw [sameTenants, standsPolicy.tenant, standsRole.tenant, standsPrincipal.tenant]
    exact standsTenant.tenant columns
  · intro columns
    rw [samePrincipals, standsPolicy.principal, standsRole.principal]
    exact (standsPrincipal.principal columns).trans
      (congrArg (onto _ _ · _) (standsTenant.principal columns))
  · intro columns
    rw [sameRoles, standsPolicy.role]
    refine (standsRole.role columns).trans (congrArg (onto _ _ · _) ?_)
    exact (standsPrincipal.role columns).trans (standsTenant.role columns)
  · intro columns
    have before : policyRole forms third.repo.knowledge columns =
        policyRole forms shared.repo.knowledge columns :=
      (standsRole.policy columns).trans
        ((standsPrincipal.policy columns).trans (standsTenant.policy columns))
    rw [samePolicies, standsPolicy.policy, before]
    change onto _ columns _
      (some ((policyBindings forms.policyBinding).columns policy, policy.role)) = _
    rw [operator, onto, sameKey]
    rfl
  · exact kept_put_apart bindings_apart.2.2 standsPolicy.kept putLease

/-- The rows of the repository stay the same. -/
def SameRows (before after : Shared) : Prop := after.repo.knowledge = before.repo.knowledge

omit unmirrored in
theorem SameRows.bind {α β : Type} {first : StoreCall α} {next : α → StoreCall β}
    (kept : Keeps SameRows first.run) (keptNext : ∀ value, Keeps SameRows (next value).run) :
    Keeps SameRows (first >>= next).run := by
  rw [run_bind]
  exact kept.bind (fun _ _ _ same later => later.trans same) keptNext

theorem sameRows_get {Record : Type} (table : TypedTable Record) (columns : List String) :
    Keeps SameRows (table.get store columns).run := by
  intro shared
  rw [table.run_get unmirrored]
  rfl

omit unmirrored in
theorem sameRows_ensure (condition : Prop) [Decidable condition] (message : String) :
    Keeps SameRows (SecurityPolicy.ensure condition message).run := by
  intro shared
  rw [SecurityPolicy.ensure]
  split
  · rfl
  · rfl

omit unmirrored in
theorem sameRows_orFail {α : Type} (value : Option α) (message : String) :
    Keeps SameRows (SecurityPolicy.orFail value message).run := by
  intro shared
  cases value with
  | none => rfl
  | some found => rfl

omit unmirrored in
theorem sameRows_nowMs : Keeps SameRows nowMs.run := by
  intro shared
  rfl

theorem sameRows_validate (sessionId : String) (identity : ExecutionIdentity)
    (capabilityId : String) (requestedMemoryMb requestedTokens : UInt32) :
    Keeps SameRows (SecurityPolicy.validateExecutionIdentity store forms sessionId
      identity capabilityId requestedMemoryMb requestedTokens).run := by
  apply SameRows.bind (sameRows_get unmirrored _ _)
  intro tenantFound
  apply SameRows.bind (sameRows_orFail _ _)
  intro tenant
  apply SameRows.bind (sameRows_ensure _ _)
  intro activeTenant
  apply SameRows.bind (sameRows_get unmirrored _ _)
  intro principalFound
  apply SameRows.bind (sameRows_orFail _ _)
  intro principal
  apply SameRows.bind (sameRows_ensure _ _)
  intro activePrincipal
  apply SameRows.bind (sameRows_get unmirrored _ _)
  intro roleFound
  apply SameRows.bind (sameRows_orFail _ _)
  intro roleBinding
  apply SameRows.bind (sameRows_get unmirrored _ _)
  intro policyFound
  apply SameRows.bind (sameRows_orFail _ _)
  intro policy
  apply SameRows.bind (sameRows_ensure _ _)
  intro sameRole
  apply SameRows.bind (sameRows_get unmirrored _ _)
  intro leaseFound
  apply SameRows.bind (sameRows_orFail _ _)
  intro lease
  apply SameRows.bind sameRows_nowMs
  intro now
  apply SameRows.bind (sameRows_ensure _ _)
  intro running
  apply SameRows.bind (sameRows_ensure _ _)
  intro sameIdentity
  apply SameRows.bind (sameRows_ensure _ _)
  intro allowed
  apply SameRows.bind (sameRows_ensure _ _)
  intro fits
  exact sameRows_ensure _ _

omit unmirrored in
@[simp] theorem run_ensure_eq_ok {condition : Prop} [Decidable condition] {message : String}
    {value : Unit} {shared final : Shared} :
    (SecurityPolicy.ensure condition message).run shared = (.ok value, final) ↔
      condition ∧ shared = final := by
  by_cases holds : condition
  · simp [SecurityPolicy.ensure, holds]
  · simp [SecurityPolicy.ensure, holds]

omit unmirrored in
@[simp] theorem run_orFail_eq_ok {α : Type} {value : Option α} {message : String} {found : α}
    {shared final : Shared} :
    (SecurityPolicy.orFail value message).run shared = (.ok found, final) ↔
      value = some found ∧ shared = final := by
  cases value with
  | none => simp [SecurityPolicy.orFail]
  | some held => simp [SecurityPolicy.orFail]

theorem standing_of_validated {sessionId : String} {identity : ExecutionIdentity}
    {capabilityId : String} {requestedMemoryMb requestedTokens : UInt32}
    {shared final : Shared}
    (ran : (SecurityPolicy.validateExecutionIdentity store forms sessionId identity
      capabilityId requestedMemoryMb requestedTokens).run shared = (.ok (), final)) :
    tenantStatus forms shared.repo.knowledge [identity.tenantId] = some "active" ∧
      principalStatus forms shared.repo.knowledge
        [identity.tenantId, identity.principalId] = some "active" ∧
      boundRole forms shared.repo.knowledge [identity.tenantId, identity.principalId] =
        policyRole forms shared.repo.knowledge [identity.tenantId, identity.policyId] := by
  simp only [SecurityPolicy.validateExecutionIdentity, run_bind, bind_eq_ok,
    getTenant, getPrincipal, getRoleBinding,
    getPolicyBinding, run_get_read _ unmirrored, run_ensure_eq_ok,
    run_orFail_eq_ok, Prod.mk.injEq, Except.ok.injEq] at ran
  obtain ⟨_, _, ⟨rfl, rfl⟩, tenant, _, ⟨hasTenant, rfl⟩, _, _, ⟨tenantActive, rfl⟩,
    _, _, ⟨rfl, rfl⟩, principal, _, ⟨hasPrincipal, rfl⟩, _, _, ⟨principalActive, rfl⟩,
    _, _, ⟨rfl, rfl⟩, roleBinding, _, ⟨hasRole, rfl⟩, _, _, ⟨rfl, rfl⟩, policy, _,
    ⟨hasPolicy, rfl⟩, _, _, ⟨sameRole, rfl⟩, rest⟩ := ran
  change (tenants forms.tenant).read shared.repo.knowledge _ = _ at hasTenant
  change (principals forms.principal).read shared.repo.knowledge _ = _ at hasPrincipal
  change (roleBindings forms.roleBinding).read shared.repo.knowledge _ = _ at hasRole
  change (policyBindings forms.policyBinding).read shared.repo.knowledge _ = _ at hasPolicy
  rw [tenantStatus, principalStatus, boundRole, policyRole, hasTenant, hasPrincipal, hasRole,
    hasPolicy]
  exact ⟨congrArg some tenantActive, congrArg some principalActive, congrArg some sameRole⟩

/-- What each operation does to the tables that decide about access. -/
theorem standing_step (host : Nat → Moment) (op : IdentityOp) (shared : Shared)
    (kept : (policyBindings forms.policyBinding).Kept shared.repo.knowledge) :
    Standing forms op shared.repo.knowledge
      ((identityRuns store forms host).step shared op).2.repo.knowledge := by
  cases op with
  | issue sessionId tenantId principalId policyId leaseTtlMs =>
    exact standing_issue unmirrored forms sessionId tenantId principalId policyId leaseTtlMs
      shared kept
  | validate sessionId identity capabilityId requestedMemoryMb requestedTokens =>
    have same := sameRows_validate unmirrored forms sessionId identity capabilityId
      requestedMemoryMb requestedTokens shared
    refine Eq.subst (motive := Standing forms _ shared.repo.knowledge) same.symm ?_
    exact ⟨fun _ => rfl, fun _ => rfl, fun _ => rfl, fun _ => rfl, kept⟩
  | storeTenant record =>
    obtain ⟨later, ran, put⟩ := (tenants forms.tenant).run_upsert_put unmirrored record shared
    change Standing forms _ _ (Prod.snd (((tenants forms.tenant).upsert store record).run
      shared)).repo.knowledge
    rw [ran]
    exact .of_tenant kept put
  | storePrincipal record =>
    obtain ⟨later, ran, put⟩ :=
      (principals forms.principal).run_upsert_put unmirrored record shared
    change Standing forms _ _ (Prod.snd (((principals forms.principal).upsert store record).run
      shared)).repo.knowledge
    rw [ran]
    exact .of_principal kept put
  | storeRoleBinding record =>
    obtain ⟨later, ran, put⟩ :=
      (roleBindings forms.roleBinding).run_upsert_put unmirrored record shared
    change Standing forms _ _ (Prod.snd (((roleBindings forms.roleBinding).upsert store
      record).run shared)).repo.knowledge
    rw [ran]
    exact .of_roleBinding kept put
  | storePolicyBinding record =>
    obtain ⟨later, ran, put⟩ :=
      (policyBindings forms.policyBinding).run_upsert_put unmirrored record shared
    change Standing forms _ _ (Prod.snd (((policyBindings forms.policyBinding).upsert store
      record).run shared)).repo.knowledge
    rw [ran]
    exact .of_policyBinding kept put

end Steps

end AutoLoop.Security
