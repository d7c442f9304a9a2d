import AutoLoop.StateAdapter.TypedTables

/-!
# Separation of identity and billing records

The nine typed tables of the store and runs of writes to them, without a mirror.
All tables share one knowledge table, so two records are separate as far as their
colon-joined keys are: an upsert leaves another record alone, and a list returns
only records of its own account or session, exactly when no identifiers consist
of the same pieces grouped in another way.
-/

namespace AutoLoop.StateAdapter

open Text (joinWith)
open TypedTable TypedTable.Kept List Shared Text

/-! ## Records -/

structure Tenant where
  tenantId : String
  name : String
  status : String
  createdAtMs : UInt64
  deriving DecidableEq, Repr

structure Principal where
  principalId : String
  tenantId : String
  principalType : String
  status : String
  createdAtMs : UInt64
  deriving DecidableEq, Repr

structure RoleBinding where
  tenantId : String
  principalId : String
  role : String
  updatedAtMs : UInt64
  deriving DecidableEq, Repr

structure PolicyBinding where
  policyId : String
  tenantId : String
  role : String
  allowedActions : List PermissionAction
  capabilityPrefixes : List String
  maxMemoryMb : UInt32
  maxTokens : UInt32
  updatedAtMs : UInt64
  deriving DecidableEq, Repr

structure SessionLease where
  leaseToken : String
  sessionId : String
  tenantId : String
  principalId : String
  policyId : String
  expiresAtMs : UInt64
  issuedAtMs : UInt64
  deriving DecidableEq, Repr

structure BudgetAccount where
  accountId : String
  tenantId : String
  principalId : String
  policyId : String
  totalBudgetMicros : UInt64
  reservedMicros : UInt64
  spentMicros : UInt64
  blockedCount : UInt64
  updatedAtMs : UInt64
  deriving DecidableEq, Repr

inductive SpendLedgerKind where
  | reserve
  | settle
  | refund
  | blocked
  deriving DecidableEq, Repr

structure SpendLedger where
  ledgerId : String
  tenantId : String
  accountId : String
  sessionId : String
  traceId : String
  taskId : String
  capabilityId : String
  kind : SpendLedgerKind
  amountMicros : Int64
  tokenCostMicros : UInt64
  toolCostMicros : UInt64
  durationCostMicros : UInt64
  reason : String
  createdAtMs : UInt64
  deriving DecidableEq, Repr

structure QuotaWindow where
  windowId : String
  tenantId : String
  accountId : String
  windowStartMs : UInt64
  windowEndMs : UInt64
  windowBudgetMicros : UInt64
  consumedMicros : UInt64
  blockedCount : UInt64
  updatedAtMs : UInt64
  deriving DecidableEq, Repr

structure CostAttribution where
  attributionId : String
  tenantId : String
  principalId : String
  policyId : String
  sessionId : String
  traceId : String
  taskId : String
  capabilityId : String
  providerTokens : UInt32
  toolInvocations : UInt32
  durationMs : UInt64
  tokenCostMicros : UInt64
  toolCostMicros : UInt64
  durationCostMicros : UInt64
  totalCostMicros : UInt64
  settledAtMs : UInt64
  deriving DecidableEq, Repr

/-! ## Tables -/

def tenants (form : JsonForm Tenant) : TypedTable Tenant where
  domain := "identity"
  name := "identity:tenant"
  relation := "identity_tenants"
  operation := "upsert_tenant"
  columns record := [record.tenantId]
  form
  plain := by decide

def principals (form : JsonForm Principal) : TypedTable Principal where
  domain := "identity"
  name := "identity:principal"
  relation := "identity_principals"
  operation := "upsert_principal"
  columns record := [record.tenantId, record.principalId]
  form
  plain := by decide

def roleBindings (form : JsonForm RoleBinding) : TypedTable RoleBinding where
  domain := "identity"
  name := "identity:role-binding"
  relation := "identity_role_bindings"
  operation := "upsert_role_binding"
  columns record := [record.tenantId, record.principalId]
  form
  plain := by decide

def policyBindings (form : JsonForm PolicyBinding) : TypedTable PolicyBinding where
  domain := "identity"
  name := "identity:policy-binding"
  relation := "identity_policy_bindings"
  operation := "upsert_policy_binding"
  columns record := [record.tenantId, record.policyId]
  form
  plain := by decide

def sessionLeases (form : JsonForm SessionLease) : TypedTable SessionLease where
  domain := "identity"
  name := "identity:session-lease"
  relation := "identity_session_leases"
  operation := "upsert_session_lease"
  columns record := [record.sessionId]
  form
  plain := by decide

def budgetAccounts (form : JsonForm BudgetAccount) : TypedTable BudgetAccount where
  domain := "billing"
  name := "billing:budget-account"
  relation := "billing_budget_accounts"
  operation := "upsert_budget_account"
  columns record := [record.tenantId, record.accountId]
  form
  plain := by decide

def spendLedgers (form : JsonForm SpendLedger) : TypedTable SpendLedger where
  domain := "billing"
  name := "billing:spend-ledger"
  relation := "billing_spend_ledger"
  operation := "append_spend_ledger"
  columns record := [record.tenantId, record.accountId, record.ledgerId]
  form
  plain := by decide

def quotaWindows (form : JsonForm QuotaWindow) : TypedTable QuotaWindow where
  domain := "billing"
  name := "billing:quota-window"
  relation := "billing_quota_windows"
  operation := "upsert_quota_window"
  columns record := [record.tenantId, record.accountId, record.windowId]
  form
  plain := by decide

def costAttributions (form : JsonForm CostAttribution) : TypedTable CostAttribution where
  domain := "billing"
  name := "billing:cost-attribution"
  relation := "billing_cost_attribution"
  operation := "upsert_cost_attribution"
  columns record := [record.tenantId, record.sessionId, record.attributionId]
  form
  plain := by decide

structure JsonForms where
  tenant : JsonForm Tenant
  principal : JsonForm Principal
  roleBinding : JsonForm RoleBinding
  policyBinding : JsonForm PolicyBinding
  sessionLease : JsonForm SessionLease
  budgetAccount : JsonForm BudgetAccount
  spendLedger : JsonForm SpendLedger
  quotaWindow : JsonForm QuotaWindow
  costAttribution : JsonForm CostAttribution

namespace StateStore

variable (store : StateStore) (forms : JsonForms)

def upsertTenant (record : Tenant) := (tenants forms.tenant).upsert store record

def getTenant (tenantId : String) := (tenants forms.tenant).get store [tenantId]

def upsertPrincipal (record : Principal) := (principals forms.principal).upsert store record

def getPrincipal (tenantId principalId : String) :=
  (principals forms.principal).get store [tenantId, principalId]

def upsertRoleBinding (record : RoleBinding) :=
  (roleBindings forms.roleBinding).upsert store record

def getRoleBinding (tenantId principalId : String) :=
  (roleBindings forms.roleBinding).get store [tenantId, principalId]

def upsertPolicyBinding (record : PolicyBinding) :=
  (policyBindings forms.policyBinding).upsert store record

def getPolicyBinding (tenantId policyId : String) :=
  (policyBindings forms.policyBinding).get store [tenantId, policyId]

def upsertSessionLease (record : SessionLease) :=
  (sessionLeases forms.sessionLease).upsert store record

def getSessionLease (sessionId : String) :=
  (sessionLeases forms.sessionLease).get store [sessionId]

def upsertBudgetAccount (record : BudgetAccount) :=
  (budgetAccounts forms.budgetAccount).upsert store record

def getBudgetAccount (tenantId accountId : String) :=
  (budgetAccounts forms.budgetAccount).get store [tenantId, accountId]

def appendSpendLedger (entry : SpendLedger) :=
  (spendLedgers forms.spendLedger).append (fun entry => "spend ledger " ++ entry.ledgerId)
    store entry

def listSpendLedger (tenantId accountId : String) :=
  (spendLedgers forms.spendLedger).list (·.createdAtMs) store [tenantId, accountId]

def upsertQuotaWindow (record : QuotaWindow) :=
  (quotaWindows forms.quotaWindow).upsert store record

def getQuotaWindow (tenantId accountId windowId : String) :=
  (quotaWindows forms.quotaWindow).get store [tenantId, accountId, windowId]

def upsertCostAttribution (record : CostAttribution) :=
  (costAttributions forms.costAttribution).upsert store record

def getCostAttribution (tenantId sessionId attributionId : String) :=
  (costAttributions forms.costAttribution).get store [tenantId, sessionId, attributionId]

def listCostAttributionBySession (tenantId sessionId : String) :=
  (costAttributions forms.costAttribution).list (·.settledAtMs) store [tenantId, sessionId]

end StateStore

/-! ## Runs of writes -/

inductive TypedWrite where
  | tenant (record : Tenant)
  | principal (record : Principal)
  | roleBinding (record : RoleBinding)
  | policyBinding (record : PolicyBinding)
  | sessionLease (record : SessionLease)
  | budgetAccount (record : BudgetAccount)
  | spendLedger (entry : SpendLedger)
  | quotaWindow (record : QuotaWindow)
  | costAttribution (record : CostAttribution)
  deriving DecidableEq, Repr

namespace TypedWrite

variable (store : StateStore) (forms : JsonForms)

/-- The world after a write, whatever it answered. -/
def perform (shared : Shared) : TypedWrite → Shared
  | .tenant record => ((store.upsertTenant forms record).run shared).2
  | .principal record => ((store.upsertPrincipal forms record).run shared).2
  | .roleBinding record => ((store.upsertRoleBinding forms record).run shared).2
  | .policyBinding record => ((store.upsertPolicyBinding forms record).run shared).2
  | .sessionLease record => ((store.upsertSessionLease forms record).run shared).2
  | .budgetAccount record => ((store.upsertBudgetAccount forms record).run shared).2
  | .spendLedger entry => ((store.appendSpendLedger forms entry).run shared).2
  | .quotaWindow record => ((store.upsertQuotaWindow forms record).run shared).2
  | .costAttribution record => ((store.upsertCostAttribution forms record).run shared).2

def tableName : TypedWrite → String
  | .tenant _ => "identity:tenant"
  | .principal _ => "identity:principal"
  | .roleBinding _ => "identity:role-binding"
  | .policyBinding _ => "identity:policy-binding"
  | .sessionLease _ => "identity:session-lease"
  | .budgetAccount _ => "billing:budget-account"
  | .spendLedger _ => "billing:spend-ledger"
  | .quotaWindow _ => "billing:quota-window"
  | .costAttribution _ => "billing:cost-attribution"

/-- The world after a sequence of writes. -/
def performAll (writes : List TypedWrite) (shared : Shared) : Shared :=
  writes.foldl (perform store forms) shared

end TypedWrite

section Runs

variable {store : StateStore} (unmirrored : store.mirror = none)
variable {Record Other : Type} {table : TypedTable Record} {other : TypedTable Other}
include unmirrored

section
variable {shared : Shared} (kept : table.Kept shared.repo.knowledge)
include kept

theorem TypedTable.Kept.upsert (record : Record) :
    table.Kept ((table.upsert store record).run shared).2.repo.knowledge := by
  obtain ⟨id, nextId, ran⟩ := table.run_upsert unmirrored record shared
  rw [ran]
  exact kept.put record id _

theorem TypedTable.Kept.upsert_apart (apart : NamesApart table.name other.name) (record : Other) :
    table.Kept ((other.upsert store record).run shared).2.repo.knowledge := by
  obtain ⟨id, nextId, ran⟩ := other.run_upsert unmirrored record shared
  rw [ran]
  exact kept.put_apart apart _ id _ _

theorem TypedTable.Kept.append (describe : Record → String) (record : Record) :
    table.Kept ((table.append describe store record).run shared).2.repo.knowledge := by
  rw [table.run_append unmirrored]
  split
  · exact kept
  · have later : table.Kept { shared with tick := shared.tick + 1 }.repo.knowledge := kept
    exact upsert unmirrored later record

theorem TypedTable.Kept.append_apart (apart : NamesApart table.name other.name)
    (describe : Other → String) (record : Other) :
    table.Kept ((other.append describe store record).run shared).2.repo.knowledge := by
  rw [other.run_append unmirrored]
  split
  · exact kept
  · have later : table.Kept { shared with tick := shared.tick + 1 }.repo.knowledge := kept
    exact upsert_apart unmirrored later apart record

end

end Runs

section Lists

variable {store : StateStore} (unmirrored : store.mirror = none) (forms : JsonForms)
include unmirrored

theorem kept_perform_of_apart {Record : Type} {table : TypedTable Record} {shared : Shared}
    (kept : table.Kept shared.repo.knowledge) {write : TypedWrite}
    (apart : NamesApart table.name write.tableName) :
    table.Kept (TypedWrite.perform store forms shared write).repo.knowledge := by
  cases write with
  | tenant record =>
    refine upsert_apart unmirrored kept ?_ record
    exact apart
  | principal record =>
    refine upsert_apart unmirrored kept ?_ record
    exact apart
  | roleBinding record =>
    refine upsert_apart unmirrored kept ?_ record
    exact apart
  | policyBinding record =>
    refine upsert_apart unmirrored kept ?_ record
    exact apart
  | sessionLease record =>
    refine upsert_apart unmirrored kept ?_ record
    exact apart
  | budgetAccount record =>
    refine upsert_apart unmirrored kept ?_ record
    exact apart
  | spendLedger entry =>
    refine append_apart unmirrored kept ?_ _ entry
    exact apart
  | quotaWindow record =>
    refine upsert_apart unmirrored kept ?_ record
    exact apart
  | costAttribution record =>
    refine upsert_apart unmirrored kept ?_ record
    exact apart

theorem spendLedgers_kept_perform {shared : Shared}
    (kept : (spendLedgers forms.spendLedger).Kept shared.repo.knowledge) (write : TypedWrite) :
    (spendLedgers forms.spendLedger).Kept
      (TypedWrite.perform store forms shared write).repo.knowledge := by
  cases write with
  | spendLedger entry => exact append unmirrored kept _ entry
  | _ =>
    apply kept_perform_of_apart unmirrored forms kept
    simp only [TypedWrite.tableName, spendLedgers]
    decide

theorem costAttributions_kept_perform {shared : Shared}
    (kept : (costAttributions forms.costAttribution).Kept shared.repo.knowledge)
    (write : TypedWrite) :
    (costAttributions forms.costAttribution).Kept
      (TypedWrite.perform store forms shared write).repo.knowledge := by
  cases write with
  | costAttribution record => exact upsert unmirrored kept record
  | _ =>
    apply kept_perform_of_apart unmirrored forms kept
    simp only [TypedWrite.tableName, costAttributions]
    decide

omit unmirrored in
theorem kept_performAll {Record : Type} {table : TypedTable Record}
    (step : ∀ shared write, table.Kept shared.repo.knowledge →
      table.Kept (TypedWrite.perform store forms shared write).repo.knowledge)
    (writes : List TypedWrite) {shared : Shared}
    (kept : table.Kept shared.repo.knowledge) :
    table.Kept (TypedWrite.performAll store forms writes shared).repo.knowledge := by
  induction writes generalizing shared with
  | nil => exact kept
  | cons write rest ih => exact ih (step shared write kept)

section
variable (writes : List TypedWrite) (host : Nat → Moment)

theorem listSpendLedger_own_iff (tenantId accountId : String) :
    (∀ entries, ((store.listSpendLedger forms tenantId accountId).run
        (TypedWrite.performAll store forms writes (started host))).1 = .ok entries →
      ∀ entry ∈ entries, entry.tenantId = tenantId ∧ entry.accountId = accountId) ↔
    ∀ entry, (spendLedgers forms.spendLedger).Stored
        (TypedWrite.performAll store forms writes (started host)) entry →
      Extends [tenantId, accountId]
        [entry.tenantId, entry.accountId, entry.ledgerId] →
      entry.tenantId = tenantId ∧ entry.accountId = accountId := by
  have empty : (spendLedgers forms.spendLedger).Kept (started host).repo.knowledge :=
    kept_empty _
  have kept := kept_performAll forms
    (fun _ write kept => spendLedgers_kept_perform unmirrored forms kept write) writes empty
  apply list_own_iff _ unmirrored kept
  · intro entry
    exact cons_ne_nil _ _
  · exact cons_ne_nil _ _

theorem listCostAttributionBySession_own_iff (tenantId sessionId : String) :
    (∀ entries, ((store.listCostAttributionBySession forms tenantId sessionId).run
        (TypedWrite.performAll store forms writes (started host))).1 = .ok entries →
      ∀ entry ∈ entries, entry.tenantId = tenantId ∧ entry.sessionId = sessionId) ↔
    ∀ entry, (costAttributions forms.costAttribution).Stored
        (TypedWrite.performAll store forms writes (started host)) entry →
      Extends [tenantId, sessionId]
        [entry.tenantId, entry.sessionId, entry.attributionId] →
      entry.tenantId = tenantId ∧ entry.sessionId = sessionId := by
  have empty : (costAttributions forms.costAttribution).Kept (started host).repo.knowledge :=
    kept_empty _
  have kept := kept_performAll forms
    (fun _ write kept => costAttributions_kept_perform unmirrored forms kept write) writes empty
  apply list_own_iff _ unmirrored kept
  · intro entry
    exact cons_ne_nil _ _
  · exact cons_ne_nil _ _

end

end Lists

/-! ## Separation -/

/-- Without a mirror: an upsert leaves the records of all other identifiers alone
exactly when these do not consist of its pieces grouped in another way, and a list
returns only records of its own account or session exactly when no stored record
of another one has identifiers that extend the given ones. -/
theorem typed_records_separate_iff (forms : JsonForms) (defaultHash : String → UInt64) :
    let store : StateStore := ⟨none, defaultHash⟩
    (∀ (record : Principal) tenantId principalId,
      [tenantId, principalId] ≠ [record.tenantId, record.principalId] →
        (Unaffected (store.upsertPrincipal forms record)
            (store.getPrincipal forms tenantId principalId) ↔
          ¬Reframed ':' [tenantId, principalId]
            [record.tenantId, record.principalId])) ∧
    (∀ (record : RoleBinding) tenantId principalId,
      [tenantId, principalId] ≠ [record.tenantId, record.principalId] →
        (Unaffected (store.upsertRoleBinding forms record)
            (store.getRoleBinding forms tenantId principalId) ↔
          ¬Reframed ':' [tenantId, principalId]
            [record.tenantId, record.principalId])) ∧
    (∀ (record : PolicyBinding) tenantId policyId,
      [tenantId, policyId] ≠ [record.tenantId, record.policyId] →
        (Unaffected (store.upsertPolicyBinding forms record)
            (store.getPolicyBinding forms tenantId policyId) ↔
          ¬Reframed ':' [tenantId, policyId] [record.tenantId, record.policyId])) ∧
    (∀ (record : BudgetAccount) tenantId accountId,
      [tenantId, accountId] ≠ [record.tenantId, record.accountId] →
        (Unaffected (store.upsertBudgetAccount forms record)
            (store.getBudgetAccount forms tenantId accountId) ↔
          ¬Reframed ':' [tenantId, accountId] [record.tenantId, record.accountId])) ∧
    (∀ (record : QuotaWindow) tenantId accountId windowId, [tenantId, accountId, windowId] ≠
          [record.tenantId, record.accountId, record.windowId] →
        (Unaffected (store.upsertQuotaWindow forms record)
            (store.getQuotaWindow forms tenantId accountId windowId) ↔
          ¬Reframed ':' [tenantId, accountId, windowId]
            [record.tenantId, record.accountId, record.windowId])) ∧
    (∀ (record : CostAttribution) tenantId sessionId attributionId,
      [tenantId, sessionId, attributionId] ≠
          [record.tenantId, record.sessionId, record.attributionId] →
        (Unaffected (store.upsertCostAttribution forms record)
            (store.getCostAttribution forms tenantId sessionId attributionId) ↔
          ¬Reframed ':' [tenantId, sessionId, attributionId]
            [record.tenantId, record.sessionId, record.attributionId])) ∧
    (∀ writes host tenantId accountId,
      let shared := TypedWrite.performAll store forms writes (started host)
      (∀ entries, ((store.listSpendLedger forms tenantId accountId).run shared).1 = .ok entries →
          ∀ entry ∈ entries, entry.tenantId = tenantId ∧ entry.accountId = accountId) ↔
        ∀ entry, (spendLedgers forms.spendLedger).Stored shared entry →
          Extends [tenantId, accountId]
            [entry.tenantId, entry.accountId, entry.ledgerId] →
          entry.tenantId = tenantId ∧ entry.accountId = accountId) ∧
    (∀ writes host tenantId sessionId,
      let shared := TypedWrite.performAll store forms writes (started host)
      (∀ entries, ((store.listCostAttributionBySession forms tenantId sessionId).run
            shared).1 = .ok entries →
          ∀ entry ∈ entries, entry.tenantId = tenantId ∧ entry.sessionId = sessionId) ↔
        ∀ entry, (costAttributions forms.costAttribution).Stored shared entry →
          Extends [tenantId, sessionId]
            [entry.tenantId, entry.sessionId, entry.attributionId] →
          entry.tenantId = tenantId ∧ entry.sessionId = sessionId) := by
  intro store
  have unmirrored : store.mirror = none := rfl
  refine ⟨?_, ?_, ?_, ?_, ?_, ?_, ?_, ?_⟩
  · intro record tenantId principalId different
    exact (principals forms.principal).unaffected_iff unmirrored
      (cons_ne_nil _ _) (cons_ne_nil _ _) different
  · intro record tenantId principalId different
    exact (roleBindings forms.roleBinding).unaffected_iff unmirrored
      (cons_ne_nil _ _) (cons_ne_nil _ _) different
  · intro record tenantId policyId different
    exact (policyBindings forms.policyBinding).unaffected_iff unmirrored
      (cons_ne_nil _ _) (cons_ne_nil _ _) different
  · intro record tenantId accountId different
    exact (budgetAccounts forms.budgetAccount).unaffected_iff unmirrored
      (cons_ne_nil _ _) (cons_ne_nil _ _) different
  · intro record tenantId accountId windowId different
    exact (quotaWindows forms.quotaWindow).unaffected_iff unmirrored
      (cons_ne_nil _ _) (cons_ne_nil _ _) different
  · intro record tenantId sessionId attributionId different
    exact (costAttributions forms.costAttribution).unaffected_iff unmirrored
      (cons_ne_nil _ _) (cons_ne_nil _ _) different
  · exact listSpendLedger_own_iff unmirrored forms
  · exact listCostAttributionBySession_own_iff unmirrored forms

/-- A form of principals with the law of the real one. -/
def principalForm : JsonForm Principal :=
  JsonForm.ofTexts
    (fun record => [record.principalId, record.tenantId, record.principalType, record.status,
      record.createdAtMs.toNat.repr])
    (fun texts =>
      match texts with
      | [principalId, tenantId, principalType, status, createdAt] =>
        (parseUnsigned (2 ^ 64) createdAt).map fun createdAtMs =>
          ⟨principalId, tenantId, principalType, status, UInt64.ofNat createdAtMs⟩
      | _ => none)
    (fun _ => cons_ne_nil _ _)
    (fun record => by
      simp only [parseUnsigned_repr record.createdAtMs.toNat_lt, Option.map_some,
        UInt64.ofNat_toNat])

/-- Principal `"c"` of tenant `"a:b"` and principal `"b:c"` of tenant `"a"` have one
key: writing the first changes what is read for the second. -/
theorem colon_tenant_overwrites :
    ¬∀ (form : JsonForm Principal) (defaultHash : String → UInt64) (record : Principal)
        (tenantId principalId : String),
      [tenantId, principalId] ≠ [record.tenantId, record.principalId] →
        Unaffected ((principals form).upsert ⟨none, defaultHash⟩ record)
          ((principals form).get ⟨none, defaultHash⟩ [tenantId, principalId]) := by
  intro isolated
  have unaffected := isolated principalForm (fun _ => 0) ⟨"c", "a:b", "user", "active", 0⟩
    "a" "b:c" (by decide)
  have separate := ((principals principalForm).unaffected_iff rfl (cons_ne_nil _ _)
    (cons_ne_nil _ _) (by decide)).mp unaffected
  revert separate
  decide

end AutoLoop.StateAdapter
