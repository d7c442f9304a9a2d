import AutoLoop.StateAdapter.IdentityAndBilling

/-!
# Forms of identity and billing records

A form for every record of the identity and billing tables, with the law of the
real one: the fields of a record one after another, each as a text.
-/

namespace AutoLoop.StateAdapter

open List

variable {α β Record : Type}

/-- Values that some texts stand for, whatever texts follow them. -/
class FieldForm (α : Type) where
  write : α → List String
  read : List String → Option (α × List String)
  read_write : ∀ value rest, read (write value ++ rest) = some (value, rest)
  nonempty : ∀ value, write value ≠ []

namespace FieldForm

instance text : FieldForm String where
  write value := [value]
  read
    | [] => none
    | value :: rest => some (value, rest)
  read_write _ _ := rfl
  nonempty _ := cons_ne_nil _ _

@[reducible] def ofText (render : α → String) (parse : String → Option α)
    (parsed : ∀ value, parse (render value) = some value) : FieldForm α where
  write value := [render value]
  read
    | [] => none
    | field :: rest => (parse field).map (·, rest)
  read_write value rest := by
    simp only [cons_append, nil_append, parsed, Option.map_some]
  nonempty _ := cons_ne_nil _ _

instance word64 : FieldForm UInt64 :=
  ofText (·.toNat.repr) (fun field => (Text.parseUnsigned (2 ^ 64) field).map UInt64.ofNat)
    fun value => by
      rw [Text.parseUnsigned_repr value.toNat_lt, Option.map_some, UInt64.ofNat_toNat]

instance word32 : FieldForm UInt32 :=
  ofText (·.toNat.repr) (fun field => (Text.parseUnsigned (2 ^ 32) field).map UInt32.ofNat)
    fun value => by
      rw [Text.parseUnsigned_repr value.toNat_lt, Option.map_some, UInt32.ofNat_toNat]

/-- Signed numbers by their two's complement. -/
instance signed : FieldForm Int64 :=
  ofText (·.toUInt64.toNat.repr)
    (fun field => (Text.parseUnsigned (2 ^ 64) field).map fun number =>
      (UInt64.ofNat number).toInt64)
    fun value => by
      rw [Text.parseUnsigned_repr value.toUInt64.toNat_lt, Option.map_some,
        UInt64.ofNat_toNat, Int64.toInt64_toUInt64]

instance kind : FieldForm SpendLedgerKind :=
  ofText
    (fun
      | .reserve => "reserve"
      | .settle => "settle"
      | .refund => "refund"
      | .blocked => "blocked")
    (fun
      | "reserve" => some .reserve
      | "settle" => some .settle
      | "refund" => some .refund
      | "blocked" => some .blocked
      | _ => none)
    fun value => by cases value <;> rfl

instance action : FieldForm PermissionAction :=
  ofText
    (fun
      | .read => "read"
      | .write => "write"
      | .dispatch => "dispatch"
      | .admin => "admin")
    (fun
      | "read" => some .read
      | "write" => some .write
      | "dispatch" => some .dispatch
      | "admin" => some .admin
      | _ => none)
    fun value => by cases value <;> rfl

instance pair [FieldForm α] [FieldForm β] : FieldForm (α × β) where
  write value := write value.1 ++ write value.2
  read fields := do
    let (first, rest) ← read fields
    let (second, rest) ← read rest
    return ((first, second), rest)
  read_write value rest := by
    simp only [append_assoc, read_write, Option.bind_eq_bind, Option.bind_some]
    rfl
  nonempty value := append_ne_nil_of_left_ne_nil (nonempty value.1) _

def readMany [FieldForm α] : Nat → List String → Option (List α × List String)
  | 0, fields => some ([], fields)
  | count + 1, fields => do
      let (value, rest) ← read fields
      let (values, rest) ← readMany count rest
      return (value :: values, rest)

theorem readMany_write [FieldForm α] (values : List α) (rest : List String) :
    readMany values.length (values.flatMap write ++ rest) = some (values, rest) := by
  induction values with
  | nil => rfl
  | cons value values ih =>
    simp only [length_cons, readMany, flatMap_cons, append_assoc, read_write,
      Option.bind_eq_bind, Option.bind_some, ih]
    rfl

instance list [FieldForm α] : FieldForm (List α) where
  write values := String.ofList (values.map fun _ => 'x') :: values.flatMap write
  read
    | [] => none
    | count :: rest => readMany count.toList.length rest
  read_write values rest := by
    simp only [cons_append, String.toList_ofList, length_map]
    exact readMany_write values rest
  nonempty _ := cons_ne_nil _ _

end FieldForm

def JsonForm.ofFields [FieldForm α] (fields : Record → α) (build : α → Record)
    (built : ∀ record, build (fields record) = record) : JsonForm Record :=
  JsonForm.ofTexts (fun record => FieldForm.write (fields record))
    (fun texts =>
      match FieldForm.read texts with
      | some (value, []) => some (build value)
      | _ => none)
    (fun record => FieldForm.nonempty _)
    (fun record => by
      have same := FieldForm.read_write (fields record) []
      rw [append_nil] at same
      simp only [same, built])

namespace RecordForms

def tenant : JsonForm Tenant :=
  .ofFields (fun record => (record.tenantId, record.name, record.status, record.createdAtMs))
    (fun (tenantId, name, status, createdAtMs) => ⟨tenantId, name, status, createdAtMs⟩)
    fun _ => rfl

def principal : JsonForm Principal :=
  .ofFields
    (fun record => (record.principalId, record.tenantId, record.principalType, record.status,
      record.createdAtMs))
    (fun (principalId, tenantId, principalType, status, createdAtMs) =>
      ⟨principalId, tenantId, principalType, status, createdAtMs⟩)
    fun _ => rfl

def roleBinding : JsonForm RoleBinding :=
  .ofFields
    (fun record => (record.tenantId, record.principalId, record.role, record.updatedAtMs))
    (fun (tenantId, principalId, role, updatedAtMs) =>
      ⟨tenantId, principalId, role, updatedAtMs⟩)
    fun _ => rfl

def policyBinding : JsonForm PolicyBinding :=
  .ofFields
    (fun record => (record.policyId, record.tenantId, record.role, record.allowedActions,
      record.capabilityPrefixes, record.maxMemoryMb, record.maxTokens, record.updatedAtMs))
    (fun (policyId, tenantId, role, allowedActions, capabilityPrefixes, maxMemoryMb, maxTokens,
        updatedAtMs) =>
      ⟨policyId, tenantId, role, allowedActions, capabilityPrefixes, maxMemoryMb, maxTokens,
        updatedAtMs⟩)
    fun _ => rfl

def sessionLease : JsonForm SessionLease :=
  .ofFields
    (fun record => (record.leaseToken, record.sessionId, record.tenantId, record.principalId,
      record.policyId, record.expiresAtMs, record.issuedAtMs))
    (fun (leaseToken, sessionId, tenantId, principalId, policyId, expiresAtMs, issuedAtMs) =>
      ⟨leaseToken, sessionId, tenantId, principalId, policyId, expiresAtMs, issuedAtMs⟩)
    fun _ => rfl

def budgetAccount : JsonForm BudgetAccount :=
  .ofFields
    (fun record => (record.accountId, record.tenantId, record.principalId, record.policyId,
      record.totalBudgetMicros, record.reservedMicros, record.spentMicros,
      record.blockedCount, record.updatedAtMs))
    (fun (accountId, tenantId, principalId, policyId, totalBudgetMicros, reservedMicros,
        spentMicros, blockedCount, updatedAtMs) =>
      ⟨accountId, tenantId, principalId, policyId, totalBudgetMicros, reservedMicros,
        spentMicros, blockedCount, updatedAtMs⟩)
    fun _ => rfl

def spendLedger : JsonForm SpendLedger :=
  .ofFields
    (fun entry => (entry.ledgerId, entry.tenantId, entry.accountId, entry.sessionId,
      entry.traceId, entry.taskId, entry.capabilityId, entry.kind, entry.amountMicros,
      entry.tokenCostMicros, entry.toolCostMicros, entry.durationCostMicros, entry.reason,
      entry.createdAtMs))
    (fun (ledgerId, tenantId, accountId, sessionId, traceId, taskId, capabilityId, kind,
        amountMicros, tokenCostMicros, toolCostMicros, durationCostMicros, reason,
        createdAtMs) =>
      ⟨ledgerId, tenantId, accountId, sessionId, traceId, taskId, capabilityId, kind,
        amountMicros, tokenCostMicros, toolCostMicros, durationCostMicros, reason,
        createdAtMs⟩)
    fun _ => rfl

def quotaWindow : JsonForm QuotaWindow :=
  .ofFields
    (fun record => (record.windowId, record.tenantId, record.accountId, record.windowStartMs,
      record.windowEndMs, record.windowBudgetMicros, record.consumedMicros,
      record.blockedCount, record.updatedAtMs))
    (fun (windowId, tenantId, accountId, windowStartMs, windowEndMs, windowBudgetMicros,
        consumedMicros, blockedCount, updatedAtMs) =>
      ⟨windowId, tenantId, accountId, windowStartMs, windowEndMs, windowBudgetMicros,
        consumedMicros, blockedCount, updatedAtMs⟩)
    fun _ => rfl

def costAttribution : JsonForm CostAttribution :=
  .ofFields
    (fun record => (record.attributionId, record.tenantId, record.principalId, record.policyId,
      record.sessionId, record.traceId, record.taskId, record.capabilityId,
      record.providerTokens, record.toolInvocations, record.durationMs,
      record.tokenCostMicros, record.toolCostMicros, record.durationCostMicros,
      record.totalCostMicros, record.settledAtMs))
    (fun (attributionId, tenantId, principalId, policyId, sessionId, traceId, taskId,
        capabilityId, providerTokens, toolInvocations, durationMs, tokenCostMicros,
        toolCostMicros, durationCostMicros, totalCostMicros, settledAtMs) =>
      ⟨attributionId, tenantId, principalId, policyId, sessionId, traceId, taskId,
        capabilityId, providerTokens, toolInvocations, durationMs, tokenCostMicros,
        toolCostMicros, durationCostMicros, totalCostMicros, settledAtMs⟩)
    fun _ => rfl

def all : JsonForms where
  tenant
  principal
  roleBinding
  policyBinding
  sessionLease
  budgetAccount
  spendLedger
  quotaWindow
  costAttribution

end RecordForms

end AutoLoop.StateAdapter
