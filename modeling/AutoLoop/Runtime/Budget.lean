import AutoLoop.Foundation.Word
import AutoLoop.StateAdapter.IdentityAndBilling

/-!
# Runtime budgets

A precharge reserves an estimate in the account of an identity and in the quota
window of the moment.  The reservation is later settled at the actual cost or
rolled back, in the window it was made in, and each operation appends to the spend
ledger.  Every operation holds the budget lock from its first access to its last.
-/

namespace AutoLoop.Runtime

open StateAdapter (StateStore StoreCall JsonForms BudgetAccount QuotaWindow SpendLedger
  SpendLedgerKind CostAttribution)

inductive RuntimeGateMode where
  | shadow
  | canary
  | full
  deriving DecidableEq, Repr

/-- The budget settings of a kernel; `validate` refuses windows of no length. -/
structure RuntimeKernel where
  gateMode : RuntimeGateMode
  budgetEnforced : Bool
  defaultBudgetMicros : UInt64
  quotaWindowMs : UInt64
  quotaWindowBudgetMicros : UInt64
  validated : quotaWindowMs ≠ 0

structure ExecutionIdentity where
  tenantId : String
  principalId : String
  policyId : String
  leaseToken : String
  deriving DecidableEq, Repr

structure ConstraintSet where
  maxCpuPercent : UInt8
  maxMemoryMb : UInt32
  timeoutMs : UInt64
  maxRetries : UInt8
  maxTokens : UInt32
  ioAllowPaths : List String
  ioDenyPaths : List String
  sandboxProfile : String
  requiresHumanApproval : Bool
  deriving DecidableEq, Repr

/-- A task as far as its budget is concerned. -/
structure TaskEnvelope where
  sessionId : String
  traceId : String
  taskId : String
  capabilityId : String
  identity : ExecutionIdentity
  constraints : ConstraintSet
  deriving DecidableEq, Repr

structure BudgetReservation where
  reservationId : String
  accountId : String
  tenantId : String
  principalId : String
  policyId : String
  reservedMicros : UInt64
  startedAtMs : UInt64
  deriving DecidableEq, Repr

structure CostBreakdown where
  tokenCostMicros : UInt64
  toolCostMicros : UInt64
  durationCostMicros : UInt64
  totalCostMicros : UInt64
  deriving DecidableEq, Repr

structure BudgetReconciliationReport where
  tenantId : String
  accountId : String
  ledgerSettledMicros : UInt64
  ledgerReservedOpenMicros : Int64
  accountSpentMicros : UInt64
  accountReservedMicros : UInt64
  consistent : Bool
  deriving DecidableEq, Repr

namespace TaskEnvelope

variable (envelope : TaskEnvelope)

def isProvider : Bool := Text.startsWith envelope.capabilityId "provider:"

/-- `account_id_for`. -/
def accountId : String :=
  envelope.identity.tenantId ++ ":" ++ envelope.identity.principalId ++ ":" ++
    envelope.identity.policyId

def ledgerId (kind : String) (now : UInt64) : String :=
  kind ++ ":" ++ envelope.traceId ++ ":" ++ envelope.taskId ++ ":" ++ now.toNat.repr

def toolCostMicros : UInt64 := if envelope.isProvider then 200 else 500

end TaskEnvelope

def estimatePrechargeMicros (envelope : TaskEnvelope) (estimatedTokens : UInt32) : UInt64 :=
  let tokenCost := estimatedTokens.toUInt64 * 10
  let durationCost := min envelope.constraints.timeoutMs 5000 * 2
  max (saturatingAdd (saturatingAdd tokenCost envelope.toolCostMicros) durationCost) 1000

def costBreakdown (providerTokens toolInvocations : UInt32) (durationMs : UInt64) :
    CostBreakdown :=
  let tokenCostMicros := providerTokens.toUInt64 * 10
  let toolCostMicros := toolInvocations.toUInt64 * 500
  let durationCostMicros := UInt64.ofNat (min (max durationMs.toNat 1 * 2) u64Max)
  { tokenCostMicros
    toolCostMicros
    durationCostMicros
    totalCostMicros :=
      saturatingAdd (saturatingAdd tokenCostMicros toolCostMicros) durationCostMicros }

namespace RuntimeKernel

variable (kernel : RuntimeKernel) (store : StateStore) (forms : JsonForms)

def windowIdFor (timestampMs : UInt64) : String :=
  (timestampMs / kernel.quotaWindowMs).toNat.repr

def windowBounds (timestampMs : UInt64) : UInt64 × UInt64 :=
  let start := timestampMs / kernel.quotaWindowMs * kernel.quotaWindowMs
  (start, saturatingAdd start kernel.quotaWindowMs)

/-- The account of a task before its first precharge. -/
def newAccount (envelope : TaskEnvelope) (now : UInt64) : BudgetAccount where
  accountId := envelope.accountId
  tenantId := envelope.identity.tenantId
  principalId := envelope.identity.principalId
  policyId := envelope.identity.policyId
  totalBudgetMicros := kernel.defaultBudgetMicros
  reservedMicros := 0
  spentMicros := 0
  blockedCount := 0
  updatedAtMs := now

/-- A quota window before the first precharge in it. -/
def newWindow (envelope : TaskEnvelope) (now : UInt64) : QuotaWindow where
  windowId := kernel.windowIdFor now
  tenantId := envelope.identity.tenantId
  accountId := envelope.accountId
  windowStartMs := (kernel.windowBounds now).1
  windowEndMs := (kernel.windowBounds now).2
  windowBudgetMicros := kernel.quotaWindowBudgetMicros
  consumedMicros := 0
  blockedCount := 0
  updatedAtMs := now

def blocks (account : BudgetAccount) (window : QuotaWindow) (estimated : UInt64) : Bool :=
  let accountRemaining := saturatingSub account.totalBudgetMicros
    (saturatingAdd account.spentMicros account.reservedMicros)
  let windowRemaining := saturatingSub window.windowBudgetMicros window.consumedMicros
  kernel.gateMode ≠ .shadow ∧ (accountRemaining < estimated ∨ windowRemaining < estimated)

def prechargeEntry (envelope : TaskEnvelope) (kind : SpendLedgerKind) (ledgerId reason : String)
    (estimated : UInt64) (estimatedTokens : UInt32) (now : UInt64) : SpendLedger where
  ledgerId
  tenantId := envelope.identity.tenantId
  accountId := envelope.accountId
  sessionId := envelope.sessionId
  traceId := envelope.traceId
  taskId := envelope.taskId
  capabilityId := envelope.capabilityId
  kind
  amountMicros := estimated.toInt64
  tokenCostMicros := estimatedTokens.toUInt64 * 10
  toolCostMicros := envelope.toolCostMicros
  durationCostMicros := 0
  reason
  createdAtMs := now

def reservationEntry (envelope : TaskEnvelope) (reservation : BudgetReservation)
    (kind : SpendLedgerKind) (ledgerId reason : String) (amountMicros : Int64)
    (cost : CostBreakdown) (createdAtMs : UInt64) : SpendLedger where
  ledgerId
  tenantId := reservation.tenantId
  accountId := reservation.accountId
  sessionId := envelope.sessionId
  traceId := envelope.traceId
  taskId := envelope.taskId
  capabilityId := envelope.capabilityId
  kind
  amountMicros
  tokenCostMicros := cost.tokenCostMicros
  toolCostMicros := cost.toolCostMicros
  durationCostMicros := cost.durationCostMicros
  reason
  createdAtMs

def noCost : CostBreakdown := ⟨0, 0, 0, 0⟩

def chargedAccount (account : BudgetAccount) (estimated now : UInt64) : BudgetAccount :=
  { account with
    reservedMicros := saturatingAdd account.reservedMicros estimated
    updatedAtMs := now }

def chargedWindow (window : QuotaWindow) (estimated now : UInt64) : QuotaWindow :=
  { window with
    consumedMicros := saturatingAdd window.consumedMicros estimated
    updatedAtMs := now }

section
variable (envelope : TaskEnvelope)

/-- The reservation of a precharge that is not blocked. -/
def reservationOf (estimated now : UInt64) : BudgetReservation where
  reservationId := envelope.ledgerId "reserve" now
  accountId := envelope.accountId
  tenantId := envelope.identity.tenantId
  principalId := envelope.identity.principalId
  policyId := envelope.identity.policyId
  reservedMicros := estimated
  startedAtMs := now

/-- The part of a precharge after its reads. -/
def decidePrecharge (estimatedTokens : UInt32) (now : UInt64)
    (account : BudgetAccount) (window : QuotaWindow) : StoreCall (Option BudgetReservation) := do
  let estimated := estimatePrechargeMicros envelope estimatedTokens
  if kernel.blocks account window estimated then
    let _ ← store.upsertBudgetAccount forms { account with
      blockedCount := saturatingAdd account.blockedCount 1, updatedAtMs := now }
    let _ ← store.upsertQuotaWindow forms { window with
      blockedCount := saturatingAdd window.blockedCount 1, updatedAtMs := now }
    let _ ← Future.attempt (store.appendSpendLedger forms
      (prechargeEntry envelope .blocked (envelope.ledgerId "blocked" now)
        "budget_precharge_exceeded" estimated estimatedTokens now))
    Future.fail "budget precharge exceeded"
  else
    let _ ← store.upsertBudgetAccount forms (chargedAccount account estimated now)
    let _ ← store.upsertQuotaWindow forms (chargedWindow window estimated now)
    let _ ← store.appendSpendLedger forms (prechargeEntry envelope .reserve
      (envelope.ledgerId "reserve" now) "precharge" estimated estimatedTokens now)
    return some (reservationOf envelope estimated now)

def prechargeBudget (estimatedTokens : UInt32) :
    StoreCall (Option BudgetReservation) := do
  if !kernel.budgetEnforced then
    return none
  let now ← StateStore.nowMs
  let tenantId := envelope.identity.tenantId
  let accountId := envelope.accountId
  let account := (← store.getBudgetAccount forms tenantId accountId).getD
    (kernel.newAccount envelope now)
  let window := (← store.getQuotaWindow forms tenantId accountId (kernel.windowIdFor now)).getD
    (kernel.newWindow envelope now)
  kernel.decidePrecharge store forms envelope estimatedTokens now account window

end

def loadReserved (reservation : BudgetReservation) (during : String) :
    StoreCall (BudgetAccount × QuotaWindow) := do
  match ← store.getBudgetAccount forms reservation.tenantId reservation.accountId with
  | none => Future.fail ("budget account missing during " ++ during)
  | some account =>
    match ← store.getQuotaWindow forms reservation.tenantId reservation.accountId
        (kernel.windowIdFor reservation.startedAtMs) with
    | none => Future.fail ("quota window missing during " ++ during)
    | some window => return (account, window)

/-- The account after a settlement. -/
def settledAccount (account : BudgetAccount) (reservation : BudgetReservation)
    (cost : CostBreakdown) (now : UInt64) : BudgetAccount :=
  { account with
    reservedMicros := saturatingSub account.reservedMicros reservation.reservedMicros
    spentMicros := saturatingAdd account.spentMicros cost.totalCostMicros
    updatedAtMs := now }

/-- The window after a settlement. -/
def settledWindow (window : QuotaWindow) (reservation : BudgetReservation)
    (cost : CostBreakdown) (now : UInt64) : QuotaWindow :=
  { window with
    consumedMicros := saturatingAdd
      (saturatingSub window.consumedMicros reservation.reservedMicros) cost.totalCostMicros
    updatedAtMs := now }

/-- What a settlement refunds. -/
def refundMicros (reservation : BudgetReservation) (cost : CostBreakdown) : UInt64 :=
  saturatingSub reservation.reservedMicros cost.totalCostMicros

section
variable (envelope : TaskEnvelope) (reservation : BudgetReservation)
  (providerTokens toolInvocations : UInt32)

/-- The part of a settlement after its reads. -/
def settleReserved (durationMs now : UInt64)
    (account : BudgetAccount) (window : QuotaWindow) : StoreCall CostBreakdown := do
  let cost := costBreakdown providerTokens toolInvocations durationMs
  let _ ← store.upsertBudgetAccount forms (settledAccount account reservation cost now)
  let _ ← store.upsertQuotaWindow forms (settledWindow window reservation cost now)
  let _ ← store.appendSpendLedger forms (reservationEntry envelope reservation .settle
    (envelope.ledgerId "settle" now) ("settled_from:" ++ reservation.reservationId)
    cost.totalCostMicros.toInt64 cost now)
  if cost.totalCostMicros < reservation.reservedMicros then
    let _ ← store.appendSpendLedger forms (reservationEntry envelope reservation .refund
      (envelope.ledgerId "refund" now) ("refund_from:" ++ reservation.reservationId)
      (-(refundMicros reservation cost).toInt64) noCost (saturatingAdd now 1))
  let _ ← store.upsertCostAttribution forms {
    attributionId := envelope.traceId ++ ":" ++ envelope.taskId ++ ":" ++ now.toNat.repr
    tenantId := reservation.tenantId
    principalId := reservation.principalId
    policyId := reservation.policyId
    sessionId := envelope.sessionId
    traceId := envelope.traceId
    taskId := envelope.taskId
    capabilityId := envelope.capabilityId
    providerTokens
    toolInvocations
    durationMs
    tokenCostMicros := cost.tokenCostMicros
    toolCostMicros := cost.toolCostMicros
    durationCostMicros := cost.durationCostMicros
    totalCostMicros := cost.totalCostMicros
    settledAtMs := now }
  return cost

def settleBudget (durationMs : UInt64) :
    StoreCall CostBreakdown := do
  if !kernel.budgetEnforced then
    return noCost
  let now ← StateStore.nowMs
  let loaded ← kernel.loadReserved store forms reservation "settle"
  settleReserved store forms envelope reservation providerTokens toolInvocations durationMs now
    loaded.1 loaded.2

end

def rolledBackAccount (account : BudgetAccount) (reservation : BudgetReservation)
    (now : UInt64) : BudgetAccount :=
  { account with
    reservedMicros := saturatingSub account.reservedMicros reservation.reservedMicros
    updatedAtMs := now }

def rolledBackWindow (window : QuotaWindow) (reservation : BudgetReservation)
    (now : UInt64) : QuotaWindow :=
  { window with
    consumedMicros := saturatingSub window.consumedMicros reservation.reservedMicros
    updatedAtMs := now }

def rollbackBudget (envelope : TaskEnvelope) (reservation : BudgetReservation)
    (reason : String) : StoreCall Unit := do
  if !kernel.budgetEnforced then
    return ()
  let now ← StateStore.nowMs
  let loaded ← kernel.loadReserved store forms reservation "rollback"
  let _ ← store.upsertBudgetAccount forms (rolledBackAccount loaded.1 reservation now)
  let _ ← store.upsertQuotaWindow forms (rolledBackWindow loaded.2 reservation now)
  let _ ← store.appendSpendLedger forms (reservationEntry envelope reservation .refund
    (envelope.ledgerId "rollback" now) ("rollback:" ++ reason)
    (-reservation.reservedMicros.toInt64) noCost now)
  return ()

end RuntimeKernel

/-! ## Reconciliation -/

/-- What the entries say was settled. -/
def ledgerSettledMicros (ledger : List SpendLedger) : UInt64 :=
  ((ledger.filter (·.kind = .settle)).map fun entry => (max entry.amountMicros 0).toUInt64).sum

def addOpenMicros (total : Int64) (entry : SpendLedger) : Int64 :=
  match entry.kind with
  | .reserve => saturatingAddSigned total (max entry.amountMicros 0)
  | .settle => saturatingSubSigned total (max entry.amountMicros 0)
  | .refund => saturatingSubSigned total entry.amountMicros.abs
  | .blocked => total

/-- What the entries say is still reserved. -/
def ledgerReservedOpenMicros (ledger : List SpendLedger) : Int64 :=
  ledger.foldl addOpenMicros 0

def reconcileBudgetAccount (store : StateStore) (forms : JsonForms)
    (tenantId accountId : String) : StoreCall BudgetReconciliationReport := do
  match ← store.getBudgetAccount forms tenantId accountId with
  | none => Future.fail "budget account not found"
  | some account =>
    let ledger ← store.listSpendLedger forms tenantId accountId
    let settled := ledgerSettledMicros ledger
    let reservedOpen := ledgerReservedOpenMicros ledger
    return {
      tenantId
      accountId
      ledgerSettledMicros := settled
      ledgerReservedOpenMicros := reservedOpen
      accountSpentMicros := account.spentMicros
      accountReservedMicros := account.reservedMicros
      consistent := settled = account.spentMicros ∧
        reservedOpen = account.reservedMicros.toInt64 }

end AutoLoop.Runtime
