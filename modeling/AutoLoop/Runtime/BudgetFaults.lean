import AutoLoop.Runtime.BudgetBooks

/-!
# Budget operations over calls that fail

The budget operations over store calls of which any may fail.  A call that fails leaves the
store as it is, and the operation ends there, after what its earlier calls did.
-/

namespace AutoLoop.Runtime

open StateAdapter

variable {World α β : Type}

/-! ## The operations over any calls -/

/-- The clock and the store calls of the budget operations. -/
structure BudgetCalls (World : Type) where
  nowMs : Effect World UInt64
  getBudgetAccount : String → String → Effect World (Option BudgetAccount)
  getQuotaWindow : String → String → String → Effect World (Option QuotaWindow)
  upsertBudgetAccount : BudgetAccount → Effect World BudgetAccount
  upsertQuotaWindow : QuotaWindow → Effect World QuotaWindow
  appendSpendLedger : SpendLedger → Effect World SpendLedger
  upsertCostAttribution : CostAttribution → Effect World CostAttribution

def BudgetCalls.ofStore (store : StateStore) (forms : JsonForms) :
    BudgetCalls Shared where
  nowMs := StateStore.nowMs.run
  getBudgetAccount tenantId accountId := (store.getBudgetAccount forms tenantId accountId).run
  getQuotaWindow tenantId accountId windowId :=
    (store.getQuotaWindow forms tenantId accountId windowId).run
  upsertBudgetAccount account := (store.upsertBudgetAccount forms account).run
  upsertQuotaWindow window := (store.upsertQuotaWindow forms window).run
  appendSpendLedger entry := (store.appendSpendLedger forms entry).run
  upsertCostAttribution attribution := (store.upsertCostAttribution forms attribution).run

namespace RuntimeKernel

variable (kernel : RuntimeKernel) (calls : BudgetCalls World)

section
variable (envelope : TaskEnvelope) (estimatedTokens : UInt32)

/-- The part of a precharge after its reads. -/
def decideOver (now : UInt64)
    (account : BudgetAccount) (window : QuotaWindow) :
    Effect World (Option BudgetReservation) := do
  let estimated := estimatePrechargeMicros envelope estimatedTokens
  if kernel.blocks account window estimated then
    let _ ← calls.upsertBudgetAccount { account with
      blockedCount := saturatingAdd account.blockedCount 1, updatedAtMs := now }
    let _ ← calls.upsertQuotaWindow { window with
      blockedCount := saturatingAdd window.blockedCount 1, updatedAtMs := now }
    let _ ← Effect.attempt (calls.appendSpendLedger
      (prechargeEntry envelope .blocked (envelope.ledgerId "blocked" now)
        "budget_precharge_exceeded" estimated estimatedTokens now))
    Effect.fail "budget precharge exceeded"
  else
    let _ ← calls.upsertBudgetAccount (chargedAccount account estimated now)
    let _ ← calls.upsertQuotaWindow (chargedWindow window estimated now)
    let _ ← calls.appendSpendLedger (prechargeEntry envelope .reserve
      (envelope.ledgerId "reserve" now) "precharge" estimated estimatedTokens now)
    return some (reservationOf envelope estimated now)

def prechargeOver :
    Effect World (Option BudgetReservation) := do
  if !kernel.budgetEnforced then
    return none
  let now ← calls.nowMs
  let tenantId := envelope.identity.tenantId
  let accountId := envelope.accountId
  let account := (← calls.getBudgetAccount tenantId accountId).getD
    (kernel.newAccount envelope now)
  let window := (← calls.getQuotaWindow tenantId accountId (kernel.windowIdFor now)).getD
    (kernel.newWindow envelope now)
  kernel.decideOver calls envelope estimatedTokens now account window

end

def loadOver (reservation : BudgetReservation) (during : String) :
    Effect World (BudgetAccount × QuotaWindow) := do
  match ← calls.getBudgetAccount reservation.tenantId reservation.accountId with
  | none => Effect.fail ("budget account missing during " ++ during)
  | some account =>
    match ← calls.getQuotaWindow reservation.tenantId reservation.accountId
        (kernel.windowIdFor reservation.startedAtMs) with
    | none => Effect.fail ("quota window missing during " ++ during)
    | some window => return (account, window)

section
variable (envelope : TaskEnvelope) (reservation : BudgetReservation)

def attributionOf (providerTokens toolInvocations : UInt32) (durationMs now : UInt64)
    (cost : CostBreakdown) : CostAttribution where
  attributionId := envelope.traceId ++ ":" ++ envelope.taskId ++ ":" ++ now.toNat.repr
  tenantId := reservation.tenantId
  principalId := reservation.principalId
  policyId := reservation.policyId
  sessionId := envelope.sessionId
  traceId := envelope.traceId
  taskId := envelope.taskId
  capabilityId := envelope.capabilityId
  providerTokens
  toolInvocations
  durationMs
  tokenCostMicros := cost.tokenCostMicros
  toolCostMicros := cost.toolCostMicros
  durationCostMicros := cost.durationCostMicros
  totalCostMicros := cost.totalCostMicros
  settledAtMs := now

/-- The entry of a settlement. -/
def settleEntry (cost : CostBreakdown) (now : UInt64) : SpendLedger :=
  reservationEntry envelope reservation .settle (envelope.ledgerId "settle" now)
    ("settled_from:" ++ reservation.reservationId) cost.totalCostMicros.toInt64 cost now

def refundEntry (cost : CostBreakdown) (now : UInt64) : SpendLedger :=
  reservationEntry envelope reservation .refund (envelope.ledgerId "refund" now)
    ("refund_from:" ++ reservation.reservationId) (-(refundMicros reservation cost).toInt64)
    noCost (saturatingAdd now 1)

/-- The part of a settlement after its reads. -/
def settleReservedOver (providerTokens toolInvocations : UInt32) (durationMs now : UInt64)
    (account : BudgetAccount) (window : QuotaWindow) : Effect World CostBreakdown := do
  let cost := costBreakdown providerTokens toolInvocations durationMs
  let _ ← calls.upsertBudgetAccount (settledAccount account reservation cost now)
  let _ ← calls.upsertQuotaWindow (settledWindow window reservation cost now)
  let _ ← calls.appendSpendLedger (settleEntry envelope reservation cost now)
  if cost.totalCostMicros < reservation.reservedMicros then
    let _ ← calls.appendSpendLedger (refundEntry envelope reservation cost now)
  let _ ← calls.upsertCostAttribution
    (attributionOf envelope reservation providerTokens toolInvocations durationMs now cost)
  return cost

def settleOver (providerTokens toolInvocations : UInt32) (durationMs : UInt64) :
    Effect World CostBreakdown := do
  if !kernel.budgetEnforced then
    return noCost
  let now ← calls.nowMs
  let loaded ← kernel.loadOver calls reservation "settle"
  settleReservedOver calls envelope reservation providerTokens toolInvocations durationMs now
    loaded.1 loaded.2

end

variable (store : StateStore) (forms : JsonForms)

end RuntimeKernel

/-! ## Calls that fail -/

/-- A store, how many calls were made, and which calls fail with which message. -/
structure FaultyStore where
  shared : Shared
  made : Nat
  failing : Nat → Option String

namespace FaultyStore

/-- The store after one more call. -/
def moved (world : FaultyStore) (shared : Shared) : FaultyStore :=
  { world with shared, made := world.made + 1 }

/-- What is not a call of the store does not fail. -/
def reading (action : Effect Shared α) : Effect FaultyStore α := fun world =>
  ((action world.shared).1, { world with shared := (action world.shared).2 })

def call (action : Effect Shared α) : Effect FaultyStore α := fun world =>
  match world.failing world.made with
  | some message => (.error message, world.moved world.shared)
  | none => ((action world.shared).1, world.moved (action world.shared).2)

def calls (reliable : BudgetCalls Shared) : BudgetCalls FaultyStore where
  nowMs := reading reliable.nowMs
  getBudgetAccount tenantId accountId := call (reliable.getBudgetAccount tenantId accountId)
  getQuotaWindow tenantId accountId windowId :=
    call (reliable.getQuotaWindow tenantId accountId windowId)
  upsertBudgetAccount account := call (reliable.upsertBudgetAccount account)
  upsertQuotaWindow window := call (reliable.upsertQuotaWindow window)
  appendSpendLedger entry := call (reliable.appendSpendLedger entry)
  upsertCostAttribution attribution := call (reliable.upsertCostAttribution attribution)

section
variable {action : Effect Shared α} {world : FaultyStore}

theorem call_of_fails {message : String}
    (fails : world.failing world.made = some message) :
    call action world = (.error message, world.moved world.shared) := by
  rw [call, fails]

theorem call_of_works {answer : Except String α}
    {later : Shared} (works : world.failing world.made = none)
    (ran : action world.shared = (answer, later)) :
    call action world = (answer, world.moved later) := by
  rw [call, works, ran]

end

end FaultyStore

end AutoLoop.Runtime
