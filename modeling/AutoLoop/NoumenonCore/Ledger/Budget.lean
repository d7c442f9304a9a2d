import AutoLoop.Foundation.Component
import AutoLoop.Foundation.Effect
import AutoLoop.Foundation.HashMap
import AutoLoop.Foundation.Word

/-!
# Budget ledgers

The ledger trait and its in-memory implementation: accounts with reserved and
consumed units, changed by reservations, consumption and refunds.
-/

namespace AutoLoop.NoumenonCore

structure BudgetAccount where
  accountId : String
  tenantId : String
  reservedUnits : UInt64
  consumedUnits : UInt64
  deriving DecidableEq, Repr

/-- The trait `BudgetLedger`, over the type of ledger states. -/
class BudgetLedger (Ledger : Type) where
  reserve (accountId tenantId : String) (units : UInt64) : Effect Ledger Unit
  consume (accountId : String) (units : UInt64) : Effect Ledger Unit
  refund (accountId : String) (units : UInt64) : Effect Ledger Unit
  snapshot (accountId : String) : Ledger → Option BudgetAccount

/-- The law the kernel's admission relies on: a refused reservation leaves the
ledger as it was. -/
class LawfulBudgetLedger (Ledger : Type) [BudgetLedger Ledger] : Prop where
  reserve_error : ∀ {accountId tenantId : String} {units : UInt64}
    {before after : Ledger} {message : String},
    BudgetLedger.reserve accountId tenantId units before = (.error message, after) →
      after = before

/-- `or_insert` of a fresh account: the stored account, or one without units. -/
def accountOr (accounts : HashMap String BudgetAccount) (accountId tenantId : String) :
    BudgetAccount :=
  (accounts.get accountId).getD
    { accountId, tenantId, reservedUnits := 0, consumedUnits := 0 }

namespace BudgetAccount

section
variable (account : BudgetAccount) (units : UInt64)

def addReserved : BudgetAccount :=
  { account with reservedUnits := saturatingAdd account.reservedUnits units }

def subReserved : BudgetAccount :=
  { account with reservedUnits := saturatingSub account.reservedUnits units }

def addConsumed : BudgetAccount :=
  { account with consumedUnits := saturatingAdd account.consumedUnits units }

end

end BudgetAccount

/-! ## In memory -/

structure InMemoryBudgetLedger where
  accounts : HashMap String BudgetAccount := HashMap.empty

namespace InMemoryBudgetLedger

def reserve (accountId tenantId : String) (units : UInt64) :
    Effect InMemoryBudgetLedger Unit := fun ledger =>
  let entry := accountOr ledger.accounts accountId tenantId
  (.ok (), ⟨ledger.accounts.insert accountId (entry.addReserved units)⟩)

def consume (accountId : String) (units : UInt64) :
    Effect InMemoryBudgetLedger Unit := fun ledger =>
  match ledger.accounts.get accountId with
  | none => (.error "budget account not found", ledger)
  | some entry =>
    if entry.reservedUnits < units then
      (.error "insufficient reserved budget", ledger)
    else
      let charged :=
        { entry with
          reservedUnits := entry.reservedUnits - units
          consumedUnits := saturatingAdd entry.consumedUnits units }
      (.ok (), ⟨ledger.accounts.insert accountId charged⟩)

def refund (accountId : String) (units : UInt64) :
    Effect InMemoryBudgetLedger Unit := fun ledger =>
  match ledger.accounts.get accountId with
  | none => (.error "budget account not found", ledger)
  | some entry =>
    (.ok (), ⟨ledger.accounts.insert accountId (entry.subReserved units)⟩)

def snapshot (accountId : String) (ledger : InMemoryBudgetLedger) :
    Option BudgetAccount :=
  ledger.accounts.get accountId

def reservedUnits (ledger : InMemoryBudgetLedger) (accountId : String) : Nat :=
  ((ledger.accounts.get accountId).map (·.reservedUnits.toNat)).getD 0

theorem reserve_ok {accountId tenantId : String} {units : UInt64}
    {before after : InMemoryBudgetLedger}
    (reserved : reserve accountId tenantId units before = (.ok (), after))
    (unsaturated : before.reservedUnits accountId + units.toNat ≤ u64Max) :
    (after.accounts.get accountId).isSome = true ∧
      after.reservedUnits accountId = before.reservedUnits accountId + units.toNat := by
  cases reserved
  have entryUnits : (accountOr before.accounts accountId tenantId).reservedUnits.toNat =
      before.reservedUnits accountId := by
    rw [accountOr, reservedUnits]
    cases before.accounts.get accountId with
    | none => rfl
    | some account => rfl
  rw [← entryUnits] at unsaturated ⊢
  simp [reservedUnits, BudgetAccount.addReserved, toNat_saturatingAdd_of_le unsaturated]

theorem consume_cases {accountId : String} {ledger : InMemoryBudgetLedger}
    (accountExists : (ledger.accounts.get accountId).isSome = true) (units : UInt64) :
    (units.toNat ≤ ledger.reservedUnits accountId ∧
      ∃ charged, consume accountId units ledger = (.ok (), charged) ∧
        charged.reservedUnits accountId = ledger.reservedUnits accountId - units.toNat) ∨
    (ledger.reservedUnits accountId < units.toNat ∧
      consume accountId units ledger = (.error "insufficient reserved budget", ledger)) := by
  obtain ⟨account, found⟩ := Option.isSome_iff_exists.mp accountExists
  have units_eq : ledger.reservedUnits accountId = account.reservedUnits.toNat := by
    rw [reservedUnits, found]
    rfl
  rw [units_eq]
  by_cases short : account.reservedUnits < units
  · refine Or.inr ⟨UInt64.lt_iff_toNat_lt.mp short, ?_⟩
    simp only [consume, found, if_pos short]
  · have enough : units ≤ account.reservedUnits := UInt64.not_lt.mp short
    refine Or.inl ⟨UInt64.le_iff_toNat_le.mp enough, ?_⟩
    simp only [consume, found, if_neg short]
    refine ⟨_, rfl, ?_⟩
    simp [reservedUnits, UInt64.toNat_sub_of_le _ _ enough]

end InMemoryBudgetLedger

instance : BudgetLedger InMemoryBudgetLedger where
  reserve := InMemoryBudgetLedger.reserve
  consume := InMemoryBudgetLedger.consume
  refund := InMemoryBudgetLedger.refund
  snapshot := InMemoryBudgetLedger.snapshot

instance : LawfulBudgetLedger InMemoryBudgetLedger where
  reserve_error := by
    intro accountId tenantId units before after message refused
    cases refused

/-! ## A ledger as a component -/

/-- The calls of the trait. -/
inductive BudgetOp where
  | reserve (accountId tenantId : String) (units : UInt64)
  | consume (accountId : String) (units : UInt64)
  | refund (accountId : String) (units : UInt64)
  | snapshot (accountId : String)
  deriving DecidableEq, Repr

/-- What a call answers. -/
inductive BudgetAnswer where
  | result (result : Except String Unit)
  | account (found : Option BudgetAccount)

/-- A ledger that starts from a given state and is called through the trait. -/
def budgetComponent (Ledger : Type) [BudgetLedger Ledger] (initial : Ledger) :
    Component Ledger BudgetOp BudgetAnswer where
  initial := initial
  step ledger
    | .reserve accountId tenantId units =>
      let outcome := BudgetLedger.reserve accountId tenantId units ledger
      (.result outcome.1, outcome.2)
    | .consume accountId units =>
      let outcome := BudgetLedger.consume accountId units ledger
      (.result outcome.1, outcome.2)
    | .refund accountId units =>
      let outcome := BudgetLedger.refund accountId units ledger
      (.result outcome.1, outcome.2)
    | .snapshot accountId =>
      (.account (BudgetLedger.snapshot accountId ledger), ledger)

end AutoLoop.NoumenonCore
