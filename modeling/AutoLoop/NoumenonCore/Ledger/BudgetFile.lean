import AutoLoop.NoumenonCore.Ledger.Budget
import AutoLoop.NoumenonCore.Ledger.EvidenceFile

/-!
# The budget ledger in a file

The file ledger stores events and rebuilds the accounts from them at every call.
Replaying its file gives the accounts of the in-memory ledger after the same
calls, so both answer alike.
-/

namespace AutoLoop.NoumenonCore

open Text

/-- A ledger whose events are the lines of a text file.  Appending to the file
and reading it back succeed. -/
structure FileBudgetLedger (codec : HexCodec) where
  content : String := ""
  deriving DecidableEq, Repr

/-- `parse::<u64>().ok()`. -/
def parseU64 (text : String) : Option UInt64 :=
  (parseUnsigned (2 ^ 64) text).map UInt64.ofNat

namespace FileBudgetLedger

variable {codec : HexCodec}

def eventLine (codec : HexCodec) (kind accountId tenantId : String) (units : UInt64) :
    String :=
  joinWith '|'
    [kind, encodeField codec accountId, encodeField codec tenantId, units.toNat.repr]

def appendEvent (kind accountId tenantId : String) (units : UInt64) :
    Effect (FileBudgetLedger codec) Unit := fun ledger =>
  (.ok (), ⟨ledger.content ++ (eventLine codec kind accountId tenantId units ++ "\n")⟩)

/-- What an event of some kind does to the account it names. -/
def applyKind (kind : String) (units : UInt64) (entry : BudgetAccount) : BudgetAccount :=
  match kind with
  | "reserve" => entry.addReserved units
  | "consume" => (entry.subReserved units).addConsumed units
  | "refund" => entry.subReserved units
  | _ => entry

/-- One line of the file.  A line that is not an event is skipped. -/
def loadLine (codec : HexCodec) (accounts : HashMap String BudgetAccount)
    (line : String) : HashMap String BudgetAccount :=
  match Text.split '|' line with
  | [kind, accountField, tenantField, unitsField] =>
    match decodeField codec accountField, decodeField codec tenantField, parseU64 unitsField with
    | some accountId, some tenantId, some units =>
      accounts.insert accountId
        (applyKind kind units (accountOr accounts accountId tenantId))
    | _, _, _ => accounts
  | _ => accounts

def loadAccounts (ledger : FileBudgetLedger codec) : HashMap String BudgetAccount :=
  (lines ledger.content).foldl (loadLine codec) HashMap.empty

def reserve (accountId tenantId : String) (units : UInt64) :
    Effect (FileBudgetLedger codec) Unit :=
  appendEvent "reserve" accountId tenantId units

def consume (accountId : String) (units : UInt64) :
    Effect (FileBudgetLedger codec) Unit := fun ledger =>
  match (loadAccounts ledger).get accountId with
  | none => (.error "budget account not found", ledger)
  | some current =>
    if current.reservedUnits < units then
      (.error "insufficient reserved budget", ledger)
    else
      appendEvent "consume" accountId current.tenantId units ledger

def refund (accountId : String) (units : UInt64) :
    Effect (FileBudgetLedger codec) Unit := fun ledger =>
  match (loadAccounts ledger).get accountId with
  | none => (.error "budget account not found", ledger)
  | some current => appendEvent "refund" accountId current.tenantId units ledger

def snapshot (accountId : String) (ledger : FileBudgetLedger codec) :
    Option BudgetAccount :=
  (loadAccounts ledger).get accountId

end FileBudgetLedger

instance (codec : HexCodec) : BudgetLedger (FileBudgetLedger codec) where
  reserve := FileBudgetLedger.reserve
  consume := FileBudgetLedger.consume
  refund := FileBudgetLedger.refund
  snapshot := FileBudgetLedger.snapshot

namespace FileBudgetLedger

variable (codec : HexCodec)

@[simp] theorem parseU64_repr (units : UInt64) :
    parseU64 units.toNat.repr = some units := by
  rw [parseU64, parseUnsigned_repr units.toNat_lt]
  simp

/-- The kinds of events that the ledger writes. -/
def IsKind (kind : String) : Prop := kind = "reserve" ∨ kind = "consume" ∨ kind = "refund"

section
variable {kind : String} (isKind : IsKind kind)
include isKind

theorem eventLine_clean (accountId tenantId : String) (units : UInt64) :
    ∀ field ∈ [kind, encodeField codec accountId, encodeField codec tenantId, units.toNat.repr],
      ∀ char ∈ field.toList, char ≠ '|' ∧ char ≠ '\n' ∧ char ≠ '\r' := by
  have hexClean : ∀ {text : String}, IsHexText text →
      ∀ char ∈ text.toList, char ≠ '|' ∧ char ≠ '\n' ∧ char ≠ '\r' := by
    intro text digits char membership
    have isDigit := digits char membership
    refine ⟨?_, ?_, ?_⟩ <;> rintro rfl <;> simp [isHexDigit] at isDigit
  have kindClean : kind.toList.all
      (fun char => char ≠ '|' && char ≠ '\n' && char ≠ '\r') = true := by
    rcases isKind with rfl | rfl | rfl <;> decide
  simp only [List.forall_mem_cons]
  refine ⟨?_, hexClean (encodeField_isHexText codec _),
    hexClean (encodeField_isHexText codec _), hexClean (repr_isHexText _), by simp⟩
  intro char membership
  simpa [and_assoc] using List.all_eq_true.mp kindClean char membership

theorem loadLine_eventLine (accounts : HashMap String BudgetAccount) (accountId tenantId : String)
    (units : UInt64) :
    loadLine codec accounts (eventLine codec kind accountId tenantId units) =
      accounts.insert accountId
        (applyKind kind units (accountOr accounts accountId tenantId)) := by
  have clean := eventLine_clean codec isKind accountId tenantId units
  have fields := split_joinWith '|'
    [kind, encodeField codec accountId, encodeField codec tenantId, units.toNat.repr]
    (by simp) fun field membership found => (clean field membership _ found).1 rfl
  simp [loadLine, eventLine, fields]

theorem eventLine_isRow (accountId tenantId : String) (units : UInt64) :
    IsRow (eventLine codec kind accountId tenantId units) := by
  have clean := eventLine_clean codec isKind accountId tenantId units
  have lineClean : ∀ char ∈ (eventLine codec kind accountId tenantId units).toList,
      char ≠ '\n' ∧ char ≠ '\r' := by
    intro char membership
    rcases mem_joinWith membership with rfl | ⟨field, fieldMem, inField⟩
    · decide
    · exact (clean field fieldMem char inField).2
  constructor
  · intro membership
    exact (lineClean _ membership).1 rfl
  · intro last
    exact (lineClean _ (List.mem_of_getLast? last)).2 rfl

end

/-! ## Refinement -/

/-- The file consists of event lines whose replay gives the accounts. -/
def Holds (file : FileBudgetLedger codec) (memory : InMemoryBudgetLedger) : Prop :=
  ∃ rows, (∀ row ∈ rows, IsRow row) ∧ file.content = unlines rows ∧
    rows.foldl (loadLine codec) HashMap.empty = memory.accounts

variable {codec}
variable {file : FileBudgetLedger codec} {memory : InMemoryBudgetLedger}

theorem Holds.loadAccounts (holds : Holds codec file memory) :
    file.loadAccounts = memory.accounts := by
  obtain ⟨rows, areRows, content, replay⟩ := holds
  rw [FileBudgetLedger.loadAccounts, content, lines_unlines rows areRows, replay]

theorem Holds.append (holds : Holds codec file memory) (kind : String)
    (isKind : IsKind kind) (accountId tenantId : String) (units : UInt64) :
    Holds codec (appendEvent kind accountId tenantId units file).2
      ⟨memory.accounts.insert accountId
        (applyKind kind units (accountOr memory.accounts accountId tenantId))⟩ := by
  obtain ⟨rows, areRows, content, replay⟩ := holds
  refine ⟨rows ++ [eventLine codec kind accountId tenantId units], ?_, ?_, ?_⟩
  · intro row membership
    rcases List.mem_append.mp membership with earlier | new
    · exact areRows row earlier
    · rw [List.mem_singleton.mp new]
      exact eventLine_isRow codec isKind accountId tenantId units
  · simp [appendEvent, content, unlines_snoc]
  · rw [List.foldl_append, replay]
    exact loadLine_eventLine codec isKind memory.accounts accountId tenantId units

theorem accountOr_of_some {accounts : HashMap String BudgetAccount} {accountId : String}
    {entry : BudgetAccount} (found : accounts.get accountId = some entry) (tenantId : String) :
    accountOr accounts accountId tenantId = entry := by
  simp [accountOr, found]

section
variable (holds : Holds codec file memory) (accountId : String) (units : UInt64)
include holds

theorem Holds.consume :
    (FileBudgetLedger.consume accountId units file).1 =
        (InMemoryBudgetLedger.consume accountId units memory).1 ∧
      Holds codec (FileBudgetLedger.consume accountId units file).2
        (InMemoryBudgetLedger.consume accountId units memory).2 := by
  simp only [FileBudgetLedger.consume, InMemoryBudgetLedger.consume, holds.loadAccounts]
  cases found : memory.accounts.get accountId with
  | none => exact ⟨rfl, holds⟩
  | some entry =>
    simp only
    split
    · exact ⟨rfl, holds⟩
    · next covered =>
      refine ⟨rfl, ?_⟩
      have grown := holds.append "consume" (by simp [IsKind]) accountId
        entry.tenantId units
      rw [accountOr_of_some found] at grown
      have covers : units ≤ entry.reservedUnits := UInt64.not_lt.mp covered
      have same : applyKind "consume" units entry =
          { entry with
            reservedUnits := entry.reservedUnits - units
            consumedUnits := saturatingAdd entry.consumedUnits units } := by
        simp [applyKind, BudgetAccount.subReserved, BudgetAccount.addConsumed,
          saturatingSub_eq_sub covers]
      rwa [same] at grown

theorem Holds.refund :
    (FileBudgetLedger.refund accountId units file).1 =
        (InMemoryBudgetLedger.refund accountId units memory).1 ∧
      Holds codec (FileBudgetLedger.refund accountId units file).2
        (InMemoryBudgetLedger.refund accountId units memory).2 := by
  simp only [FileBudgetLedger.refund, InMemoryBudgetLedger.refund, holds.loadAccounts]
  cases found : memory.accounts.get accountId with
  | none => exact ⟨rfl, holds⟩
  | some entry =>
    refine ⟨rfl, ?_⟩
    have grown := holds.append "refund" (by simp [IsKind]) accountId
      entry.tenantId units
    rwa [accountOr_of_some found] at grown

end

end FileBudgetLedger

variable (codec : HexCodec)

def budgetSimulation :
    Component.Simulation (budgetComponent (FileBudgetLedger codec) {})
      (budgetComponent InMemoryBudgetLedger {}) where
  Related := FileBudgetLedger.Holds codec
  initial := ⟨[], by simp, rfl, rfl⟩
  answer := by
    intro file memory op holds
    cases op with
    | reserve accountId tenantId units => rfl
    | consume accountId units =>
      exact congrArg BudgetAnswer.result (holds.consume accountId units).1
    | refund accountId units =>
      exact congrArg BudgetAnswer.result (holds.refund accountId units).1
    | snapshot accountId =>
      exact congrArg (fun accounts => BudgetAnswer.account (accounts.get accountId))
        holds.loadAccounts
  step := by
    intro file memory op holds
    cases op with
    | reserve accountId tenantId units =>
      exact holds.append "reserve" (Or.inl rfl) accountId tenantId units
    | consume accountId units => exact (holds.consume accountId units).2
    | refund accountId units => exact (holds.refund accountId units).2
    | snapshot accountId => exact holds

/-- The file ledger answers every sequence of calls as the in-memory ledger does,
and replaying its file afterwards yields the in-memory accounts. -/
theorem fileBudget_refines_inMemory (ops : List BudgetOp) :
    ((budgetComponent (FileBudgetLedger codec) {}).run {} ops).1 =
        ((budgetComponent InMemoryBudgetLedger {}).run {} ops).1 ∧
      ((budgetComponent (FileBudgetLedger codec) {}).run {} ops).2.loadAccounts =
        ((budgetComponent InMemoryBudgetLedger {}).run {} ops).2.accounts := by
  have simulated := (budgetSimulation codec).run (budgetSimulation codec).initial ops
  have holds : FileBudgetLedger.Holds codec
      ((budgetComponent (FileBudgetLedger codec) {}).run {} ops).2
      ((budgetComponent InMemoryBudgetLedger {}).run {} ops).2 := simulated.2
  exact ⟨simulated.1, holds.loadAccounts⟩

end AutoLoop.NoumenonCore
