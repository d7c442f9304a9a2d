import AutoLoop.Runtime.BudgetBooks

/-!
# Reconciliation of an account with its ledger

On one account, the settled entries of the ledger add up to what was spent, and its
open entries to what is reserved less what settlements cost beyond their
reservations.  So the reconciliation finds the account consistent exactly as long
as no settlement costs more than it reserved.
-/

namespace AutoLoop.Runtime

open StateAdapter RuntimeKernel BudgetBooks RecordForms List Shared

/-! ## Exact sums of a ledger -/

/-- What an entry adds to the open sum. -/
def openMicrosOf (entry : SpendLedger) : Int :=
  match entry.kind with
  | .reserve => (max entry.amountMicros 0).toInt
  | .settle => -(max entry.amountMicros 0).toInt
  | .refund => -entry.amountMicros.abs.toInt
  | .blocked => 0

def openMicros (ledger : List SpendLedger) : Int := (ledger.map openMicrosOf).sum

def settledAmounts (ledger : List SpendLedger) : Nat :=
  (((ledger.filter (·.kind = .settle)).map fun entry =>
    (max entry.amountMicros 0).toUInt64).map UInt64.toNat).sum

theorem openMicros_append (first second : List SpendLedger) :
    openMicros (first ++ second) = openMicros first + openMicros second := by
  simp [openMicros]

theorem openMicros_perm {first second : List SpendLedger} (reordered : first.Perm second) :
    openMicros first = openMicros second := by
  induction reordered with
  | nil => rfl
  | cons entry _ ih =>
    simp only [openMicros, map_cons, sum_cons] at ih ⊢
    rw [ih]
  | swap first second rest =>
    simp only [openMicros, map_cons, sum_cons]
    omega
  | trans _ _ ihFirst ihSecond => exact ihFirst.trans ihSecond

theorem settledAmounts_perm {first second : List SpendLedger}
    (reordered : first.Perm second) : settledAmounts first = settledAmounts second :=
  (((reordered.filter _).map _).map _).sum_nat

theorem settledAmounts_append (first second : List SpendLedger) :
    settledAmounts (first ++ second) = settledAmounts first + settledAmounts second := by
  simp [settledAmounts]

/-- Every running sum of the ledger is an `i64`. -/
def RunningSumsFit (ledger : List SpendLedger) : Prop :=
  ∀ part, part <+: ledger → -2 ^ 63 ≤ openMicros part ∧ openMicros part < 2 ^ 63

theorem toInt_addOpenMicros {total : Int64} {entry : SpendLedger}
    (above : -2 ^ 63 ≤ total.toInt + openMicrosOf entry)
    (below : total.toInt + openMicrosOf entry < 2 ^ 63) :
    (addOpenMicros total entry).toInt = total.toInt + openMicrosOf entry := by
  unfold addOpenMicros openMicrosOf at *
  cases isKind : entry.kind with
  | reserve =>
    simp only [isKind] at above below ⊢
    exact toInt_saturatingAddSigned above below
  | settle =>
    simp only [isKind] at above below ⊢
    exact toInt_saturatingSubSigned above below
  | refund =>
    simp only [isKind] at above below ⊢
    exact toInt_saturatingSubSigned above below
  | blocked => exact (Int.add_zero _).symm

/-- The fold of the reconciliation is exact while its running sums fit. -/
theorem toInt_foldl_addOpenMicros {before rest : List SpendLedger} {total : Int64}
    (isTotal : total.toInt = openMicros before)
    (fits : ∀ part, part <+: rest → -2 ^ 63 ≤ openMicros (before ++ part) ∧
      openMicros (before ++ part) < 2 ^ 63) :
    (rest.foldl addOpenMicros total).toInt = openMicros (before ++ rest) := by
  induction rest generalizing before total with
  | nil => rw [foldl_nil, isTotal, append_nil]
  | cons entry rest ih =>
    have next : openMicros (before ++ [entry]) = total.toInt + openMicrosOf entry := by
      rw [openMicros_append, isTotal]
      simp [openMicros]
    have first := fits [entry] (prefix_append [entry] rest)
    rw [next] at first
    rw [foldl_cons, ih ((toInt_addOpenMicros first.1 first.2).trans next.symm)]
    · rw [append_assoc]
      rfl
    · intro part inside
      rw [append_assoc]
      exact fits _ ((prefix_append_right_inj [entry]).mpr inside)

theorem toInt_ledgerReservedOpenMicros {ledger : List SpendLedger} (fits : RunningSumsFit ledger) :
    (ledgerReservedOpenMicros ledger).toInt = openMicros ledger := by
  have nothing : (0 : Int64).toInt = openMicros [] := rfl
  exact toInt_foldl_addOpenMicros nothing fits

theorem toNat_ledgerSettledMicros {ledger : List SpendLedger}
    (fits : settledAmounts ledger < 2 ^ 64) :
    (ledgerSettledMicros ledger).toNat = settledAmounts ledger :=
  toNat_sum fits

/-! ## Entries of the operations -/

section Entries

variable {envelope : TaskEnvelope} {reservation : BudgetReservation} {cost : CostBreakdown}

theorem sums_prechargeEntry {estimated now : UInt64} {ledgerId reason : String}
    {estimatedTokens : UInt32} (belowSign : estimated.toNat < 2 ^ 63) :
    openMicros [prechargeEntry envelope .reserve ledgerId reason estimated
        estimatedTokens now] = estimated.toNat ∧
      settledAmounts [prechargeEntry envelope .reserve ledgerId reason estimated
        estimatedTokens now] = 0 := by
  constructor
  · simp [openMicros, openMicrosOf, prechargeEntry, max_toInt64 belowSign, toInt_toInt64 belowSign]
  · simp [settledAmounts, prechargeEntry]

theorem sums_of_blocked {entries : List SpendLedger}
    (areBlocked : ∀ entry ∈ entries, entry.kind = .blocked) :
    openMicros entries = 0 ∧ settledAmounts entries = 0 := by
  induction entries with
  | nil => exact ⟨rfl, rfl⟩
  | cons entry rest ih =>
    have blocked := areBlocked entry (mem_cons_self ..)
    obtain ⟨noneOpen, noneSettled⟩ :=
      ih fun other membership => areBlocked other (mem_cons_of_mem _ membership)
    have split : entry :: rest = [entry] ++ rest := rfl
    rw [split, openMicros_append, settledAmounts_append, noneOpen, noneSettled]
    simp [openMicros, openMicrosOf, settledAmounts, blocked]

theorem sums_rollbackEntry {reason : String} {now : UInt64}
    (belowSign : reservation.reservedMicros.toNat < 2 ^ 63) :
    openMicros [rollbackEntry envelope reservation reason now] =
        -(reservation.reservedMicros.toNat : Int) ∧
      settledAmounts [rollbackEntry envelope reservation reason now] = 0 := by
  constructor
  · simp [openMicros, openMicrosOf, rollbackEntry,
      reservationEntry, toInt_abs_neg_toInt64 belowSign]
  · simp [settledAmounts, rollbackEntry, reservationEntry]

theorem settleEntries_own {now : UInt64} {entry : SpendLedger}
    (membership : entry ∈ settleEntries envelope reservation cost now) :
    entry.tenantId = reservation.tenantId ∧ entry.accountId = reservation.accountId := by
  unfold settleEntries at membership
  split at membership
  · rcases mem_pair.mp membership with rfl | rfl
    · exact ⟨rfl, rfl⟩
    · exact ⟨rfl, rfl⟩
  · rw [mem_singleton.mp membership]
    exact ⟨rfl, rfl⟩

theorem sums_settleEntries (envelope : TaskEnvelope) (now : UInt64)
    (reservedBelow : reservation.reservedMicros.toNat < 2 ^ 63)
    (costBelow : cost.totalCostMicros.toNat < 2 ^ 63) :
    openMicros (settleEntries envelope reservation cost now) =
        -(reservation.reservedMicros.toNat : Int) -
          (cost.totalCostMicros.toNat - reservation.reservedMicros.toNat : Nat) ∧
      settledAmounts (settleEntries envelope reservation cost now) =
        cost.totalCostMicros.toNat := by
  have refundIs : (refundMicros reservation cost).toNat =
      reservation.reservedMicros.toNat - cost.totalCostMicros.toNat :=
    toNat_saturatingSub _ _
  have refundBelow : (refundMicros reservation cost).toNat < 2 ^ 63 := by
    omega
  unfold settleEntries
  by_cases refunds : cost.totalCostMicros < reservation.reservedMicros
  · have below := UInt64.lt_iff_toNat_lt.mp refunds
    simp only [refunds, if_true]
    constructor
    · simp [openMicros, openMicrosOf, reservationEntry, max_toInt64 costBelow,
        toInt_toInt64 costBelow, toInt_abs_neg_toInt64 refundBelow, refundIs]
      omega
    · simp [settledAmounts, reservationEntry, max_toInt64 costBelow]
  · have above := UInt64.lt_iff_toNat_lt.not.mp refunds
    simp only [refunds, if_false]
    constructor
    · simp [openMicros, openMicrosOf, reservationEntry, max_toInt64 costBelow,
        toInt_toInt64 costBelow]
      omega
    · simp [settledAmounts, reservationEntry, max_toInt64 costBelow]

end Entries

/-! ## Runs on one account -/

section Runs

variable {kernel : RuntimeKernel} {forms : JsonForms} {store : StateStore}
variable {books later : BudgetBooks} {tenantId accountId : String}

/-- What the settlements cost beyond their reservations. -/
def BudgetBooks.overrunMicros (books : BudgetBooks) : Nat :=
  (books.settled.map fun entry =>
    entry.2.totalCostMicros.toNat - entry.1.reservedMicros.toNat).sum

/-- The operation is on the account. -/
def BudgetOp.OnAccount (tenantId accountId : String) : BudgetOp → Prop
  | .precharge envelope _ =>
    envelope.identity.tenantId = tenantId ∧ envelope.accountId = accountId
  | .settle _ reservation .. =>
    reservation.tenantId = tenantId ∧ reservation.accountId = accountId
  | .rollback _ reservation _ =>
    reservation.tenantId = tenantId ∧ reservation.accountId = accountId

/-- A settlement that costs no more than its reservation. -/
def BudgetOp.WithinReservation : BudgetOp → Prop
  | .settle _ reservation providerTokens toolInvocations durationMs =>
    (costBreakdown providerTokens toolInvocations durationMs).totalCostMicros ≤
      reservation.reservedMicros
  | .precharge .. => True
  | .rollback .. => True

instance BudgetOp.decidableWithinReservation : DecidablePred BudgetOp.WithinReservation
  | .settle _ _ _ _ _ => inferInstanceAs (Decidable (_ ≤ _))
  | .precharge .. => .isTrue trivial
  | .rollback .. => .isTrue trivial

/-- The ledger as the reconciliation reads it. -/
def ledgerOf (forms : JsonForms) (tenantId accountId : String) (knowledge : Knowledge) :
    List SpendLedger :=
  sortByKey (fun entry => entry.createdAtMs.toNat)
    ((spendLedgers forms.spendLedger).listed knowledge [tenantId, accountId])

/-- The values of the account and of its ledger are below `2 ^ 63`. -/
structure Representable (forms : JsonForms) (tenantId accountId : String)
    (books : BudgetBooks) : Prop where
  reserved : (books.liveMicros fun _ => True) < 2 ^ 63
  spent : (books.settledMicros fun _ => True) < 2 ^ 63
  running : RunningSumsFit (ledgerOf forms tenantId accountId books.shared.repo.knowledge)

section
variable (ofKind : BudgetReservation → Prop) [DecidablePred ofKind]

theorem liveMicros_le :
    books.liveMicros ofKind ≤ books.liveMicros fun _ => True := by
  unfold liveMicros
  induction books.live with
  | nil => exact Nat.le_refl _
  | cons reservation rest ih =>
    by_cases isOfKind : ofKind reservation
    · simpa [isOfKind] using ih
    · simp only [decide_eq_true_eq, isOfKind, filter_cons_of_neg, not_false_eq_true,
        decide_true, filter_true, map_cons, sum_cons] at ih ⊢
      omega

theorem settledMicros_le :
    books.settledMicros ofKind ≤ books.settledMicros fun _ => True := by
  unfold settledMicros
  induction books.settled with
  | nil => exact Nat.le_refl _
  | cons entry rest ih =>
    by_cases isOfKind : ofKind entry.1
    · simpa [isOfKind] using ih
    · simp only [decide_eq_true_eq, isOfKind, filter_cons_of_neg, not_false_eq_true,
        decide_true, filter_true, map_cons, sum_cons] at ih ⊢
      omega

end

theorem Representable.unsaturated (fits : Representable forms tenantId accountId books) :
    Unsaturated kernel forms books where
  reserved columns := by
    have below := fits.reserved
    exact (liveMicros_le _).trans_lt (by omega)
  spent columns := by
    have below := fits.spent
    exact (settledMicros_le _).trans_lt (by omega)
  consumed columns := by
    have reserved := fits.reserved
    have spent := fits.spent
    exact (Nat.add_le_add (liveMicros_le _) (settledMicros_le _)).trans_lt (by omega)

/-- What a run on one account keeps. -/
structure Reconcilable (kernel : RuntimeKernel) (forms : JsonForms)
    (tenantId accountId : String) (books : BudgetBooks) : Prop where
  sound : Sound kernel forms books
  own : ∀ reservation, reservation ∈ books.live ∨ reservation ∈ books.settled.map Prod.fst →
    reservation.tenantId = tenantId ∧ reservation.accountId = accountId
  found : ∀ reservation ∈ books.live,
    (accountAt forms books.shared.repo.knowledge reservation).isSome = true ∧
      (kernel.windowAt forms books.shared.repo.knowledge reservation).isSome = true
  opened : books.settled ≠ [] → ((budgetAccounts forms.budgetAccount).read
    books.shared.repo.knowledge [tenantId, accountId]).isSome = true
  settled : settledAmounts ((spendLedgers forms.spendLedger).listed
      books.shared.repo.knowledge [tenantId, accountId]) =
    books.settledMicros fun _ => True
  openSum : openMicros ((spendLedgers forms.spendLedger).listed
      books.shared.repo.knowledge [tenantId, accountId]) =
    (books.liveMicros fun _ => True) - (books.overrunMicros : Int)

theorem startsWith_ledgerKey (forms : JsonForms) (tenantId accountId ledgerId : String) :
    Text.startsWith ((spendLedgers forms.spendLedger).key [tenantId, accountId, ledgerId])
      ((spendLedgers forms.spendLedger).start [tenantId, accountId]) = true := by
  rw [Text.startsWith_iff_exists]
  refine ⟨ledgerId, ?_⟩
  have colon : String.singleton ':' = ":" := rfl
  simp only [TypedTable.key, TypedTable.start, Text.joinWith, colon, String.append_assoc]

section Writes

variable {account : BudgetAccount} {window : QuotaWindow} {entries : List SpendLedger}
variable {before after : Knowledge}

section
variable (wrote : Wrote forms account window entries before after)
include wrote

theorem account_found_of_wrote {columns : List String}
    (found : ((budgetAccounts forms.budgetAccount).read before columns).isSome = true) :
    ((budgetAccounts forms.budgetAccount).read after columns).isSome = true := by
  rw [wrote.account]
  split
  · rfl
  · exact found

theorem window_found_of_wrote {columns : List String}
    (found : ((quotaWindows forms.quotaWindow).read before columns).isSome = true) :
    ((quotaWindows forms.quotaWindow).read after columns).isSome = true := by
  rw [wrote.window]
  split
  · rfl
  · exact found

theorem sums_of_wrote
    (own : ∀ entry ∈ entries, entry.tenantId = tenantId ∧ entry.accountId = accountId) :
    openMicros ((spendLedgers forms.spendLedger).listed after [tenantId, accountId]) =
        openMicros entries +
          openMicros ((spendLedgers forms.spendLedger).listed before [tenantId, accountId]) ∧
      settledAmounts ((spendLedgers forms.spendLedger).listed after [tenantId, accountId]) =
        settledAmounts entries + settledAmounts
          ((spendLedgers forms.spendLedger).listed before [tenantId, accountId]) := by
  have listing := wrote.ledger [tenantId, accountId] (by
    intro entry membership
    obtain ⟨ownTenant, ownAccount⟩ := own entry membership
    rw [ownTenant, ownAccount]
    exact startsWith_ledgerKey _ _ _ _)
  rw [openMicros_perm listing, settledAmounts_perm listing]
  exact ⟨openMicros_append _ _, settledAmounts_append _ _⟩

end

end Writes

theorem Reconcilable.of_wrote {account : BudgetAccount} {window : QuotaWindow}
    {entries : List SpendLedger}
    (reconcilable : Reconcilable kernel forms tenantId accountId books)
    (sound : Sound kernel forms later)
    (wrote : Wrote forms account window entries books.shared.repo.knowledge
      later.shared.repo.knowledge)
    (ownEntries : ∀ entry ∈ entries, entry.tenantId = tenantId ∧ entry.accountId = accountId)
    (own : ∀ reservation, reservation ∈ later.live ∨ reservation ∈ later.settled.map Prod.fst →
        reservation.tenantId = tenantId ∧ reservation.accountId = accountId)
    (found : ∀ reservation ∈ later.live, reservation ∈ books.live ∨
      (accountAt forms later.shared.repo.knowledge reservation).isSome = true ∧
        (kernel.windowAt forms later.shared.repo.knowledge reservation).isSome = true)
    (opened : books.settled ≠ [] ∨ later.settled = [] ∨ ((budgetAccounts
      forms.budgetAccount).read later.shared.repo.knowledge [tenantId, accountId]).isSome = true)
    (settled : settledAmounts entries + (books.settledMicros fun _ => True) =
      later.settledMicros fun _ => True)
    (openSum : openMicros entries +
        ((books.liveMicros fun _ => True) - (books.overrunMicros : Int)) =
      (later.liveMicros fun _ => True) - (later.overrunMicros : Int)) :
    Reconcilable kernel forms tenantId accountId later := by
  obtain ⟨openAfter, settledAfter⟩ := sums_of_wrote wrote ownEntries
  refine ⟨sound, own, ?_, ?_, ?_, ?_⟩
  · intro reservation isLive
    rcases found reservation isLive with wasLive | stands
    · obtain ⟨hasAccount, hasWindow⟩ := reconcilable.found reservation wasLive
      exact ⟨account_found_of_wrote wrote hasAccount, window_found_of_wrote wrote hasWindow⟩
    · exact stands
  · intro nonempty
    rcases opened with before | empty | stands
    · exact account_found_of_wrote wrote (reconcilable.opened before)
    · exact absurd empty nonempty
    · exact stands
  · rw [settledAfter, reconcilable.settled, settled]
  · rw [openAfter, reconcilable.openSum, openSum]

/-- What an operation adds to the overrun. -/
def BudgetOp.overrun : BudgetOp → Nat
  | .settle _ reservation providerTokens toolInvocations durationMs =>
    (costBreakdown providerTokens toolInvocations durationMs).totalCostMicros.toNat -
      reservation.reservedMicros.toNat
  | .precharge .. => 0
  | .rollback .. => 0

theorem overrun_eq_zero_iff (op : BudgetOp) : op.overrun = 0 ↔ op.WithinReservation := by
  cases op with
  | precharge => exact iff_of_true rfl trivial
  | rollback => exact iff_of_true rfl trivial
  | settle =>
    simp only [BudgetOp.overrun, BudgetOp.WithinReservation]
    rw [UInt64.le_iff_toNat_le, Nat.sub_eq_zero_iff_le]

section Steps

variable (unmirrored : store.mirror = none) (host : Nat → Moment)
include unmirrored

theorem reconcilable_step {op : BudgetOp}
    (reconcilable : Reconcilable kernel forms tenantId accountId books)
    (onAccount : op.OnAccount tenantId accountId) (bookable : Bookable kernel forms books op)
    (fitsBefore : Representable forms tenantId accountId books)
    (fits : Representable forms tenantId accountId
      ((budgetRuns kernel store forms host).step books op).2) :
    Reconcilable kernel forms tenantId accountId
        ((budgetRuns kernel store forms host).step books op).2 ∧
      ((budgetRuns kernel store forms host).step books op).2.overrunMicros =
        op.overrun + books.overrunMicros := by
  have sound := sound_step unmirrored host reconcilable.sound bookable fits.unsaturated
  cases enforced : kernel.budgetEnforced with
  | false =>
    have noneLive := reconcilable.sound.unenforced enforced
    cases op with
    | precharge envelope estimatedTokens =>
      have ran := run_prechargeBudget_of_unenforced store forms enforced
        envelope estimatedTokens books.shared
      simp only [budgetRuns, ran]
      exact ⟨reconcilable, (Nat.zero_add _).symm⟩
    | settle envelope reservation =>
      have isLive := bookable.live reservation rfl
      rw [noneLive] at isLive
      exact absurd isLive not_mem_nil
    | rollback envelope reservation =>
      have isLive := bookable.live reservation rfl
      rw [noneLive] at isLive
      exact absurd isLive not_mem_nil
  | true =>
    cases op with
    | precharge envelope estimatedTokens =>
      obtain ⟨rfl, rfl⟩ := onAccount
      rcases prechargeBudget_cases unmirrored enforced rfl bookable with
        ⟨later, entries, blockedCount, blockedIn, -, ran, wrote, areBlocked⟩ |
          ⟨later, -, ran, wrote⟩
      · simp only [budgetRuns, ran] at sound ⊢
        obtain ⟨noneOpen, noneSettled⟩ :=
          sums_of_blocked fun entry membership => (areBlocked entry membership).1
        refine ⟨reconcilable.of_wrote sound wrote
          (fun entry membership => (areBlocked entry membership).2) reconcilable.own
          (fun reservation isLive => Or.inl isLive) ?_ ?_ ?_, (Nat.zero_add _).symm⟩
        · exact (eq_or_ne books.settled []).symm.imp_right Or.inl
        · rw [noneSettled, Nat.zero_add]
          rfl
        · rw [noneOpen, Int.zero_add]
          rfl
      · simp only [budgetRuns, ran] at sound fits ⊢
        have reservedFits := fits.reserved
        rw [liveMicros_cons, if_pos trivial] at reservedFits
        have below : (estimatePrechargeMicros envelope estimatedTokens).toNat < 2 ^ 63 :=
          Nat.lt_of_le_of_lt (Nat.le_add_right _ _) reservedFits
        refine ⟨reconcilable.of_wrote sound wrote ?_ ?_ ?_ ?_ ?_ ?_, (Nat.zero_add _).symm⟩
        · intro entry membership
          rw [mem_singleton.mp membership]
          exact ⟨rfl, rfl⟩
        · intro reservation held
          rcases held with isLive | isSettled
          · rcases mem_cons.mp isLive with rfl | wasLive
            · exact ⟨rfl, rfl⟩
            · exact reconcilable.own reservation (Or.inl wasLive)
          · exact reconcilable.own reservation (Or.inr isSettled)
        · intro reservation isLive
          rcases mem_cons.mp isLive with isNew | wasLive
          · obtain ⟨account, window⟩ := rows_of_charged reconcilable.sound wrote isNew
            rw [account, window]
            exact Or.inr ⟨rfl, rfl⟩
          · exact Or.inl wasLive
        · exact (eq_or_ne books.settled []).symm.imp_right Or.inl
        · rw [(sums_prechargeEntry below).2, Nat.zero_add]
          rfl
        · rw [(sums_prechargeEntry below).1, liveMicros_cons, if_pos trivial,
            Nat.cast_add, Int.add_sub_assoc]
          rfl
    | settle envelope reservation providerTokens toolInvocations durationMs =>
      have isLive := bookable.live reservation rfl
      obtain ⟨hasAccount, hasWindow⟩ := reconcilable.found reservation isLive
      rcases kernel.run_settleBudget forms unmirrored enforced books.shared envelope
          reservation providerTokens toolInvocations durationMs rfl bookable.unbooked with
        ⟨account, window, later, -, -, ran, wrote⟩ | ⟨missing, -⟩
      · simp only [budgetRuns, ran] at sound fits ⊢
        have spentFits := fits.spent
        rw [settledMicros_cons, if_pos trivial] at spentFits
        have costBelow : (costBreakdown providerTokens toolInvocations
            durationMs).totalCostMicros.toNat < 2 ^ 63 :=
          Nat.lt_of_le_of_lt (Nat.le_add_right _ _) spentFits
        have liveBefore := live_le isLive (fun _ => True) trivial later
          ((reservation, costBreakdown providerTokens toolInvocations durationMs) :: books.settled)
        have reservedBelow : reservation.reservedMicros.toNat < 2 ^ 63 := by
          have fits := fitsBefore.reserved
          omega
        obtain ⟨openEntries, settledEntries⟩ :=
          sums_settleEntries envelope books.shared.moment.nowMs reservedBelow costBelow
        refine ⟨reconcilable.of_wrote sound wrote ?_ ?_ ?_ ?_ ?_ ?_, ?_⟩
        · intro entry membership
          obtain ⟨ownTenant, ownAccount⟩ := settleEntries_own membership
          rw [ownTenant, ownAccount]
          exact onAccount
        · intro other held
          rcases held with stillLive | isSettled
          · exact reconcilable.own other (Or.inl (mem_of_mem_erase stillLive))
          · rcases mem_cons.mp isSettled with rfl | wasSettled
            · exact onAccount
            · exact reconcilable.own other (Or.inr wasSettled)
        · exact fun other stillLive => Or.inl (mem_of_mem_erase stillLive)
        · obtain ⟨rfl, rfl⟩ := onAccount
          exact Or.inr (Or.inr (account_found_of_wrote wrote hasAccount))
        · rw [settledEntries, settledMicros_cons, if_pos trivial]
        · rw [openEntries, liveBefore]
          simp only [overrunMicros, map_cons, sum_cons, Nat.cast_add]
          omega
        · simp only [overrunMicros, BudgetOp.overrun, map_cons, sum_cons]
      · rcases missing with noAccount | noWindow
        · rw [noAccount] at hasAccount
          cases hasAccount
        · rw [noWindow] at hasWindow
          cases hasWindow
    | rollback envelope reservation reason =>
      have isLive := bookable.live reservation rfl
      obtain ⟨hasAccount, hasWindow⟩ := reconcilable.found reservation isLive
      rcases kernel.run_rollbackBudget forms unmirrored enforced books.shared envelope
          reservation reason bookable.unbooked with
        ⟨account, window, later, -, -, ran, wrote⟩ | ⟨missing, -⟩
      · simp only [budgetRuns, ran] at sound ⊢
        have liveBefore := live_le isLive (fun _ => True) trivial later books.settled
        have reservedBelow : reservation.reservedMicros.toNat < 2 ^ 63 := by
          have fits := fitsBefore.reserved
          omega
        refine ⟨reconcilable.of_wrote sound wrote ?_ ?_ ?_ ?_ ?_ ?_, (Nat.zero_add _).symm⟩
        · intro entry membership
          rw [mem_singleton.mp membership]
          exact onAccount
        · intro other held
          rcases held with stillLive | isSettled
          · exact reconcilable.own other (Or.inl (mem_of_mem_erase stillLive))
          · exact reconcilable.own other (Or.inr isSettled)
        · exact fun other stillLive => Or.inl (mem_of_mem_erase stillLive)
        · exact (eq_or_ne books.settled []).symm.imp_right Or.inl
        · rw [(sums_rollbackEntry reservedBelow).2, Nat.zero_add]
          rfl
        · rw [(sums_rollbackEntry reservedBelow).1, liveBefore, Nat.cast_add]
          change _ = _ - (books.overrunMicros : Int)
          omega
      · rcases missing with noAccount | noWindow
        · rw [noAccount] at hasAccount
          cases hasAccount
        · rw [noWindow] at hasWindow
          cases hasWindow

end Steps

/-! ## The reconciliation -/

theorem run_reconcileBudgetAccount (unmirrored : store.mirror = none) {shared : Shared}
    {account : BudgetAccount}
    (found : (budgetAccounts forms.budgetAccount).read shared.repo.knowledge
      [tenantId, accountId] = some account) :
    ((reconcileBudgetAccount store forms tenantId accountId).run shared).1 = .ok {
      tenantId
      accountId
      ledgerSettledMicros :=
        ledgerSettledMicros (ledgerOf forms tenantId accountId shared.repo.knowledge)
      ledgerReservedOpenMicros :=
        ledgerReservedOpenMicros (ledgerOf forms tenantId accountId shared.repo.knowledge)
      accountSpentMicros := account.spentMicros
      accountReservedMicros := account.reservedMicros
      consistent :=
        ledgerSettledMicros (ledgerOf forms tenantId accountId shared.repo.knowledge) =
            account.spentMicros ∧
          ledgerReservedOpenMicros (ledgerOf forms tenantId accountId shared.repo.knowledge) =
            account.reservedMicros.toInt64 } := by
  have accountRan := (budgetAccounts forms.budgetAccount).run_get_read unmirrored
    [tenantId, accountId] shared
  rw [found] at accountRan
  have ledgerRan := (spendLedgers forms.spendLedger).run_list unmirrored (·.createdAtMs)
    [tenantId, accountId] (shared.after 1)
  unfold reconcileBudgetAccount
  apply (congrArg Prod.fst (Future.run_bind_of_ok accountRan)).trans
  apply (congrArg Prod.fst (Future.run_bind_of_ok ledgerRan)).trans
  rfl

/-- The reconciliation finds an account that exists consistent, and it is right. -/
def Reconciles (store : StateStore) (forms : JsonForms) (tenantId accountId : String)
    (books : BudgetBooks) : Prop :=
  ∀ account, (budgetAccounts forms.budgetAccount).read books.shared.repo.knowledge
      [tenantId, accountId] = some account →
    ∃ report, ((reconcileBudgetAccount store forms tenantId accountId).run books.shared).1 =
        .ok report ∧ report.consistent = true ∧
      settledAmounts (ledgerOf forms tenantId accountId books.shared.repo.knowledge) =
        account.spentMicros.toNat ∧
      openMicros (ledgerOf forms tenantId accountId books.shared.repo.knowledge) =
        account.reservedMicros.toNat

theorem Reconcilable.counters (reconcilable : Reconcilable kernel forms tenantId accountId books)
    {account : BudgetAccount}
    (found : (budgetAccounts forms.budgetAccount).read books.shared.repo.knowledge
      [tenantId, accountId] = some account) :
    account.reservedMicros.toNat = (books.liveMicros fun _ => True) ∧
      account.spentMicros.toNat = books.settledMicros fun _ => True := by
  have reserved := reconcilable.sound.outstanding.reserved [tenantId, accountId]
  have spent := reconcilable.sound.outstanding.spent [tenantId, accountId]
  rw [found] at reserved spent
  constructor
  · apply reserved.trans
    unfold liveMicros
    congr 2
    apply filter_congr
    intro reservation isLive
    obtain ⟨rfl, rfl⟩ := reconcilable.own reservation (Or.inl isLive)
    exact decide_eq_decide.mpr (iff_of_true rfl trivial)
  · apply spent.trans
    unfold settledMicros
    congr 2
    apply filter_congr
    intro entry isSettled
    obtain ⟨rfl, rfl⟩ := reconcilable.own entry.1
      (Or.inr (mem_map.mpr ⟨entry, isSettled, rfl⟩))
    exact decide_eq_decide.mpr (iff_of_true rfl trivial)

theorem reconciles_iff (unmirrored : store.mirror = none)
    (reconcilable : Reconcilable kernel forms tenantId accountId books)
    (fits : Representable forms tenantId accountId books) :
    Reconciles store forms tenantId accountId books ↔ books.overrunMicros = 0 := by
  have ledgerPerm : (ledgerOf forms tenantId accountId books.shared.repo.knowledge).Perm
      ((spendLedgers forms.spendLedger).listed books.shared.repo.knowledge
        [tenantId, accountId]) := sortByKey_perm _ _
  have openSum := (openMicros_perm ledgerPerm).trans reconcilable.openSum
  have settledSum := (settledAmounts_perm ledgerPerm).trans reconcilable.settled
  constructor
  · intro reconciles
    cases found : (budgetAccounts forms.budgetAccount).read books.shared.repo.knowledge
        [tenantId, accountId] with
    | none =>
      have noneSettled : books.settled = [] := by
        by_contra nonempty
        have opened := reconcilable.opened nonempty
        rw [found] at opened
        cases opened
      rw [overrunMicros, noneSettled]
      rfl
    | some account =>
      obtain ⟨report, -, -, -, isOpen⟩ := reconciles account found
      rw [openSum, (reconcilable.counters found).1] at isOpen
      omega
  · intro noOverrun account found
    obtain ⟨reserved, spent⟩ := reconcilable.counters found
    rw [noOverrun, Nat.cast_zero, Int.sub_zero, ← reserved] at openSum
    rw [← spent] at settledSum
    refine ⟨_, run_reconcileBudgetAccount unmirrored found, ?_, settledSum, openSum⟩
    apply decide_eq_true
    constructor
    · apply UInt64.toNat_inj.mp
      rw [toNat_ledgerSettledMicros, settledSum]
      rw [settledSum]
      exact account.spentMicros.toNat_lt
    · apply Int64.toInt_inj.mp
      have below := fits.reserved
      rw [← reserved] at below
      rw [toInt_ledgerReservedOpenMicros fits.running, openSum, toInt_toInt64 below]

/-- The account has no row and its ledger no entry. -/
structure Unbilled (forms : JsonForms) (tenantId accountId : String)
    (knowledge : Knowledge) : Prop where
  unopened : Unopened knowledge
  unlisted : (spendLedgers forms.spendLedger).listed knowledge [tenantId, accountId] = []

theorem reconcilable_of_unbilled (kernel : RuntimeKernel) {shared : Shared}
    (unbilled : Unbilled forms tenantId accountId shared.repo.knowledge) :
    Reconcilable kernel forms tenantId accountId ⟨shared, [], []⟩ := by
  refine ⟨sound_of_unopened unbilled.unopened, ?_, ?_, fun nonempty => absurd rfl nonempty, ?_, ?_⟩
  · rintro reservation (isLive | isSettled)
    · exact absurd isLive not_mem_nil
    · exact absurd isSettled not_mem_nil
  · exact fun reservation isLive => absurd isLive not_mem_nil
  · rw [unbilled.unlisted]
    rfl
  · rw [unbilled.unlisted]
    rfl

/-- Before and after each operation of a run on one account. -/
structure ReconcilableStep (kernel : RuntimeKernel) (store : StateStore) (forms : JsonForms)
    (host : Nat → Moment) (tenantId accountId : String) (books : BudgetBooks)
    (op : BudgetOp) : Prop where
  before : Reconcilable kernel forms tenantId accountId books
  fitsBefore : Representable forms tenantId accountId books
  after : Reconcilable kernel forms tenantId accountId
    ((budgetRuns kernel store forms host).step books op).2
  fitsAfter : Representable forms tenantId accountId
    ((budgetRuns kernel store forms host).step books op).2
  overrun : ((budgetRuns kernel store forms host).step books op).2.overrunMicros =
    op.overrun + books.overrunMicros

/-- An operation on the account that ends a live reservation under new ledger ids. -/
def Orderly (kernel : RuntimeKernel) (forms : JsonForms) (tenantId accountId : String)
    (books : BudgetBooks) (op : BudgetOp) : Prop :=
  op.OnAccount tenantId accountId ∧ Bookable kernel forms books op

theorem reconcilable_run (unmirrored : store.mirror = none) {host : Nat → Moment}
    (reconcilable : Reconcilable kernel forms tenantId accountId books) {ops : List BudgetOp}
    (orderly : (budgetRuns kernel store forms host).EachStep
      (Orderly kernel forms tenantId accountId) books ops)
    (representable : (budgetRuns kernel store forms host).Always
      (Representable forms tenantId accountId) books ops) :
    (budgetRuns kernel store forms host).EachStep
      (ReconcilableStep kernel store forms host tenantId accountId) books ops := by
  apply (orderly.and representable.eachStep).of_invariant reconcilable
  rintro books op reconcilable ⟨⟨onAccount, bookable⟩, fitsBefore, fitsAfter⟩
  obtain ⟨kept, overrun⟩ := reconcilable_step unmirrored host reconcilable onAccount
    bookable fitsBefore fitsAfter
  exact ⟨⟨reconcilable, fitsBefore, kept, fitsAfter, overrun⟩, kept⟩

end Runs

/-! ## One task settled at two prices -/

section Example

/-- What the entries of a ledger move. -/
def turnover (ledger : List SpendLedger) : Nat :=
  (ledger.map fun entry => (openMicrosOf entry).natAbs).sum

theorem turnover_append (first second : List SpendLedger) :
    turnover (first ++ second) = turnover first + turnover second := by
  simp [turnover]

theorem natAbs_openMicros_le (ledger : List SpendLedger) :
    (openMicros ledger).natAbs ≤ turnover ledger := by
  induction ledger with
  | nil => exact Nat.le_refl _
  | cons entry rest ih =>
    simp only [openMicros, turnover, map_cons, sum_cons] at ih ⊢
    omega

/-- Running sums fit when less than `2 ^ 63` is moved in all, in whatever order. -/
theorem runningSumsFit_of_perm {ledger entries : List SpendLedger}
    (reordered : ledger.Perm entries) (small : turnover entries < 2 ^ 63) :
    RunningSumsFit ledger := by
  rintro part ⟨rest, rfl⟩
  have moved : turnover (part ++ rest) = turnover entries := (reordered.map _).sum_nat
  have parts := turnover_append part rest
  have bounded := natAbs_openMicros_le part
  omega

def shellOps (durationMs : UInt64) : List BudgetOp :=
  [.precharge shellTask 0, .settle shellTask shellReservation 0 1 durationMs]

theorem unbilled_started (forms : JsonForms) (tenantId accountId : String) (host : Nat → Moment) :
    Unbilled forms tenantId accountId (started host).repo.knowledge :=
  ⟨unopened_empty, rfl⟩

theorem turnover_settleEntries_le {reservation : BudgetReservation} {cost : CostBreakdown}
    (envelope : TaskEnvelope) (now : UInt64)
    (reservedBelow : reservation.reservedMicros.toNat < 2 ^ 63)
    (costBelow : cost.totalCostMicros.toNat < 2 ^ 63) :
    turnover (settleEntries envelope reservation cost now) ≤
      reservation.reservedMicros.toNat + cost.totalCostMicros.toNat := by
  have refundIs : (refundMicros reservation cost).toNat =
      reservation.reservedMicros.toNat - cost.totalCostMicros.toNat :=
    toNat_saturatingSub _ _
  have refundBelow : (refundMicros reservation cost).toNat < 2 ^ 63 := by
    omega
  unfold settleEntries
  simp only
  split
  · simp [turnover, openMicrosOf, reservationEntry, max_toInt64 costBelow,
      toInt_toInt64 costBelow, toInt_abs_neg_toInt64 refundBelow, refundIs]
  · simp [turnover, openMicrosOf, reservationEntry, max_toInt64 costBelow, toInt_toInt64 costBelow]

theorem shell_orderly (durationMs : UInt64)
    (costBelow : (costBreakdown 0 1 durationMs).totalCostMicros.toNat < 2 ^ 62) :
    (budgetRuns hourly unmirroredStore all still).EachStep
        (Orderly hourly all "acme" shellTask.accountId)
        ⟨started still, [], []⟩ (shellOps durationMs) ∧
      (budgetRuns hourly unmirroredStore all still).Always
        (Representable all "acme" shellTask.accountId)
        ⟨started still, [], []⟩ (shellOps durationMs) := by
  have unmirrored : unmirroredStore.mirror = none := rfl
  have reservedBelow : shellReservation.reservedMicros.toNat < 2 ^ 62 := by decide
  obtain ⟨later, stepped, wrote, isNow⟩ := first_precharge all
  have unbooked := unbooked_after_first wrote isNow (costBreakdown 0 1 durationMs)
  have ownEntry := startsWith_ledgerKey all "acme" shellTask.accountId
  have listedFirst := wrote.ledger ["acme", shellTask.accountId] (by
    intro entry membership
    rw [mem_singleton.mp membership]
    exact ownEntry _)
  have representable : Representable all "acme" shellTask.accountId
      ⟨later, [shellReservation], []⟩ := by
    refine ⟨?_, Nat.two_pow_pos 63, ?_⟩
    · exact (Nat.le_of_eq (Nat.add_zero shellReservation.reservedMicros.toNat)).trans_lt
        (Nat.lt_trans reservedBelow (by decide))
    · apply runningSumsFit_of_perm ((sortByKey_perm _ _).trans listedFirst)
      decide
  constructor
  · refine ⟨⟨⟨rfl, rfl⟩, nofun, fun _ _ => nofun⟩, ?_, trivial⟩
    rw [stepped]
    refine ⟨⟨rfl, rfl⟩, ?_, unbooked⟩
    rintro reservation ⟨rfl⟩
    exact mem_singleton_self _
  · refine ⟨⟨by decide, by decide, ?_⟩, ?_⟩
    · exact runningSumsFit_of_perm (List.Perm.refl []) (by decide)
    · rw [stepped]
      refine ⟨representable, ?_⟩
      rcases hourly.run_settleBudget all unmirrored rfl later shellTask
          shellReservation 0 1 durationMs rfl unbooked with
        ⟨account, window, after, -, -, ran, wroteSettled⟩ | ⟨-, message, accesses, ran⟩
      · have ended : [shellReservation].erase shellReservation = [] := erase_cons_head ..
        have listedSecond := wroteSettled.ledger ["acme", shellTask.accountId] (by
          intro entry membership
          obtain ⟨ownTenant, ownAccount⟩ := settleEntries_own membership
          rw [ownTenant, ownAccount]
          exact ownEntry _)
        simp only [Component.Always, budgetRuns, ran, ended]
        refine ⟨Nat.two_pow_pos 63, ?_, ?_⟩
        · exact (Nat.le_of_eq (Nat.add_zero
            (costBreakdown 0 1 durationMs).totalCostMicros.toNat)).trans_lt
              (Nat.lt_trans costBelow (by decide))
        · apply runningSumsFit_of_perm
            ((sortByKey_perm _ _).trans (listedSecond.trans (listedFirst.append_left _)))
          have moved := turnover_settleEntries_le shellTask later.moment.nowMs
            (Nat.lt_trans reservedBelow (by decide)) (Nat.lt_trans costBelow (by decide))
          have first : turnover [prechargeEntry shellTask .reserve
              (shellTask.ledgerId "reserve" 7) "precharge"
              (estimatePrechargeMicros shellTask 0) 0 7] = 2500 := by decide
          have none : turnover ((spendLedgers all.spendLedger).listed
              Knowledge.empty ["acme", shellTask.accountId]) = 0 := rfl
          rw [turnover_append, turnover_append, none, first]
          have isReserved : shellReservation.reservedMicros.toNat = 2500 := by decide
          omega
      · simp only [Component.Always, budgetRuns, ran]
        exact ⟨representable.reserved, representable.spent, representable.running⟩

end Example

/-! ## When the reconciliation holds -/

end AutoLoop.Runtime
