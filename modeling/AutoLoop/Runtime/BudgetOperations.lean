import AutoLoop.Runtime.Budget
import AutoLoop.StateAdapter.TableReads

/-!
# What the budget operations do

Each operation writes one account and one quota window and appends to the spend
ledger, or it changes nothing.
-/

namespace AutoLoop.Runtime

open StateAdapter TypedTable Future

variable {forms : JsonForms} {store : StateStore} {before middle after : Knowledge}
variable {account : BudgetAccount} {window : QuotaWindow} {entries : List SpendLedger}

/-! ## Writes -/

theorem accounts_apart_windows : NamesApart
    (budgetAccounts forms.budgetAccount).name (quotaWindows forms.quotaWindow).name := by
  simp only [budgetAccounts, quotaWindows]
  decide

theorem accounts_apart_ledger : NamesApart
    (budgetAccounts forms.budgetAccount).name (spendLedgers forms.spendLedger).name := by
  simp only [budgetAccounts, spendLedgers]
  decide

theorem windows_apart_ledger : NamesApart
    (quotaWindows forms.quotaWindow).name (spendLedgers forms.spendLedger).name := by
  simp only [quotaWindows, spendLedgers]
  decide

theorem attributions_apart : NamesApart
      (budgetAccounts forms.budgetAccount).name (costAttributions forms.costAttribution).name ∧
    NamesApart
      (quotaWindows forms.quotaWindow).name (costAttributions forms.costAttribution).name ∧
    NamesApart
      (spendLedgers forms.spendLedger).name (costAttributions forms.costAttribution).name := by
  simp only [budgetAccounts, quotaWindows, spendLedgers, costAttributions]
  decide

structure Wrote (forms : JsonForms) (account : BudgetAccount) (window : QuotaWindow)
    (entries : List SpendLedger) (before after : Knowledge) : Prop where
  account : ∀ columns, (budgetAccounts forms.budgetAccount).read after columns =
    if (budgetAccounts forms.budgetAccount).key columns =
        (budgetAccounts forms.budgetAccount).key [account.tenantId, account.accountId]
      then some account
      else (budgetAccounts forms.budgetAccount).read before columns
  window : ∀ columns, (quotaWindows forms.quotaWindow).read after columns =
    if (quotaWindows forms.quotaWindow).key columns =
        (quotaWindows forms.quotaWindow).key
          [window.tenantId, window.accountId, window.windowId]
      then some window
      else (quotaWindows forms.quotaWindow).read before columns
  accountsKept : (budgetAccounts forms.budgetAccount).Kept before →
    (budgetAccounts forms.budgetAccount).Kept after
  windowsKept : (quotaWindows forms.quotaWindow).Kept before →
    (quotaWindows forms.quotaWindow).Kept after
  /-- Listings that see the entries gain them. -/
  ledger : ∀ columns, (∀ entry ∈ entries, Text.startsWith
      ((spendLedgers forms.spendLedger).key [entry.tenantId, entry.accountId, entry.ledgerId])
      ((spendLedgers forms.spendLedger).start columns) = true) →
    ((spendLedgers forms.spendLedger).listed after columns).Perm
      (entries ++ (spendLedgers forms.spendLedger).listed before columns)
  /-- Ledger keys are taken by the entries only. -/
  taken : ∀ columns, (spendLedgers forms.spendLedger).Taken after columns ↔
    (spendLedgers forms.spendLedger).Taken before columns ∨
      ∃ entry ∈ entries, (spendLedgers forms.spendLedger).key columns =
        (spendLedgers forms.spendLedger).key
          [entry.tenantId, entry.accountId, entry.ledgerId]

open List

namespace Wrote

theorem of_puts (accountPut : (budgetAccounts forms.budgetAccount).Put account before middle)
    (windowPut : (quotaWindows forms.quotaWindow).Put window middle after) :
    Wrote forms account window [] before after where
  account columns := by
    rw [read_put_apart accounts_apart_windows windowPut, read_put accountPut]
    rfl
  window columns := by
    rw [read_put windowPut, read_put_apart accounts_apart_windows.symm accountPut]
    rfl
  accountsKept kept :=
    kept_put_apart accounts_apart_windows (kept_put kept accountPut) windowPut
  windowsKept kept :=
    kept_put (kept_put_apart accounts_apart_windows.symm kept accountPut)
      windowPut
  ledger columns _ := by
    rw [listed_put_apart windows_apart_ledger.symm windowPut,
      listed_put_apart accounts_apart_ledger.symm accountPut]
    exact List.Perm.refl _
  taken columns := by
    rw [taken_put_apart windows_apart_ledger.symm windowPut,
      taken_put_apart accounts_apart_ledger.symm accountPut]
    simp

theorem append {entry : SpendLedger} (wrote : Wrote forms account window entries before middle)
    (free : ¬(spendLedgers forms.spendLedger).Taken middle
      [entry.tenantId, entry.accountId, entry.ledgerId])
    (put : (spendLedgers forms.spendLedger).Put entry middle after) :
    Wrote forms account window (entry :: entries) before after where
  account columns := by
    rw [read_put_apart accounts_apart_ledger put, wrote.account]
  window columns := by
    rw [read_put_apart windows_apart_ledger put, wrote.window]
  accountsKept kept := kept_put_apart accounts_apart_ledger (wrote.accountsKept kept) put
  windowsKept kept := kept_put_apart windows_apart_ledger (wrote.windowsKept kept) put
  ledger columns seen := by
    apply (listed_put_perm free put (seen entry (mem_cons_self ..))).trans
    apply List.Perm.cons
    exact wrote.ledger columns fun other membership => seen other (mem_cons_of_mem _ membership)
  taken columns := by
    rw [taken_put put, wrote.taken]
    simp only [mem_cons, exists_eq_or_imp]
    exact or_left_comm

theorem put_apart {Other : Type} {other : TypedTable Other} {record : Other}
    (wrote : Wrote forms account window entries before middle)
    (apartAccounts : NamesApart (budgetAccounts forms.budgetAccount).name other.name)
    (apartWindows : NamesApart (quotaWindows forms.quotaWindow).name other.name)
    (apartLedger : NamesApart (spendLedgers forms.spendLedger).name other.name)
    (put : other.Put record middle after) :
    Wrote forms account window entries before after where
  account columns := by
    rw [read_put_apart apartAccounts put, wrote.account]
  window columns := by
    rw [read_put_apart apartWindows put, wrote.window]
  accountsKept kept := kept_put_apart apartAccounts (wrote.accountsKept kept) put
  windowsKept kept := kept_put_apart apartWindows (wrote.windowsKept kept) put
  ledger columns seen := by
    rw [listed_put_apart apartLedger put]
    exact wrote.ledger columns seen
  taken columns := by
    rw [taken_put_apart apartLedger put, wrote.taken]

theorem taken_of_nil (wrote : Wrote forms account window [] before after) (columns : List String) :
    (spendLedgers forms.spendLedger).Taken after columns ↔
      (spendLedgers forms.spendLedger).Taken before columns := by
  rw [wrote.taken]
  simp

end Wrote

/-! ## Operations -/

theorem run_nowMs (shared : Shared) :
    StateStore.nowMs.run shared = (.ok shared.moment.nowMs, shared.after 1) := rfl

namespace RuntimeKernel

variable (kernel : RuntimeKernel) (unmirrored : store.mirror = none)
variable (forms)

/-- The account that a precharge finds or opens. -/
def accountOf (shared : Shared) (envelope : TaskEnvelope) : BudgetAccount :=
  ((budgetAccounts forms.budgetAccount).read shared.repo.knowledge
    [envelope.identity.tenantId, envelope.accountId]).getD
      (kernel.newAccount envelope shared.moment.nowMs)

/-- The window that a precharge finds or opens. -/
def windowOf (shared : Shared) (envelope : TaskEnvelope) : QuotaWindow :=
  ((quotaWindows forms.quotaWindow).read shared.repo.knowledge
    [envelope.identity.tenantId, envelope.accountId, kernel.windowIdFor shared.moment.nowMs]).getD
      (kernel.newWindow envelope shared.moment.nowMs)

include unmirrored

theorem run_prechargeBudget (enforced : kernel.budgetEnforced = true) (shared : Shared)
    (envelope : TaskEnvelope) (estimatedTokens : UInt32) :
    (kernel.prechargeBudget store forms envelope estimatedTokens).run shared =
      (kernel.decidePrecharge store forms envelope estimatedTokens shared.moment.nowMs
        (kernel.accountOf forms shared envelope)
        (kernel.windowOf forms shared envelope)).run (shared.after 3) := by
  unfold prechargeBudget
  simp only [enforced, Bool.not_true, Bool.false_eq_true, if_false]
  apply (run_bind_of_ok (run_nowMs shared)).trans
  apply (run_bind_of_ok (run_get_read _ unmirrored _ _)).trans
  apply (run_bind_of_ok (run_get_read _ unmirrored _ _)).trans
  rfl

section
variable (shared : Shared) (now : UInt64) {envelope : TaskEnvelope} {estimatedTokens : UInt32}
  {account : BudgetAccount} {window : QuotaWindow}

theorem run_decide_of_blocked (blocked : kernel.blocks account window
      (estimatePrechargeMicros envelope estimatedTokens) = true) :
    ∃ entries later,
      (kernel.decidePrecharge store forms envelope estimatedTokens now account window).run
          shared = (.error "budget precharge exceeded", later) ∧
      Wrote forms
        { account with blockedCount := saturatingAdd account.blockedCount 1, updatedAtMs := now }
        { window with blockedCount := saturatingAdd window.blockedCount 1, updatedAtMs := now }
        entries shared.repo.knowledge later.repo.knowledge ∧
      ∀ entry ∈ entries, entry = prechargeEntry envelope .blocked
        (envelope.ledgerId "blocked" now) "budget_precharge_exceeded"
        (estimatePrechargeMicros envelope estimatedTokens) estimatedTokens now := by
  obtain ⟨charged, accountRan, accountPut⟩ :=
    (budgetAccounts forms.budgetAccount).run_upsert_put unmirrored
      { account with blockedCount := saturatingAdd account.blockedCount 1, updatedAtMs := now }
      shared
  obtain ⟨opened, windowRan, windowPut⟩ :=
    (quotaWindows forms.quotaWindow).run_upsert_put unmirrored
      { window with blockedCount := saturatingAdd window.blockedCount 1, updatedAtMs := now }
      charged
  have wrote := Wrote.of_puts accountPut windowPut
  let entry := prechargeEntry envelope .blocked (envelope.ledgerId "blocked" now)
    "budget_precharge_exceeded" (estimatePrechargeMicros envelope estimatedTokens)
    estimatedTokens now
  unfold decidePrecharge
  rw [if_pos blocked]
  by_cases taken : (spendLedgers forms.spendLedger).Taken opened.repo.knowledge
      ((spendLedgers forms.spendLedger).columns entry)
  · have ledgerRan := (spendLedgers forms.spendLedger).run_append_of_taken unmirrored
      (fun entry => "spend ledger " ++ entry.ledgerId) taken
    refine ⟨[], opened.after 1, ?_, wrote, fun _ membership => absurd membership not_mem_nil⟩
    apply (run_bind_of_ok accountRan).trans
    apply (run_bind_of_ok windowRan).trans
    apply (run_bind_of_ok (run_attempt_of ledgerRan)).trans
    rfl
  · obtain ⟨later, ledgerRan, ledgerPut⟩ :=
      (spendLedgers forms.spendLedger).run_append_put unmirrored
        (fun entry => "spend ledger " ++ entry.ledgerId) taken
    refine ⟨[entry], later, ?_, wrote.append taken ledgerPut, fun _ membership =>
      mem_singleton.mp membership⟩
    apply (run_bind_of_ok accountRan).trans
    apply (run_bind_of_ok windowRan).trans
    apply (run_bind_of_ok (run_attempt_of ledgerRan)).trans
    rfl

theorem run_decide_of_not_blocked (allowed : kernel.blocks account window
      (estimatePrechargeMicros envelope estimatedTokens) = false)
    {estimated : UInt64} {entry : SpendLedger}
    (isEstimate : estimated = estimatePrechargeMicros envelope estimatedTokens)
    (isEntry : entry = prechargeEntry envelope .reserve (envelope.ledgerId "reserve" now)
      "precharge" estimated estimatedTokens now) :
    ∃ later, ((spendLedgers forms.spendLedger).Taken shared.repo.knowledge
          [entry.tenantId, entry.accountId, entry.ledgerId] →
        (kernel.decidePrecharge store forms envelope estimatedTokens now account window).run
            shared =
          (.error ("spend ledger " ++ entry.ledgerId ++ " already exists"), later) ∧
        Wrote forms (chargedAccount account estimated now) (chargedWindow window estimated now)
          [] shared.repo.knowledge later.repo.knowledge) ∧
      (¬(spendLedgers forms.spendLedger).Taken shared.repo.knowledge
          [entry.tenantId, entry.accountId, entry.ledgerId] →
        (kernel.decidePrecharge store forms envelope estimatedTokens now account window).run
            shared = (.ok (some (reservationOf envelope estimated now)), later) ∧
        Wrote forms (chargedAccount account estimated now) (chargedWindow window estimated now)
          [entry] shared.repo.knowledge later.repo.knowledge) := by
  subst isEstimate isEntry
  obtain ⟨charged, accountRan, accountPut⟩ :=
    (budgetAccounts forms.budgetAccount).run_upsert_put unmirrored
      (chargedAccount account (estimatePrechargeMicros envelope estimatedTokens) now) shared
  obtain ⟨opened, windowRan, windowPut⟩ :=
    (quotaWindows forms.quotaWindow).run_upsert_put unmirrored
      (chargedWindow window (estimatePrechargeMicros envelope estimatedTokens) now) charged
  have wrote := Wrote.of_puts accountPut windowPut
  unfold decidePrecharge
  simp only [if_neg (Bool.eq_false_iff.mp allowed)]
  by_cases taken : (spendLedgers forms.spendLedger).Taken shared.repo.knowledge
      [envelope.identity.tenantId, envelope.accountId, envelope.ledgerId "reserve" now]
  · refine ⟨opened.after 1, fun _ => ⟨?_, wrote⟩, fun free => absurd taken free⟩
    apply (run_bind_of_ok accountRan).trans
    apply (run_bind_of_ok windowRan).trans
    apply run_bind_of_error
    apply run_append_of_taken _ unmirrored
    exact (wrote.taken_of_nil _).mpr taken
  · have free : ¬(spendLedgers forms.spendLedger).Taken opened.repo.knowledge
        ((spendLedgers forms.spendLedger).columns (prechargeEntry envelope .reserve
          (envelope.ledgerId "reserve" now) "precharge"
          (estimatePrechargeMicros envelope estimatedTokens) estimatedTokens now)) :=
      (wrote.taken_of_nil _).not.mpr taken
    obtain ⟨later, ledgerRan, ledgerPut⟩ :=
      (spendLedgers forms.spendLedger).run_append_put unmirrored
        (fun entry => "spend ledger " ++ entry.ledgerId) free
    refine ⟨later, fun isTaken => absurd isTaken taken, fun _ =>
      ⟨?_, wrote.append free ledgerPut⟩⟩
    apply (run_bind_of_ok accountRan).trans
    apply (run_bind_of_ok windowRan).trans
    apply (run_bind_of_ok ledgerRan).trans
    rfl

end

omit unmirrored in
theorem sameHost_nowMs : Effect.Keeps SameHost StateStore.nowMs.run := fun _ => rfl

theorem sameHost_prechargeBudget (envelope : TaskEnvelope) (estimatedTokens : UInt32) :
    Effect.Keeps SameHost
      (kernel.prechargeBudget store forms envelope estimatedTokens).run := by
  unfold prechargeBudget
  cases kernel.budgetEnforced with
  | false => exact fun _ => rfl
  | true =>
    apply TypedTable.SameHost.bind sameHost_nowMs
    intro now
    apply TypedTable.SameHost.bind (sameHost_get _ unmirrored _)
    intro account
    apply TypedTable.SameHost.bind (sameHost_get _ unmirrored _)
    intro window
    unfold decidePrecharge
    simp only
    split
    · apply TypedTable.SameHost.bind (sameHost_upsert _ unmirrored _)
      intro _
      apply TypedTable.SameHost.bind (sameHost_upsert _ unmirrored _)
      intro _
      apply TypedTable.SameHost.bind
      · rw [run_attempt]
        exact (sameHost_append _ unmirrored _ _).attempt
      · exact fun _ _ => rfl
    · apply TypedTable.SameHost.bind (sameHost_upsert _ unmirrored _)
      intro _
      apply TypedTable.SameHost.bind (sameHost_upsert _ unmirrored _)
      intro _
      apply TypedTable.SameHost.bind (sameHost_append _ unmirrored _ _)
      exact fun _ _ => rfl

section
variable (knowledge : Knowledge) (reservation : BudgetReservation)

def accountAt :
    Option BudgetAccount :=
  (budgetAccounts forms.budgetAccount).read knowledge
    [reservation.tenantId, reservation.accountId]

def windowAt : Option QuotaWindow :=
  (quotaWindows forms.quotaWindow).read knowledge
    [reservation.tenantId, reservation.accountId, kernel.windowIdFor reservation.startedAtMs]

end

theorem run_loadReserved (shared : Shared) (reservation : BudgetReservation) (during : String) :
    (∃ account window, accountAt forms shared.repo.knowledge reservation = some account ∧
        kernel.windowAt forms shared.repo.knowledge reservation = some window ∧
        (kernel.loadReserved store forms reservation during).run shared =
          (.ok (account, window), shared.after 2)) ∨
      (accountAt forms shared.repo.knowledge reservation = none ∨
        kernel.windowAt forms shared.repo.knowledge reservation = none) ∧
      ∃ message accesses, (kernel.loadReserved store forms reservation during).run shared =
        (.error message, shared.after accesses) := by
  have accountRan := (budgetAccounts forms.budgetAccount).run_get_read unmirrored
    [reservation.tenantId, reservation.accountId] shared
  have windowRan := (quotaWindows forms.quotaWindow).run_get_read unmirrored
    [reservation.tenantId, reservation.accountId, kernel.windowIdFor reservation.startedAtMs]
    (shared.after 1)
  unfold loadReserved
  cases foundAccount : accountAt forms shared.repo.knowledge reservation with
  | none =>
    refine Or.inr ⟨Or.inl rfl, "budget account missing during " ++ during, 1, ?_⟩
    apply (run_bind_of_ok accountRan).trans
    unfold accountAt at foundAccount
    rw [foundAccount]
    rfl
  | some account =>
    unfold accountAt at foundAccount
    cases foundWindow : kernel.windowAt forms shared.repo.knowledge reservation with
    | none =>
      refine Or.inr ⟨Or.inr rfl, "quota window missing during " ++ during, 2, ?_⟩
      apply (run_bind_of_ok accountRan).trans
      unfold windowAt at foundWindow
      rw [foundAccount]
      apply (run_bind_of_ok windowRan).trans
      have foundLater : (quotaWindows forms.quotaWindow).read
          (shared.after 1).repo.knowledge [reservation.tenantId, reservation.accountId,
            kernel.windowIdFor reservation.startedAtMs] = none := foundWindow
      rw [foundLater]
      rfl
    | some window =>
      refine Or.inl ⟨account, window, rfl, rfl, ?_⟩
      apply (run_bind_of_ok accountRan).trans
      unfold windowAt at foundWindow
      rw [foundAccount]
      apply (run_bind_of_ok windowRan).trans
      have foundLater : (quotaWindows forms.quotaWindow).read
          (shared.after 1).repo.knowledge [reservation.tenantId, reservation.accountId,
            kernel.windowIdFor reservation.startedAtMs] = some window := foundWindow
      rw [foundLater]
      rfl

omit unmirrored in
theorem ledgerKey_ne {kind other : String} (different : kind ≠ other)
    (tenantId accountId : String) (envelope : TaskEnvelope) (now : UInt64) :
    (spendLedgers forms.spendLedger).key [tenantId, accountId, envelope.ledgerId kind now] ≠
      (spendLedgers forms.spendLedger).key
        [tenantId, accountId, envelope.ledgerId other now] := by
  intro same
  simp only [key, Text.joinWith, TaskEnvelope.ledgerId, String.append_assoc,
    String.append_right_inj, String.append_left_inj] at same
  exact different same

section
variable (envelope : TaskEnvelope) (reservation : BudgetReservation)

/-- The entries of a settlement, the latest first. -/
def settleEntries (cost : CostBreakdown) (now : UInt64) : List SpendLedger :=
  let settled := reservationEntry envelope reservation .settle (envelope.ledgerId "settle" now)
    ("settled_from:" ++ reservation.reservationId) cost.totalCostMicros.toInt64 cost now
  if cost.totalCostMicros < reservation.reservedMicros then
    [reservationEntry envelope reservation .refund (envelope.ledgerId "refund" now)
      ("refund_from:" ++ reservation.reservationId) (-(refundMicros reservation cost).toInt64)
      noCost (saturatingAdd now 1), settled]
  else [settled]

def rollbackEntry (reason : String) (now : UInt64) : SpendLedger :=
  reservationEntry envelope reservation .refund (envelope.ledgerId "rollback" now)
    ("rollback:" ++ reason) (-reservation.reservedMicros.toInt64) noCost now

end

def Unbooked (knowledge : Knowledge) (entries : List SpendLedger) : Prop :=
  ∀ entry ∈ entries, ¬(spendLedgers forms.spendLedger).Taken knowledge
    [entry.tenantId, entry.accountId, entry.ledgerId]

theorem run_settleReserved (shared : Shared) {envelope : TaskEnvelope}
    {reservation : BudgetReservation} {providerTokens toolInvocations : UInt32}
    {durationMs now : UInt64} {account : BudgetAccount} {window : QuotaWindow}
    {cost : CostBreakdown}
    (isCost : cost = costBreakdown providerTokens toolInvocations durationMs)
    (unbooked : Unbooked forms shared.repo.knowledge
      (settleEntries envelope reservation cost now)) :
    ∃ later, (settleReserved store forms envelope reservation providerTokens toolInvocations
          durationMs now account window).run shared = (.ok cost, later) ∧
      Wrote forms (settledAccount account reservation cost now)
        (settledWindow window reservation cost now)
        (settleEntries envelope reservation cost now)
        shared.repo.knowledge later.repo.knowledge := by
  subst isCost
  obtain ⟨charged, accountRan, accountPut⟩ :=
    (budgetAccounts forms.budgetAccount).run_upsert_put unmirrored
      (settledAccount account reservation
        (costBreakdown providerTokens toolInvocations durationMs) now) shared
  obtain ⟨opened, windowRan, windowPut⟩ :=
    (quotaWindows forms.quotaWindow).run_upsert_put unmirrored
      (settledWindow window reservation
        (costBreakdown providerTokens toolInvocations durationMs) now) charged
  have wrote := Wrote.of_puts accountPut windowPut
  unfold settleEntries at unbooked ⊢
  unfold settleReserved
  by_cases refunds : (costBreakdown providerTokens toolInvocations durationMs).totalCostMicros <
      reservation.reservedMicros
  · simp only [refunds, if_true] at unbooked ⊢
    have settleFree := (wrote.taken_of_nil _).not.mpr
      (unbooked _ (mem_cons_of_mem _ (mem_cons_self ..)))
    obtain ⟨settled, settleRan, settlePut⟩ :=
      (spendLedgers forms.spendLedger).run_append_put unmirrored
        (fun entry => "spend ledger " ++ entry.ledgerId) settleFree
    have wroteSettle := wrote.append settleFree settlePut
    have refundFree := (wroteSettle.taken _).not.mpr (not_or.mpr ⟨unbooked _ (mem_cons_self ..), by
        rintro ⟨entry, membership, same⟩
        rw [mem_singleton.mp membership] at same
        exact ledgerKey_ne forms (by decide) _ _ envelope now same⟩)
    obtain ⟨refunded, refundRan, refundPut⟩ :=
      (spendLedgers forms.spendLedger).run_append_put unmirrored
        (fun entry => "spend ledger " ++ entry.ledgerId) refundFree
    have wroteRefund := wroteSettle.append refundFree refundPut
    obtain ⟨later, attributionRan, attributionPut⟩ :=
      (costAttributions forms.costAttribution).run_upsert_put unmirrored _ refunded
    refine ⟨later, ?_, wroteRefund.put_apart attributions_apart.1 attributions_apart.2.1
      attributions_apart.2.2 attributionPut⟩
    apply (run_bind_of_ok accountRan).trans
    apply (run_bind_of_ok windowRan).trans
    apply (run_bind_of_ok settleRan).trans
    apply (run_bind_of_ok refundRan).trans
    apply (run_bind_of_ok attributionRan).trans
    rfl
  · simp only [refunds, if_false] at unbooked ⊢
    have settleFree := (wrote.taken_of_nil _).not.mpr (unbooked _ (mem_cons_self ..))
    obtain ⟨settled, settleRan, settlePut⟩ :=
      (spendLedgers forms.spendLedger).run_append_put unmirrored
        (fun entry => "spend ledger " ++ entry.ledgerId) settleFree
    have wroteSettle := wrote.append settleFree settlePut
    obtain ⟨later, attributionRan, attributionPut⟩ :=
      (costAttributions forms.costAttribution).run_upsert_put unmirrored _ settled
    refine ⟨later, ?_, wroteSettle.put_apart attributions_apart.1 attributions_apart.2.1
      attributions_apart.2.2 attributionPut⟩
    apply (run_bind_of_ok accountRan).trans
    apply (run_bind_of_ok windowRan).trans
    apply (run_bind_of_ok settleRan).trans
    apply (run_bind_of_ok attributionRan).trans
    rfl

section
variable (enforced : kernel.budgetEnforced = true) (shared : Shared) (envelope : TaskEnvelope)
  (reservation : BudgetReservation)
include enforced

/-- A settlement of a known reservation under free ids writes what was settled, and
one of an unknown reservation changes nothing. -/
theorem run_settleBudget (providerTokens toolInvocations : UInt32) (durationMs : UInt64)
    {cost : CostBreakdown}
    (isCost : cost = costBreakdown providerTokens toolInvocations durationMs)
    (unbooked : Unbooked forms shared.repo.knowledge
      (settleEntries envelope reservation cost shared.moment.nowMs)) :
    (∃ account window later, accountAt forms shared.repo.knowledge reservation = some account ∧
      kernel.windowAt forms shared.repo.knowledge reservation = some window ∧
      (kernel.settleBudget store forms envelope reservation providerTokens toolInvocations
        durationMs).run shared = (.ok cost, later) ∧
      Wrote forms (settledAccount account reservation cost shared.moment.nowMs)
        (settledWindow window reservation cost shared.moment.nowMs)
        (settleEntries envelope reservation cost shared.moment.nowMs)
        shared.repo.knowledge later.repo.knowledge) ∨
    (accountAt forms shared.repo.knowledge reservation = none ∨
      kernel.windowAt forms shared.repo.knowledge reservation = none) ∧
    ∃ message accesses,
      (kernel.settleBudget store forms envelope reservation providerTokens toolInvocations
        durationMs).run shared = (.error message, shared.after accesses) := by
  unfold settleBudget
  simp only [enforced, Bool.not_true, Bool.false_eq_true, if_false]
  rcases kernel.run_loadReserved forms unmirrored (shared.after 1) reservation "settle" with
    ⟨account, window, foundAccount, foundWindow, loadRan⟩ |
      ⟨missing, message, accesses, loadRan⟩
  · obtain ⟨later, settleRan, wrote⟩ := run_settleReserved forms unmirrored
      ((shared.after 1).after 2) isCost unbooked
    refine Or.inl ⟨account, window, later, foundAccount, foundWindow, ?_, wrote⟩
    apply (run_bind_of_ok (run_nowMs shared)).trans
    apply (run_bind_of_ok loadRan).trans
    exact settleRan
  · refine Or.inr ⟨missing, message, 1 + accesses, ?_⟩
    apply (run_bind_of_ok (run_nowMs shared)).trans
    rw [← Shared.after_after]
    exact run_bind_of_error loadRan

theorem run_rollbackBudget (reason : String)
    (unbooked : Unbooked forms shared.repo.knowledge
      [rollbackEntry envelope reservation reason shared.moment.nowMs]) :
    (∃ account window later, accountAt forms shared.repo.knowledge reservation = some account ∧
      kernel.windowAt forms shared.repo.knowledge reservation = some window ∧
      (kernel.rollbackBudget store forms envelope reservation reason).run shared =
        (.ok (), later) ∧
      Wrote forms (rolledBackAccount account reservation shared.moment.nowMs)
        (rolledBackWindow window reservation shared.moment.nowMs)
        [rollbackEntry envelope reservation reason shared.moment.nowMs]
        shared.repo.knowledge later.repo.knowledge) ∨
    (accountAt forms shared.repo.knowledge reservation = none ∨
      kernel.windowAt forms shared.repo.knowledge reservation = none) ∧
    ∃ message accesses, (kernel.rollbackBudget store forms envelope reservation reason).run shared =
        (.error message, shared.after accesses) := by
  unfold rollbackBudget
  simp only [enforced, Bool.not_true, Bool.false_eq_true, if_false]
  rcases kernel.run_loadReserved forms unmirrored (shared.after 1) reservation "rollback" with
    ⟨account, window, foundAccount, foundWindow, loadRan⟩ |
      ⟨missing, message, accesses, loadRan⟩
  · obtain ⟨charged, accountRan, accountPut⟩ :=
      (budgetAccounts forms.budgetAccount).run_upsert_put unmirrored
        (rolledBackAccount account reservation shared.moment.nowMs) ((shared.after 1).after 2)
    obtain ⟨opened, windowRan, windowPut⟩ :=
      (quotaWindows forms.quotaWindow).run_upsert_put unmirrored
        (rolledBackWindow window reservation shared.moment.nowMs) charged
    have wrote := Wrote.of_puts accountPut windowPut
    have free := (wrote.taken_of_nil _).not.mpr (unbooked _ (mem_cons_self ..))
    obtain ⟨later, ledgerRan, ledgerPut⟩ :=
      (spendLedgers forms.spendLedger).run_append_put unmirrored
        (fun entry => "spend ledger " ++ entry.ledgerId) free
    refine Or.inl ⟨account, window, later, foundAccount, foundWindow, ?_,
      wrote.append free ledgerPut⟩
    apply (run_bind_of_ok (run_nowMs shared)).trans
    apply (run_bind_of_ok loadRan).trans
    apply (run_bind_of_ok accountRan).trans
    apply (run_bind_of_ok windowRan).trans
    apply (run_bind_of_ok ledgerRan).trans
    rfl
  · refine Or.inr ⟨missing, message, 1 + accesses, ?_⟩
    apply (run_bind_of_ok (run_nowMs shared)).trans
    rw [← Shared.after_after]
    exact run_bind_of_error loadRan

end

end RuntimeKernel

end AutoLoop.Runtime
