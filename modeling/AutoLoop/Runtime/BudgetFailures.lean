import AutoLoop.Runtime.BudgetFaults

/-!
# What failed budget operations leave

A precharge that fails has changed the balances when it fails after its write of the account,
and a settlement that fails has released the reservation when it does.
-/

namespace AutoLoop.Runtime

open StateAdapter TypedTable Effect

variable {α : Type} {forms : JsonForms} {store : StateStore} {before middle after : Knowledge}

/-- Saturating addition of something changes every word but the greatest. -/
theorem saturatingAdd_eq_left_iff {left right : UInt64} (positive : 0 < right.toNat) :
    saturatingAdd left right = left ↔ left.toNat = u64Max := by
  have bound := left.toNat_lt
  rw [← UInt64.toNat_inj, toNat_saturatingAdd]
  simp only [u64Max]
  omega

theorem saturatingSub_eq_left_iff {left right : UInt64} :
    saturatingSub left right = left ↔ left.toNat = 0 ∨ right.toNat = 0 := by
  rw [← UInt64.toNat_inj, toNat_saturatingSub]
  omega

/-! ## Balances -/

def accountCounters (found : Option BudgetAccount) : UInt64 × UInt64 :=
  (found.map fun account => (account.reservedMicros, account.spentMicros)).getD (0, 0)

def windowCounter (found : Option QuotaWindow) : UInt64 :=
  (found.map QuotaWindow.consumedMicros).getD 0

section
variable (forms : JsonForms)

def AccountsKept (before after : Knowledge) : Prop :=
  ∀ columns, accountCounters ((budgetAccounts forms.budgetAccount).read after columns) =
    accountCounters ((budgetAccounts forms.budgetAccount).read before columns)

def WindowsKept (before after : Knowledge) : Prop :=
  ∀ columns, windowCounter ((quotaWindows forms.quotaWindow).read after columns) =
    windowCounter ((quotaWindows forms.quotaWindow).read before columns)

def CountsLike (knowledge : Knowledge) (account : BudgetAccount) : Prop :=
  ∀ columns, (budgetAccounts forms.budgetAccount).key columns =
      (budgetAccounts forms.budgetAccount).key [account.tenantId, account.accountId] →
    accountCounters ((budgetAccounts forms.budgetAccount).read knowledge columns) =
      (account.reservedMicros, account.spentMicros)

def ConsumedLike (knowledge : Knowledge) (window : QuotaWindow) : Prop :=
  ∀ columns, (quotaWindows forms.quotaWindow).key columns =
      (quotaWindows forms.quotaWindow).key
        [window.tenantId, window.accountId, window.windowId] →
    windowCounter ((quotaWindows forms.quotaWindow).read knowledge columns) =
      window.consumedMicros

end

/-- The write of an account keeps the accounts exactly when it keeps its counters. -/
theorem accountsKept_put_iff {account updated : BudgetAccount}
    (counts : CountsLike forms before account)
    (put : (budgetAccounts forms.budgetAccount).Put updated before after)
    (same : [updated.tenantId, updated.accountId] = [account.tenantId, account.accountId]) :
    AccountsKept forms before after ↔
      (updated.reservedMicros, updated.spentMicros) =
        (account.reservedMicros, account.spentMicros) := by
  have reads : ∀ columns, (budgetAccounts forms.budgetAccount).read after columns =
      if (budgetAccounts forms.budgetAccount).key columns =
          (budgetAccounts forms.budgetAccount).key [account.tenantId, account.accountId]
        then some updated
        else (budgetAccounts forms.budgetAccount).read before columns := by
    intro columns
    rw [← same]
    exact read_put put columns
  constructor
  · intro kept
    have own := kept [account.tenantId, account.accountId]
    rw [reads, if_pos rfl, counts _ rfl] at own
    exact own
  · intro sameCounters columns
    rw [reads]
    split
    · next isKey => rw [counts columns isKey, ← sameCounters]; rfl
    · rfl

theorem windowsKept_put_iff {window updated : QuotaWindow}
    (consumed : ConsumedLike forms before window)
    (put : (quotaWindows forms.quotaWindow).Put updated before after)
    (same : [updated.tenantId, updated.accountId, updated.windowId] =
      [window.tenantId, window.accountId, window.windowId]) :
    WindowsKept forms before after ↔ updated.consumedMicros = window.consumedMicros := by
  have reads : ∀ columns, (quotaWindows forms.quotaWindow).read after columns =
      if (quotaWindows forms.quotaWindow).key columns =
          (quotaWindows forms.quotaWindow).key
            [window.tenantId, window.accountId, window.windowId]
        then some updated
        else (quotaWindows forms.quotaWindow).read before columns := by
    intro columns
    rw [← same]
    exact read_put put columns
  constructor
  · intro kept
    have own := kept [window.tenantId, window.accountId, window.windowId]
    rw [reads, if_pos rfl, consumed _ rfl] at own
    exact own
  · intro sameCounter columns
    rw [reads]
    split
    · next isKey => rw [consumed columns isKey, ← sameCounter]; rfl
    · rfl

/-- No balance has changed. -/
def BalancesKept (forms : JsonForms) (before after : Knowledge) : Prop :=
  AccountsKept forms before after ∧ WindowsKept forms before after

theorem BalancesKept.refl (knowledge : Knowledge) : BalancesKept forms knowledge knowledge :=
  ⟨fun _ => rfl, fun _ => rfl⟩

theorem BalancesKept.put_apart {Other : Type} {other : TypedTable Other} {record : Other}
    (apart : NamesApart (budgetAccounts forms.budgetAccount).name other.name)
    (apartWindows : NamesApart (quotaWindows forms.quotaWindow).name other.name)
    (put : other.Put record middle after) :
    BalancesKept forms before after ↔ BalancesKept forms before middle := by
  simp only [BalancesKept, AccountsKept, WindowsKept, read_put_apart apart put,
    read_put_apart apartWindows put]

theorem balancesKept_account_iff {account updated : BudgetAccount}
    (counts : CountsLike forms before account)
    (put : (budgetAccounts forms.budgetAccount).Put updated before after)
    (same : [updated.tenantId, updated.accountId] = [account.tenantId, account.accountId]) :
    BalancesKept forms before after ↔
      (updated.reservedMicros, updated.spentMicros) =
        (account.reservedMicros, account.spentMicros) := by
  have windows : WindowsKept forms before after := fun columns => by
    rw [read_put_apart (@accounts_apart_windows forms).symm put]
  rw [BalancesKept, accountsKept_put_iff counts put same, and_iff_left windows]

theorem balancesKept_both_iff {account updated : BudgetAccount} {window changed : QuotaWindow}
    (counts : CountsLike forms before account) (consumed : ConsumedLike forms before window)
    (put : (budgetAccounts forms.budgetAccount).Put updated before middle)
    (same : [updated.tenantId, updated.accountId] = [account.tenantId, account.accountId])
    (windowPut : (quotaWindows forms.quotaWindow).Put changed middle after)
    (sameWindow : [changed.tenantId, changed.accountId, changed.windowId] =
      [window.tenantId, window.accountId, window.windowId]) :
    BalancesKept forms before after ↔
      (updated.reservedMicros, updated.spentMicros) =
          (account.reservedMicros, account.spentMicros) ∧
        changed.consumedMicros = window.consumedMicros := by
  have windowReads := read_put_apart (@accounts_apart_windows forms).symm put
  have accountReads := read_put_apart (@accounts_apart_windows forms) windowPut
  have consumedLater : ConsumedLike forms middle window := by
    intro columns isKey
    rw [windowReads]
    exact consumed columns isKey
  have accounts : AccountsKept forms before after ↔ AccountsKept forms before middle := by
    simp only [AccountsKept, accountReads]
  have windows : WindowsKept forms before after ↔ WindowsKept forms middle after := by
    simp only [WindowsKept, windowReads]
  rw [BalancesKept, accounts, windows, accountsKept_put_iff counts put same,
    windowsKept_put_iff consumedLater windowPut sameWindow]

/-! ## Calls -/

namespace FaultyStore

variable {world : FaultyStore} {Record : Type} {table : TypedTable Record} {record : Record}

def knowledge (world : FaultyStore) : Knowledge := world.shared.repo.knowledge

section Unmirrored

variable (unmirrored : store.mirror = none)
include unmirrored

variable {motive : Except String α × FaultyStore → Prop}

theorem upsert_rule {next : Record → Effect FaultyStore α}
    (stops : world.failing world.made ≠ none → ∀ message final,
      knowledge final = world.knowledge → motive (.error message, final))
    (goes : world.failing world.made = none → ∀ later,
      table.Put record world.knowledge later.repo.knowledge →
        motive (next record (world.moved later))) :
    motive ((call (table.upsert store record).run >>= next) world) := by
  cases fails : world.failing world.made with
  | some message =>
    rw [bind_of_error (call_of_fails fails)]
    exact stops (by rw [fails]; exact Option.some_ne_none message) message _ rfl
  | none =>
    obtain ⟨later, ran, put⟩ := table.run_upsert_put unmirrored record world.shared
    rw [bind_of_ok (call_of_works fails ran)]
    exact goes fails later put

theorem append_rule {describe : Record → String}
    {next : Record → Effect FaultyStore α}
    (stops : (world.failing world.made = none →
        table.Taken world.knowledge (table.columns record)) → ∀ message final,
      knowledge final = world.knowledge → motive (.error message, final))
    (goes : world.failing world.made = none →
      ¬table.Taken world.knowledge (table.columns record) → ∀ later,
      table.Put record world.knowledge later.repo.knowledge →
        motive (next record (world.moved later))) :
    motive ((call (table.append describe store record).run >>= next) world) := by
  cases fails : world.failing world.made with
  | some message =>
    rw [bind_of_error (call_of_fails fails)]
    exact stops (fun works => by cases fails.symm.trans works) message _ rfl
  | none =>
    by_cases taken : table.Taken world.knowledge (table.columns record)
    · have ran := table.run_append_of_taken unmirrored describe taken
      rw [bind_of_error (call_of_works fails ran)]
      exact stops (fun _ => taken) _ _ rfl
    · obtain ⟨later, ran, put⟩ := table.run_append_put unmirrored describe taken
      rw [bind_of_ok (call_of_works fails ran)]
      exact goes fails taken later put

theorem put_of_append (describe : Record → String) (record : Record) (world : FaultyStore) :
    (call (table.append describe store record).run world).2.knowledge = world.knowledge ∨
      table.Put record world.knowledge
        (call (table.append describe store record).run world).2.knowledge := by
  cases fails : world.failing world.made with
  | some message =>
    rw [call_of_fails fails]
    exact Or.inl rfl
  | none =>
    by_cases taken : table.Taken world.knowledge (table.columns record)
    · rw [call_of_works fails (table.run_append_of_taken unmirrored describe taken)]
      exact Or.inl rfl
    · obtain ⟨later, ran, put⟩ := table.run_append_put unmirrored describe taken
      rw [call_of_works fails ran]
      exact Or.inr put

theorem get_rule {columns : List String}
    {next : Option Record → Effect FaultyStore α}
    (stops : world.failing world.made ≠ none → ∀ message final,
      knowledge final = world.knowledge → motive (.error message, final))
    (goes : world.failing world.made = none →
      motive (next (table.read world.knowledge columns) (world.moved (world.shared.after 1)))) :
    motive ((call (table.get store columns).run >>= next) world) := by
  cases fails : world.failing world.made with
  | some message =>
    rw [bind_of_error (call_of_fails fails)]
    exact stops (by rw [fails]; exact Option.some_ne_none message) message _ rfl
  | none =>
    rw [bind_of_ok (call_of_works fails (table.run_get_read unmirrored columns world.shared))]
    exact goes fails

end Unmirrored

end FaultyStore

/-- The operation ends in an error. -/
def Fails (ran : Except String α × FaultyStore) : Prop := ∃ message, ran.1 = .error message

namespace RuntimeKernel

variable {kernel : RuntimeKernel} {world : FaultyStore} {envelope : TaskEnvelope}
variable {estimatedTokens : UInt32} {now : UInt64} {account : BudgetAccount} {window : QuotaWindow}

def faultyCalls (store : StateStore) (forms : JsonForms) : BudgetCalls FaultyStore :=
  FaultyStore.calls (BudgetCalls.ofStore store forms)

section Unmirrored

variable (unmirrored : store.mirror = none)
include unmirrored

/-! ## Precharges -/

section
variable (counts : CountsLike forms world.knowledge account)
  (consumed : ConsumedLike forms world.knowledge window)
include counts consumed

theorem kept_of_blocked (blocked : kernel.blocks account window
      (estimatePrechargeMicros envelope estimatedTokens) = true) :
    BalancesKept forms world.knowledge (kernel.decideOver (faultyCalls store forms) envelope
      estimatedTokens now account window world).2.knowledge := by
  unfold decideOver
  rw [if_pos blocked]
  refine FaultyStore.upsert_rule
    (motive := fun ran => BalancesKept forms world.knowledge ran.2.knowledge) unmirrored
    (fun _ message final same => ?_) (fun _ charged accountPut => ?_)
  · exact same ▸ BalancesKept.refl _
  refine FaultyStore.upsert_rule
    (motive := fun ran => BalancesKept forms world.knowledge ran.2.knowledge) unmirrored
    (fun _ message final same => ?_) (fun _ opened windowPut => ?_)
  · have kept := (balancesKept_account_iff counts accountPut rfl).mpr rfl
    show BalancesKept forms world.knowledge final.knowledge
    rw [same]
    exact kept
  · have kept := (balancesKept_both_iff counts consumed accountPut rfl windowPut rfl).mpr ⟨rfl, rfl⟩
    -- The append of the blocked entry may fail, which the precharge does not look at.
    have appended : ∀ entry : SpendLedger, BalancesKept forms world.knowledge
          (FaultyStore.call (store.appendSpendLedger forms entry).run
            ((world.moved charged).moved opened)).2.knowledge := by
      intro entry
      rcases FaultyStore.put_of_append unmirrored (fun entry => "spend ledger " ++ entry.ledgerId)
        entry ((world.moved charged).moved opened) with same | put
      · exact same ▸ kept
      · exact (BalancesKept.put_apart accounts_apart_ledger windows_apart_ledger put).mpr kept
    exact appended _

theorem fails_kept_iff (allowed : kernel.blocks account window
      (estimatePrechargeMicros envelope estimatedTokens) = false)
    {ran : Except String (Option BudgetReservation) × FaultyStore}
    (isRun : ran = kernel.decideOver (faultyCalls store forms) envelope estimatedTokens now
      account window world) :
    (Fails ran → BalancesKept forms world.knowledge ran.2.knowledge) ↔
      (world.failing world.made = none →
        (world.failing (world.made + 1) = none ∧ world.failing (world.made + 2) = none ∧
          ¬(spendLedgers forms.spendLedger).Taken world.knowledge
            [envelope.identity.tenantId, envelope.accountId, envelope.ledgerId "reserve" now]) ∨
        (account.reservedMicros.toNat = u64Max ∧ (world.failing (world.made + 1) ≠ none ∨
            window.consumedMicros.toNat = u64Max))) := by
  have positive : 0 < (estimatePrechargeMicros envelope estimatedTokens).toNat :=
    lt_of_lt_of_le (by decide) (one_thousand_le_estimate envelope estimatedTokens)
  have counters : ((chargedAccount account (estimatePrechargeMicros envelope estimatedTokens)
        now).reservedMicros, (chargedAccount account (estimatePrechargeMicros envelope
          estimatedTokens) now).spentMicros) = (account.reservedMicros, account.spentMicros) ↔
      account.reservedMicros.toNat = u64Max := by
    rw [Prod.mk.injEq, chargedAccount, and_iff_left rfl, saturatingAdd_eq_left_iff positive]
  have counter : (chargedWindow window (estimatePrechargeMicros envelope estimatedTokens)
        now).consumedMicros = window.consumedMicros ↔ window.consumedMicros.toNat = u64Max :=
    saturatingAdd_eq_left_iff positive
  subst isRun
  unfold decideOver
  rw [if_neg (Bool.eq_false_iff.mp allowed)]
  refine FaultyStore.upsert_rule (motive := fun ran =>
      (Fails ran → BalancesKept forms world.knowledge ran.2.knowledge) ↔ _) unmirrored
    (fun accountFails message final same => ?_) (fun accountWorks charged accountPut => ?_)
  · have kept : BalancesKept forms world.knowledge final.knowledge := same ▸ BalancesKept.refl _
    exact ⟨fun _ works => absurd works accountFails, fun _ _ => kept⟩
  refine FaultyStore.upsert_rule (motive := fun ran =>
      (Fails ran → BalancesKept forms world.knowledge ran.2.knowledge) ↔ _) unmirrored
    (fun windowFails message final same => ?_) (fun windowWorks opened windowPut => ?_)
  · have windowFails : world.failing (world.made + 1) ≠ none := windowFails
    have kept : BalancesKept forms world.knowledge final.knowledge ↔
        account.reservedMicros.toNat = u64Max := by
      rw [same]
      exact (balancesKept_account_iff counts accountPut rfl).trans counters
    simp only [Fails, Except.error.injEq, exists_eq', true_implies, kept, accountWorks,
      windowFails, false_and, false_or, ne_eq, not_false_eq_true, true_or, and_true]
  have windowWorks : world.failing (world.made + 1) = none := windowWorks
  have both : BalancesKept forms world.knowledge opened.repo.knowledge ↔
      account.reservedMicros.toNat = u64Max ∧ window.consumedMicros.toNat = u64Max :=
    (balancesKept_both_iff counts consumed accountPut rfl windowPut rfl).trans
      (and_congr counters counter)
  have takenLater : (spendLedgers forms.spendLedger).Taken opened.repo.knowledge
        [envelope.identity.tenantId, envelope.accountId, envelope.ledgerId "reserve" now] ↔
      (spendLedgers forms.spendLedger).Taken world.knowledge
        [envelope.identity.tenantId, envelope.accountId, envelope.ledgerId "reserve" now] :=
    (Wrote.of_puts accountPut windowPut).taken_of_nil _
  refine FaultyStore.append_rule (motive := fun ran =>
      (Fails ran → BalancesKept forms world.knowledge ran.2.knowledge) ↔ _) unmirrored
    (fun ledgerFails message final same => ?_) (fun ledgerWorks free later ledgerPut => ?_)
  · have ledgerFails : world.failing (world.made + 2) = none →
        (spendLedgers forms.spendLedger).Taken world.knowledge
          [envelope.identity.tenantId, envelope.accountId, envelope.ledgerId "reserve" now] :=
      fun works => takenLater.mp (ledgerFails works)
    have kept : BalancesKept forms world.knowledge final.knowledge ↔
        account.reservedMicros.toNat = u64Max ∧ window.consumedMicros.toNat = u64Max := by
      rw [same]
      exact both
    simp only [Fails, Except.error.injEq, exists_eq', true_implies, kept, accountWorks,
      windowWorks, true_and, ne_eq, not_true_eq_false, false_or]
    constructor
    · exact Or.inr
    · rintro (⟨works, free⟩ | full)
      · exact absurd (ledgerFails works) free
      · exact full
  · have free : ¬(spendLedgers forms.spendLedger).Taken world.knowledge
        [envelope.identity.tenantId, envelope.accountId, envelope.ledgerId "reserve" now] :=
      fun taken => free (takenLater.mpr taken)
    have ledgerWorks : world.failing (world.made + 2) = none := ledgerWorks
    apply Iff.intro
    · intro _ _
      exact Or.inl ⟨windowWorks, ledgerWorks, free⟩
    rintro - ⟨message, isError⟩
    have isError : (Except.ok (some (reservationOf envelope
        (estimatePrechargeMicros envelope estimatedTokens) now)) : Except String _) =
          .error message := isError
    cases isError

end

variable {shared : Shared}

omit unmirrored in
theorem countsLike_accountOf
    (kept : (budgetAccounts forms.budgetAccount).Kept shared.repo.knowledge) :
    CountsLike forms shared.repo.knowledge (kernel.accountOf forms shared envelope) := by
  intro columns isKey
  rw [@accountKey_accountOf forms ⟨shared, [], []⟩ kernel envelope kept] at isKey
  rw [TypedTable.read, isKey, accountOf, TypedTable.read]
  cases ((shared.repo.knowledge.get ((budgetAccounts forms.budgetAccount).key
    [envelope.identity.tenantId, envelope.accountId])).bind fun record =>
      (budgetAccounts forms.budgetAccount).form.decode record.value) <;> rfl

omit unmirrored in
theorem consumedLike_windowOf (kept : (quotaWindows forms.quotaWindow).Kept shared.repo.knowledge) :
    ConsumedLike forms shared.repo.knowledge (kernel.windowOf forms shared envelope) := by
  intro columns isKey
  rw [@windowKey_windowOf forms ⟨shared, [], []⟩ kernel envelope kept] at isKey
  rw [TypedTable.read, isKey, windowOf, TypedTable.read]
  cases ((shared.repo.knowledge.get ((quotaWindows forms.quotaWindow).key
    [envelope.identity.tenantId, envelope.accountId,
      kernel.windowIdFor shared.moment.nowMs])).bind fun record =>
      (quotaWindows forms.quotaWindow).form.decode record.value) <;> rfl

omit unmirrored in
/-- Once a precharge that is not blocked has written the account, all its later calls
succeed; otherwise the counters that it has written are at their maximum. -/
def PrechargeSafe (kernel : RuntimeKernel) (forms : JsonForms) (shared : Shared)
    (failing : Nat → Option String) (envelope : TaskEnvelope) (estimatedTokens : UInt32) :
    Prop :=
  kernel.budgetEnforced = true → failing 0 = none → failing 1 = none →
    kernel.blocks (kernel.accountOf forms shared envelope) (kernel.windowOf forms shared envelope)
      (estimatePrechargeMicros envelope estimatedTokens) = false →
    failing 2 = none →
      (failing 3 = none ∧ failing 4 = none ∧
        ¬(spendLedgers forms.spendLedger).Taken shared.repo.knowledge
          [envelope.identity.tenantId, envelope.accountId,
            envelope.ledgerId "reserve" shared.moment.nowMs]) ∨
      ((kernel.accountOf forms shared envelope).reservedMicros.toNat = u64Max ∧ (failing 3 ≠ none ∨
          (kernel.windowOf forms shared envelope).consumedMicros.toNat = u64Max))

theorem precharge_kept_iff (failing : Nat → Option String)
    (accountsKept : (budgetAccounts forms.budgetAccount).Kept shared.repo.knowledge)
    (windowsKept : (quotaWindows forms.quotaWindow).Kept shared.repo.knowledge)
    {ran : Except String (Option BudgetReservation) × FaultyStore}
    (isRun : ran = kernel.prechargeOver (faultyCalls store forms) envelope estimatedTokens
      ⟨shared, 0, failing⟩) :
    (Fails ran → BalancesKept forms shared.repo.knowledge ran.2.knowledge) ↔
      PrechargeSafe kernel forms shared failing envelope estimatedTokens := by
  subst isRun
  unfold prechargeOver PrechargeSafe
  cases enforced : kernel.budgetEnforced with
  | false =>
    constructor
    · intro _ isEnforced
      cases isEnforced
    · rintro - ⟨message, isError⟩
      cases isError
  | true =>
    have ranClock : (faultyCalls store forms).nowMs ⟨shared, 0, failing⟩ =
        (.ok shared.moment.nowMs, ⟨shared.after 1, 0, failing⟩) := rfl
    simp only [Bool.not_true, Bool.false_eq_true, if_false, bind_of_ok ranClock]
    refine FaultyStore.get_rule (motive := fun ran =>
        (Fails ran → BalancesKept forms shared.repo.knowledge ran.2.knowledge) ↔ _) unmirrored
      (fun accountFails message final same => ?_) (fun accountWorks => ?_)
    · have kept : BalancesKept forms shared.repo.knowledge final.knowledge :=
        same ▸ BalancesKept.refl _
      exact ⟨fun _ _ works => absurd works accountFails, fun _ _ => kept⟩
    refine FaultyStore.get_rule (motive := fun ran =>
        (Fails ran → BalancesKept forms shared.repo.knowledge ran.2.knowledge) ↔ _) unmirrored
      (fun windowFails message final same => ?_) (fun windowWorks => ?_)
    · have kept : BalancesKept forms shared.repo.knowledge final.knowledge :=
        same ▸ BalancesKept.refl _
      exact ⟨fun _ _ _ works => absurd works windowFails, fun _ _ => kept⟩
    have accountWorks : failing 0 = none := accountWorks
    have windowWorks : failing 1 = none := windowWorks
    simp only [accountWorks, windowWorks, true_implies]
    let reached : FaultyStore := ⟨((shared.after 1).after 1).after 1, 2, failing⟩
    have counts : CountsLike forms reached.knowledge (kernel.accountOf forms shared envelope) :=
      @countsLike_accountOf forms kernel envelope shared accountsKept
    have consumed : ConsumedLike forms reached.knowledge
        (kernel.windowOf forms shared envelope) :=
      @consumedLike_windowOf forms kernel envelope shared windowsKept
    cases decided : kernel.blocks (kernel.accountOf forms shared envelope)
        (kernel.windowOf forms shared envelope)
        (estimatePrechargeMicros envelope estimatedTokens) with
    | true =>
      have kept := @kept_of_blocked forms store kernel reached envelope estimatedTokens
        shared.moment.nowMs _ _ unmirrored counts consumed decided
      constructor
      · intro _ isAllowed
        cases isAllowed
      · intro _ _
        exact kept
    | false =>
      simp only [true_implies]
      exact @fails_kept_iff forms store kernel reached envelope estimatedTokens
        shared.moment.nowMs _ _ unmirrored counts consumed decided _ rfl

/-! ## Settlements -/

omit unmirrored in
/-- All calls of a settlement after its write of the account succeed. -/
def SettleFinishes (forms : JsonForms) (knowledge : Knowledge) (failing : Nat → Option String)
    (envelope : TaskEnvelope) (reservation : BudgetReservation) (cost : CostBreakdown)
    (now : UInt64) : Prop :=
  failing 3 = none ∧ failing 4 = none ∧
    ¬(spendLedgers forms.spendLedger).Taken knowledge
      [reservation.tenantId, reservation.accountId, envelope.ledgerId "settle" now] ∧
    if cost.totalCostMicros < reservation.reservedMicros then
      failing 5 = none ∧
        ¬(spendLedgers forms.spendLedger).Taken knowledge
          [reservation.tenantId, reservation.accountId, envelope.ledgerId "refund" now] ∧
        failing 6 = none
    else failing 5 = none

omit unmirrored in
/-- How the calls after the write of the account end: they leave the accounts, and one of
them fails unless they finish. -/
structure RestEnds (forms : JsonForms) (start : Knowledge) (finishes : Prop)
    (ran : Except String CostBreakdown × FaultyStore) : Prop where
  reads : ∀ columns, (budgetAccounts forms.budgetAccount).read ran.2.knowledge columns =
    (budgetAccounts forms.budgetAccount).read start columns
  fails : Fails ran ↔ ¬finishes

omit unmirrored in
theorem RestEnds.of_error {start : Knowledge} {finishes : Prop} {message : String}
    {final : FaultyStore} (stopped : ¬finishes)
    (reads : ∀ columns, (budgetAccounts forms.budgetAccount).read final.knowledge columns =
      (budgetAccounts forms.budgetAccount).read start columns) :
    RestEnds forms start finishes (.error message, final) :=
  ⟨reads, fun _ => stopped, fun _ => ⟨message, rfl⟩⟩

/-- The last call of a settlement, once all before it have succeeded. -/
theorem attribution_ends {attribution : CostAttribution} {cost : CostBreakdown}
    {start : Knowledge} {finishes : Prop} {world : FaultyStore}
    (reads : ∀ columns, (budgetAccounts forms.budgetAccount).read world.knowledge columns =
      (budgetAccounts forms.budgetAccount).read start columns)
    (finishes_iff : finishes ↔ world.failing world.made = none) :
    RestEnds forms start finishes ((do
      let _ ← (faultyCalls store forms).upsertCostAttribution attribution
      return cost : Effect FaultyStore CostBreakdown) world) := by
  refine FaultyStore.upsert_rule (motive := RestEnds forms start finishes) unmirrored
    (fun fails message final same => ?_) (fun works later put => ?_)
  · refine RestEnds.of_error (fun finished => fails (finishes_iff.mp finished)) fun columns => ?_
    rw [same]
    exact reads columns
  · refine ⟨fun columns => ?_, ?_⟩
    · exact (read_put_apart attributions_apart.1 put columns).trans (reads columns)
    · constructor
      · rintro ⟨message, isError⟩
        cases isError
      · exact fun stopped => absurd (finishes_iff.mpr works) stopped

theorem rest_of_settlement {reservation : BudgetReservation} {cost : CostBreakdown}
    {attribution : CostAttribution} {changed : QuotaWindow} {world : FaultyStore}
    (made : world.made = 3) :
    RestEnds forms world.knowledge
      (SettleFinishes forms world.knowledge world.failing envelope reservation cost now) ((do
      let _ ← (faultyCalls store forms).upsertQuotaWindow changed
      let _ ← (faultyCalls store forms).appendSpendLedger
        (settleEntry envelope reservation cost now)
      if cost.totalCostMicros < reservation.reservedMicros then
        let _ ← (faultyCalls store forms).appendSpendLedger
          (refundEntry envelope reservation cost now)
      let _ ← (faultyCalls store forms).upsertCostAttribution attribution
      return cost : Effect FaultyStore CostBreakdown) world) := by
  obtain ⟨shared, count, failing⟩ := world
  cases made
  let start : FaultyStore := ⟨shared, 3, failing⟩
  refine FaultyStore.upsert_rule (motive := RestEnds forms start.knowledge
      (SettleFinishes forms start.knowledge failing envelope reservation cost now)) unmirrored
    (fun windowFails message final same => ?_) (fun windowWorks opened windowPut => ?_)
  · exact RestEnds.of_error (fun finishes => windowFails finishes.1) fun columns => by rw [same]
  have accountsOpened : ∀ columns,
      (budgetAccounts forms.budgetAccount).read opened.repo.knowledge columns =
        (budgetAccounts forms.budgetAccount).read start.knowledge columns :=
    read_put_apart accounts_apart_windows windowPut
  have takenOpened : ∀ columns,
      (spendLedgers forms.spendLedger).Taken opened.repo.knowledge columns ↔
        (spendLedgers forms.spendLedger).Taken start.knowledge columns :=
    taken_put_apart (@windows_apart_ledger forms).symm windowPut
  refine FaultyStore.append_rule (motive := RestEnds forms start.knowledge
      (SettleFinishes forms start.knowledge failing envelope reservation cost now)) unmirrored
    (fun settleFails message final same => ?_)
    (fun settleWorks settleFree settled settlePut => ?_)
  · refine RestEnds.of_error (fun finishes => ?_) fun columns => ?_
    · exact finishes.2.2.1 ((takenOpened _).mp (settleFails finishes.2.1))
    · rw [same]
      exact accountsOpened columns
  have accountsSettled : ∀ columns,
      (budgetAccounts forms.budgetAccount).read settled.repo.knowledge columns =
        (budgetAccounts forms.budgetAccount).read start.knowledge columns := fun columns =>
    (read_put_apart accounts_apart_ledger settlePut columns).trans
      (accountsOpened columns)
  have settleFree : ¬(spendLedgers forms.spendLedger).Taken start.knowledge
      [reservation.tenantId, reservation.accountId, envelope.ledgerId "settle" now] :=
    fun taken => settleFree ((takenOpened _).mpr taken)
  have windowWorks : failing 3 = none := windowWorks
  have settleWorks : failing 4 = none := settleWorks
  have takenSettled : (spendLedgers forms.spendLedger).Taken settled.repo.knowledge
        [reservation.tenantId, reservation.accountId, envelope.ledgerId "refund" now] ↔
      (spendLedgers forms.spendLedger).Taken start.knowledge
        [reservation.tenantId, reservation.accountId, envelope.ledgerId "refund" now] := by
    rw [taken_put settlePut]
    have other : (spendLedgers forms.spendLedger).key
        [reservation.tenantId, reservation.accountId, envelope.ledgerId "refund" now] ≠
      (spendLedgers forms.spendLedger).key ((spendLedgers forms.spendLedger).columns
        (settleEntry envelope reservation cost now)) :=
      ledgerKey_ne forms (by decide) _ _ envelope now
    rw [or_iff_right other]
    exact takenOpened _
  by_cases refunds : cost.totalCostMicros < reservation.reservedMicros
  · simp only [refunds, if_true]
    refine FaultyStore.append_rule (motive := RestEnds forms start.knowledge
        (SettleFinishes forms start.knowledge failing envelope reservation cost now)) unmirrored
      (fun refundFails message final same => ?_)
      (fun refundWorks refundFree refunded refundPut => ?_)
    · refine RestEnds.of_error (fun finishes => ?_) fun columns => ?_
      · obtain ⟨-, -, -, finishes⟩ := finishes
        rw [if_pos refunds] at finishes
        exact finishes.2.1 (takenSettled.mp (refundFails finishes.1))
      · rw [same]
        exact accountsSettled columns
    have refundWorks : failing 5 = none := refundWorks
    have refundFree : ¬(spendLedgers forms.spendLedger).Taken start.knowledge
        [reservation.tenantId, reservation.accountId, envelope.ledgerId "refund" now] :=
      fun taken => refundFree (takenSettled.mpr taken)
    refine attribution_ends unmirrored (fun columns => ?_) ?_
    · exact (read_put_apart accounts_apart_ledger refundPut columns).trans
        (accountsSettled columns)
    · rw [SettleFinishes, if_pos refunds]
      constructor
      · exact fun finishes => finishes.2.2.2.2.2
      · exact fun works => ⟨windowWorks, settleWorks, settleFree, refundWorks, refundFree, works⟩
  · simp only [refunds, if_false]
    refine attribution_ends unmirrored accountsSettled ?_
    rw [SettleFinishes, if_neg refunds]
    constructor
    · exact fun finishes => finishes.2.2.2
    · exact fun works => ⟨windowWorks, settleWorks, settleFree, works⟩

omit unmirrored in
def reservedFor (forms : JsonForms) (knowledge : Knowledge) (reservation : BudgetReservation) :
    UInt64 :=
  (accountCounters (accountAt forms knowledge reservation)).1

omit unmirrored in
/-- Once a settlement has written the account, all its later calls succeed, or nothing was
reserved. -/
def SettleSafe (kernel : RuntimeKernel) (forms : JsonForms) (shared : Shared)
    (failing : Nat → Option String) (envelope : TaskEnvelope) (reservation : BudgetReservation)
    (cost : CostBreakdown) : Prop :=
  kernel.budgetEnforced = true → failing 0 = none →
    ∀ account, accountAt forms shared.repo.knowledge reservation = some account →
    failing 1 = none → (kernel.windowAt forms shared.repo.knowledge reservation).isSome = true →
    failing 2 = none →
      SettleFinishes forms shared.repo.knowledge failing envelope reservation cost
        shared.moment.nowMs ∨
      account.reservedMicros.toNat = 0 ∨ reservation.reservedMicros.toNat = 0

omit unmirrored in
theorem accountAt_put {account updated : BudgetAccount} {reservation : BudgetReservation}
    {shared : Shared} {charged : Knowledge}
    (kept : (budgetAccounts forms.budgetAccount).Kept shared.repo.knowledge)
    (found : accountAt forms shared.repo.knowledge reservation = some account)
    (put : (budgetAccounts forms.budgetAccount).Put updated shared.repo.knowledge charged)
    (same : [updated.tenantId, updated.accountId] = [account.tenantId, account.accountId]) :
    accountAt forms charged reservation = some updated := by
  unfold accountAt at found ⊢
  have isKey : (budgetAccounts forms.budgetAccount).key
        [reservation.tenantId, reservation.accountId] =
      (budgetAccounts forms.budgetAccount).key [updated.tenantId, updated.accountId] := by
    rw [same]
    exact (key_of_read kept found).symm
  rw [read_put put]
  exact if_pos isKey

omit unmirrored in
/-- Reading what a reservation is settled from finds both records, or fails, and changes
nothing. -/
def Loads (kernel : RuntimeKernel) (forms : JsonForms) (shared : Shared)
    (failing : Nat → Option String) (reservation : BudgetReservation)
    (ran : Except String (BudgetAccount × QuotaWindow) × FaultyStore) : Prop :=
  (failing 0 = none ∧ failing 1 = none ∧ ∃ account window later,
      accountAt forms shared.repo.knowledge reservation = some account ∧
      kernel.windowAt forms shared.repo.knowledge reservation = some window ∧
      later.repo.knowledge = shared.repo.knowledge ∧
      ran = (.ok (account, window), ⟨later, 2, failing⟩)) ∨
    (∀ account, failing 0 = none →
      accountAt forms shared.repo.knowledge reservation = some account → failing 1 = none →
      kernel.windowAt forms shared.repo.knowledge reservation = none) ∧
    ∃ message final, ran = (.error message, final) ∧
      final.knowledge = shared.repo.knowledge

theorem loads_loadOver (kernel : RuntimeKernel) (shared : Shared)
    (failing : Nat → Option String) (reservation : BudgetReservation) (during : String) :
    Loads kernel forms shared failing reservation
      (kernel.loadOver (faultyCalls store forms) reservation during ⟨shared, 0, failing⟩) := by
  unfold loadOver
  let start : FaultyStore := ⟨shared, 0, failing⟩
  refine @FaultyStore.get_rule _ store start _ (budgetAccounts forms.budgetAccount) unmirrored
    (Loads kernel forms shared failing reservation)
    [reservation.tenantId, reservation.accountId] _
    (fun accountFails message final same => ?_) (fun accountWorks => ?_)
  · exact Or.inr ⟨fun _ works => absurd works accountFails, message, final, rfl, same⟩
  have accountWorks : failing 0 = none := accountWorks
  have readAccount : (budgetAccounts forms.budgetAccount).read start.knowledge
      [reservation.tenantId, reservation.accountId] =
      accountAt forms shared.repo.knowledge reservation := rfl
  rw [readAccount]
  cases foundAccount : accountAt forms shared.repo.knowledge reservation with
  | none =>
    refine Or.inr ⟨fun account _ found => ?_, _, _, rfl, rfl⟩
    rw [foundAccount] at found
    cases found
  | some account =>
    let opened : FaultyStore := ⟨shared.after 1, 1, failing⟩
    refine @FaultyStore.get_rule _ store opened _ (quotaWindows forms.quotaWindow) unmirrored
      (Loads kernel forms shared failing reservation)
      [reservation.tenantId, reservation.accountId, kernel.windowIdFor reservation.startedAtMs] _
      (fun windowFails message final same => ?_) (fun windowWorks => ?_)
    · exact Or.inr ⟨fun _ _ _ works => absurd works windowFails, message, final, rfl, same⟩
    have windowWorks : failing 1 = none := windowWorks
    have readWindow : (quotaWindows forms.quotaWindow).read opened.knowledge
        [reservation.tenantId, reservation.accountId, kernel.windowIdFor reservation.startedAtMs] =
        kernel.windowAt forms shared.repo.knowledge reservation := rfl
    rw [readWindow]
    cases foundWindow : kernel.windowAt forms shared.repo.knowledge reservation with
    | none => exact Or.inr ⟨fun _ _ _ _ => foundWindow, _, _, rfl, rfl⟩
    | some window =>
      exact Or.inl ⟨accountWorks, windowWorks, account, window, opened.shared.after 1,
        foundAccount, foundWindow, rfl, rfl⟩

theorem settle_kept_iff (failing : Nat → Option String)
    (kept : (budgetAccounts forms.budgetAccount).Kept shared.repo.knowledge)
    {reservation : BudgetReservation} {providerTokens toolInvocations : UInt32}
    {durationMs : UInt64} {ran : Except String CostBreakdown × FaultyStore}
    (isRun : ran = kernel.settleOver (faultyCalls store forms) envelope reservation
      providerTokens toolInvocations durationMs ⟨shared, 0, failing⟩) :
    (Fails ran → reservedFor forms ran.2.knowledge reservation =
        reservedFor forms shared.repo.knowledge reservation) ↔
      SettleSafe kernel forms shared failing envelope reservation
        (costBreakdown providerTokens toolInvocations durationMs) := by
  subst isRun
  unfold settleOver SettleSafe
  cases enforced : kernel.budgetEnforced with
  | false =>
    constructor
    · intro _ isEnforced
      cases isEnforced
    · rintro - ⟨message, isError⟩
      cases isError
  | true =>
    have ranClock : (faultyCalls store forms).nowMs ⟨shared, 0, failing⟩ =
        (.ok shared.moment.nowMs, ⟨shared.after 1, 0, failing⟩) := rfl
    simp only [Bool.not_true, Bool.false_eq_true, if_false, bind_of_ok ranClock, true_implies]
    obtain ⟨accountWorks, windowWorks, account, window, read, foundAccount, foundWindow,
        same, isLoaded⟩ | ⟨missing, message, final, isError, same⟩ :=
      @loads_loadOver forms store unmirrored kernel (shared.after 1) failing reservation
        "settle"
    · have same : read.repo.knowledge = shared.repo.knowledge := same
      have foundAccount : accountAt forms shared.repo.knowledge reservation = some account :=
        foundAccount
      have isFound : (kernel.windowAt forms shared.repo.knowledge reservation).isSome = true :=
        Option.isSome_of_eq_some foundWindow
      have safe_iff : ∀ safe : BudgetAccount → Prop, (failing 0 = none → ∀ account,
            accountAt forms shared.repo.knowledge reservation = some account →
            failing 1 = none →
            (kernel.windowAt forms shared.repo.knowledge reservation).isSome = true →
            failing 2 = none → safe account) ↔ (failing 2 = none → safe account) := by
        intro safe
        constructor
        · exact fun all => all accountWorks account foundAccount windowWorks isFound
        · intro only _ other found _ _
          cases foundAccount.symm.trans found
          exact only
      rw [bind_of_ok isLoaded, safe_iff]
      simp only [settleReservedOver]
      let loaded : FaultyStore := ⟨read, 2, failing⟩
      refine FaultyStore.upsert_rule (motive := fun ran =>
          (Fails ran → reservedFor forms ran.2.knowledge reservation =
            reservedFor forms shared.repo.knowledge reservation) ↔ _) unmirrored
        (fun accountFails message final sameFinal => ?_) (fun accountWritten charged put => ?_)
      · constructor
        · exact fun _ works => absurd works accountFails
        · intro _ _
          unfold reservedFor
          rw [sameFinal]
          exact congrArg (fun knowledge =>
            (accountCounters (accountAt forms knowledge reservation)).1) same
      have accountWritten : failing 2 = none := accountWritten
      simp only [accountWritten, true_implies]
      have put : (budgetAccounts forms.budgetAccount).Put
          (settledAccount account reservation
            (costBreakdown providerTokens toolInvocations durationMs) shared.moment.nowMs)
          shared.repo.knowledge charged.repo.knowledge := same ▸ put
      let written : FaultyStore := ⟨charged, 3, failing⟩
      obtain ⟨reads, fails⟩ := @rest_of_settlement forms store envelope shared.moment.nowMs
        unmirrored reservation (costBreakdown providerTokens toolInvocations durationMs)
        (attributionOf envelope reservation providerTokens toolInvocations durationMs
          shared.moment.nowMs (costBreakdown providerTokens toolInvocations durationMs))
        (settledWindow window reservation
          (costBreakdown providerTokens toolInvocations durationMs) shared.moment.nowMs)
        written rfl
      have finishes_iff : SettleFinishes forms charged.repo.knowledge failing envelope
            reservation (costBreakdown providerTokens toolInvocations durationMs)
            shared.moment.nowMs ↔
          SettleFinishes forms shared.repo.knowledge failing envelope reservation
            (costBreakdown providerTokens toolInvocations durationMs)
            shared.moment.nowMs := by
        simp only [SettleFinishes, taken_put_apart (@accounts_apart_ledger forms).symm put]
      have reservedBefore : reservedFor forms shared.repo.knowledge reservation =
          account.reservedMicros := by
        rw [reservedFor, foundAccount]
        rfl
      have reservedAfter : reservedFor forms charged.repo.knowledge reservation =
          saturatingSub account.reservedMicros reservation.reservedMicros := by
        rw [reservedFor, accountAt_put kept foundAccount put rfl]
        rfl
      have reservedEnd : ∀ knowledge,
          (∀ columns, (budgetAccounts forms.budgetAccount).read knowledge columns =
            (budgetAccounts forms.budgetAccount).read charged.repo.knowledge columns) →
          reservedFor forms knowledge reservation =
            saturatingSub account.reservedMicros reservation.reservedMicros := by
        intro knowledge sameReads
        rw [← reservedAfter, reservedFor, reservedFor, accountAt, accountAt, sameReads]
      have reservedEnd := reservedEnd _ reads
      have fails := fails.trans (not_congr finishes_iff)
      rw [or_iff_not_imp_left, ← saturatingSub_eq_left_iff, reservedBefore]
      exact imp_congr fails (Eq.congr_left reservedEnd)
    · rw [bind_of_error isError]
      constructor
      · intro _ accountWorks account found windowWorks isFound
        have absent : kernel.windowAt forms shared.repo.knowledge reservation = none :=
          missing account accountWorks found windowWorks
        rw [absent] at isFound
        cases isFound
      · intro _ _
        unfold reservedFor
        rw [same]
        rfl

end Unmirrored

/-! ## Failed operations -/

section
variable (kernel : RuntimeKernel) (store : StateStore) (forms : JsonForms) (shared : Shared)
  (failing : Nat → Option String) (envelope : TaskEnvelope)

def PrechargeKeeps (estimatedTokens : UInt32) : Prop :=
  let ran := kernel.prechargeOver (faultyCalls store forms) envelope estimatedTokens
    ⟨shared, 0, failing⟩
  Fails ran → BalancesKept forms shared.repo.knowledge ran.2.knowledge

/-- If the settlement fails, as much is reserved as before. -/
def SettleKeeps (reservation : BudgetReservation)
    (providerTokens toolInvocations : UInt32) (durationMs : UInt64) : Prop :=
  let ran := kernel.settleOver (faultyCalls store forms) envelope reservation providerTokens
    toolInvocations durationMs ⟨shared, 0, failing⟩
  Fails ran → reservedFor forms ran.2.knowledge reservation =
    reservedFor forms shared.repo.knowledge reservation

end

end RuntimeKernel

section Example

end Example

end AutoLoop.Runtime
