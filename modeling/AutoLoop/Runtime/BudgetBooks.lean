import AutoLoop.Runtime.BudgetOperations
import AutoLoop.StateAdapter.RecordForms

/-!
# Outstanding reservations

Runs of precharges, settlements and rollbacks.  The counters of an account and of
its quota windows count the reservations that are live and the costs that were
settled, as long as no operation finds its own ledger entry in place: it has
written the counters by then, and its caller gets an error.
-/

namespace AutoLoop.Runtime

open StateAdapter RecordForms List RuntimeKernel Shared

/-! ## Runs -/

inductive BudgetOp where
  | precharge (envelope : TaskEnvelope) (estimatedTokens : UInt32)
  | settle (envelope : TaskEnvelope) (reservation : BudgetReservation)
      (providerTokens toolInvocations : UInt32) (durationMs : UInt64)
  | rollback (envelope : TaskEnvelope) (reservation : BudgetReservation) (reason : String)
  deriving DecidableEq, Repr

inductive BudgetAnswer where
  | precharged (reservation : Option BudgetReservation)
  | settled (cost : CostBreakdown)
  | rolledBack
  | refused (message : String)
  deriving DecidableEq, Repr

/-- The store, the reservations that callers hold, and what they settled. -/
structure BudgetBooks where
  shared : Shared
  live : List BudgetReservation
  settled : List (BudgetReservation × CostBreakdown)

/-- Operations one after another, each under the budget lock. -/
def budgetRuns (kernel : RuntimeKernel) (store : StateStore) (forms : JsonForms)
    (host : Nat → Moment) : Component BudgetBooks BudgetOp BudgetAnswer where
  initial := ⟨started host, [], []⟩
  step books op :=
    match op with
    | .precharge envelope estimatedTokens =>
      let ran := (kernel.prechargeBudget store forms envelope estimatedTokens).run books.shared
      match ran.1 with
      | .ok (some reservation) =>
        (.precharged (some reservation),
          { books with shared := ran.2, live := reservation :: books.live })
      | .ok none => (.precharged none, { books with shared := ran.2 })
      | .error message => (.refused message, { books with shared := ran.2 })
    | .settle envelope reservation providerTokens toolInvocations durationMs =>
      let ran := (kernel.settleBudget store forms envelope reservation providerTokens
        toolInvocations durationMs).run books.shared
      match ran.1 with
      | .ok cost =>
        (.settled cost,
          { shared := ran.2
            live := books.live.erase reservation
            settled := (reservation, cost) :: books.settled })
      | .error message => (.refused message, { books with shared := ran.2 })
    | .rollback envelope reservation reason =>
      let ran := (kernel.rollbackBudget store forms envelope reservation reason).run
        books.shared
      match ran.1 with
      | .ok () =>
        (.rolledBack,
          { books with shared := ran.2, live := books.live.erase reservation })
      | .error message => (.refused message, { books with shared := ran.2 })

/-! ## What the counters stand for -/

namespace BudgetReservation

variable (forms : JsonForms) (kernel : RuntimeKernel) (reservation : BudgetReservation)

/-- The row of its account. -/
def accountKey : String :=
  (budgetAccounts forms.budgetAccount).key [reservation.tenantId, reservation.accountId]

/-- The row of the window it was made in. -/
def windowKey : String :=
  (quotaWindows forms.quotaWindow).key
    [reservation.tenantId, reservation.accountId, kernel.windowIdFor reservation.startedAtMs]

end BudgetReservation

namespace BudgetBooks

variable (books : BudgetBooks)

section
variable (ofKind : BudgetReservation → Prop) [DecidablePred ofKind]

/-- What the live reservations of a kind add up to. -/
def liveMicros : Nat :=
  ((books.live.filter ofKind).map (·.reservedMicros.toNat)).sum

def settledMicros : Nat :=
  ((books.settled.filter (ofKind ·.1)).map (·.2.totalCostMicros.toNat)).sum

end

end BudgetBooks

/-- The counters of every account and of every quota window are what is live and
what was settled there; without a record they are zero. -/
structure Outstanding (kernel : RuntimeKernel) (forms : JsonForms) (books : BudgetBooks) :
    Prop where
  reserved : ∀ columns,
    (((budgetAccounts forms.budgetAccount).read books.shared.repo.knowledge columns).map
      (·.reservedMicros.toNat)).getD 0 =
      books.liveMicros fun reservation => reservation.accountKey forms =
        (budgetAccounts forms.budgetAccount).key columns
  spent : ∀ columns,
    (((budgetAccounts forms.budgetAccount).read books.shared.repo.knowledge columns).map
      (·.spentMicros.toNat)).getD 0 =
      books.settledMicros fun reservation => reservation.accountKey forms =
        (budgetAccounts forms.budgetAccount).key columns
  consumed : ∀ columns,
    (((quotaWindows forms.quotaWindow).read books.shared.repo.knowledge columns).map
      (·.consumedMicros.toNat)).getD 0 =
      (books.liveMicros fun reservation => reservation.windowKey forms kernel =
        (quotaWindows forms.quotaWindow).key columns) +
      books.settledMicros fun reservation => reservation.windowKey forms kernel =
        (quotaWindows forms.quotaWindow).key columns

/-- No counter has passed its end. -/
structure Unsaturated (kernel : RuntimeKernel) (forms : JsonForms) (books : BudgetBooks) :
    Prop where
  reserved : ∀ columns,
    (books.liveMicros fun reservation => reservation.accountKey forms =
      (budgetAccounts forms.budgetAccount).key columns) < 2 ^ 64
  spent : ∀ columns,
    (books.settledMicros fun reservation => reservation.accountKey forms =
      (budgetAccounts forms.budgetAccount).key columns) < 2 ^ 64
  consumed : ∀ columns,
    (books.liveMicros fun reservation => reservation.windowKey forms kernel =
        (quotaWindows forms.quotaWindow).key columns) +
      (books.settledMicros fun reservation => reservation.windowKey forms kernel =
        (quotaWindows forms.quotaWindow).key columns) < 2 ^ 64

/-- The entries that an operation books. -/
def BudgetOp.entries (kernel : RuntimeKernel) (forms : JsonForms) (shared : Shared) :
    BudgetOp → List SpendLedger
  | .precharge envelope estimatedTokens =>
    if kernel.budgetEnforced = false ∨ kernel.blocks (kernel.accountOf forms shared envelope)
        (kernel.windowOf forms shared envelope)
        (estimatePrechargeMicros envelope estimatedTokens) = true then []
    else
      [prechargeEntry envelope .reserve
        (envelope.ledgerId "reserve" shared.moment.nowMs) "precharge"
        (estimatePrechargeMicros envelope estimatedTokens) estimatedTokens
        shared.moment.nowMs]
  | .settle envelope reservation providerTokens toolInvocations durationMs =>
    settleEntries envelope reservation
      (costBreakdown providerTokens toolInvocations durationMs) shared.moment.nowMs
  | .rollback envelope reservation reason =>
    [rollbackEntry envelope reservation reason shared.moment.nowMs]

def BudgetOp.ended : BudgetOp → Option BudgetReservation
  | .precharge .. => none
  | .settle _ reservation .. => some reservation
  | .rollback _ reservation _ => some reservation

structure Bookable (kernel : RuntimeKernel) (forms : JsonForms) (books : BudgetBooks)
    (op : BudgetOp) : Prop where
  live : ∀ reservation, op.ended = some reservation → reservation ∈ books.live
  unbooked : Unbooked forms books.shared.repo.knowledge
    (op.entries kernel forms books.shared)

/-! ## Sums -/

section Sums

variable {books : BudgetBooks} {shared : Shared} {reservation : BudgetReservation}
variable {ofKind : BudgetReservation → Prop} [DecidablePred ofKind]

theorem liveMicros_cons :
    BudgetBooks.liveMicros ⟨shared, reservation :: books.live, books.settled⟩ ofKind =
      (if ofKind reservation then reservation.reservedMicros.toNat else 0) +
        books.liveMicros ofKind := by
  unfold BudgetBooks.liveMicros
  by_cases isOfKind : ofKind reservation
  · simp [isOfKind]
  · simp [isOfKind]

theorem liveMicros_erase (isLive : reservation ∈ books.live) (shared : Shared)
    (settled : List (BudgetReservation × CostBreakdown)) :
    books.liveMicros ofKind =
      (if ofKind reservation then reservation.reservedMicros.toNat else 0) +
        BudgetBooks.liveMicros ⟨shared, books.live.erase reservation, settled⟩ ofKind := by
  have reordered := ((perm_cons_erase isLive).filter (ofKind ·)).map
    (·.reservedMicros.toNat)
  unfold BudgetBooks.liveMicros
  rw [reordered.sum_nat]
  by_cases isOfKind : ofKind reservation
  · simp [isOfKind]
  · simp [isOfKind]

theorem settledMicros_cons {cost : CostBreakdown} {live : List BudgetReservation} :
    BudgetBooks.settledMicros ⟨shared, live, (reservation, cost) :: books.settled⟩ ofKind =
      (if ofKind reservation then cost.totalCostMicros.toNat else 0) +
        books.settledMicros ofKind := by
  unfold BudgetBooks.settledMicros
  by_cases isOfKind : ofKind reservation
  · simp [isOfKind]
  · simp [isOfKind]

end Sums

theorem recount {Record : Type} {table : TypedTable Record} {before after : Knowledge}
    {columns : List String} {record : Record} (counter : Record → Nat)
    (sumBefore sumAfter : String → Nat)
    (reads : ∀ others, table.read after others =
      if table.key others = table.key columns then some record else table.read before others)
    (holds : ∀ others, ((table.read before others).map counter).getD 0 =
      sumBefore (table.key others))
    (elsewhere : ∀ key, key ≠ table.key columns → sumAfter key = sumBefore key)
    (here : counter record = sumAfter (table.key columns)) (others : List String) :
    ((table.read after others).map counter).getD 0 = sumAfter (table.key others) := by
  rw [reads]
  split
  · next same =>
    rw [same]
    exact here
  · next different =>
    rw [elsewhere _ different]
    exact holds others

/-! ## What an operation keeps -/

open Outstanding

section Steps

variable {kernel : RuntimeKernel} {forms : JsonForms} {books later : BudgetBooks}
variable {account : BudgetAccount} {window : QuotaWindow} {entries : List SpendLedger}

theorem Outstanding.of_wrote (reservation : BudgetReservation) (outstanding : Outstanding kernel forms books)
    (wrote : Wrote forms account window entries books.shared.repo.knowledge
      later.shared.repo.knowledge)
    (accountRow : (budgetAccounts forms.budgetAccount).key
      [account.tenantId, account.accountId] = reservation.accountKey forms)
    (windowRow : (quotaWindows forms.quotaWindow).key
      [window.tenantId, window.accountId, window.windowId] =
        reservation.windowKey forms kernel)
    (liveElsewhere : ∀ (ofKind : BudgetReservation → Prop) [DecidablePred ofKind],
      ¬ofKind reservation → later.liveMicros ofKind = books.liveMicros ofKind)
    (settledElsewhere : ∀ (ofKind : BudgetReservation → Prop) [DecidablePred ofKind],
      ¬ofKind reservation → later.settledMicros ofKind = books.settledMicros ofKind)
    (reserved : account.reservedMicros.toNat = later.liveMicros fun other =>
      other.accountKey forms = reservation.accountKey forms)
    (spent : account.spentMicros.toNat = later.settledMicros fun other =>
      other.accountKey forms = reservation.accountKey forms)
    (consumed : window.consumedMicros.toNat =
      (later.liveMicros fun other =>
        other.windowKey forms kernel = reservation.windowKey forms kernel) +
      later.settledMicros fun other =>
        other.windowKey forms kernel = reservation.windowKey forms kernel) :
    Outstanding kernel forms later := by
  rw [← accountRow] at reserved spent
  rw [← windowRow] at consumed
  constructor
  · apply recount (·.reservedMicros.toNat)
      (fun key => books.liveMicros fun other => other.accountKey forms = key)
      (fun key => later.liveMicros fun other => other.accountKey forms = key)
      wrote.account outstanding.reserved ?_ reserved
    intro key different
    exact liveElsewhere _ fun same => different (same.symm.trans accountRow.symm)
  · apply recount (·.spentMicros.toNat)
      (fun key => books.settledMicros fun other => other.accountKey forms = key)
      (fun key => later.settledMicros fun other => other.accountKey forms = key)
      wrote.account outstanding.spent ?_ spent
    intro key different
    exact settledElsewhere _ fun same => different (same.symm.trans accountRow.symm)
  · apply recount (·.consumedMicros.toNat)
      (fun key => (books.liveMicros fun other => other.windowKey forms kernel = key) +
        books.settledMicros fun other => other.windowKey forms kernel = key)
      (fun key => (later.liveMicros fun other => other.windowKey forms kernel = key) +
        later.settledMicros fun other => other.windowKey forms kernel = key)
      wrote.window outstanding.consumed ?_ consumed
    intro key different
    have notHere : ¬reservation.windowKey forms kernel = key :=
      fun same => different (same.symm.trans windowRow.symm)
    rw [liveElsewhere _ notHere, settledElsewhere _ notHere]

/-- What a run keeps. -/
structure Sound (kernel : RuntimeKernel) (forms : JsonForms) (books : BudgetBooks) :
    Prop where
  outstanding : Outstanding kernel forms books
  accounts : (budgetAccounts forms.budgetAccount).Kept books.shared.repo.knowledge
  windows : (quotaWindows forms.quotaWindow).Kept books.shared.repo.knowledge
  unenforced : kernel.budgetEnforced = false → books.live = []

theorem Sound.of_knowledge {shared : Shared} (sound : Sound kernel forms books)
    (same : shared.repo.knowledge = books.shared.repo.knowledge) :
    Sound kernel forms { books with shared } := by
  obtain ⟨⟨reserved, spent, consumed⟩, accounts, windows, unenforced⟩ := sound
  refine ⟨⟨?_, ?_, ?_⟩, ?_, ?_, unenforced⟩
  · rw [same]
    exact reserved
  · rw [same]
    exact spent
  · rw [same]
    exact consumed
  · rw [same]
    exact accounts
  · rw [same]
    exact windows

namespace Unsaturated

variable (unsaturated : Unsaturated kernel forms books) (reservation : BudgetReservation)
include unsaturated

theorem reserved_of : (books.liveMicros fun other =>
    other.accountKey forms = reservation.accountKey forms) < 2 ^ 64 :=
  unsaturated.reserved [reservation.tenantId, reservation.accountId]

theorem spent_of : (books.settledMicros fun other =>
    other.accountKey forms = reservation.accountKey forms) < 2 ^ 64 :=
  unsaturated.spent [reservation.tenantId, reservation.accountId]

theorem consumed_of : (books.liveMicros fun other =>
      other.windowKey forms kernel = reservation.windowKey forms kernel) +
    (books.settledMicros fun other =>
      other.windowKey forms kernel = reservation.windowKey forms kernel) < 2 ^ 64 :=
  unsaturated.consumed [reservation.tenantId, reservation.accountId,
    kernel.windowIdFor reservation.startedAtMs]

end Unsaturated

/-! ### Precharges -/

section Precharge

variable {envelope : TaskEnvelope} {estimatedTokens : UInt32}

section
variable (kernel : RuntimeKernel) (envelope : TaskEnvelope)

theorem accountKey_accountOf
    (kept : (budgetAccounts forms.budgetAccount).Kept books.shared.repo.knowledge) :
    (budgetAccounts forms.budgetAccount).key
        [(kernel.accountOf forms books.shared envelope).tenantId,
          (kernel.accountOf forms books.shared envelope).accountId] =
      (budgetAccounts forms.budgetAccount).key
        [envelope.identity.tenantId, envelope.accountId] := by
  unfold accountOf
  cases found : (budgetAccounts forms.budgetAccount).read books.shared.repo.knowledge
      [envelope.identity.tenantId, envelope.accountId] with
  | none => rfl
  | some account => exact TypedTable.key_of_read kept found

theorem windowKey_windowOf
    (kept : (quotaWindows forms.quotaWindow).Kept books.shared.repo.knowledge) :
    (quotaWindows forms.quotaWindow).key
        [(kernel.windowOf forms books.shared envelope).tenantId,
          (kernel.windowOf forms books.shared envelope).accountId,
          (kernel.windowOf forms books.shared envelope).windowId] =
      (quotaWindows forms.quotaWindow).key
        [envelope.identity.tenantId, envelope.accountId,
          kernel.windowIdFor books.shared.moment.nowMs] := by
  unfold windowOf
  cases found : (quotaWindows forms.quotaWindow).read books.shared.repo.knowledge
      [envelope.identity.tenantId, envelope.accountId,
        kernel.windowIdFor books.shared.moment.nowMs] with
  | none => rfl
  | some window => exact TypedTable.key_of_read kept found

end

theorem accountOf_counters :
    (kernel.accountOf forms books.shared envelope).reservedMicros.toNat =
        (((budgetAccounts forms.budgetAccount).read books.shared.repo.knowledge
          [envelope.identity.tenantId, envelope.accountId]).map
            (·.reservedMicros.toNat)).getD 0 ∧
      (kernel.accountOf forms books.shared envelope).spentMicros.toNat =
        (((budgetAccounts forms.budgetAccount).read books.shared.repo.knowledge
          [envelope.identity.tenantId, envelope.accountId]).map
            (·.spentMicros.toNat)).getD 0 := by
  unfold accountOf
  cases (budgetAccounts forms.budgetAccount).read books.shared.repo.knowledge
      [envelope.identity.tenantId, envelope.accountId] with
  | none => exact ⟨rfl, rfl⟩
  | some account => exact ⟨rfl, rfl⟩

theorem windowOf_counter :
    (kernel.windowOf forms books.shared envelope).consumedMicros.toNat =
      (((quotaWindows forms.quotaWindow).read books.shared.repo.knowledge
        [envelope.identity.tenantId, envelope.accountId,
          kernel.windowIdFor books.shared.moment.nowMs]).map
            (·.consumedMicros.toNat)).getD 0 := by
  unfold windowOf
  cases (quotaWindows forms.quotaWindow).read books.shared.repo.knowledge
      [envelope.identity.tenantId, envelope.accountId,
        kernel.windowIdFor books.shared.moment.nowMs] with
  | none => rfl
  | some window => rfl

theorem counters_of_opened (kernel : RuntimeKernel) (envelope : TaskEnvelope)
    (outstanding : Outstanding kernel forms books)
    (estimated : UInt64) {reservation : BudgetReservation}
    (isReservation : reservation = reservationOf envelope estimated books.shared.moment.nowMs) :
    (kernel.accountOf forms books.shared envelope).reservedMicros.toNat =
        (books.liveMicros fun other =>
          other.accountKey forms = reservation.accountKey forms) ∧
      (kernel.accountOf forms books.shared envelope).spentMicros.toNat =
        (books.settledMicros fun other =>
          other.accountKey forms = reservation.accountKey forms) ∧
      (kernel.windowOf forms books.shared envelope).consumedMicros.toNat =
        (books.liveMicros fun other =>
          other.windowKey forms kernel = reservation.windowKey forms kernel) +
        books.settledMicros fun other =>
          other.windowKey forms kernel = reservation.windowKey forms kernel := by
  subst isReservation
  refine ⟨?_, ?_, ?_⟩
  · exact accountOf_counters.1.trans (outstanding.reserved _)
  · exact accountOf_counters.2.trans (outstanding.spent _)
  · exact windowOf_counter.trans (outstanding.consumed _)

theorem Sound.blocked {shared : Shared} {blockedBefore blockedIn : UInt64}
    (sound : Sound kernel forms books) {now : UInt64}
    (wrote : Wrote forms
      { kernel.accountOf forms books.shared envelope with
        blockedCount := blockedBefore, updatedAtMs := now }
      { kernel.windowOf forms books.shared envelope with
        blockedCount := blockedIn, updatedAtMs := now }
      entries books.shared.repo.knowledge shared.repo.knowledge) :
    Sound kernel forms { books with shared } := by
  refine ⟨?_, wrote.accountsKept sound.accounts, wrote.windowsKept sound.windows,
    sound.unenforced⟩
  obtain ⟨reserved, spent, consumed⟩ := counters_of_opened kernel envelope sound.outstanding 0 rfl
  apply of_wrote
    (reservationOf envelope 0 books.shared.moment.nowMs) sound.outstanding wrote
  · exact accountKey_accountOf kernel envelope sound.accounts
  · exact windowKey_windowOf kernel envelope sound.windows
  · exact fun _ _ _ => rfl
  · exact fun _ _ _ => rfl
  · exact reserved
  · exact spent
  · exact consumed

theorem rows_of_charged {after : Knowledge} {estimated : UInt64}
    (sound : Sound kernel forms books)
    (wrote : Wrote forms
      (chargedAccount (kernel.accountOf forms books.shared envelope) estimated
        books.shared.moment.nowMs)
      (chargedWindow (kernel.windowOf forms books.shared envelope) estimated
        books.shared.moment.nowMs)
      entries books.shared.repo.knowledge after)
    {reservation : BudgetReservation}
    (isReservation : reservation = reservationOf envelope estimated books.shared.moment.nowMs) :
    accountAt forms after reservation = some
        (chargedAccount (kernel.accountOf forms books.shared envelope) estimated
          books.shared.moment.nowMs) ∧
      kernel.windowAt forms after reservation = some
        (chargedWindow (kernel.windowOf forms books.shared envelope) estimated
          books.shared.moment.nowMs) := by
  subst isReservation
  have ownAccount := accountKey_accountOf kernel envelope sound.accounts
  have ownWindow := windowKey_windowOf kernel envelope sound.windows
  have account := wrote.account [envelope.identity.tenantId, envelope.accountId]
  have window := wrote.window [envelope.identity.tenantId, envelope.accountId,
    kernel.windowIdFor books.shared.moment.nowMs]
  rw [← ownAccount] at account
  rw [← ownWindow] at window
  exact ⟨account.trans (if_pos rfl), window.trans (if_pos rfl)⟩

theorem Sound.charged {shared : Shared} {estimated : UInt64}
    (sound : Sound kernel forms books) (enforced : kernel.budgetEnforced = true)
    {now : UInt64} (isNow : now = books.shared.moment.nowMs)
    (wrote : Wrote forms
      (chargedAccount (kernel.accountOf forms books.shared envelope) estimated now)
      (chargedWindow (kernel.windowOf forms books.shared envelope) estimated now)
      entries books.shared.repo.knowledge shared.repo.knowledge)
    (unsaturated : Unsaturated kernel forms
      ⟨shared, reservationOf envelope estimated now :: books.live,
        books.settled⟩) :
    Sound kernel forms
      ⟨shared, reservationOf envelope estimated now :: books.live,
        books.settled⟩ := by
  subst isNow
  refine ⟨?_, wrote.accountsKept sound.accounts, wrote.windowsKept sound.windows, ?_⟩
  · have reservedFits := unsaturated.reserved_of
      (reservationOf envelope estimated books.shared.moment.nowMs)
    have consumedFits := unsaturated.consumed_of
      (reservationOf envelope estimated books.shared.moment.nowMs)
    rw [liveMicros_cons, if_pos rfl] at reservedFits consumedFits
    obtain ⟨reserved, spent, consumed⟩ :=
      counters_of_opened kernel envelope sound.outstanding estimated rfl
    apply of_wrote
      (reservationOf envelope estimated books.shared.moment.nowMs)
      sound.outstanding wrote
    · exact accountKey_accountOf kernel envelope sound.accounts
    · exact windowKey_windowOf kernel envelope sound.windows
    · intro ofKind _ notOfKind
      rw [liveMicros_cons, if_neg notOfKind, Nat.zero_add]
    · exact fun _ _ _ => rfl
    · rw [liveMicros_cons, if_pos rfl, chargedAccount,
        toNat_saturatingAdd_of_le]
      · rw [reserved, Nat.add_comm]
        rfl
      · rw [reserved, Nat.add_comm]
        exact Nat.le_sub_one_of_lt reservedFits
    · exact spent
    · rw [liveMicros_cons, if_pos rfl, chargedWindow,
        toNat_saturatingAdd_of_le]
      · rw [consumed, Nat.add_comm, Nat.add_assoc]
        rfl
      · rw [consumed, Nat.add_comm, ← Nat.add_assoc]
        exact Nat.le_sub_one_of_lt consumedFits
  · intro unenforced
    rw [enforced] at unenforced
    cases unenforced

end Precharge

/-! ### The end of a reservation -/

section Ended

variable {reservation : BudgetReservation} {envelope : TaskEnvelope} {now : UInt64}

theorem live_le (isLive : reservation ∈ books.live) (ofKind : BudgetReservation → Prop)
    [DecidablePred ofKind] (isOfKind : ofKind reservation) (shared : Shared)
    (settled : List (BudgetReservation × CostBreakdown)) :
    books.liveMicros ofKind = reservation.reservedMicros.toNat +
      BudgetBooks.liveMicros ⟨shared, books.live.erase reservation, settled⟩ ofKind := by
  rw [liveMicros_erase isLive shared settled, if_pos isOfKind]

theorem counters_of_found (outstanding : Outstanding kernel forms books)
    (foundAccount : accountAt forms books.shared.repo.knowledge reservation =
      some account)
    (foundWindow : kernel.windowAt forms books.shared.repo.knowledge reservation =
      some window) :
    account.reservedMicros.toNat =
        (books.liveMicros fun other =>
          other.accountKey forms = reservation.accountKey forms) ∧
      account.spentMicros.toNat =
        (books.settledMicros fun other =>
          other.accountKey forms = reservation.accountKey forms) ∧
      window.consumedMicros.toNat =
        (books.liveMicros fun other =>
          other.windowKey forms kernel = reservation.windowKey forms kernel) +
        books.settledMicros fun other =>
          other.windowKey forms kernel = reservation.windowKey forms kernel := by
  have reserved := outstanding.reserved [reservation.tenantId, reservation.accountId]
  have spent := outstanding.spent [reservation.tenantId, reservation.accountId]
  have consumed := outstanding.consumed [reservation.tenantId, reservation.accountId,
    kernel.windowIdFor reservation.startedAtMs]
  unfold accountAt at foundAccount
  unfold windowAt at foundWindow
  rw [foundAccount] at reserved spent
  rw [foundWindow] at consumed
  exact ⟨reserved, spent, consumed⟩

theorem Sound.settled {shared : Shared} {cost : CostBreakdown}
    (sound : Sound kernel forms books) (isLive : reservation ∈ books.live)
    (foundAccount : accountAt forms books.shared.repo.knowledge reservation =
      some account)
    (foundWindow : kernel.windowAt forms books.shared.repo.knowledge reservation =
      some window)
    (wrote : Wrote forms (settledAccount account reservation cost now)
      (settledWindow window reservation cost now) entries
      books.shared.repo.knowledge shared.repo.knowledge)
    (unsaturated : Unsaturated kernel forms
      ⟨shared, books.live.erase reservation, (reservation, cost) :: books.settled⟩) :
    Sound kernel forms
      ⟨shared, books.live.erase reservation, (reservation, cost) :: books.settled⟩ := by
  obtain ⟨reserved, spent, consumed⟩ :=
    counters_of_found sound.outstanding foundAccount foundWindow
  refine ⟨?_, wrote.accountsKept sound.accounts, wrote.windowsKept sound.windows, ?_⟩
  · have spentFits := unsaturated.spent_of reservation
    have consumedFits := unsaturated.consumed_of reservation
    rw [settledMicros_cons, if_pos rfl] at spentFits consumedFits
    have liveHere := live_le isLive
      (fun other => other.accountKey forms = reservation.accountKey forms) rfl shared
      ((reservation, cost) :: books.settled)
    have liveInWindow := live_le isLive
      (fun other => other.windowKey forms kernel = reservation.windowKey forms kernel) rfl
      shared ((reservation, cost) :: books.settled)
    have ownAccount := TypedTable.key_of_read sound.accounts foundAccount
    have ownWindow := TypedTable.key_of_read sound.windows foundWindow
    apply of_wrote reservation sound.outstanding wrote
    · exact ownAccount
    · exact ownWindow
    · intro ofKind _ notOfKind
      rw [liveMicros_erase isLive shared ((reservation, cost) :: books.settled),
        if_neg notOfKind, Nat.zero_add]
    · intro ofKind _ notOfKind
      rw [settledMicros_cons, if_neg notOfKind, Nat.zero_add]
    · rw [settledAccount, toNat_saturatingSub, reserved, liveHere,
        Nat.add_sub_cancel_left]
    · rw [settledMicros_cons, if_pos rfl, settledAccount,
        toNat_saturatingAdd_of_le]
      · rw [spent, Nat.add_comm]
      · rw [spent, Nat.add_comm]
        exact Nat.le_sub_one_of_lt spentFits
    · rw [settledMicros_cons, if_pos rfl, settledWindow,
        toNat_saturatingAdd_of_le]
      · rw [toNat_saturatingSub, consumed, liveInWindow]
        omega
      · rw [toNat_saturatingSub, consumed, liveInWindow]
        change _ + (_ + BudgetBooks.settledMicros _ fun other =>
          other.windowKey forms kernel = reservation.windowKey forms kernel) < _ at consumedFits
        simp only [u64Max]
        omega
  · intro unenforced
    rw [sound.unenforced unenforced] at isLive
    exact absurd isLive not_mem_nil

theorem Sound.rolledBack {shared : Shared} (sound : Sound kernel forms books)
    (isLive : reservation ∈ books.live)
    (foundAccount : accountAt forms books.shared.repo.knowledge reservation =
      some account)
    (foundWindow : kernel.windowAt forms books.shared.repo.knowledge reservation =
      some window)
    (wrote : Wrote forms (rolledBackAccount account reservation now)
      (rolledBackWindow window reservation now) entries
      books.shared.repo.knowledge shared.repo.knowledge) :
    Sound kernel forms ⟨shared, books.live.erase reservation, books.settled⟩ := by
  obtain ⟨reserved, spent, consumed⟩ :=
    counters_of_found sound.outstanding foundAccount foundWindow
  refine ⟨?_, wrote.accountsKept sound.accounts, wrote.windowsKept sound.windows, ?_⟩
  · have liveHere := live_le isLive
      (fun other => other.accountKey forms = reservation.accountKey forms) rfl shared
      books.settled
    have liveInWindow := live_le isLive
      (fun other => other.windowKey forms kernel = reservation.windowKey forms kernel) rfl
      shared books.settled
    have ownAccount := TypedTable.key_of_read sound.accounts foundAccount
    have ownWindow := TypedTable.key_of_read sound.windows foundWindow
    apply of_wrote reservation sound.outstanding wrote
    · exact ownAccount
    · exact ownWindow
    · intro ofKind _ notOfKind
      rw [liveMicros_erase isLive shared books.settled, if_neg notOfKind,
        Nat.zero_add]
    · exact fun _ _ _ => rfl
    · rw [rolledBackAccount, toNat_saturatingSub, reserved, liveHere,
        Nat.add_sub_cancel_left]
    · exact spent
    · rw [rolledBackWindow, toNat_saturatingSub, consumed, liveInWindow,
        Nat.add_assoc, Nat.add_sub_cancel_left]
      rfl
  · intro unenforced
    rw [sound.unenforced unenforced] at isLive
    exact absurd isLive not_mem_nil

end Ended

/-! ### Steps -/

section Runs

variable {store : StateStore} (unmirrored : store.mirror = none) (host : Nat → Moment)
include unmirrored

omit unmirrored in
theorem run_prechargeBudget_of_unenforced (store : StateStore) (forms : JsonForms)
    (unenforced : kernel.budgetEnforced = false)
    (envelope : TaskEnvelope) (estimatedTokens : UInt32) (shared : Shared) :
    (kernel.prechargeBudget store forms envelope estimatedTokens).run shared =
      (.ok none, shared) := by
  unfold prechargeBudget
  rw [unenforced]
  rfl

theorem prechargeBudget_cases (enforced : kernel.budgetEnforced = true)
    {envelope : TaskEnvelope} {estimatedTokens : UInt32} {estimated : UInt64}
    (isEstimate : estimated = estimatePrechargeMicros envelope estimatedTokens)
    (bookable : Bookable kernel forms books (.precharge envelope estimatedTokens)) :
    (∃ later entries blockedCount blockedIn,
      kernel.blocks (kernel.accountOf forms books.shared envelope)
        (kernel.windowOf forms books.shared envelope) estimated = true ∧
      (kernel.prechargeBudget store forms envelope estimatedTokens).run books.shared =
        (.error "budget precharge exceeded", later) ∧
      Wrote forms
        { kernel.accountOf forms books.shared envelope with
          blockedCount, updatedAtMs := books.shared.moment.nowMs }
        { kernel.windowOf forms books.shared envelope with
          blockedCount := blockedIn, updatedAtMs := books.shared.moment.nowMs }
        entries books.shared.repo.knowledge later.repo.knowledge ∧
      ∀ entry ∈ entries, entry.kind = .blocked ∧
        entry.tenantId = envelope.identity.tenantId ∧ entry.accountId = envelope.accountId) ∨
    ∃ later,
      kernel.blocks (kernel.accountOf forms books.shared envelope)
        (kernel.windowOf forms books.shared envelope) estimated = false ∧
      (kernel.prechargeBudget store forms envelope estimatedTokens).run books.shared =
        (.ok (some (reservationOf envelope estimated
          books.shared.moment.nowMs)), later) ∧
      Wrote forms
        (chargedAccount (kernel.accountOf forms books.shared envelope)
          estimated books.shared.moment.nowMs)
        (chargedWindow (kernel.windowOf forms books.shared envelope)
          estimated books.shared.moment.nowMs)
        [prechargeEntry envelope .reserve
          (envelope.ledgerId "reserve" books.shared.moment.nowMs) "precharge" estimated
          estimatedTokens books.shared.moment.nowMs]
        books.shared.repo.knowledge later.repo.knowledge := by
  have ran := kernel.run_prechargeBudget forms unmirrored enforced books.shared envelope
    estimatedTokens
  subst isEstimate
  cases decision : kernel.blocks (kernel.accountOf forms books.shared envelope)
      (kernel.windowOf forms books.shared envelope)
      (estimatePrechargeMicros envelope estimatedTokens) with
  | true =>
    obtain ⟨entries, later, decided, wrote, areBlocked⟩ :=
      run_decide_of_blocked forms kernel unmirrored
        (books.shared.after 3) books.shared.moment.nowMs decision
    refine Or.inl ⟨later, entries, _, _, rfl, ran.trans decided, wrote, ?_⟩
    intro entry membership
    rw [areBlocked entry membership]
    exact ⟨rfl, rfl, rfl⟩
  | false =>
    have free := bookable.unbooked
    simp only [BudgetOp.entries, enforced, decision, Bool.true_eq_false,
      Bool.false_eq_true, or_self, if_false] at free
    obtain ⟨later, -, decided⟩ :=
      run_decide_of_not_blocked forms kernel unmirrored
        (books.shared.after 3) books.shared.moment.nowMs decision rfl rfl
    obtain ⟨answered, wrote⟩ := decided (free _ (mem_cons_self ..))
    exact Or.inr ⟨later, rfl, ran.trans answered, wrote⟩

/-- An operation that books new entries keeps the counters right. -/
theorem sound_step {op : BudgetOp} (sound : Sound kernel forms books)
    (bookable : Bookable kernel forms books op)
    (unsaturated : Unsaturated kernel forms
      ((budgetRuns kernel store forms host).step books op).2) :
    Sound kernel forms ((budgetRuns kernel store forms host).step books op).2 := by
  cases enforced : kernel.budgetEnforced with
  | false =>
    have noneLive := sound.unenforced enforced
    cases op with
    | precharge envelope estimatedTokens =>
      have ran := run_prechargeBudget_of_unenforced store forms enforced
        envelope estimatedTokens books.shared
      simp only [budgetRuns, ran]
      exact sound
    | settle envelope reservation =>
      have isLive := bookable.live reservation rfl
      rw [noneLive] at isLive
      exact absurd isLive not_mem_nil
    | rollback envelope reservation =>
      have isLive := bookable.live reservation rfl
      rw [noneLive] at isLive
      exact absurd isLive not_mem_nil
  | true =>
    cases op with
    | precharge envelope estimatedTokens =>
      rcases prechargeBudget_cases unmirrored enforced rfl bookable with
        ⟨later, entries, blockedCount, blockedIn, -, ran, wrote, -⟩ |
          ⟨later, -, ran, wrote⟩
      · simp only [budgetRuns, ran]
        exact sound.blocked wrote
      · simp only [budgetRuns, ran] at unsaturated ⊢
        exact sound.charged enforced rfl wrote unsaturated
    | settle envelope reservation providerTokens toolInvocations durationMs =>
      rcases kernel.run_settleBudget forms unmirrored enforced books.shared envelope
          reservation providerTokens toolInvocations durationMs rfl bookable.unbooked with
        ⟨account, window, later, foundAccount, foundWindow, ran, wrote⟩ |
          ⟨-, message, accesses, ran⟩
      · simp only [budgetRuns, ran] at unsaturated ⊢
        exact sound.settled (bookable.live reservation rfl) foundAccount foundWindow wrote
          unsaturated
      · simp only [budgetRuns, ran]
        exact sound.of_knowledge rfl
    | rollback envelope reservation reason =>
      rcases kernel.run_rollbackBudget forms unmirrored enforced books.shared envelope
          reservation reason bookable.unbooked with
        ⟨account, window, later, foundAccount, foundWindow, ran, wrote⟩ |
          ⟨-, message, accesses, ran⟩
      · simp only [budgetRuns, ran]
        exact sound.rolledBack (bookable.live reservation rfl) foundAccount foundWindow
          wrote
      · simp only [budgetRuns, ran]
        exact sound.of_knowledge rfl

omit unmirrored in
theorem one_thousand_le_estimate (envelope : TaskEnvelope) (estimatedTokens : UInt32) :
    1000 ≤ (estimatePrechargeMicros envelope estimatedTokens).toNat := by
  have isMax : ∀ estimate : UInt64, 1000 ≤ (max estimate 1000).toNat := by
    intro estimate
    change 1000 ≤ (if estimate ≤ 1000 then (1000 : UInt64) else estimate).toNat
    split
    · exact le_of_eq rfl
    · next above =>
      rw [UInt64.le_iff_toNat_le] at above
      exact Nat.le_of_lt (Nat.lt_of_not_le above)
  exact isMax _

omit unmirrored in
theorem fits_of_not_blocks {estimated : UInt64} (enforcing : kernel.gateMode ≠ .shadow)
    (positive : 0 < estimated.toNat) (allowed : kernel.blocks account window estimated = false) :
    (saturatingAdd account.reservedMicros estimated).toNat + account.spentMicros.toNat ≤
        account.totalBudgetMicros.toNat ∧
      (saturatingAdd window.consumedMicros estimated).toNat ≤
        window.windowBudgetMicros.toNat := by
  have notBlocked := of_decide_eq_false allowed
  rw [not_and, not_or] at notBlocked
  obtain ⟨accountFits, windowFits⟩ := notBlocked enforcing
  rw [UInt64.lt_iff_toNat_lt, toNat_saturatingSub, not_lt] at accountFits windowFits
  rw [toNat_saturatingAdd] at accountFits
  have totalBound := account.totalBudgetMicros.toNat_lt
  have windowBound := window.windowBudgetMicros.toNat_lt
  rw [toNat_saturatingAdd, toNat_saturatingAdd]
  simp only [u64Max] at accountFits ⊢
  omega

def WithinBudget (kernel : RuntimeKernel) (forms : JsonForms) (knowledge : Knowledge)
    (reservation : BudgetReservation) : Prop :=
  ∃ account window, accountAt forms knowledge reservation = some account ∧
    kernel.windowAt forms knowledge reservation = some window ∧
    account.reservedMicros.toNat + account.spentMicros.toNat ≤
      account.totalBudgetMicros.toNat ∧
    window.consumedMicros.toNat ≤ window.windowBudgetMicros.toNat

theorem withinBudget_of_precharged {op : BudgetOp} {reservation : BudgetReservation}
    (sound : Sound kernel forms books) (bookable : Bookable kernel forms books op)
    (precharged : ((budgetRuns kernel store forms host).step books op).1 =
      .precharged (some reservation)) (enforcing : kernel.gateMode ≠ .shadow) :
    WithinBudget kernel forms
      ((budgetRuns kernel store forms host).step books op).2.shared.repo.knowledge
      reservation := by
  cases op with
  | precharge envelope estimatedTokens =>
    cases enforced : kernel.budgetEnforced with
    | false =>
      have ran := run_prechargeBudget_of_unenforced store forms enforced
        envelope estimatedTokens books.shared
      simp only [budgetRuns, ran] at precharged
      cases precharged
    | true =>
      rcases prechargeBudget_cases unmirrored enforced rfl bookable with
        ⟨later, entries, blockedCount, blockedIn, -, ran, wrote, -⟩ |
          ⟨later, allowed, ran, wrote⟩
      · simp only [budgetRuns, ran] at precharged
        cases precharged
      · simp only [budgetRuns, ran] at precharged ⊢
        cases precharged
        obtain ⟨accountFits, windowFits⟩ := fits_of_not_blocks enforcing
          (Nat.lt_of_lt_of_le (by decide) (one_thousand_le_estimate _ _)) allowed
        obtain ⟨account, window⟩ := rows_of_charged sound wrote rfl
        exact ⟨_, _, account, window, accountFits, windowFits⟩
  | settle envelope ended providerTokens toolInvocations durationMs =>
    exfalso
    revert precharged
    simp only [budgetRuns]
    split <;> exact BudgetAnswer.noConfusion
  | rollback envelope ended reason =>
    exfalso
    revert precharged
    simp only [budgetRuns]
    split <;> exact BudgetAnswer.noConfusion

def Unopened (knowledge : Knowledge) : Prop :=
  ∀ key, Text.startsWith key "billing:budget-account:" = true ∨
      Text.startsWith key "billing:quota-window:" = true → knowledge.get key = none

omit unmirrored in
theorem sound_of_unopened {shared : Shared} (unopened : Unopened shared.repo.knowledge) :
    Sound kernel forms ⟨shared, [], []⟩ := by
  have noAccount : ∀ columns, (budgetAccounts forms.budgetAccount).read
      shared.repo.knowledge columns = none := by
    intro columns
    have absent := unopened ((budgetAccounts forms.budgetAccount).key columns)
      (Or.inl (Text.startsWith_iff_exists.mpr ⟨_, rfl⟩))
    unfold TypedTable.read
    rw [absent]
    rfl
  have noWindow : ∀ columns, (quotaWindows forms.quotaWindow).read
      shared.repo.knowledge columns = none := by
    intro columns
    have absent := unopened ((quotaWindows forms.quotaWindow).key columns)
      (Or.inr (Text.startsWith_iff_exists.mpr ⟨_, rfl⟩))
    unfold TypedTable.read
    rw [absent]
    rfl
  constructor
  · constructor
    · intro columns
      rw [noAccount]
      rfl
    · intro columns
      rw [noAccount]
      rfl
    · intro columns
      rw [noWindow]
      rfl
  · intro key record found starts
    rw [unopened key (Or.inl starts)] at found
    cases found
  · intro key record found starts
    rw [unopened key (Or.inr starts)] at found
    cases found
  · exact fun _ => rfl

/-- A precharge that is not blocked and finds its ledger entry in place is refused,
and stays reserved all the same. -/
theorem not_outstanding_of_booked (enforced : kernel.budgetEnforced = true)
    (estimatedTokens : UInt32) {envelope : TaskEnvelope} {estimated : UInt64}
    (isEstimate : estimated = estimatePrechargeMicros envelope estimatedTokens)
    (sound : Sound kernel forms books)
    (allowed : kernel.blocks (kernel.accountOf forms books.shared envelope)
      (kernel.windowOf forms books.shared envelope) estimated = false)
    (booked : (spendLedgers forms.spendLedger).Taken books.shared.repo.knowledge
      [envelope.identity.tenantId, envelope.accountId,
        envelope.ledgerId "reserve" books.shared.moment.nowMs])
    (fits : (kernel.accountOf forms books.shared envelope).reservedMicros.toNat +
      estimated.toNat ≤ u64Max) :
    ∃ later,
      (budgetRuns kernel store forms host).step books
          (.precharge envelope estimatedTokens) =
        (.refused ("spend ledger " ++
            envelope.ledgerId "reserve" books.shared.moment.nowMs ++ " already exists"),
          { books with shared := later }) ∧
      ¬Outstanding kernel forms { books with shared := later } := by
  have ran := kernel.run_prechargeBudget forms unmirrored enforced books.shared envelope
    estimatedTokens
  rw [isEstimate] at allowed
  obtain ⟨later, decided, -⟩ :=
    run_decide_of_not_blocked forms kernel unmirrored (books.shared.after 3)
      books.shared.moment.nowMs allowed isEstimate rfl
  obtain ⟨refused, wrote⟩ := decided booked
  rw [refused] at ran
  refine ⟨later, ?_, ?_⟩
  · simp only [budgetRuns, ran]
    rfl
  · intro outstanding
    have counted := outstanding.reserved [envelope.identity.tenantId, envelope.accountId]
    have ownAccount := accountKey_accountOf kernel envelope sound.accounts
    have account := wrote.account [envelope.identity.tenantId, envelope.accountId]
    rw [← ownAccount] at account
    have written := account.trans (if_pos rfl)
    simp only [written, Option.map_some, Option.getD_some, chargedAccount,
      toNat_saturatingAdd_of_le fits] at counted
    have before := (counters_of_opened kernel envelope sound.outstanding estimated
      rfl).1
    have positive := one_thousand_le_estimate envelope estimatedTokens
    rw [← isEstimate] at positive
    have same : (kernel.accountOf forms books.shared envelope).reservedMicros.toNat +
        estimated.toNat = (kernel.accountOf forms books.shared envelope).reservedMicros.toNat :=
      counted.trans before.symm
    omega

end Runs

end Steps

/-! ## One task twice in a millisecond -/

section Example

def hourly : RuntimeKernel where
  gateMode := .full
  budgetEnforced := true
  defaultBudgetMicros := 1000000
  quotaWindowMs := 3600000
  quotaWindowBudgetMicros := 1000000
  validated := by decide

def shellTask : TaskEnvelope where
  sessionId := "s"
  traceId := "t"
  taskId := "k"
  capabilityId := "tool:shell"
  identity := ⟨"acme", "ann", "p", "lease"⟩
  constraints := ⟨50, 256, 1000, 0, 1000, [], [], "default", false⟩

/-- A clock that stands still. -/
def still : Nat → Moment := fun _ => ⟨7, none, none, none, .completed⟩

def unmirroredStore : StateStore := ⟨none, fun _ => 0⟩

def shellReservation : BudgetReservation :=
  reservationOf shellTask (estimatePrechargeMicros shellTask 0) 7

theorem first_precharge (forms : JsonForms) : ∃ later,
    (budgetRuns hourly unmirroredStore forms still).step ⟨started still, [], []⟩
        (.precharge shellTask 0) =
      (.precharged (some shellReservation), ⟨later, [shellReservation], []⟩) ∧
    Wrote forms
      (chargedAccount (hourly.newAccount shellTask 7)
        (estimatePrechargeMicros shellTask 0) 7)
      (chargedWindow (hourly.newWindow shellTask 7)
        (estimatePrechargeMicros shellTask 0) 7)
      [prechargeEntry shellTask .reserve (shellTask.ledgerId "reserve" 7)
        "precharge" (estimatePrechargeMicros shellTask 0) 0 7]
      Knowledge.empty later.repo.knowledge ∧
    later.moment.nowMs = 7 := by
  have bookable : Bookable hourly forms ⟨started still, [], []⟩
      (.precharge shellTask 0) := ⟨nofun, fun _ _ => nofun⟩
  have unmirrored : unmirroredStore.mirror = none := rfl
  have allowed : hourly.blocks (hourly.newAccount shellTask 7) (hourly.newWindow shellTask 7)
      (estimatePrechargeMicros shellTask 0) = false := by decide
  rcases prechargeBudget_cases unmirrored rfl rfl bookable with
    ⟨later, entries, blockedCount, blockedIn, blocked, -⟩ | ⟨later, -, ran, wrote⟩
  · exact absurd (allowed.symm.trans blocked) Bool.false_ne_true
  · refine ⟨later, ?_, wrote, ?_⟩
    · simp only [budgetRuns, ran]
      rfl
    · have sameHost := (sameHost_prechargeBudget forms hourly unmirrored
        shellTask 0).of_run ran
      unfold moment
      rw [sameHost]
      rfl

theorem unbooked_after_first {forms : JsonForms} {account : BudgetAccount}
    {window : QuotaWindow} {later : Shared}
    (wrote : Wrote forms account window
      [prechargeEntry shellTask .reserve (shellTask.ledgerId "reserve" 7)
        "precharge" (estimatePrechargeMicros shellTask 0) 0 7]
      Knowledge.empty later.repo.knowledge)
    (isNow : later.moment.nowMs = 7) (cost : CostBreakdown) :
    Unbooked forms later.repo.knowledge
      (settleEntries shellTask shellReservation cost later.moment.nowMs) := by
  have bookedAlone : ∀ kind, kind ≠ "reserve" →
      ¬(spendLedgers forms.spendLedger).Taken later.repo.knowledge
        ["acme", shellTask.accountId, shellTask.ledgerId kind 7] := by
    intro kind different taken
    rcases (wrote.taken _).mp taken with before | ⟨entry, membership, same⟩
    · cases before
    · rw [mem_singleton.mp membership] at same
      exact ledgerKey_ne _ different _ _ _ _ same
  rw [isNow]
  unfold settleEntries
  simp only
  split
  · intro entry membership
    rcases mem_pair.mp membership with rfl | rfl
    · exact bookedAlone "refund" (by decide)
    · exact bookedAlone "settle" (by decide)
  · intro entry membership
    rw [mem_singleton.mp membership]
    exact bookedAlone "settle" (by decide)

theorem unsaturated_of_one (reservation : BudgetReservation) (cost : CostBreakdown)
    {kernel : RuntimeKernel} {forms : JsonForms} {shared : Shared} :
    Unsaturated kernel forms ⟨shared, [], []⟩ ∧
      Unsaturated kernel forms ⟨shared, [reservation], []⟩ ∧
      Unsaturated kernel forms ⟨shared, [], [(reservation, cost)]⟩ := by
  have reserved := reservation.reservedMicros.toNat_lt
  have spent := cost.totalCostMicros.toNat_lt
  have live : ∀ (ofKind : BudgetReservation → Prop) [DecidablePred ofKind],
      BudgetBooks.liveMicros ⟨shared, [reservation], []⟩ ofKind ≤
        reservation.reservedMicros.toNat := by
    intro ofKind _
    by_cases isOfKind : ofKind reservation
    · simp [BudgetBooks.liveMicros, isOfKind]
    · simp [BudgetBooks.liveMicros, isOfKind]
  have settled : ∀ (ofKind : BudgetReservation → Prop) [DecidablePred ofKind],
      BudgetBooks.settledMicros ⟨shared, [], [(reservation, cost)]⟩ ofKind ≤
        cost.totalCostMicros.toNat := by
    intro ofKind _
    by_cases isOfKind : ofKind reservation
    · simp [BudgetBooks.settledMicros, isOfKind]
    · simp [BudgetBooks.settledMicros, isOfKind]
  refine ⟨⟨?_, ?_, ?_⟩, ⟨?_, ?_, ?_⟩, ⟨?_, ?_, ?_⟩⟩
  · exact fun _ => by simp [BudgetBooks.liveMicros]
  · exact fun _ => by simp [BudgetBooks.settledMicros]
  · exact fun _ => by simp [BudgetBooks.liveMicros, BudgetBooks.settledMicros]
  · exact fun _ => (live _).trans_lt reserved
  · exact fun _ => by simp [BudgetBooks.settledMicros]
  · exact fun _ => (Nat.add_le_add (live _) (Nat.le_refl _)).trans_lt reserved
  · exact fun _ => by simp [BudgetBooks.liveMicros]
  · exact fun _ => (settled _).trans_lt spent
  · exact fun _ => by
      rw [BudgetBooks.liveMicros]
      exact ((Nat.zero_add _).le.trans (settled _)).trans_lt spent

theorem unopened_empty : Unopened Knowledge.empty := fun _ _ => rfl

end Example

end AutoLoop.Runtime
