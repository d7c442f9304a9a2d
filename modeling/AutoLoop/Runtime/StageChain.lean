import AutoLoop.Runtime.LedgerSessions

/-!
# The chain of one stream

Appends that run one after another give a chain that verifies as long as each new
key sorts behind the keys that the stream already has in the same millisecond.  The
sequence number stands in the key as a decimal text, so that its order is not the
order of the appends.
-/

namespace AutoLoop.Runtime

open StateAdapter
open LinkedChain (Linked linked_snoc links)
open EvidenceLedgerWriter Shared

variable {Payload : Type}

/-! ## What is promised -/

section
variable (ledger : EvidenceLedgerWriter Payload) (place : Place)

/-- A new record of the stream follows the one before it and is stored, and a
verification of the stream succeeds. -/
def Chained (sessionId traceId : String)
    (session : LedgerSession Payload) :
    LedgerOp Payload → LedgerAnswer Payload × LedgerSession Payload → Prop
  | .append call, (.appended (.ok written), later) =>
    call.sessionId = sessionId → call.traceId = traceId →
      written.2.prevHash = headHash (session.appendedTo sessionId traceId) ∧
        (later.shared.row written.1 place).map (·.value) = some (ledger.encode written.2)
  | .verify otherSession otherTrace, (.verified answer, _) =>
    otherSession = sessionId → otherTrace = traceId → answer = .ok ()
  | _, _ => True

/-! ## When it holds -/

/-- The key of an append sorts behind those of the same millisecond. -/
def KeyLast (call : StageCall Payload)
    (shared : Shared) : Prop :=
  ∀ entry ∈ ledger.entries shared place call.start,
    entry.2.createdAtMs = shared.moment.nowMs → entry.1 < call.key shared

/-- An append to the stream is seen by its readers and its key is the last one of the
millisecond; an append to another stream is not seen; a verification of the stream is
answered. -/
def InOrder (sessionId traceId : String)
    (session : LedgerSession Payload) : LedgerOp Payload → Prop
  | .append call =>
    if call.sessionId = sessionId ∧ call.traceId = traceId then
      Aligned ledger place call session.shared ∧ ReadsBack ledger call.payload ∧
        place.sees call.start (call.key session.shared) = true ∧
        KeyLast ledger place call session.shared
    else place.sees (streamPrefix sessionId traceId) (call.key session.shared) = false
  | .verify otherSession otherTrace => otherSession = sessionId → otherTrace = traceId →
      ledger.store.listing (streamPrefix sessionId traceId) session.shared = some place

end

/-! ## The invariant -/

/-- What is read of the stream is what was appended to it, and it verifies. -/
structure ChainHolds (ledger : EvidenceLedgerWriter Payload) (place : Place)
    (sessionId traceId : String) (session : LedgerSession Payload) : Prop where
  atomic : session.shared.Atomic
  clock : Monotone fun tick => (session.shared.host tick).nowMs.toNat
  complete : ledger.records session.shared place (streamPrefix sessionId traceId) =
    session.appendedTo sessionId traceId
  verified : ledger.Verified (session.appendedTo sessionId traceId)
  past : ∀ record ∈ session.appendedTo sessionId traceId,
    record.createdAtMs.toNat ≤ session.shared.moment.nowMs.toNat

namespace ChainHolds

variable {ledger : EvidenceLedgerWriter Payload} {place : Place} {sessionId traceId : String}
variable {session later : LedgerSession Payload}

section
variable (holds : ChainHolds ledger place sessionId traceId session)
include holds

theorem of_same (host : later.shared.host = session.shared.host)
    (elapsed : session.shared.tick ≤ later.shared.tick)
    (sameRecords : ledger.records later.shared place (streamPrefix sessionId traceId) =
      ledger.records session.shared place (streamPrefix sessionId traceId))
    (sameAppended : later.appendedTo sessionId traceId = session.appendedTo sessionId traceId) :
    ChainHolds ledger place sessionId traceId later where
  atomic := by
    rw [Atomic, host]
    exact holds.atomic
  clock := by
    rw [host]
    exact holds.clock
  complete := by rw [sameRecords, sameAppended, holds.complete]
  verified := by
    rw [sameAppended]
    exact holds.verified
  past := by
    intro record membership
    rw [sameAppended] at membership
    apply (holds.past record membership).trans
    rw [moment, moment, host]
    exact holds.clock elapsed

variable {call : StageCall Payload} {shared : Shared}

theorem verified_snoc (isStart : call.start = streamPrefix sessionId traceId) :
    ledger.Verified (session.appendedTo sessionId traceId ++
      [ledger.nextRecord call session.shared place]) := by
  obtain ⟨linked, sealed⟩ := holds.verified
  constructor
  · apply linked_snoc.mpr
    refine ⟨linked, ?_⟩
    rw [getLast?_links, ← holds.complete, ← isStart]
    rfl
  · intro record membership
    rcases List.mem_append.mp membership with earlier | isLast
    · exact sealed record earlier
    · rw [List.mem_singleton.mp isLast]
      rfl

theorem readBefore (isStart : call.start = streamPrefix sessionId traceId)
    (last : KeyLast ledger place call session.shared) :
    ∀ entry ∈ ledger.entries session.shared place (streamPrefix sessionId traceId),
      ReadBefore entry (call.key session.shared, ledger.nextRecord call session.shared place) := by
  intro entry membership
  have appended : entry.2 ∈ session.appendedTo sessionId traceId := by
    rw [← holds.complete]
    exact List.mem_map_of_mem membership
  rcases (holds.past entry.2 appended).lt_or_eq with earlier | sameTime
  · exact Or.inl earlier
  · rw [← isStart] at membership
    exact Or.inr ⟨sameTime, last entry membership (UInt64.toNat_inj.mp sameTime)⟩

theorem append_own (own : call.sessionId = sessionId ∧ call.traceId = traceId)
    (readsBack : ReadsBack ledger call.payload)
    (fresh : session.shared.row (call.key session.shared) place = none)
    (seen : place.sees call.start (call.key session.shared) = true)
    (last : KeyLast ledger place call session.shared)
    {written : String × StageEvidenceRecord Payload} {after : Shared}
    (appends : ledger.Appends call session.shared place place written after) :
    ChainHolds ledger place sessionId traceId (session.afterAppend (.ok written, after)) := by
  have isStart : call.start = streamPrefix sessionId traceId := by
    rw [StageCall.start, own.1, own.2]
  have isWritten : written = (call.key session.shared, ledger.nextRecord call session.shared place) :=
    Prod.ext appends.isKey appends.isRecord
  have isOwn : written.2.sessionId = sessionId ∧ written.2.traceId = traceId := by
    rw [appends.isRecord]
    exact own
  have grown := session.appendedTo_of_own isOwn after
  have complete : ledger.entries after place (streamPrefix sessionId traceId) =
      ledger.entries session.shared place (streamPrefix sessionId traceId) ++ [written] := by
    apply appends.entries_append
    · rw [appends.isKey]
      exact fresh
    · rw [appends.isKey, ← isStart]
      exact seen
    · rw [appends.isRecord]
      exact readsBack _ rfl
    · rw [isWritten]
      exact holds.readBefore isStart last
  constructor
  · exact appends.changes.atomic holds.atomic
  · rw [LedgerSession.afterAppend, appends.changes.host]
    exact holds.clock
  · rw [grown, ← holds.complete, records, records, LedgerSession.afterAppend, complete]
    exact List.map_append
  · rw [grown, appends.isRecord]
    exact holds.verified_snoc isStart
  · intro record membership
    have later : session.shared.moment.nowMs.toNat ≤ after.moment.nowMs.toNat := by
      rw [moment, moment, appends.changes.host]
      exact holds.clock appends.changes.elapsed
    apply le_trans _ later
    rw [grown] at membership
    rcases List.mem_append.mp membership with earlier | isLast
    · exact holds.past record earlier
    · rw [List.mem_singleton.mp isLast, appends.isRecord]
      exact le_rfl

theorem append {call : StageCall Payload}
    (inOrder : InOrder ledger place sessionId traceId session (.append call)) :
    Chained ledger place sessionId traceId session (.append call)
        ((ledger.sessions shared).step session (.append call)) ∧
      ChainHolds ledger place sessionId traceId
        ((ledger.sessions shared).step session (.append call)).2 := by
  obtain ⟨answer, after, ran, outcome⟩ := run_append ledger holds.atomic call
  simp only [sessions, ran]
  cases outcome with
  | failed changes _ =>
    refine ⟨trivial, holds.of_same changes.host changes.elapsed ?_ rfl⟩
    exact congrArg (List.map Prod.snd) (entries_of_unprotected changes)
  | @appended source target written _ appends =>
    have host := appends.changes.host
    have elapsed := appends.changes.elapsed
    by_cases own : call.sessionId = sessionId ∧ call.traceId = traceId
    · rw [InOrder, if_pos own] at inOrder
      obtain ⟨aligned, readsBack, seen, last⟩ := inOrder
      have isSource := aligned.reads source appends.answered
      subst isSource
      obtain ⟨isTarget, fresh⟩ := aligned.writes target appends.landed
      subst isTarget
      refine ⟨fun _ _ => ⟨?_, appends.stored⟩,
        holds.append_own own readsBack fresh seen last appends⟩
      rw [appends.isRecord, ← holds.complete, ← own.1, ← own.2]
      rfl
    · rw [InOrder, if_neg own, ← appends.isKey] at inOrder
      refine ⟨fun isSession isTrace => absurd ⟨isSession, isTrace⟩ own, ?_⟩
      apply holds.of_same host elapsed
      · apply congrArg (List.map Prod.snd)
        apply appends.entries_of_unseen
        intro seen
        rw [inOrder] at seen
        cases seen
      · apply LedgerSession.appendedTo_of_foreign
        rw [appends.isRecord]
        exact own

/-- A verification changes nothing, and succeeds when it is answered. -/
theorem verify {otherSession otherTrace : String}
    (inOrder : InOrder ledger place sessionId traceId session (.verify otherSession otherTrace)) :
    Chained ledger place sessionId traceId session (.verify otherSession otherTrace)
        ((ledger.sessions shared).step session (.verify otherSession otherTrace)) ∧
      ChainHolds ledger place sessionId traceId
        ((ledger.sessions shared).step session (.verify otherSession otherTrace)).2 := by
  obtain ⟨answer, ran, verifies⟩ := run_verifyStageChain ledger otherSession otherTrace
    session.shared
  simp only [sessions, ran]
  constructor
  · rintro rfl rfl
    rw [verifies]
    refine ⟨place, inOrder rfl rfl, ?_⟩
    rw [holds.complete]
    exact holds.verified
  · apply holds.of_same
    · rfl
    · exact Nat.le_add_right _ _
    · rw [records_after]
    · rfl

theorem step {op : LedgerOp Payload} (inOrder : InOrder ledger place sessionId traceId session op) :
    Chained ledger place sessionId traceId session op ((ledger.sessions shared).step session op) ∧
      ChainHolds ledger place sessionId traceId ((ledger.sessions shared).step session op).2 := by
  cases op with
  | append call => exact holds.append inOrder
  | verify otherSession otherTrace => exact holds.verify inOrder

end

end ChainHolds

theorem chainHolds_start (ledger : EvidenceLedgerWriter Payload) {place : Place}
    {sessionId traceId : String} {shared : Shared} (atomic : shared.Atomic)
    (clock : Monotone fun tick => (shared.host tick).nowMs.toNat)
    (fresh : ∀ key, place.sees (streamPrefix sessionId traceId) key = true →
      shared.row key place = none) :
    ChainHolds ledger place sessionId traceId ⟨shared, []⟩ where
  atomic := atomic
  clock := clock
  complete := by
    rw [records, entries_eq_nil fresh]
    rfl
  verified := ⟨trivial, nofun⟩
  past := nofun

/-- Appends that run one after another on a clock that does not go back chain their
records, and every verification of the stream succeeds, as long as each step is in
order. -/
theorem sequential_appends_verify (ledger : EvidenceLedgerWriter Payload) (place : Place)
    (sessionId traceId : String) (shared : Shared) (atomic : shared.Atomic)
    (clock : Monotone fun tick => (shared.host tick).nowMs.toNat)
    (fresh : ∀ key, place.sees (streamPrefix sessionId traceId) key = true →
      shared.row key place = none)
    (ops : List (LedgerOp Payload))
    (inOrder : (ledger.sessions shared).EachStep
      (fun session op => InOrder ledger place sessionId traceId session op) ⟨shared, []⟩ ops) :
    (ledger.sessions shared).EachStep
      (fun session op => Chained ledger place sessionId traceId session op
        ((ledger.sessions shared).step session op)) ⟨shared, []⟩ ops := by
  apply inOrder.of_invariant (chainHolds_start ledger atomic clock fresh)
  intro session op holds inOrder
  exact holds.step inOrder

/-! ## Two appends in one millisecond -/

def firstStage : StageCall String := ⟨"s", "t", .admission, "", none⟩

theorem entries_of_first {shared : Shared} {written : String × StageEvidenceRecord String}
    (appends : numberedLedger.Appends firstStage shared .repository .repository written
      ((numberedLedger.append firstStage).run shared).2)
    (seen : Place.repository.sees firstStage.start (firstStage.key shared) = true)
    (fresh : ∀ key, shared.row key .repository = none) :
    numberedLedger.entries ((numberedLedger.append firstStage).run shared).2 .repository
      firstStage.start = [written] := by
  rw [← appends.isKey] at seen
  have readsBack : numberedLedger.decode (numberedLedger.encode written.2) = some written.2 :=
    ofNumberText_numberText _
  have grown := appends.entries_append (fresh _) seen readsBack (by
    rw [entries_eq_nil fun key _ => fresh key]
    exact nofun)
  rw [entries_eq_nil fun key _ => fresh key] at grown
  exact grown

theorem sequential_appends_verify_twice :
    (numberedLedger.sessions .empty).EachStep
      (fun session op => Chained numberedLedger .repository "s" "t" session op
        ((numberedLedger.sessions .empty).step session op)) ⟨.empty, []⟩
      [.append firstStage, .append firstStage, .verify "s" "t"] := by
  apply sequential_appends_verify numberedLedger .repository "s" "t" .empty atomic_empty
  · exact monotone_const
  · intro key _
    rfl
  · refine ⟨?_, ?_, ?_, trivial⟩
    · refine ⟨aligned_of_unmirrored rfl _ _, readsBack_numberedLedger _, by decide +kernel, ?_⟩
      intro entry membership
      rw [entries_eq_nil fun key _ => rfl] at membership
      cases membership
    · refine ⟨aligned_of_unmirrored rfl _ _, readsBack_numberedLedger _, by decide +kernel, ?_⟩
      intro entry membership _
      have unmirrored : numberedLedger.store.mirror = none := rfl
      have isOk : ((numberedLedger.append firstStage).run .empty).1.isOk = true := by
        decide +kernel
      obtain ⟨written, -, appends, -⟩ :=
        appends_of_unmirrored unmirrored atomic_empty isOk
      have listed : entry ∈ numberedLedger.entries
        ((numberedLedger.append firstStage).run .empty).2 .repository firstStage.start := membership
      rw [entries_of_first appends (by decide +kernel) fun _ => rfl] at listed
      rw [List.mem_singleton.mp listed, appends.isKey]
      decide +kernel
    · intro _ _
      rfl

/-- An empty store whose ninth sequence number is next. -/
def ninth : Shared := { empty with evidenceSeq := 9 }

def afterNinth : Shared := ((numberedLedger.append firstStage).run ninth).2

def afterTenth : Shared := ((numberedLedger.append firstStage).run afterNinth).2

theorem entries_afterTenth : ∃ first second,
    numberedLedger.entries afterTenth .repository (streamPrefix "s" "t") = [second, first] ∧
      second.2.prevHash = first.2.recordHash ∧ first.2.recordHash ≠ "genesis" := by
  have unmirrored : numberedLedger.store.mirror = none := rfl
  have atomic : ninth.Atomic := atomic_empty
  have atomicAfter : afterNinth.Atomic := atomic_append numberedLedger atomic firstStage
  obtain ⟨first, -, appendsFirst, -⟩ := appends_of_unmirrored unmirrored atomic
    (by decide +kernel : ((numberedLedger.append firstStage).run ninth).1.isOk = true)
  obtain ⟨second, -, appendsSecond, fresh⟩ := appends_of_unmirrored unmirrored atomicAfter
    (by decide +kernel : ((numberedLedger.append firstStage).run afterNinth).1.isOk = true)
  have listed :
      numberedLedger.entries afterNinth .repository (streamPrefix "s" "t") = [first] :=
    entries_of_first appendsFirst (by decide +kernel) fun _ => rfl
  have sameTime : afterNinth.moment.nowMs = ninth.moment.nowMs := by decide +kernel
  have keyBefore : firstStage.key afterNinth < firstStage.key ninth := by decide +kernel
  have seen : Place.repository.sees firstStage.start (firstStage.key afterNinth) = true := by
    decide +kernel
  refine ⟨first, second, ?_, ?_, ?_⟩
  · apply eq_entries
    · refine List.pairwise_pair.mpr (Or.inr ⟨?_, ?_⟩)
      · rw [entryTime, entryTime, appendsFirst.isRecord, appendsSecond.isRecord]
        exact congrArg UInt64.toNat sameTime
      · rw [appendsFirst.isKey, appendsSecond.isKey]
        exact keyBefore
    · have grown : (numberedLedger.entries afterTenth .repository (streamPrefix "s" "t")).Perm
          (second :: numberedLedger.entries afterNinth .repository (streamPrefix "s" "t")) :=
        appendsSecond.entries_perm fresh (appendsSecond.isKey ▸ seen) (ofNumberText_numberText _)
      rw [listed] at grown
      exact grown.symm
  · have isRead :
        numberedLedger.records afterNinth .repository (streamPrefix "s" "t") = [first.2] :=
      congrArg (List.map Prod.snd) listed
    rw [appendsSecond.isRecord]
    exact congrArg headHash isRead
  · rw [appendsFirst.isRecord]
    exact numberedLedger_hashValue_ne _

theorem afterTenth_not_verified :
    ((numberedLedger.verifyStageChain "s" "t").run afterTenth).1 ≠ .ok () := by
  intro succeeds
  obtain ⟨answer, ran, verifies⟩ := run_verifyStageChain numberedLedger "s" "t" afterTenth
  rw [ran] at succeeds
  obtain ⟨place, answered, linked, -⟩ := verifies.mp succeeds
  have isPlace : place = .repository := (Option.some.inj answered).symm
  obtain ⟨first, second, listed, isHead, notGenesis⟩ := entries_afterTenth
  rw [isPlace, records, listed] at linked
  exact notGenesis (isHead.symm.trans linked.1)

/-- The tenth append of a millisecond sorts before the ninth one, and the chain is
broken. -/
theorem tenth_append_breaks_chain :
    ¬∀ (ledger : EvidenceLedgerWriter String) (place : Place) (sessionId traceId : String)
        (shared : Shared), ledger.store.mirror = none → (∀ payload, ReadsBack ledger payload) →
      shared.Atomic → (Monotone fun tick => (shared.host tick).nowMs.toNat) →
      (∀ key, place.sees (streamPrefix sessionId traceId) key = true →
        shared.row key place = none) →
      ∀ ops : List (LedgerOp String), (ledger.sessions shared).EachStep
          (fun session op => Chained ledger place sessionId traceId session op
            ((ledger.sessions shared).step session op)) ⟨shared, []⟩ ops := by
  intro always
  obtain ⟨-, -, verified, -⟩ := always numberedLedger .repository "s" "t" ninth rfl
    readsBack_numberedLedger atomic_empty monotone_const (fun _ _ => rfl)
    [.append firstStage, .append firstStage, .verify "s" "t"]
  exact afterTenth_not_verified (verified rfl rfl)

end AutoLoop.Runtime
