import AutoLoop.Foundation.Numbering
import AutoLoop.Runtime.StageAppends

/-!
# Sessions of one ledger

Appends to any streams and verifications of any streams, one after another, beside
the records of the appends that have succeeded.
-/

namespace AutoLoop.Runtime

open StateAdapter
open StateStore (isEvidence)
open StateStore EvidenceLedgerWriter

inductive LedgerOp (Payload : Type) where
  | append (call : StageCall Payload)
  | verify (sessionId traceId : String)

inductive LedgerAnswer (Payload : Type) where
  | appended (answer : Except String (String × StageEvidenceRecord Payload))
  | verified (answer : Except String Unit)

structure LedgerSession (Payload : Type) where
  shared : Shared
  appended : List (StageEvidenceRecord Payload)

section
variable {Payload : Type} (session : LedgerSession Payload)

/-- The successful appends to one stream. -/
def LedgerSession.appendedTo (sessionId traceId : String) : List (StageEvidenceRecord Payload) :=
  session.appended.filter fun record => record.sessionId = sessionId ∧ record.traceId = traceId

def LedgerSession.afterAppend
    (ran : Except String (String × StageEvidenceRecord Payload) × Shared) :
    LedgerSession Payload where
  shared := ran.2
  appended :=
    match ran.1 with
    | .ok written => session.appended ++ [written.2]
    | .error _ => session.appended

end

namespace LedgerSession

variable {Payload : Type} {sessionId traceId : String}
variable {written : String × StageEvidenceRecord Payload}

theorem appendedTo_of_own (session : LedgerSession Payload)
    (own : written.2.sessionId = sessionId ∧ written.2.traceId = traceId) (after : Shared) :
    (session.afterAppend (.ok written, after)).appendedTo sessionId traceId =
      session.appendedTo sessionId traceId ++ [written.2] := by
  have listed : [written.2].filter
      (fun record => record.sessionId = sessionId ∧ record.traceId = traceId) = [written.2] := by
    rw [List.filter_eq_self]
    intro record membership
    rw [List.mem_singleton.mp membership]
    exact decide_eq_true own
  rw [appendedTo, afterAppend, List.filter_append, listed]
  rfl

theorem appendedTo_of_foreign (session : LedgerSession Payload)
    (foreign : ¬(written.2.sessionId = sessionId ∧ written.2.traceId = traceId)) (after : Shared) :
    (session.afterAppend (.ok written, after)).appendedTo sessionId traceId =
      session.appendedTo sessionId traceId := by
  have unlisted : [written.2].filter
      (fun record => record.sessionId = sessionId ∧ record.traceId = traceId) = [] := by
    rw [List.filter_eq_nil_iff]
    intro record membership isOwn
    rw [List.mem_singleton.mp membership] at isOwn
    exact foreign (of_decide_eq_true isOwn)
  rw [appendedTo, afterAppend, List.filter_append, unlisted, List.append_nil]
  rfl

end LedgerSession

namespace EvidenceLedgerWriter

variable {Payload : Type} (ledger : EvidenceLedgerWriter Payload)

/-- A ledger as a component whose operations run one after another. -/
def sessions (shared : Shared) :
    Component (LedgerSession Payload) (LedgerOp Payload) (LedgerAnswer Payload) where
  initial := ⟨shared, []⟩
  step := fun session op =>
    match op with
    | .append call =>
      let ran := (ledger.append call).run session.shared
      (.appended ran.1, session.afterAppend ran)
    | .verify sessionId traceId =>
      let ran := (ledger.verifyStageChain sessionId traceId).run session.shared
      (.verified ran.1, { session with shared := ran.2 })

theorem atomic_step (initial : Shared) (session : LedgerSession Payload) (op : LedgerOp Payload)
    (atomic : session.shared.Atomic) :
    ((ledger.sessions initial).step session op).2.shared.Atomic := by
  cases op with
  | append call => exact atomic_append ledger atomic call
  | verify sessionId traceId =>
    obtain ⟨answer, ran, -⟩ := run_verifyStageChain ledger sessionId traceId session.shared
    simp only [sessions, ran]
    exact atomic.after _

end EvidenceLedgerWriter

/-! ## Where appends go -/

variable {Payload : Type}

def ReadsBack (ledger : EvidenceLedgerWriter Payload) (payload : Payload) : Prop :=
  ∀ content : StageContent Payload, content.payload = ledger.sanitize payload →
    ledger.decode (ledger.encode (ledger.stageRecord content)) =
      some (ledger.stageRecord content)

/-- What an append reads comes from one place, and what it writes goes to a new row
there. -/
structure Aligned (ledger : EvidenceLedgerWriter Payload) (place : Place)
    (call : StageCall Payload) (shared : Shared) : Prop where
  reads : ∀ source, ledger.store.listing call.start (shared.after 1) = some source →
    source = place
  writes : ∀ target, ledger.recordPlace call shared place = some target →
    target = place ∧ shared.row (call.key shared) place = none

section
variable {ledger : EvidenceLedgerWriter Payload} (unmirrored : ledger.store.mirror = none)
include unmirrored

/-- Without a mirror everything goes to the repository. -/
theorem aligned_of_unmirrored (call : StageCall Payload) (shared : Shared) :
    Aligned ledger .repository call shared where
  reads := by
    intro source answered
    rw [listing, unmirrored] at answered
    exact (Option.some.inj answered).symm
  writes := by
    intro target landed
    rw [recordPlace, landing] at landed
    split at landed
    · next admitted =>
      rw [writePlace, unmirrored] at landed
      refine ⟨(Option.some.inj landed).symm, ?_⟩
      have protects : StateStore.isEvidence (call.key shared) = true :=
        isEvidence_stageKey _ _ _ _ _
      simpa [admits, protects, unmirrored] using admitted
    · cases landed

theorem appends_of_unmirrored {call : StageCall Payload} {shared : Shared}
    (atomic : shared.Atomic) (isOk : ((ledger.append call).run shared).1.isOk = true) :
    ∃ written, ((ledger.append call).run shared).1 = .ok written ∧
      ledger.Appends call shared .repository .repository written
        ((ledger.append call).run shared).2 ∧
      shared.row written.1 .repository = none := by
  obtain ⟨answer, after, ran, outcome⟩ := run_append ledger atomic call
  rw [ran] at isOk ⊢
  cases outcome with
  | failed _ _ => cases isOk
  | @appended source target written _ appends =>
    have aligned := aligned_of_unmirrored unmirrored call shared
    have isSource := aligned.reads source appends.answered
    subst isSource
    obtain ⟨isTarget, fresh⟩ := aligned.writes target appends.landed
    subst isTarget
    refine ⟨written, rfl, appends, ?_⟩
    rw [appends.isKey]
    exact fresh

end

/-! ## A ledger whose texts are numbers -/

deriving instance Encodable for EvidenceStage, StageContent, StageEvidenceRecord

/-- A ledger over a store without a mirror. -/
def numberedLedger : EvidenceLedgerWriter String where
  store := ⟨none, fun _ => 0⟩
  sanitize := id
  canonicalJson := Json.quote
  hashValue := numberText
  encode := numberText
  decode := ofNumberText

theorem readsBack_numberedLedger (payload : String) : ReadsBack numberedLedger payload :=
  fun _ _ => ofNumberText_numberText _

theorem numberedLedger_hashValue_ne (content : StageContent String) :
    numberedLedger.hashValue content ≠ "genesis" :=
  numberText_ne (by decide : 'g' ∈ "genesis".toList) rfl content

end AutoLoop.Runtime
