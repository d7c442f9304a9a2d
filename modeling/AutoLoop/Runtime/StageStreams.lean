import AutoLoop.Foundation.Framing
import AutoLoop.Runtime.LedgerSessions

/-!
# The streams of one store

The keys of a stream are lower-cased and joined with colons, and its readers look
for the identifiers as they are.  A stream consists of the records that were appended
to it exactly as long as its own keys keep its identifiers and the keys of other
streams do not regroup into them.
-/

namespace AutoLoop.Runtime

open StateAdapter EvidenceLedgerWriter Text List LedgerSession

variable {Payload : Type}

/-! ## Which streams see a key -/

/-- The fields of a key behind the name of its table. -/
def StageCall.fields (call : StageCall Payload) (shared : Shared) : List String :=
  [toAsciiLowercase call.sessionId, toAsciiLowercase call.traceId,
    shared.moment.nowMs.toNat.repr, shared.evidenceSeq.toNat.repr,
    toAsciiLowercase call.stage.debug]

theorem evidence_stage_eq :
    "evidence:stage:" = "evidence" ++ String.singleton ':' ++ ("stage" ++ String.singleton ':') :=
  rfl

theorem key_eq_joinWith (call : StageCall Payload) (shared : Shared) :
    call.key shared = joinWith ':' (["evidence", "stage"] ++ call.fields shared) := by
  have colon : ":" = String.singleton ':' := rfl
  have lowered : ["evidence", "stage"] ++ call.fields shared = ["evidence", "stage",
      call.sessionId, call.traceId, shared.moment.nowMs.toNat.repr,
      shared.evidenceSeq.toNat.repr, call.stage.debug].map toAsciiLowercase := by
    have caseless : toAsciiLowercase "evidence" = "evidence" ∧
        toAsciiLowercase "stage" = "stage" := by decide
    simp only [StageCall.fields, map_cons, map_nil, toAsciiLowercase_repr,
      caseless, cons_append, nil_append]
  rw [lowered, ← toAsciiLowercase_joinWith (by decide)]
  unfold StageCall.key stageKey
  rw [evidence_stage_eq]
  simp only [joinWith, colon, String.append_assoc]

theorem streamPrefix_eq_joinWith (sessionId traceId : String) :
    streamPrefix sessionId traceId =
      joinWith ':' (["evidence", "stage"] ++ [sessionId, traceId]) ++
        String.singleton ':' := by
  have colon : ":" = String.singleton ':' := rfl
  unfold streamPrefix
  rw [evidence_stage_eq]
  simp only [joinWith, colon, String.append_assoc, cons_append, nil_append]

/-- Whether the readers of a stream find the record of a call in a place.  In the
repository the colons cut both into pieces. -/
def Reaches (sessionId traceId : String) (call : StageCall Payload) (shared : Shared) :
    Place → Prop
  | .repository => ∃ later, later ≠ [] ∧
      pieces ':' (call.fields shared) = pieces ':' [sessionId, traceId] ++ later
  | .postgres => Sql.like (call.key shared) (streamPrefix sessionId traceId ++ "%") = true

theorem sees_iff_reaches {place : Place} {sessionId traceId : String} {call : StageCall Payload}
    {shared : Shared} :
    place.sees (streamPrefix sessionId traceId) (call.key shared) = true ↔
      Reaches sessionId traceId call shared place := by
  cases place with
  | postgres => exact Iff.rfl
  | repository =>
    have starts : Place.repository.sees (streamPrefix sessionId traceId) (call.key shared) =
      startsWith (call.key shared) (streamPrefix sessionId traceId) := rfl
    rw [starts, startsWith_iff_exists, key_eq_joinWith, streamPrefix_eq_joinWith,
      joinWith_starts_iff (by simp) (by simp), pieces_append, pieces_append]
    simp only [append_assoc, append_cancel_left_eq]
    rfl

/-- Among lower-case identifiers without colons, only the own readers find a record. -/
theorem reaches_of_clean {sessionId traceId : String} {call : StageCall Payload}
    (sessionClean : ':' ∉ sessionId.toList) (traceClean : ':' ∉ traceId.toList)
    (callSessionClean : ':' ∉ call.sessionId.toList) (callTraceClean : ':' ∉ call.traceId.toList)
    (sessionLower : toAsciiLowercase call.sessionId = call.sessionId)
    (traceLower : toAsciiLowercase call.traceId = call.traceId) (shared : Shared) :
    Reaches sessionId traceId call shared .repository ↔
      call.sessionId = sessionId ∧ call.traceId = traceId := by
  have ownPieces : pieces ':' [sessionId, traceId] = [sessionId, traceId] :=
    pieces_of_not_mem (by simp [sessionClean, traceClean])
  rw [Reaches, StageCall.fields, sessionLower, traceLower, pieces_cons, pieces_cons,
    split_of_not_mem callSessionClean, split_of_not_mem callTraceClean, ownPieces]
  constructor
  · rintro ⟨later, -, same⟩
    rw [singleton_append, singleton_append, cons_append, cons_append,
      List.cons.injEq, List.cons.injEq] at same
    exact ⟨same.1, same.2.1⟩
  · rintro ⟨rfl, rfl⟩
    exact ⟨_, pieces_ne_nil (by simp), rfl⟩

/-! ## What a stream consists of -/

section
variable (ledger : EvidenceLedgerWriter Payload)

def examined (sessionId traceId : String)
    (shared : Shared) : Option (List (StageEvidenceRecord Payload)) :=
  (ledger.store.listing (streamPrefix sessionId traceId) shared).map fun place =>
    ledger.records shared place (streamPrefix sessionId traceId)

/-- A verification of the stream examines the records appended to it. -/
def Examines (sessionId traceId : String)
    (session : LedgerSession Payload) : Prop :=
  ∃ read, examined ledger sessionId traceId session.shared = some read ∧
    read.Perm (session.appendedTo sessionId traceId)

/-- An append to another stream leaves what is examined. -/
def Undisturbed (sessionId traceId : String)
    (session : LedgerSession Payload) (op : LedgerOp Payload)
    (later : LedgerSession Payload) : Prop :=
  ∀ call, op = .append call → ¬(call.sessionId = sessionId ∧ call.traceId = traceId) →
    examined ledger sessionId traceId later.shared =
      examined ledger sessionId traceId session.shared

/-! ## When it holds -/

def Recorded (session : LedgerSession Payload) :
    LedgerOp Payload → Prop
  | .append call => ReadsBack ledger call.payload ∧
      ∀ source target, ledger.GoesThrough call session.shared source target →
        session.shared.row (call.key session.shared) target = none
  | .verify _ _ => True

/-- An append to the stream lands where its readers find it, and one to another stream
does not. -/
def Separate (place : Place) (sessionId traceId : String)
    (session : LedgerSession Payload) : LedgerOp Payload → Prop
  | .append call => ∀ source target, ledger.GoesThrough call session.shared source target →
      ((target = place ∧ Reaches sessionId traceId call session.shared place) ↔
        (call.sessionId = sessionId ∧ call.traceId = traceId))
  | .verify _ _ => True

end

/-! ## One step -/

structure Complete (ledger : EvidenceLedgerWriter Payload) (place : Place)
    (sessionId traceId : String) (session : LedgerSession Payload) : Prop where
  atomic : session.shared.Atomic
  perm : (ledger.records session.shared place (streamPrefix sessionId traceId)).Perm
    (session.appendedTo sessionId traceId)

section Step

variable {ledger : EvidenceLedgerWriter Payload} {place : Place} {sessionId traceId : String}
variable {session : LedgerSession Payload} {call : StageCall Payload}
variable {source target : Place} {written : String × StageEvidenceRecord Payload}
variable {after : Shared}

theorem separate_append_iff (goes : ledger.GoesThrough call session.shared source target) :
    Separate ledger place sessionId traceId session (.append call) ↔
      ((target = place ∧ Reaches sessionId traceId call session.shared place) ↔
        (call.sessionId = sessionId ∧ call.traceId = traceId)) := by
  constructor
  · intro separate
    exact separate source target goes
  · intro separate otherSource otherTarget other
    obtain ⟨-, rfl⟩ := goes.unique other
    exact separate

theorem records_of_appends (place : Place) (sessionId traceId : String)
    (appends : ledger.Appends call session.shared source target written after)
    (recorded : Recorded ledger session (.append call)) :
    (target = place ∧ Reaches sessionId traceId call session.shared place →
      (ledger.records after place (streamPrefix sessionId traceId)).Perm
        (written.2 :: ledger.records session.shared place (streamPrefix sessionId traceId))) ∧
    (¬(target = place ∧ Reaches sessionId traceId call session.shared place) →
      ledger.records after place (streamPrefix sessionId traceId) =
        ledger.records session.shared place (streamPrefix sessionId traceId)) := by
  constructor
  · rintro ⟨rfl, reaches⟩
    have fresh := recorded.2 source target appends.toGoesThrough
    rw [← appends.isKey] at fresh
    have seen := sees_iff_reaches.mpr reaches
    rw [← appends.isKey] at seen
    have readsBack : ledger.decode (ledger.encode written.2) = some written.2 := by
      rw [appends.isRecord]
      exact recorded.1 _ rfl
    exact (appends.entries_perm fresh seen readsBack).map Prod.snd
  · intro apart
    apply congrArg (List.map Prod.snd)
    apply appends.entries_of_unseen
    rintro seen rfl
    rw [appends.isKey] at seen
    exact apart ⟨rfl, sees_iff_reaches.mp seen⟩

theorem complete_append_iff (complete : Complete ledger place sessionId traceId session)
    (recorded : Recorded ledger session (.append call))
    (appends : ledger.Appends call session.shared source target written after) :
    Complete ledger place sessionId traceId (session.afterAppend (.ok written, after)) ↔
      Separate ledger place sessionId traceId session (.append call) := by
  have atomic : (session.afterAppend (.ok written, after)).shared.Atomic :=
    appends.changes.atomic complete.atomic
  have sameOwner : (written.2.sessionId = sessionId ∧ written.2.traceId = traceId) ↔
      (call.sessionId = sessionId ∧ call.traceId = traceId) := by
    rw [appends.isRecord]
    rfl
  obtain ⟨joined, apart⟩ := records_of_appends place sessionId traceId appends recorded
  have before := complete.perm.length_eq
  rw [separate_append_iff appends.toGoesThrough]
  by_cases joins : target = place ∧ Reaches sessionId traceId call session.shared place
  · have grown := (joined joins).length_eq
    by_cases own : call.sessionId = sessionId ∧ call.traceId = traceId
    · refine ⟨fun _ => ⟨fun _ => own, fun _ => joins⟩, fun _ => ⟨atomic, ?_⟩⟩
      rw [session.appendedTo_of_own (sameOwner.mpr own)]
      apply (joined joins).trans
      apply (complete.perm.cons _).trans
      exact (perm_append_singleton _ _).symm
    · refine ⟨fun later => ?_, fun separate => absurd (separate.mp joins) own⟩
      have lengths := later.perm.length_eq
      rw [session.appendedTo_of_foreign (mt sameOwner.mp own), afterAppend, grown,
        length_cons, before] at lengths
      omega
  · by_cases own : call.sessionId = sessionId ∧ call.traceId = traceId
    · refine ⟨fun later => ?_, fun separate => absurd (separate.mpr own) joins⟩
      have lengths := later.perm.length_eq
      rw [session.appendedTo_of_own (sameOwner.mpr own), afterAppend, apart joins,
        length_append, before, length_singleton] at lengths
      omega
    · refine ⟨fun _ => ⟨fun joined => absurd joined joins, fun isOwn => absurd isOwn own⟩,
        fun _ => ⟨atomic, ?_⟩⟩
      rw [session.appendedTo_of_foreign (mt sameOwner.mp own), afterAppend, apart joins]
      exact complete.perm

section
variable {shared : Shared} {op : LedgerOp Payload}
  (complete : Complete ledger place sessionId traceId session)
  (recorded : Recorded ledger session op)
include complete recorded

theorem complete_step_iff :
    Complete ledger place sessionId traceId ((ledger.sessions shared).step session op).2 ↔
      Separate ledger place sessionId traceId session op := by
  cases op with
  | verify otherSession otherTrace =>
    obtain ⟨answer, ran, -⟩ := run_verifyStageChain ledger otherSession otherTrace
      session.shared
    simp only [sessions, ran]
    refine ⟨fun _ => trivial, fun _ => ⟨complete.atomic.after _, ?_⟩⟩
    rw [records_after]
    exact complete.perm
  | append call =>
    obtain ⟨answer, after, ran, outcome⟩ := run_append ledger complete.atomic call
    simp only [sessions, ran]
    cases outcome with
    | appended appends => exact complete_append_iff complete recorded appends
    | failed changes stuck =>
      refine ⟨fun _ source target goes => absurd goes (stuck source target),
        fun _ => ⟨changes.atomic complete.atomic, ?_⟩⟩
      have same : ledger.records after place (streamPrefix sessionId traceId) =
        ledger.records session.shared place (streamPrefix sessionId traceId) :=
        congrArg (List.map Prod.snd) (entries_of_unprotected changes)
      rw [afterAppend, same]
      exact complete.perm

theorem undisturbed_of_separate (separate : Separate ledger place sessionId traceId session op)
    (before : ledger.store.listing (streamPrefix sessionId traceId) session.shared = some place)
    (later : ledger.store.listing (streamPrefix sessionId traceId)
      ((ledger.sessions shared).step session op).2.shared = some place) :
    Undisturbed ledger sessionId traceId session op
      ((ledger.sessions shared).step session op).2 := by
  rintro call rfl foreign
  rw [examined, examined, before, later]
  simp only [Option.map_some, Option.some.injEq]
  obtain ⟨answer, after, ran, outcome⟩ := run_append ledger complete.atomic call
  simp only [sessions, ran]
  cases outcome with
  | failed changes stuck => exact congrArg (List.map Prod.snd) (entries_of_unprotected changes)
  | @appended source target written _ appends =>
    apply (records_of_appends place sessionId traceId appends recorded).2
    intro joins
    exact foreign ((separate source target appends.toGoesThrough).mp joins)

end

end Step

/-- Of a stream whose readers are answered by one place, and which begins empty there,
exactly the records appended to it are examined at all times, and appends to other
streams never change that, exactly when every append is separate. -/
theorem streams_isolated_iff (ledger : EvidenceLedgerWriter Payload) (place : Place)
    (sessionId traceId : String) (shared : Shared) (atomic : shared.Atomic)
    (fresh : ∀ key, place.sees (streamPrefix sessionId traceId) key = true →
      shared.row key place = none)
    (ops : List (LedgerOp Payload))
    (answered : (ledger.sessions shared).Always (fun session =>
        ledger.store.listing (streamPrefix sessionId traceId) session.shared = some place)
      ⟨shared, []⟩ ops)
    (recorded : (ledger.sessions shared).EachStep
      (fun session op => Recorded ledger session op) ⟨shared, []⟩ ops) :
    ((ledger.sessions shared).Always (Examines ledger sessionId traceId) ⟨shared, []⟩ ops ∧
      (ledger.sessions shared).EachStep
        (fun session op => Undisturbed ledger sessionId traceId session op
          ((ledger.sessions shared).step session op).2) ⟨shared, []⟩ ops) ↔
      (ledger.sessions shared).EachStep
        (fun session op => Separate ledger place sessionId traceId session op)
        ⟨shared, []⟩ ops := by
  have start : Complete ledger place sessionId traceId ⟨shared, []⟩ := by
    refine ⟨atomic, ?_⟩
    rw [records, entries_eq_nil fresh]
    exact List.Perm.refl _
  have examines : (ledger.sessions shared).Always (Examines ledger sessionId traceId)
      ⟨shared, []⟩ ops ↔
        (ledger.sessions shared).Always (Complete ledger place sessionId traceId)
          ⟨shared, []⟩ ops := by
    apply (answered.and_kept atomic (atomic_step ledger shared)).congr
    rintro session ⟨isAnswered, atomic⟩
    rw [Examines, examined, isAnswered]
    constructor
    · rintro ⟨read, ⟨⟩, perm⟩
      exact ⟨atomic, perm⟩
    · intro complete
      exact ⟨_, rfl, complete.perm⟩
  have exactly : (ledger.sessions shared).Always (Complete ledger place sessionId traceId)
      ⟨shared, []⟩ ops ↔
        (ledger.sessions shared).EachStep
          (fun session op => Separate ledger place sessionId traceId session op)
          ⟨shared, []⟩ ops :=
    Component.always_iff_eachStep
      (fun session op complete recorded => complete_step_iff complete recorded) start recorded
  rw [examines]
  constructor
  · rintro ⟨always, -⟩
    exact exactly.mp always
  · intro separate
    refine ⟨exactly.mpr separate, ?_⟩
    apply ((recorded.and separate).and answered.eachStep).of_invariant start
    rintro session op complete ⟨⟨recorded, separate⟩, before, later⟩
    exact ⟨undisturbed_of_separate complete recorded separate before later,
      (complete_step_iff complete recorded).mpr separate⟩

/-! ## Without a mirror -/

section Unmirrored

variable {ledger : EvidenceLedgerWriter Payload} (unmirrored : ledger.store.mirror = none)
include unmirrored

theorem target_of_unmirrored {call : StageCall Payload} {shared : Shared} {source target : Place}
    (goes : ledger.GoesThrough call shared source target) :
    target = .repository ∧ shared.row (call.key shared) target = none := by
  have aligned := aligned_of_unmirrored unmirrored call shared
  have isSource := aligned.reads source goes.answered
  subst isSource
  obtain ⟨isTarget, fresh⟩ := aligned.writes target goes.landed
  subst isTarget
  exact ⟨rfl, fresh⟩

theorem recorded_of_unmirrored {session : LedgerSession Payload} {call : StageCall Payload}
    (readsBack : ReadsBack ledger call.payload) : Recorded ledger session (.append call) :=
  ⟨readsBack, fun _ _ goes => (target_of_unmirrored unmirrored goes).2⟩

/-- Lower-case identifiers without colons keep the streams of the repository apart. -/
theorem separate_of_clean {sessionId traceId : String} {call : StageCall Payload}
    (sessionClean : ':' ∉ sessionId.toList) (traceClean : ':' ∉ traceId.toList)
    (callSessionClean : ':' ∉ call.sessionId.toList) (callTraceClean : ':' ∉ call.traceId.toList)
    (sessionLower : toAsciiLowercase call.sessionId = call.sessionId)
    (traceLower : toAsciiLowercase call.traceId = call.traceId) (session : LedgerSession Payload) :
    Separate ledger .repository sessionId traceId session (.append call) := by
  intro source target goes
  obtain ⟨isTarget, -⟩ := target_of_unmirrored unmirrored goes
  rw [reaches_of_clean sessionClean traceClean callSessionClean callTraceClean sessionLower
    traceLower]
  exact ⟨And.right, fun own => ⟨isTarget, own⟩⟩

end Unmirrored

def twoStreams : List (LedgerOp String) :=
  [.append ⟨"s", "t", .admission, "", none⟩, .append ⟨"s", "u", .admission, "", none⟩,
    .verify "s" "t"]

theorem streams_isolated_twice :
    (numberedLedger.sessions .empty).Always (Examines numberedLedger "s" "t")
        ⟨.empty, []⟩ twoStreams ∧
      (numberedLedger.sessions .empty).EachStep
        (fun session op => Undisturbed numberedLedger "s" "t" session op
          ((numberedLedger.sessions .empty).step session op).2) ⟨.empty, []⟩ twoStreams := by
  have unmirrored : numberedLedger.store.mirror = none := rfl
  apply (streams_isolated_iff numberedLedger .repository "s" "t" .empty Shared.atomic_empty
    (fun _ _ => rfl) twoStreams ⟨rfl, rfl, rfl, rfl⟩ ?_).mpr
  · refine ⟨?_, ?_, trivial, trivial⟩
    · exact separate_of_clean unmirrored (by decide) (by decide) (by decide) (by decide)
        (by decide) (by decide) _
    · exact separate_of_clean unmirrored (by decide) (by decide) (by decide) (by decide)
        (by decide) (by decide) _
  · refine ⟨?_, ?_, trivial, trivial⟩
    · exact recorded_of_unmirrored unmirrored (readsBack_numberedLedger _)
    · exact recorded_of_unmirrored unmirrored (readsBack_numberedLedger _)

/-- An append to a session whose identifier has a colon. -/
def focusCall : StageCall String := ⟨"cli:focus", "t", .admission, "", none⟩

theorem focusEntries_empty :
    numberedLedger.entries .empty .repository (streamPrefix "cli" "focus:t") = [] :=
  entries_eq_nil fun _ _ => rfl

theorem focusCall_recorded :
    ∃ record, examined numberedLedger "cli" "focus:t"
        ((numberedLedger.append focusCall).run .empty).2 = some [record] := by
  have unmirrored : numberedLedger.store.mirror = none := rfl
  obtain ⟨written, -, appends, fresh⟩ := appends_of_unmirrored unmirrored Shared.atomic_empty
    (by decide +kernel : ((numberedLedger.append focusCall).run .empty).1.isOk = true)
  have seen : Place.repository.sees (streamPrefix "cli" "focus:t") written.1 = true := by
    rw [appends.isKey]
    decide +kernel
  have grown := appends.entries_perm fresh seen (ofNumberText_numberText _)
  rw [focusEntries_empty] at grown
  refine ⟨written.2, ?_⟩
  exact congrArg (fun read => some (read.map Prod.snd)) (perm_singleton.mp grown)

/-- The record of one stream is examined in another one whose identifiers regroup its
key. -/
theorem foreign_record_examined :
    ¬∀ (ledger : EvidenceLedgerWriter String) (place : Place) (sessionId traceId : String)
        (shared : Shared), ledger.store.mirror = none → (∀ payload, ReadsBack ledger payload) →
      shared.Atomic →
      (∀ key, place.sees (streamPrefix sessionId traceId) key = true →
        shared.row key place = none) →
      ∀ ops : List (LedgerOp String),
        (ledger.sessions shared).Always (Examines ledger sessionId traceId) ⟨shared, []⟩ ops ∧
          (ledger.sessions shared).EachStep
            (fun session op => Undisturbed ledger sessionId traceId session op
              ((ledger.sessions shared).step session op).2) ⟨shared, []⟩ ops := by
  intro always
  obtain ⟨-, undisturbed, -⟩ := always numberedLedger .repository "cli" "focus:t" .empty rfl
    readsBack_numberedLedger Shared.atomic_empty (fun _ _ => rfl) [.append focusCall]
  have same := undisturbed focusCall rfl (by decide)
  obtain ⟨record, isExamined⟩ := focusCall_recorded
  have before : examined numberedLedger "cli" "focus:t" .empty = some [] :=
    congrArg (fun read : List (String × StageEvidenceRecord String) => some (read.map Prod.snd))
      focusEntries_empty
  cases (isExamined.symm.trans same).trans before

end AutoLoop.Runtime
