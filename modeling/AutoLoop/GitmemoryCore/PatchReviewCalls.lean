import AutoLoop.GitmemoryCore.PatchReviewQueue
import AutoLoop.GitmemoryCore.SignedCommitChain

/-!
# Runs of the review queue

The calls of the queue one after another, beside a log of the reviews that were enqueued
and of the last decision on each.  As long as no call writes over the row of another
review of a session, and none of another session whose name and the session's begin
alike interferes, the list of the session shows its log.
-/

namespace AutoLoop.GitmemoryCore

open StateAdapter

/-! ## The log -/

structure ReviewDecision where
  status : PatchReviewStatus
  reviewer : String
  reason : String
  atMs : UInt64
  deriving DecidableEq, Repr

structure Review where
  sessionId : String
  patch : PatchPlan
  item : PatchReviewItem
  decision : Option ReviewDecision
  deriving DecidableEq, Repr

namespace Review

def current (review : Review) : PatchReviewItem :=
  match review.decision with
  | none => review.item
  | some decision =>
    review.item.decided decision.status decision.reviewer decision.reason decision.atMs

def take (item : PatchReviewItem) (decision : ReviewDecision) (review : Review) : Review :=
  if review.sessionId = item.sessionId ∧ review.item.reviewId = item.reviewId then
    { review with decision := some decision }
  else review

end Review

/-! ## Calls -/

inductive ReviewOp where
  | enqueue (sessionId traceId : String) (patch : PatchPlan)
  | enqueueHealProposal (sessionId traceId : String) (patch : PatchPlan) (proposalRef : String)
  | enqueueRelationRepairProposal (sessionId traceId : String) (patch : PatchPlan)
      (proposalRef : String)
  | approve (sessionId reviewId reviewer reason : String)
  | reject (sessionId reviewId reviewer reason : String)
  deriving DecidableEq, Repr

/-- What the five calls come down to. -/
inductive ReviewCall where
  | enqueue (sessionId traceId : String) (patch : PatchPlan) (reviewKind : String)
      (proposalRef : Option String)
  | decide (sessionId reviewId : String) (status : PatchReviewStatus) (reviewer reason : String)

def ReviewOp.call : ReviewOp → ReviewCall
  | .enqueue sessionId traceId patch => .enqueue sessionId traceId patch "patch" none
  | .enqueueHealProposal sessionId traceId patch proposalRef =>
    .enqueue sessionId traceId patch "heal_proposal" (some proposalRef)
  | .enqueueRelationRepairProposal sessionId traceId patch proposalRef =>
    .enqueue sessionId traceId patch "relation_repair" (some proposalRef)
  | .approve sessionId reviewId reviewer reason =>
    .decide sessionId reviewId .approved reviewer reason
  | .reject sessionId reviewId reviewer reason =>
    .decide sessionId reviewId .rejected reviewer reason

section
variable (queue : PatchReviewQueue)

def PatchReviewQueue.perform : ReviewOp → StoreCall PatchReviewItem
  | .enqueue sessionId traceId patch => queue.enqueue sessionId traceId patch
  | .enqueueHealProposal sessionId traceId patch proposalRef =>
    queue.enqueueHealProposal sessionId traceId patch proposalRef
  | .enqueueRelationRepairProposal sessionId traceId patch proposalRef =>
    queue.enqueueRelationRepairProposal sessionId traceId patch proposalRef
  | .approve sessionId reviewId reviewer reason =>
    queue.approve sessionId reviewId reviewer reason
  | .reject sessionId reviewId reviewer reason =>
    queue.reject sessionId reviewId reviewer reason

def PatchReviewQueue.run : ReviewCall → StoreCall PatchReviewItem
  | .enqueue sessionId traceId patch reviewKind proposalRef =>
    queue.enqueueInternal sessionId traceId patch reviewKind proposalRef
  | .decide sessionId reviewId status reviewer reason =>
    queue.decideReview sessionId reviewId status reviewer reason

theorem PatchReviewQueue.perform_eq_run (op : ReviewOp) :
    queue.perform op = queue.run op.call := by
  cases op <;> rfl

end

def ReviewCall.log (call : ReviewCall) (item : PatchReviewItem) (log : List Review) :
    List Review :=
  match call with
  | .enqueue sessionId _ patch _ _ => log ++ [⟨sessionId, patch, item, none⟩]
  | .decide _ _ status reviewer reason =>
    log.map (Review.take item ⟨status, reviewer, reason, item.updatedAtMs⟩)

/-! ## Runs -/

/-- The store and the log. -/
structure ReviewBooks where
  shared : Shared
  log : List Review

def reviewRuns (queue : PatchReviewQueue) (host : Nat → Moment) :
    Component ReviewBooks ReviewOp (Except String PatchReviewItem) where
  initial := ⟨Shared.started host, []⟩
  step books op :=
    let ran := (queue.perform op).run books.shared
    (ran.1, ⟨ran.2, match ran.1 with
      | .ok item => op.call.log item books.log
      | .error _ => books.log⟩)

namespace ReviewBooks

variable (queue : PatchReviewQueue) (sessionId : String) (books : ReviewBooks)

def ofSession : List Review := books.log.filter (·.sessionId = sessionId)

def Shows : Prop :=
  (∃ items, ((queue.list sessionId).run books.shared).1 = .ok items ∧
    items.Perm ((books.ofSession sessionId).map (·.current))) ∧
  ∀ review ∈ books.ofSession sessionId, review.current.patch = review.patch

/-- The times at which an enqueue and a decision read the clock. -/
def enqueueMs : UInt64 := books.shared.moment.nowMs

def decideMs : UInt64 := (books.shared.later 1).nowMs

def WrittenAt (now : UInt64) (review : Review) : Prop := review.current.updatedAtMs = now

/-- What keeps the list of a session in order: the reviews of the session that were
written in this millisecond are none but the one to be decided, the name of the session
is not the beginning of that of an enqueue, and a decision under the beginning of its
name is not on one of its reviews. -/
def Undisturbed : ReviewCall → Prop
  | .enqueue other _ _ _ _ =>
    (other = sessionId → ∀ review ∈ books.ofSession sessionId, ¬WrittenAt books.enqueueMs review) ∧
    Text.startsWith other (sessionId ++ ":") = false
  | .decide other reviewId _ _ _ =>
    (other = sessionId → (∃ review ∈ books.ofSession sessionId, review.item.reviewId = reviewId) →
      ∀ review ∈ books.ofSession sessionId, WrittenAt books.decideMs review →
        review.item.reviewId = reviewId) ∧
    (Text.startsWith sessionId (other ++ ":") = true →
      ∀ review ∈ books.ofSession sessionId, review.item.reviewId ≠ reviewId)

instance (now : UInt64) : DecidablePred (WrittenAt now) := fun review =>
  inferInstanceAs (Decidable (review.current.updatedAtMs = now))

instance : DecidablePred (Undisturbed sessionId books)
  | .enqueue _ _ _ _ _ => inferInstanceAs (Decidable (_ ∧ _))
  | .decide _ _ _ _ _ => inferInstanceAs (Decidable (_ ∧ _))

end ReviewBooks

end AutoLoop.GitmemoryCore

/-!
## The calls of the review queue

What the keys of the queue tell of their sessions, and what each call reads and writes
over a store without a mirror.
-/

namespace AutoLoop.GitmemoryCore

open StateAdapter Text List StateStore Knowledge Future

/-! ## Keys -/

theorem not_mem_latest : ':' ∉ "latest".toList := by decide

theorem startsWith_reviewPrefix {other sessionId stamp : String} (plain : ':' ∉ stamp.toList) :
    startsWith (reviewPrefix other ++ stamp) (reviewPrefix sessionId) = true ↔
      other = sessionId ∨ startsWith other (sessionId ++ ":") = true := by
  have isColon : ":".toList = [':'] := by decide
  simp only [startsWith_iff, reviewPrefix, String.toList_append, isColon, append_assoc,
    prefix_append_right_inj]
  constructor
  · intro starts
    obtain ⟨rest, same⟩ := starts
    rw [← append_assoc, append_eq_append_iff] at same
    rcases same with ⟨gap, isOther, -⟩ | ⟨gap, isSession, isStamp⟩
    · rcases eq_nil_or_concat gap with rfl | ⟨before, last, rfl⟩
      · left
        rw [append_nil] at isOther
        exact String.toList_inj.mp (append_cancel_right isOther)
      · right
        rw [concat_eq_append, ← append_assoc] at isOther
        exact ⟨before, (append_inj' isOther rfl).1.symm⟩
    · rcases eq_nil_or_concat gap with rfl | ⟨before, last, rfl⟩
      · left
        rw [append_nil] at isSession
        exact String.toList_inj.mp (append_cancel_right isSession).symm
      · rw [concat_eq_append, ← append_assoc] at isSession
        have isLast := (append_inj' isSession rfl).2
        rw [List.cons.injEq] at isLast
        rw [isStamp, ← isLast.1] at plain
        exact absurd (by simp) plain
  · intro either
    cases either with
    | inl same => exact ⟨stamp.toList, by simp [same]⟩
    | inr below =>
      obtain ⟨rest, same⟩ := below
      exact ⟨rest ++ [':'] ++ stamp.toList, by simp [← same]⟩

theorem reviewPrefix_inj {other sessionId stamp otherStamp : String}
    (plain : ':' ∉ stamp.toList) (otherPlain : ':' ∉ otherStamp.toList)
    (same : reviewPrefix sessionId ++ stamp = reviewPrefix other ++ otherStamp) :
    sessionId = other ∧ stamp = otherStamp := by
  have lists := congrArg String.toList same
  simp only [reviewPrefix, String.toList_append] at lists
  have stamps := after_last_separator lists plain otherPlain
  rw [stamps, append_cancel_right_eq, append_cancel_right_eq, append_cancel_left_eq] at lists
  exact ⟨String.toList_inj.mp lists, String.toList_inj.mp stamps⟩

theorem toNat_repr_inj {first second : UInt64} (same : first.toNat.repr = second.toNat.repr) :
    first = second :=
  UInt64.toNat_inj.mp (repr_inj.mp same)

theorem reviewKey_inj {sessionId : String} {first second : UInt64}
    (same : reviewKey sessionId first = reviewKey sessionId second) : first = second :=
  toNat_repr_inj (reviewPrefix_inj (not_mem_repr (by decide) _) (not_mem_repr (by decide) _) same).2

theorem reviewKey_ne_latestKey (sessionId : String) (nowMs : UInt64) :
    reviewKey sessionId nowMs ≠ latestKey sessionId := by
  intro same
  have stamps := (reviewPrefix_inj (not_mem_repr (by decide) _) not_mem_latest same).2
  have isDigit : 'l'.isDigit = true := by
    apply isDigit_of_mem_repr
    rw [stamps]
    decide
  revert isDigit
  decide

theorem reviewIdOf_inj {sessionId traceId other otherTrace : String} {first second : UInt64}
    (same : reviewIdOf sessionId traceId first = reviewIdOf other otherTrace second) :
    first = second := by
  have lists := congrArg String.toList same
  simp only [reviewIdOf, String.toList_append] at lists
  have stamps := after_last_separator lists (not_mem_repr (by decide) _)
    (not_mem_repr (by decide) _)
  exact toNat_repr_inj (String.toList_inj.mp stamps)

theorem isEvidence_reviewPrefix (sessionId stamp : String) :
    isEvidence (reviewPrefix sessionId ++ stamp) = false := by
  rw [Bool.eq_false_iff, ne_eq, isEvidence, startsWith_iff]
  intro starts
  obtain ⟨rest, same⟩ := starts
  simp [reviewPrefix, reviewBase] at same

/-! ## Calls -/

/-- The text under a key. -/
def valueAt (shared : Shared) (key : String) : Option String :=
  (shared.repo.knowledge.get key).map (·.value)

/-- A call has written an item at a time that it has read. -/
structure Wrote (queue : PatchReviewQueue) (sessionId : String) (now : UInt64)
    (item : PatchReviewItem) (before after : Shared) : Prop where
  value : ∀ key, valueAt after key =
    if key = reviewKey sessionId now ∨ key = latestKey sessionId then
      some (queue.form.encode item)
    else valueAt before key
  host : after.host = before.host
  read : ∃ tick, before.tick ≤ tick ∧ tick ≤ after.tick ∧ now = (before.host tick).nowMs

namespace PatchReviewQueue

variable {queue : PatchReviewQueue}

section
variable (queue : PatchReviewQueue) (shared : Shared) (sessionId : String)

def seen :
    List PatchReviewItem :=
  queue.copies (shared.repo.knowledge.select (startsWith · (reviewPrefix sessionId)))

def listed :
    List PatchReviewItem :=
  (Table.newest (·.reviewId) (·.updatedAtMs.toNat) (queue.seen shared sessionId)).values

end

theorem mem_seen_iff {shared : Shared} {sessionId : String} {copy : PatchReviewItem} :
    copy ∈ queue.seen shared sessionId ↔ ∃ key text,
      startsWith key (reviewPrefix sessionId) = true ∧ valueAt shared key = some text ∧
        queue.form.decode text = some copy := by
  simp only [seen, copies, mem_filterMap]
  constructor
  · intro isSeen
    obtain ⟨row, membership, decoded⟩ := isSeen
    obtain ⟨found, starts⟩ := mem_select_iff.mp membership
    exact ⟨row.key, row.value, starts, by rw [valueAt, found, Option.map_some], decoded⟩
  · intro isStored
    obtain ⟨key, text, starts, isText, decoded⟩ := isStored
    obtain ⟨row, found, isValue⟩ := Option.map_eq_some_iff.mp isText
    have isKey := key_of_get found
    refine ⟨row, mem_select_iff.mpr ⟨?_, ?_⟩, ?_⟩
    · rw [isKey]
      exact found
    · rw [isKey]
      exact starts
    · rw [isValue]
      exact decoded

variable (unmirrored : queue.store.mirror = none)
include unmirrored

theorem run_list (sessionId : String) (shared : Shared) :
    (queue.list sessionId).run shared = (.ok (queue.listed shared sessionId), shared.after 1) := by
  rw [list, run_bind_of_ok (run_listKnowledgeByPrefix_unmirrored unmirrored _ shared)]
  rfl

theorem run_put (sessionId stamp text : String) (shared : Shared) :
    ∃ row after, (queue.store.upsertKnowledge (reviewPrefix sessionId ++ stamp) text
        "patch-review-queue").run shared = (.ok row, after) ∧
      (∀ key, valueAt after key =
        if key = reviewPrefix sessionId ++ stamp then some text else valueAt shared key) ∧
      after.host = shared.host ∧ after.tick = shared.tick + 1 := by
  obtain ⟨id, nextId, ran⟩ := run_upsertKnowledge_plain unmirrored
    (isEvidence_reviewPrefix sessionId stamp) text "patch-review-queue" shared
  refine ⟨_, _, ran, ?_, rfl, rfl⟩
  intro key
  rw [valueAt, get_put]
  split
  · rfl
  · rfl

theorem run_persist (sessionId : String) (now : UInt64) (item : PatchReviewItem) (shared : Shared) :
    ∃ after, (queue.persist sessionId now item).run shared = (.ok item, after) ∧
      (∀ key, valueAt after key =
        if key = reviewKey sessionId now ∨ key = latestKey sessionId then
          some (queue.form.encode item)
        else valueAt shared key) ∧
      after.host = shared.host ∧ shared.tick ≤ after.tick := by
  obtain ⟨first, middle, ranFirst, middleValue, middleHost, middleTick⟩ :=
    run_put unmirrored sessionId now.toNat.repr (queue.form.encode item) shared
  obtain ⟨second, after, ranSecond, afterValue, afterHost, afterTick⟩ :=
    run_put unmirrored sessionId "latest" (queue.form.encode item) middle
  refine ⟨after, ?_, ?_, afterHost.trans middleHost, ?_⟩
  · refine (run_bind_of_ok ranFirst).trans ?_
    exact run_bind_of_ok ranSecond
  · intro key
    rw [afterValue, middleValue, reviewKey, latestKey]
    by_cases isLatest : key = reviewPrefix sessionId ++ "latest"
    · rw [if_pos isLatest, if_pos (Or.inr isLatest)]
    · rw [if_neg isLatest]
      exact if_congr (or_iff_left isLatest).symm rfl rfl
  · rw [afterTick, middleTick]
    omega

theorem run_enqueueInternal (sessionId traceId : String) (patch : PatchPlan)
    (reviewKind : String) (proposalRef : Option String) (shared : Shared) :
    ∃ after, (queue.enqueueInternal sessionId traceId patch reviewKind proposalRef).run shared =
        (.ok (newItem sessionId traceId patch reviewKind proposalRef shared.moment.nowMs), after) ∧
      Wrote queue sessionId shared.moment.nowMs
        (newItem sessionId traceId patch reviewKind proposalRef shared.moment.nowMs) shared after := by
  have ranClock : StateStore.nowMs.run shared = (.ok shared.moment.nowMs, shared.after 1) := rfl
  obtain ⟨after, ran, value, host, tick⟩ := run_persist unmirrored sessionId shared.moment.nowMs
    (newItem sessionId traceId patch reviewKind proposalRef shared.moment.nowMs) (shared.after 1)
  refine ⟨after, (run_bind_of_ok ranClock).trans ran, value, host, shared.tick, le_rfl, ?_,
    rfl⟩
  exact (Nat.le_succ shared.tick).trans tick

section
variable {sessionId reviewId : String} (status : PatchReviewStatus) (reviewer reason : String)
  {shared : Shared}

theorem run_decideReview_missing
    (missing : (queue.listed shared sessionId).find? (·.reviewId = reviewId) = none) :
    (queue.decideReview sessionId reviewId status reviewer reason).run shared =
      (.error ("review item not found: " ++ reviewId), shared.after 1) := by
  rw [decideReview, run_bind_of_ok (run_list unmirrored sessionId shared), missing]
  rfl

theorem run_decideReview_found {item : PatchReviewItem}
    (found : (queue.listed shared sessionId).find? (·.reviewId = reviewId) = some item) :
    ∃ after, (queue.decideReview sessionId reviewId status reviewer reason).run shared =
        (.ok (item.decided status reviewer reason (shared.later 1).nowMs), after) ∧
      Wrote queue sessionId (shared.later 1).nowMs
        (item.decided status reviewer reason (shared.later 1).nowMs) shared after := by
  have ranClock : StateStore.nowMs.run (shared.after 1) =
      (.ok (shared.later 1).nowMs, shared.after 2) := rfl
  obtain ⟨after, ran, value, host, tick⟩ := run_persist unmirrored sessionId
    (shared.later 1).nowMs (item.decided status reviewer reason (shared.later 1).nowMs)
    (shared.after 2)
  refine ⟨after, ?_, value, host, shared.tick + 1, Nat.le_succ _, ?_, rfl⟩
  · rw [decideReview, run_bind_of_ok (run_list unmirrored sessionId shared), found]
    exact (run_bind_of_ok ranClock).trans ran
  · exact (Nat.le_succ (shared.tick + 1)).trans tick

end

end PatchReviewQueue

end AutoLoop.GitmemoryCore
