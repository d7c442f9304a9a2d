import AutoLoop.GitmemoryCore.PatchReviewCalls

/-!
# Every review is listed

The rows of a session are copies of its reviews, none newer than its review, and the
copy of the last call on a review stands under the millisecond of that call.  An
undisturbed call keeps this, so that the list of the session shows its log throughout an
undisturbed run.
-/

namespace AutoLoop.GitmemoryCore

open StateAdapter Text PatchReviewQueue List

/-! ## Copies -/

namespace Review

variable (review : Review)

@[simp] theorem current_reviewId : review.current.reviewId = review.item.reviewId := by
  rw [current]
  cases review.decision <;> rfl

@[simp] theorem current_sessionId : review.current.sessionId = review.item.sessionId := by
  rw [current]
  cases review.decision <;> rfl

@[simp] theorem current_patch : review.current.patch = review.item.patch := by
  rw [current]
  cases review.decision <;> rfl

@[simp] theorem current_reviewKind : review.current.reviewKind = review.item.reviewKind := by
  rw [current]
  cases review.decision <;> rfl

theorem decided_current (status : PatchReviewStatus) (reviewer reason : String) (now : UInt64) :
    review.current.decided status reviewer reason now =
      review.item.decided status reviewer reason now := by
  rw [current]
  cases review.decision <;> rfl

section
variable (item : PatchReviewItem) (decision : ReviewDecision)

@[simp] theorem take_sessionId :
    (review.take item decision).sessionId = review.sessionId := by
  rw [take]
  split <;> rfl

@[simp] theorem take_item :
    (review.take item decision).item = review.item := by
  rw [take]
  split <;> rfl

end

structure Copy (copy : PatchReviewItem) : Prop where
  id : copy.reviewId = review.item.reviewId
  notNewer : copy.updatedAtMs.toNat ≤ review.current.updatedAtMs.toNat
  same : copy.updatedAtMs = review.current.updatedAtMs → copy = review.current

theorem copy_current : review.Copy review.current where
  id := review.current_reviewId
  notNewer := le_rfl
  same := fun _ => rfl

/-- The item of a review is one that its enqueue has made. -/
structure Formed : Prop where
  session : review.item.sessionId = review.sessionId
  patch : review.item.patch = review.patch
  id : ∃ traceId, review.item.reviewId =
    reviewIdOf review.sessionId traceId review.item.createdAtMs
  created : review.item.createdAtMs.toNat ≤ review.current.updatedAtMs.toNat
  queued : review.item.reviewKind = "heal_proposal" → review.item.status = .queued

end Review

structure Holds (queue : PatchReviewQueue) (sessionId : String) (shared : Shared)
    (reviews : List Review) : Prop where
  clock : Monotone fun tick => (shared.host tick).nowMs.toNat
  rows : ∀ key text, startsWith key (reviewPrefix sessionId) = true →
    valueAt shared key = some text → ∃ review ∈ reviews, ∃ copy,
      text = queue.form.encode copy ∧ review.Copy copy ∧
        (key = latestKey sessionId ∨ key = reviewKey sessionId copy.updatedAtMs)
  held : ∀ review ∈ reviews, valueAt shared (reviewKey sessionId review.current.updatedAtMs) =
      some (queue.form.encode review.current)
  distinct : (reviews.map (·.item.reviewId)).Nodup
  formed : ∀ review ∈ reviews, review.Formed ∧ review.sessionId = sessionId
  past : ∀ review ∈ reviews, review.current.updatedAtMs.toNat ≤ shared.moment.nowMs.toNat
  placed : ∀ other key text copy, startsWith key (reviewPrefix other) = true →
    valueAt shared key = some text → queue.form.decode text = some copy →
      copy.sessionId = sessionId →
        other = sessionId ∨ startsWith sessionId (other ++ ":") = true

namespace Holds

variable {queue : PatchReviewQueue} {sessionId : String} {shared after : Shared}
variable {reviews : List Review}

theorem startsWith_reviewKey (sessionId : String) (nowMs : UInt64) :
    startsWith (reviewKey sessionId nowMs) (reviewPrefix sessionId) = true :=
  startsWith_iff_exists.mpr ⟨_, rfl⟩

section
variable (holds : Holds queue sessionId shared reviews)
include holds

theorem listed_perm :
    (queue.listed shared sessionId).Perm (reviews.map (·.current)) := by
  apply Table.values_newest_perm
  · have sameIds : (reviews.map (·.current)).map (·.reviewId) =
        reviews.map (·.item.reviewId) := by
      rw [map_map]
      exact map_congr_left fun review _ => review.current_reviewId
    rw [sameIds]
    exact holds.distinct
  · intro item membership
    obtain ⟨review, inReviews, rfl⟩ := mem_map.mp membership
    apply mem_seen_iff.mpr
    exact ⟨_, _, startsWith_reviewKey _ _, holds.held review inReviews, queue.form.decode_encode _⟩
  · intro copy membership
    obtain ⟨key, text, starts, isText, decoded⟩ := mem_seen_iff.mp membership
    obtain ⟨review, inReviews, stored, rfl, isCopy, -⟩ := holds.rows key text starts isText
    rw [queue.form.decode_encode, Option.some.injEq] at decoded
    subst decoded
    refine ⟨review.current, mem_map_of_mem inReviews, ?_, isCopy.notNewer, ?_⟩
    · rw [isCopy.id, review.current_reviewId]
    · intro sameAge
      exact isCopy.same (UInt64.toNat_inj.mp sameAge)

theorem found_iff {reviewId : String} {item : PatchReviewItem}
    (found : (queue.listed shared sessionId).find? (·.reviewId = reviewId) = some item) :
    ∃ review ∈ reviews, item = review.current ∧ review.item.reviewId = reviewId := by
  have isId := find?_some found
  have membership := holds.listed_perm.mem_iff.mp (mem_of_find?_eq_some found)
  obtain ⟨review, inReviews, rfl⟩ := mem_map.mp membership
  exact ⟨review, inReviews, rfl, by simpa using isId⟩

theorem after_reads (accesses : Nat) :
    Holds queue sessionId (shared.after accesses) reviews where
  clock := holds.clock
  rows := holds.rows
  held := holds.held
  distinct := holds.distinct
  formed := holds.formed
  past := by
    intro review inReviews
    exact (holds.past review inReviews).trans (holds.clock (Nat.le_add_right _ _))
  placed := holds.placed

section
variable {other : String} {now : UInt64} {item : PatchReviewItem}
  (wrote : Wrote queue other now item shared after)
include wrote

/-- The time of a call is one since the last one. -/
theorem between :
    shared.moment.nowMs.toNat ≤ now.toNat ∧ now.toNat ≤ after.moment.nowMs.toNat := by
  obtain ⟨tick, fromTick, upTo, rfl⟩ := wrote.read
  constructor
  · exact holds.clock fromTick
  · rw [Shared.moment, wrote.host]
    exact holds.clock upTo

theorem placed_after (itsOwn : item.sessionId = sessionId →
      other = sessionId ∨ startsWith sessionId (other ++ ":") = true)
    (reader key text : String) (copy : PatchReviewItem)
    (starts : startsWith key (reviewPrefix reader) = true)
    (isText : valueAt after key = some text) (decoded : queue.form.decode text = some copy)
    (isOwn : copy.sessionId = sessionId) :
    reader = sessionId ∨ startsWith sessionId (reader ++ ":") = true := by
  rw [wrote.value] at isText
  split at isText
  · next isKey =>
    obtain rfl := Option.some.inj isText
    rw [queue.form.decode_encode, Option.some.injEq] at decoded
    subst decoded
    have below : other = reader ∨ startsWith other (reader ++ ":") = true := by
      rcases isKey with rfl | rfl
      · exact (startsWith_reviewPrefix (not_mem_repr (by decide) _)).mp starts
      · exact (startsWith_reviewPrefix not_mem_latest).mp starts
    rcases itsOwn isOwn with rfl | above
    · exact below.imp Eq.symm id
    · right
      rcases below with rfl | begins
      · exact above
      · rw [startsWith_iff] at above begins ⊢
        rw [String.toList_append] at above
        exact begins.trans ((prefix_append _ _).trans above)
  · exact holds.placed reader key text copy starts isText decoded isOwn

theorem write_elsewhere
    (apart : other ≠ sessionId) (notBelow : startsWith other (sessionId ++ ":") = false)
    (itsOwn : item.sessionId = sessionId → startsWith sessionId (other ++ ":") = true) :
    Holds queue sessionId after reviews := by
  have unchanged : ∀ key, startsWith key (reviewPrefix sessionId) = true →
      valueAt after key = valueAt shared key := by
    intro key starts
    rw [wrote.value, if_neg]
    intro isKey
    have begins : other = sessionId ∨ startsWith other (sessionId ++ ":") = true := by
      cases isKey with
      | inl isStamped =>
        rw [isStamped] at starts
        exact (startsWith_reviewPrefix (not_mem_repr (by decide) _)).mp starts
      | inr isLatest =>
        rw [isLatest] at starts
        exact (startsWith_reviewPrefix not_mem_latest).mp starts
    cases begins with
    | inl same => exact apart same
    | inr below =>
      rw [notBelow] at below
      cases below
  constructor
  · rw [wrote.host]
    exact holds.clock
  · intro key text starts isText
    rw [unchanged key starts] at isText
    exact holds.rows key text starts isText
  · intro review inReviews
    rw [unchanged _ (startsWith_reviewKey _ _)]
    exact holds.held review inReviews
  · exact holds.distinct
  · exact holds.formed
  · intro review inReviews
    have passed := holds.between wrote
    exact (holds.past review inReviews).trans (passed.1.trans passed.2)
  · exact holds.placed_after wrote fun isOwn => Or.inr (itsOwn isOwn)

end

theorem write_own {now : UInt64}
    {review : Review} {changed : List Review}
    (wrote : Wrote queue sessionId now review.current shared after)
    (isNow : review.current.updatedAtMs = now) (isIn : review ∈ changed)
    (others : ∀ other ∈ changed, other = review ∨
      other ∈ reviews ∧ ¬ReviewBooks.WrittenAt now other)
    (covers : ∀ other ∈ reviews, other ∈ changed ∨ other.item.reviewId = review.item.reviewId)
    (formed : review.Formed ∧ review.sessionId = sessionId)
    (distinct : (changed.map (·.item.reviewId)).Nodup) :
    Holds queue sessionId after changed := by
  have passed := holds.between wrote
  constructor
  · rw [wrote.host]
    exact holds.clock
  · intro key text starts isText
    rw [wrote.value] at isText
    split at isText
    · next isKey =>
      refine ⟨review, isIn, review.current, (Option.some.inj isText).symm, review.copy_current, ?_⟩
      rw [isNow]
      exact isKey.symm
    · next otherKey =>
      obtain ⟨other, inReviews, copy, isCopyText, isCopy, isKey⟩ :=
        holds.rows key text starts isText
      rcases covers other inReviews with stays | sameId
      · exact ⟨other, stays, copy, isCopyText, isCopy, isKey⟩
      · refine ⟨review, isIn, copy, isCopyText, ?_, isKey⟩
        -- an older copy of the review that is written
        constructor
        · rw [isCopy.id, sameId]
        · rw [isNow]
          exact isCopy.notNewer.trans ((holds.past other inReviews).trans passed.1)
        · intro sameTime
          rw [isNow] at sameTime
          rw [sameTime] at isKey
          exact absurd isKey.symm otherKey
  · intro other inChanged
    rw [wrote.value]
    rcases others other inChanged with rfl | ⟨inReviews, notNow⟩
    · rw [isNow, if_pos (Or.inl rfl)]
    · rw [if_neg, holds.held other inReviews]
      intro isKey
      cases isKey with
      | inl sameKey => exact notNow (reviewKey_inj sameKey)
      | inr isLatest => exact reviewKey_ne_latestKey _ _ isLatest
  · exact distinct
  · intro other inChanged
    rcases others other inChanged with rfl | ⟨inReviews, -⟩
    · exact formed
    · exact holds.formed other inReviews
  · intro other inChanged
    rcases others other inChanged with rfl | ⟨inReviews, -⟩
    · rw [isNow]
      exact passed.2
    · exact (holds.past other inReviews).trans (passed.1.trans passed.2)
  · exact holds.placed_after wrote fun _ => Or.inl rfl

theorem enqueued (fresh : ∀ review ∈ reviews, ¬ReviewBooks.WrittenAt shared.moment.nowMs review)
    {traceId reviewKind : String} {patch : PatchPlan} {proposalRef : Option String}
    (wrote : Wrote queue sessionId shared.moment.nowMs
      (newItem sessionId traceId patch reviewKind proposalRef shared.moment.nowMs) shared after) :
    Holds queue sessionId after (reviews ++ [⟨sessionId, patch,
      newItem sessionId traceId patch reviewKind proposalRef shared.moment.nowMs, none⟩]) := by
  refine @write_own _ _ _ _ _ holds _ ⟨sessionId, patch,
    newItem sessionId traceId patch reviewKind proposalRef shared.moment.nowMs, none⟩ _ wrote rfl
    (mem_append_right _ (mem_singleton_self _)) ?_ ?_ ?_ ?_
  · intro other membership
    rcases mem_append.mp membership with earlier | isNew
    · exact Or.inr ⟨earlier, fresh other earlier⟩
    · exact Or.inl (mem_singleton.mp isNew)
  · intro other earlier
    exact Or.inl (mem_append_left _ earlier)
  · refine ⟨⟨rfl, rfl, ⟨traceId, rfl⟩, le_rfl, ?_⟩, rfl⟩
    intro isHeal
    have isManual : mustManualReview reviewKind = true := by
      obtain rfl : reviewKind = "heal_proposal" := isHeal
      decide
    simp only [newItem, isManual, Bool.true_or, if_true]
  · rw [map_append, map_singleton]
    refine List.Nodup.append holds.distinct (nodup_singleton _) ?_
    intro id isEarlier isNew
    obtain ⟨review, earlier, rfl⟩ := mem_map.mp isEarlier
    -- an id of this millisecond is that of a review that was written in it
    obtain ⟨⟨-, -, ⟨otherTrace, isId⟩, created, -⟩, -⟩ := holds.formed review earlier
    have sameTime := reviewIdOf_inj (isId.symm.trans (mem_singleton.mp isNew))
    rw [sameTime] at created
    exact fresh review earlier
      (UInt64.toNat_inj.mp (le_antisymm (holds.past review earlier) created))

theorem decided {review : Review}
    (inReviews : review ∈ reviews) {now : UInt64}
    (alone : ∀ other ∈ reviews, ReviewBooks.WrittenAt now other →
      other.item.reviewId = review.item.reviewId)
    {status : PatchReviewStatus} {reviewer reason : String}
    (wrote : Wrote queue sessionId now (review.current.decided status reviewer reason now)
      shared after) :
    Holds queue sessionId after (reviews.map (Review.take
      (review.current.decided status reviewer reason now) ⟨status, reviewer, reason, now⟩)) := by
  obtain ⟨formed, isSession⟩ := holds.formed review inReviews
  let decision : ReviewDecision := ⟨status, reviewer, reason, now⟩
  let item := review.current.decided status reviewer reason now
  have isItem : item = ({ review with decision := some decision } : Review).current :=
    review.decided_current status reviewer reason now
  have itemId : item.reviewId = review.item.reviewId := by
    rw [isItem, Review.current_reviewId]
  have itemSession : item.sessionId = sessionId := by
    rw [isItem, Review.current_sessionId]
    exact formed.session.trans isSession
  have taken : review.take item decision = { review with decision := some decision } :=
    if_pos ⟨isSession.trans itemSession.symm, itemId.symm⟩
  have passed := holds.between wrote
  change Wrote queue sessionId now item shared after at wrote
  rw [isItem] at wrote
  refine holds.write_own wrote rfl (mem_map.mpr ⟨review, inReviews, taken⟩) ?_ ?_ ?_ ?_
  · intro other membership
    obtain ⟨earlier, inEarlier, rfl⟩ := mem_map.mp membership
    by_cases sameId : earlier.item.reviewId = review.item.reviewId
    · left
      rw [inj_on_of_nodup_map holds.distinct inEarlier inReviews sameId]
      exact taken
    · right
      have untouched : earlier.take item decision = earlier :=
        if_neg fun both => sameId (both.2.trans itemId)
      rw [untouched]
      exact ⟨inEarlier, fun isNow => sameId (alone earlier inEarlier isNow)⟩
  · intro other inOther
    by_cases sameId : other.item.reviewId = review.item.reviewId
    · exact Or.inr sameId
    · left
      refine mem_map.mpr ⟨other, inOther, if_neg fun both => sameId (both.2.trans itemId)⟩
  · refine ⟨⟨formed.session, formed.patch, formed.id, ?_, formed.queued⟩, isSession⟩
    exact formed.created.trans ((holds.past review inReviews).trans passed.1)
  · rw [map_map]
    have sameIds : ((fun other : Review => other.item.reviewId) ∘ Review.take item decision) =
        fun other : Review => other.item.reviewId := by
      funext other
      simp only [Function.comp_apply, Review.take_item]
    rw [sameIds]
    exact holds.distinct

end

end Holds

/-! ## Steps -/

namespace ReviewBooks

variable {queue : PatchReviewQueue} {sessionId : String} {books : ReviewBooks}

/-- The rows of a session hold what was enqueued for it. -/
def Kept (queue : PatchReviewQueue) (sessionId : String) (books : ReviewBooks) : Prop :=
  Holds queue sessionId books.shared (books.ofSession sessionId)

theorem Kept.shows (unmirrored : queue.store.mirror = none)
    (kept : books.Kept queue sessionId) : books.Shows queue sessionId := by
  constructor
  · refine ⟨queue.listed books.shared sessionId, ?_, kept.listed_perm⟩
    rw [run_list unmirrored]
  · intro review inSession
    rw [review.current_patch]
    exact (kept.formed review inSession).1.patch

def next (queue : PatchReviewQueue) (books : ReviewBooks) (call : ReviewCall) : ReviewBooks :=
  let ran := (queue.run call).run books.shared
  ⟨ran.2, match ran.1 with
    | .ok item => call.log item books.log
    | .error _ => books.log⟩

theorem next_of_ok {call : ReviewCall} {item : PatchReviewItem} {after : Shared}
    (ran : (queue.run call).run books.shared = (.ok item, after)) :
    books.next queue call = ⟨after, call.log item books.log⟩ := by
  simp only [next, ran]

theorem next_of_error {call : ReviewCall} {message : String} {after : Shared}
    (ran : (queue.run call).run books.shared = (.error message, after)) :
    books.next queue call = ⟨after, books.log⟩ := by
  simp only [next, ran]

theorem step_eq_next (host : Nat → Moment) (op : ReviewOp) :
    ((reviewRuns queue host).step books op).2 = books.next queue op.call := by
  rw [next, ← queue.perform_eq_run]
  rfl

theorem ofSession_map (after : Shared) (take : Review → Review)
    (keeps : ∀ review, (take review).sessionId = review.sessionId) :
    ofSession sessionId ⟨after, books.log.map take⟩ =
      (books.ofSession sessionId).map take := by
  rw [ofSession, filter_map, ofSession]
  congr 1
  apply filter_congr
  intro review _
  simp only [Function.comp_apply, keeps]

theorem ofSession_snoc (after : Shared) (review : Review) :
    ofSession sessionId ⟨after, books.log ++ [review]⟩ =
      if review.sessionId = sessionId then books.ofSession sessionId ++ [review]
      else books.ofSession sessionId := by
  rw [ofSession, filter_append, ofSession]
  by_cases same : review.sessionId = sessionId
  · rw [if_pos same, filter_singleton, decide_eq_true same]
    rfl
  · rw [if_neg same, filter_singleton, decide_eq_false same]
    exact append_nil _

theorem Kept.found_elsewhere (kept : books.Kept queue sessionId) {other reviewId : String}
    {item : PatchReviewItem} (apart : other ≠ sessionId)
    (found : (queue.listed books.shared other).find? (·.reviewId = reviewId) = some item) :
    startsWith other (sessionId ++ ":") = false ∧
      (item.sessionId = sessionId → startsWith sessionId (other ++ ":") = true) := by
  obtain ⟨key, text, starts, isText, decoded⟩ := mem_seen_iff.mp
    (Table.mem_of_mem_values_newest (mem_of_find?_eq_some found))
  constructor
  · -- the keys of this session do not begin with the longer name
    rw [Bool.eq_false_iff]
    intro below
    have longer := (startsWith_iff.mp below).length_le
    have underOwn : startsWith key (reviewPrefix sessionId) = true := by
      obtain ⟨rest, rfl⟩ := startsWith_iff_exists.mp starts
      obtain ⟨gap, rfl⟩ := startsWith_iff_exists.mp below
      apply startsWith_iff_exists.mpr
      exact ⟨gap ++ ":" ++ rest, by simp only [reviewPrefix, String.append_assoc]⟩
    obtain ⟨review, -, copy, -, -, isKey⟩ := kept.rows key text underOwn isText
    have above : sessionId = other ∨ startsWith sessionId (other ++ ":") = true := by
      rcases isKey with rfl | rfl
      · exact (startsWith_reviewPrefix not_mem_latest).mp starts
      · exact (startsWith_reviewPrefix (not_mem_repr (by decide) _)).mp starts
    rcases above with same | begins
    · exact apart same.symm
    · have shorter := (startsWith_iff.mp begins).length_le
      simp only [String.toList_append, length_append] at longer shorter
      have colon : ":".toList.length = 1 := by decide
      omega
  · intro isOwn
    exact (kept.placed other key text item starts isText decoded isOwn).resolve_left apart

variable (unmirrored : queue.store.mirror = none)
include unmirrored

section
variable (kept : books.Kept queue sessionId)
include kept

theorem Kept.enqueue {other traceId reviewKind : String}
    {patch : PatchPlan} {proposalRef : Option String}
    (undisturbed : books.Undisturbed sessionId
      (.enqueue other traceId patch reviewKind proposalRef)) :
    (books.next queue (.enqueue other traceId patch reviewKind proposalRef)).Kept queue
      sessionId := by
  obtain ⟨fresh, notBelow⟩ := undisturbed
  obtain ⟨after, ran, wrote⟩ := run_enqueueInternal unmirrored other traceId
    patch reviewKind proposalRef books.shared
  rw [@next_of_ok queue books (.enqueue other traceId patch reviewKind proposalRef) _ _ ran, Kept,
    ReviewCall.log, ofSession_snoc]
  by_cases same : other = sessionId
  · subst same
    rw [if_pos rfl]
    exact Holds.enqueued kept (fresh rfl) wrote
  · rw [if_neg same]
    exact Holds.write_elsewhere kept wrote same notBelow fun isOwn => absurd isOwn same

theorem Kept.decide {other reviewId reviewer reason : String} {status : PatchReviewStatus}
    (undisturbed : books.Undisturbed sessionId (.decide other reviewId status reviewer reason)) :
    (books.next queue (.decide other reviewId status reviewer reason)).Kept queue sessionId := by
  obtain ⟨alone, notNamed⟩ := undisturbed
  cases found : (queue.listed books.shared other).find? (·.reviewId = reviewId) with
  | none =>
    have ran := run_decideReview_missing unmirrored status reviewer reason found
    rw [@next_of_error queue books (.decide other reviewId status reviewer reason) _ _ ran]
    exact Holds.after_reads kept 1
  | some item =>
    obtain ⟨after, ran, wrote⟩ :=
      run_decideReview_found unmirrored status reviewer reason found
    rw [@next_of_ok queue books (.decide other reviewId status reviewer reason) _ _ ran, Kept,
      ReviewCall.log, ofSession_map _ _ fun review => review.take_sessionId _ _]
    by_cases same : other = sessionId
    · subst same
      obtain ⟨review, inSession, rfl, isId⟩ := Holds.found_iff kept found
      refine Holds.decided kept inSession ?_ wrote
      intro each inEach isNow
      rw [isId]
      exact alone rfl ⟨review, inSession, isId⟩ each inEach isNow
    · obtain ⟨notBelow, above⟩ := kept.found_elsewhere same found
      have untouched : ∀ review ∈ books.ofSession sessionId, review.take
          (item.decided status reviewer reason (books.shared.later 1).nowMs)
          ⟨status, reviewer, reason, (books.shared.later 1).nowMs⟩ = review := by
        intro review inSession
        apply if_neg
        intro both
        obtain ⟨sameSession, sameId⟩ := both
        have isSession := (kept.formed review inSession).2
        have isId : item.reviewId = reviewId := by simpa using find?_some found
        exact notNamed (above (sameSession.symm.trans isSession)) review inSession
          (sameId.trans isId)
      have unchanged := map_congr_left untouched
      rw [map_id'] at unchanged
      have holds := Holds.write_elsewhere kept wrote same notBelow above
      rw [← unchanged] at holds
      exact holds

theorem Kept.next {call : ReviewCall} (undisturbed : books.Undisturbed sessionId call) :
    (books.next queue call).Kept queue sessionId := by
  cases call with
  | enqueue other traceId patch reviewKind proposalRef =>
    exact kept.enqueue unmirrored undisturbed
  | decide other reviewId status reviewer reason =>
    exact kept.decide unmirrored undisturbed

end

end ReviewBooks

end AutoLoop.GitmemoryCore
