import AutoLoop.Bus.Delivery

/-!
# Retries that wait for the message

As long as a message is retried and acknowledged only while no copy of it is on its way,
its retry count tells how often it was delivered, and the limit on retries holds.
-/

namespace AutoLoop.Bus

open List

namespace MessageBus

/-- A message is acknowledged and retried only while no copy of it is on its way. -/
def Awaited (bus : MessageBus) : BusEvent → Prop
  | .publishAgentMessage .. => ¬bus.Published (messageIdOf bus.nextMessageSeq)
  | .ackAgentMessage messageId | .retryAgentMessage messageId =>
    (bus.inFlightAgent.get messageId).isSome → bus.copies messageId = 0
  | _ => True

/-- The message was delivered so often, within its limit and without an acknowledgement. -/
structure Due (bus : MessageBus) (message : AgentMessage) (deliveries : Nat) : Prop where
  count : bus.log.count (.consumed message.messageId) = deliveries
  within : message.retryCount ≤ message.maxRetries
  unacked : .acked message.messageId ∉ bus.log
  published : bus.Published message.messageId
  limit : ∀ original, .published original ∈ bus.log →
    original.messageId = message.messageId → original.maxRetries = message.maxRetries

/-- The retry counts are those of the deliveries. -/
structure Counted (bus : MessageBus) : Prop where
  keyed : ∀ messageId message, bus.inFlightAgent.get messageId = some message →
    message.messageId = messageId
  single : ∀ messageId, bus.copies messageId ≤ 1
  known : ∀ messageId, .consumed messageId ∈ bus.log ∨ .acked messageId ∈ bus.log →
    bus.Published messageId
  onWay : ∀ message ∈ bus.travelling, bus.Due message message.retryCount.toNat
  flying : ∀ messageId message, bus.inFlightAgent.get messageId = some message →
    bus.copies messageId = 0 → bus.Due message (message.retryCount.toNat + 1)
  bounded : ∀ message, .published message ∈ bus.log →
    bus.log.count (.consumed message.messageId) ≤ message.maxRetries.toNat + 1
  final : ∀ later messageId earlier, bus.log = later ++ .consumed messageId :: earlier →
    .acked messageId ∉ earlier

theorem Due.frame {bus after : MessageBus} {message : AgentMessage} {deliveries : Nat}
    (due : bus.Due message deliveries) {entry : BusRecord} (grown : after.log = entry :: bus.log)
    (notConsumed : entry ≠ .consumed message.messageId)
    (notAcked : entry ≠ .acked message.messageId)
    (notPublished : ∀ original, entry = .published original →
      original.messageId ≠ message.messageId) : after.Due message deliveries where
  count := by rw [grown, count_cons_of_ne notConsumed, due.count]
  within := due.within
  unacked := by
    rw [grown, mem_cons, not_or]
    exact ⟨notAcked.symm, due.unacked⟩
  published := by
    obtain ⟨original, isRecord, same⟩ := due.published
    exact ⟨original, grown ▸ mem_cons_of_mem entry isRecord, same⟩
  limit original isRecord same := by
    rw [grown, mem_cons] at isRecord
    rcases isRecord with isEntry | isOld
    · exact absurd same (notPublished original isEntry.symm)
    · exact due.limit original isOld same

theorem mem_travelling_of_copies {bus : MessageBus} {message : AgentMessage}
    (membership : message ∈ bus.travelling) : 0 < bus.copies message.messageId :=
  countP_pos_iff.mpr ⟨message, membership, by simp⟩

theorem Counted.of_same {bus after : MessageBus} (counted : Counted bus)
    (sameLog : after.log = bus.log) (moved : after.travelling.Perm bus.travelling)
    (sameFlight : after.inFlightAgent = bus.inFlightAgent) : Counted after := by
  have sameDue : ∀ message deliveries, bus.Due message deliveries → after.Due message deliveries :=
    fun message deliveries due =>
      ⟨sameLog ▸ due.count, due.within, sameLog ▸ due.unacked, by
        simpa only [Published, sameLog] using due.published, sameLog ▸ due.limit⟩
  have sameCopies : ∀ messageId, after.copies messageId = bus.copies messageId :=
    fun _ => moved.countP_eq _
  refine ⟨sameFlight ▸ counted.keyed, fun messageId => ?_, fun messageId isRecord => ?_,
    fun message membership => ?_, fun messageId message found none => ?_, ?_, ?_⟩
  · rw [sameCopies]
    exact counted.single messageId
  · rw [sameLog] at isRecord
    simpa only [Published, sameLog] using counted.known messageId isRecord
  · exact sameDue _ _ (counted.onWay message (moved.mem_iff.mp membership))
  · rw [sameFlight] at found
    rw [sameCopies] at none
    exact sameDue _ _ (counted.flying messageId message found none)
  · rw [sameLog]
    exact counted.bounded
  · rw [sameLog]
    exact counted.final

theorem final_cons {log : List BusRecord} {entry : BusRecord}
    (final : ∀ later messageId earlier, log = later ++ .consumed messageId :: earlier →
      .acked messageId ∉ earlier)
    (first : ∀ messageId, entry = .consumed messageId → .acked messageId ∉ log) :
    ∀ later messageId earlier, entry :: log = later ++ .consumed messageId :: earlier →
      .acked messageId ∉ earlier := by
  intro later messageId earlier shape
  rcases cons_eq_append_iff.mp shape with ⟨rfl, same⟩ | ⟨rest, rfl, same⟩
  · obtain ⟨isEntry, rfl⟩ := List.cons.inj same
    exact first messageId isEntry.symm
  · exact final rest messageId earlier same

section
variable {bus : MessageBus} (counted : Counted bus)
include counted

theorem Counted.publish (topic : AgentMessageTopic) (sessionId content : String)
    (maxRetries : UInt8) (fresh : ¬bus.Published (messageIdOf bus.nextMessageSeq)) :
    Counted (bus.publishAgentMessage topic sessionId content maxRetries) := by
  have notOnWay : bus.copies (messageIdOf bus.nextMessageSeq) = 0 := by
    rw [copies, countP_eq_zero]
    intro message membership isOne
    exact fresh ((of_decide_eq_true isOne) ▸ (counted.onWay message membership).published)
  have unconsumed : .consumed (messageIdOf bus.nextMessageSeq) ∉ bus.log :=
    fun isRecord => fresh (counted.known _ (Or.inl isRecord))
  have unacked : .acked (messageIdOf bus.nextMessageSeq) ∉ bus.log :=
    fun isRecord => fresh (counted.known _ (Or.inr isRecord))
  have dueAfter : ∀ message deliveries, bus.Due message deliveries →
      (bus.publishAgentMessage topic sessionId content maxRetries).Due message deliveries := by
    intro message deliveries due
    refine due.frame rfl (by rintro ⟨⟩) (by rintro ⟨⟩) ?_
    rintro original isNew same
    cases isNew
    change messageIdOf bus.nextMessageSeq = message.messageId at same
    exact fresh (same ▸ due.published)
  have sameCount : ∀ messageId,
      (bus.publishAgentMessage topic sessionId content maxRetries).log.count
        (.consumed messageId) = bus.log.count (.consumed messageId) := by
    intro messageId
    rw [publishAgentMessage, count_cons_of_ne]
    rintro ⟨⟩
  refine ⟨counted.keyed, fun messageId => ?_, fun messageId isRecord => ?_,
    fun message membership => ?_, fun messageId message found none => ?_,
    fun message isRecord => ?_, final_cons counted.final (by rintro messageId ⟨⟩)⟩
  · rw [copies_publishAgentMessage]
    split
    · next isNew => rw [← isNew, notOnWay]
    · exact counted.single messageId
  · simp only [publishAgentMessage, mem_cons, reduceCtorEq, false_or] at isRecord
    obtain ⟨original, isOld, same⟩ := counted.known messageId isRecord
    exact ⟨original, mem_cons_of_mem _ isOld, same⟩
  · rcases mem_cons.mp ((travelling_publishAgentMessage ..).mem_iff.mp membership) with
      rfl | isOld
    · refine ⟨?_, Nat.zero_le _, ?_, ⟨_, mem_cons_self, rfl⟩, ?_⟩
      · exact (sameCount _).trans (count_eq_zero.mpr unconsumed)
      · simpa [publishAgentMessage] using unacked
      · intro original isRecord same
        rcases mem_cons.mp isRecord with isNew | isOld
        · cases isNew
          rfl
        · exact absurd ⟨original, isOld, same⟩ fresh
    · exact dueAfter _ _ (counted.onWay message isOld)
  · rw [copies_publishAgentMessage] at none
    exact dueAfter _ _ (counted.flying messageId message found (by omega))
  · rw [sameCount]
    rcases mem_cons.mp isRecord with isNew | isOld
    · cases isNew
      exact (count_eq_zero.mpr unconsumed).trans_le (Nat.zero_le _)
    · exact counted.bounded message isOld

theorem Counted.record (index : Nat) :
    Counted (bus.record index).2 := by
  cases isMessage : bus.received[index]? with
  | none =>
    simp only [MessageBus.record, isMessage]
    exact counted
  | some message =>
    have moved := travelling_record isMessage
    have fewer := fun messageId => copies_record isMessage messageId
    have due := counted.onWay message (moved.mem_iff.mp mem_cons_self)
    have grown : (bus.record index).2.log = .consumed message.messageId :: bus.log := by
      simp only [MessageBus.record, isMessage]
    have gone : (bus.record index).2.copies message.messageId = 0 := by
      have taken := fewer message.messageId
      have atMost := counted.single message.messageId
      rw [if_pos rfl] at taken
      omega
    have flies : ∀ messageId, (bus.record index).2.inFlightAgent.get messageId =
        if messageId = message.messageId then some message
        else bus.inFlightAgent.get messageId := by
      intro messageId
      simp only [MessageBus.record, isMessage, Table.get_insert]
    have publishedAfter : ∀ messageId, bus.Published messageId →
        (bus.record index).2.Published messageId := by
      rintro messageId ⟨original, isOld, same⟩
      exact ⟨original, grown ▸ mem_cons_of_mem _ isOld, same⟩
    have dueAfter : ∀ other deliveries, other.messageId ≠ message.messageId →
        bus.Due other deliveries → (bus.record index).2.Due other deliveries := by
      intro other deliveries differs dueBefore
      refine dueBefore.frame grown ?_ (by rintro ⟨⟩) (by rintro original ⟨⟩)
      exact fun same => differs (BusRecord.consumed.inj same).symm
    refine ⟨fun messageId other found => ?_, fun messageId => ?_, fun messageId isRecord => ?_,
      fun other membership => ?_, fun messageId other found none => ?_,
      fun original isRecord => ?_, ?_⟩
    · rw [flies] at found
      split at found
      · next isOne =>
        cases found
        exact isOne.symm
      · exact counted.keyed messageId other found
    · have taken := fewer messageId
      have atMost := counted.single messageId
      omega
    · rw [grown, mem_cons, mem_cons] at isRecord
      rcases isRecord with (isNew | isOld) | (isNew | isOld)
      · cases isNew
        exact publishedAfter _ due.published
      · exact publishedAfter _ (counted.known messageId (Or.inl isOld))
      · cases isNew
      · exact publishedAfter _ (counted.known messageId (Or.inr isOld))
    · have differs : other.messageId ≠ message.messageId := by
        intro same
        have somewhere := mem_travelling_of_copies membership
        rw [same, gone] at somewhere
        cases somewhere
      have wasOnWay := moved.mem_iff.mp (mem_cons_of_mem _ membership)
      exact dueAfter other _ differs (counted.onWay other wasOnWay)
    · rw [flies] at found
      split at found
      · next isOne =>
        cases found
        refine ⟨?_, due.within, ?_, publishedAfter _ due.published, ?_⟩
        · rw [grown, count_cons_self, due.count]
        · rw [grown, mem_cons, not_or]
          exact ⟨(by rintro ⟨⟩), due.unacked⟩
        · intro original isRecord same
          rw [grown, mem_cons] at isRecord
          exact due.limit original (isRecord.resolve_left (by rintro ⟨⟩)) same
      · next isOther =>
        have taken := fewer messageId
        rw [if_neg (Ne.symm isOther)] at taken
        have isKey := counted.keyed messageId other found
        exact dueAfter other _ (isKey ▸ isOther)
          (counted.flying messageId other found (by omega))
    · rw [grown, mem_cons] at isRecord
      have isOld := isRecord.resolve_left (by rintro ⟨⟩)
      rw [grown]
      by_cases isOne : original.messageId = message.messageId
      · have limit := due.limit original isOld isOne
        have within := UInt8.le_iff_toNat_le.mp due.within
        rw [isOne, count_cons_self, due.count, limit]
        omega
      · rw [count_cons_of_ne]
        · exact counted.bounded original isOld
        · exact fun same => isOne (BusRecord.consumed.inj same).symm
    · rw [grown]
      apply final_cons counted.final
      intro messageId same
      cases same
      exact due.unacked

theorem Counted.close {messageId : String} {message : AgentMessage}
    (found : bus.inFlightAgent.get messageId = some message) (arrived : bus.copies messageId = 0)
    {entry : BusRecord} (closes : entry = .acked messageId ∨ entry = .gaveUp messageId) :
    Counted { bus with
      inFlightAgent := bus.inFlightAgent.erase messageId
      log := entry :: bus.log } := by
  have due := counted.flying messageId message found arrived
  have isKey := counted.keyed messageId message found
  have notConsumed : ∀ other, entry ≠ .consumed other := by
    rcases closes with rfl | rfl
    · rintro _ ⟨⟩
    · rintro _ ⟨⟩
  have notPublished : ∀ original, entry ≠ .published original := by
    rcases closes with rfl | rfl
    · rintro _ ⟨⟩
    · rintro _ ⟨⟩
  have ackedOne : ∀ other, entry = .acked other → other = messageId := by
    rcases closes with rfl | rfl
    · intro other same
      cases same
      rfl
    · rintro _ ⟨⟩
  generalize isAfter : MessageBus.mk bus.senders bus.channel bus.received
    (bus.inFlightAgent.erase messageId) bus.nextMessageSeq (entry :: bus.log) = after
  have grown : after.log = entry :: bus.log := isAfter ▸ rfl
  have sameCopies : ∀ other, after.copies other = bus.copies other := fun _ => isAfter ▸ rfl
  have flies : ∀ other, after.inFlightAgent.get other =
      if other = messageId then none else bus.inFlightAgent.get other := by
    intro other
    rw [← isAfter]
    exact Table.get_erase ..
  have dueAfter : ∀ other deliveries, other.messageId ≠ messageId → bus.Due other deliveries →
      after.Due other deliveries := by
    intro other deliveries differs dueBefore
    exact dueBefore.frame grown (notConsumed _) (fun same => differs (ackedOne _ same))
      fun original isNew => absurd isNew (notPublished original)
  have publishedAfter : ∀ other, bus.Published other → after.Published other := by
    rintro other ⟨original, isOld, same⟩
    exact ⟨original, grown ▸ mem_cons_of_mem _ isOld, same⟩
  refine ⟨fun other held heldFound => ?_, fun other => ?_, fun other isRecord => ?_,
    fun other membership => ?_, fun other held heldFound none => ?_,
    fun original isRecord => ?_, ?_⟩
  · rw [flies] at heldFound
    split at heldFound
    · cases heldFound
    · exact counted.keyed other held heldFound
  · rw [sameCopies]
    exact counted.single other
  · rw [grown, mem_cons, mem_cons] at isRecord
    rcases isRecord with (isNew | isOld) | (isNew | isOld)
    · exact absurd isNew.symm (notConsumed other)
    · exact publishedAfter _ (counted.known other (Or.inl isOld))
    · exact publishedAfter _ (ackedOne other isNew.symm ▸ isKey ▸ due.published)
    · exact publishedAfter _ (counted.known other (Or.inr isOld))
  · have differs : other.messageId ≠ messageId := by
      intro same
      have somewhere := mem_travelling_of_copies membership
      rw [same, sameCopies, arrived] at somewhere
      cases somewhere
    rw [← isAfter] at membership
    exact dueAfter other _ differs (counted.onWay other membership)
  · rw [flies] at heldFound
    split at heldFound
    · cases heldFound
    · next isOther =>
      rw [sameCopies] at none
      have heldKey := counted.keyed other held heldFound
      exact dueAfter held _ (heldKey ▸ isOther) (counted.flying other held heldFound none)
  · rw [grown, mem_cons] at isRecord
    rw [grown, count_cons_of_ne (notConsumed _)]
    exact counted.bounded original
      (isRecord.resolve_left fun same => notPublished original same.symm)
  · rw [grown]
    exact final_cons counted.final fun other same => absurd same (notConsumed other)

end

theorem toNat_saturatingNext {count limit : UInt8} (below : count < limit) :
    (saturatingNext count).toNat = count.toNat + 1 := by
  have small := UInt8.lt_iff_toNat_lt.mp below
  have bound := limit.toNat_lt
  have notMax : count ≠ 255 := by
    rintro rfl
    change 255 < limit.toNat at small
    omega
  rw [saturatingNext, if_neg notMax, UInt8.toNat_add]
  change (count.toNat + 1) % 256 = count.toNat + 1
  omega

theorem Counted.requeue {bus : MessageBus} (counted : Counted bus) {messageId : String}
    {message : AgentMessage} (found : bus.inFlightAgent.get messageId = some message)
    (arrived : bus.copies messageId = 0) (below : message.retryCount < message.maxRetries) :
    Counted (bus.requeue messageId
      { message with retryCount := saturatingNext message.retryCount }) := by
  have due := counted.flying messageId message found arrived
  have isKey := counted.keyed messageId message found
  have next := toNat_saturatingNext below
  have more := copies_requeue bus messageId
    { message with retryCount := saturatingNext message.retryCount }
  have dueAgain : bus.Due { message with retryCount := saturatingNext message.retryCount }
      (saturatingNext message.retryCount).toNat := by
    refine ⟨due.count.trans next.symm, ?_, due.unacked, due.published, due.limit⟩
    have small := UInt8.lt_iff_toNat_lt.mp below
    apply UInt8.le_iff_toNat_le.mpr
    rw [next]
    exact small
  refine ⟨fun other held heldFound => ?_, fun other => ?_, counted.known,
    fun other membership => ?_, fun other held heldFound none => ?_, counted.bounded,
    counted.final⟩
  · rw [MessageBus.requeue, Table.get_insert] at heldFound
    split at heldFound
    · next isOne =>
      cases heldFound
      exact isKey.trans isOne.symm
    · exact counted.keyed other held heldFound
  · rw [more]
    split
    · next isOne => rw [← isOne, isKey, arrived]
    · exact counted.single other
  · rcases mem_cons.mp ((travelling_requeue ..).mem_iff.mp membership) with rfl | isOld
    · exact ⟨dueAgain.count, dueAgain.within, dueAgain.unacked, dueAgain.published, dueAgain.limit⟩
    · have dueOther := counted.onWay other isOld
      exact ⟨dueOther.count, dueOther.within, dueOther.unacked, dueOther.published, dueOther.limit⟩
  · rw [more] at none
    rw [MessageBus.requeue, Table.get_insert] at heldFound
    split at heldFound
    · next isOne =>
      rw [if_pos (isKey.trans isOne.symm)] at none
      omega
    · have dueOther := counted.flying other held heldFound (by omega)
      exact ⟨dueOther.count, dueOther.within, dueOther.unacked, dueOther.published, dueOther.limit⟩

theorem counted_initial : Counted messageBus.initial where
  keyed := fun _ _ found => nomatch found
  single := fun _ => Nat.zero_le 1
  known := fun messageId isRecord => by simp [messageBus] at isRecord
  onWay := fun _ membership => nomatch membership
  flying := fun _ _ found => nomatch found
  bounded := fun _ isRecord => nomatch isRecord
  final := fun later _ _ shape => by simp [messageBus] at shape

theorem Counted.step {bus : MessageBus} (counted : Counted bus) {event : BusEvent}
    (awaited : bus.Awaited event) : Counted (bus.step event).2 := by
  cases event with
  | publishAgentMessage topic sessionId content maxRetries =>
    exact counted.publish topic sessionId content maxRetries awaited
  | send index =>
    exact counted.of_same (log_send bus index) (travelling_send bus index)
      (inFlightAgent_send bus index)
  | receive =>
    exact counted.of_same (log_receive bus) (travelling_receive bus) (inFlightAgent_receive bus)
  | record index => exact counted.record index
  | ackAgentMessage messageId =>
    simp only [MessageBus.step, ackAgentMessage]
    cases found : bus.inFlightAgent.get messageId with
    | none => exact counted
    | some message =>
      exact counted.close found (awaited (by rw [found]; rfl)) (Or.inl rfl)
  | retryAgentMessage messageId =>
    simp only [MessageBus.step, retryAgentMessage]
    cases found : bus.inFlightAgent.get messageId with
    | none => exact counted
    | some message =>
      have arrived := awaited (by rw [found]; rfl)
      dsimp only
      split
      · exact counted.close found arrived (Or.inr rfl)
      · next again => exact counted.requeue found arrived (UInt8.not_le.mp again)

theorem limits_of_awaited {events : List BusEvent}
    (awaited : messageBus.EachStep Awaited messageBus.initial events) :
    messageBus.Always Limits messageBus.initial events := by
  have kept : ∀ (bus : MessageBus) (event : BusEvent), Counted bus → bus.Awaited event →
      Counted (messageBus.step bus event).2 := fun _ _ counted meets => counted.step meets
  have always := awaited.always counted_initial kept
  exact always.mono fun _ counted => ⟨counted.bounded, counted.final⟩

/-- In every state of a run each message is in one place and delivered within its limits
exactly when no retry comes to something and no publication hands out an id for the second
time.  The limits alone hold as long as messages are retried and acknowledged only while no
copy of them is on its way. -/
theorem delivery_law (events : List BusEvent) :
    (messageBus.Always Delivers messageBus.initial events ↔
      messageBus.EachStep Single messageBus.initial events) ∧
    (messageBus.EachStep Awaited messageBus.initial events →
      messageBus.Always Limits messageBus.initial events) := by
  have kept : ∀ (bus : MessageBus) (event : BusEvent), Once bus → bus.Single event →
      Once (messageBus.step bus event).2 := fun _ _ once single => once.step single
  exact ⟨Component.always_iff_of_invariant (fun _ once => Once.delivers once) kept
    (fun _ _ once delivers => once.single delivers) once_initial, limits_of_awaited⟩

/-- A message that may be retried twice is retried twice after its first delivery, and once
more after the delivery of the first retry; the first copy is acknowledged as the last ones
wait. -/
def overtakenRetries : List BusEvent :=
  let messageId := messageIdOf 1
  [.publishAgentMessage .taskDispatch "s" "c" 2, .send 0, .receive, .record 0,
    .retryAgentMessage messageId, .retryAgentMessage messageId, .send 0, .send 0,
    .receive, .record 0, .retryAgentMessage messageId, .send 0,
    .ackAgentMessage messageId, .receive, .record 0, .receive, .record 0]

/-- The message is delivered four times, and twice after its acknowledgement. -/
theorem acked_message_returns :
    ¬messageBus.Always Delivers messageBus.initial overtakenRetries := by
  intro always
  have delivers := always.run
  have isLog : (messageBus.run messageBus.initial overtakenRetries).2.log =
      [.consumed (messageIdOf 1), .consumed (messageIdOf 1), .acked (messageIdOf 1),
        .consumed (messageIdOf 1), .consumed (messageIdOf 1),
        .published ⟨messageIdOf 1, .taskDispatch, "s", "c", 0, 2⟩] := by decide
  have final := delivers.final
  rw [isLog] at final
  exact final [] (messageIdOf 1) _ rfl (by simp)

end MessageBus

end AutoLoop.Bus
