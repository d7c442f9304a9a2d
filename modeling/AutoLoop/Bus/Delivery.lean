import AutoLoop.Foundation.Component
import AutoLoop.Foundation.Hex
import AutoLoop.Foundation.Table
import Mathlib.Data.List.Count
import Mathlib.Data.List.Perm.Basic
import Mathlib.Data.String.Basic

/-!
# The message bus

Agent messages go through a bounded channel and, once received, into a map of messages
in flight, where they wait for an acknowledgement or a retry.  A call runs from one point
where it waits to the next: a sender waits for room in the channel, a consumer for the
map after it has received a message.
-/

namespace AutoLoop.Bus

inductive AgentMessageTopic where
  | taskDispatch
  | taskResult
  | taskError
  deriving DecidableEq, Repr

def AgentMessageTopic.asStr : AgentMessageTopic → String
  | .taskDispatch => "task.dispatch"
  | .taskResult => "task.result"
  | .taskError => "task.error"

structure AgentMessage where
  messageId : String
  topic : AgentMessageTopic
  sessionId : String
  content : String
  retryCount : UInt8
  maxRetries : UInt8
  deriving DecidableEq, Repr

/-- A call that waits for room in the channel. -/
structure Sender where
  message : AgentMessage
  isRetry : Bool
  deriving DecidableEq, Repr

/-- What has happened to messages, for statements about runs. -/
inductive BusRecord where
  | published (message : AgentMessage)
  | consumed (messageId : String)
  | acked (messageId : String)
  | gaveUp (messageId : String)
  deriving DecidableEq, Repr

structure MessageBus where
  senders : List Sender := []
  channel : List AgentMessage := []
  /-- The messages that consumers have received and not yet put into the map. -/
  received : List AgentMessage := []
  inFlightAgent : Table String AgentMessage := .empty
  nextMessageSeq : UInt64 := 1
  log : List BusRecord := []

/-- Calls, and waiting calls that go on. -/
inductive BusEvent where
  | publishAgentMessage (topic : AgentMessageTopic) (sessionId content : String)
      (maxRetries : UInt8)
  | send (index : Nat)
  | receive
  | record (index : Nat)
  | ackAgentMessage (messageId : String)
  | retryAgentMessage (messageId : String)
  deriving DecidableEq, Repr

/-- How a call ends, or that it waits. -/
inductive BusAnswer where
  | waits
  | published (messageId : String)
  | consumed (message : AgentMessage)
  | acked (found : Bool)
  | retried (again : Bool)
  deriving DecidableEq, Repr

namespace MessageBus

/-- The capacity of the channels. -/
def capacity : Nat := 256

/-- `format!("msg-{sequence:016x}")`. -/
def messageIdOf (sequence : UInt64) : String := "msg-" ++ HexCodec.word sequence

/-- `u8::saturating_add` of one. -/
def saturatingNext (count : UInt8) : UInt8 := if count = 255 then 255 else count + 1

section
variable (bus : MessageBus)

def publishAgentMessage (topic : AgentMessageTopic)
    (sessionId content : String) (maxRetries : UInt8) : MessageBus :=
  let message : AgentMessage :=
    { messageId := messageIdOf bus.nextMessageSeq
      topic := topic
      sessionId := sessionId
      content := content
      retryCount := 0
      maxRetries := maxRetries }
  { bus with
    nextMessageSeq := bus.nextMessageSeq + 1
    senders := bus.senders ++ [⟨message, false⟩]
    log := .published message :: bus.log }

/-- A waiting sender finds room. -/
def send (index : Nat) : BusAnswer × MessageBus :=
  match bus.senders[index]? with
  | some sender =>
    if bus.channel.length < capacity then
      (if sender.isRetry then .retried true else .published sender.message.messageId, { bus with
          senders := bus.senders.eraseIdx index
          channel := bus.channel ++ [sender.message] })
    else
      (.waits, bus)
  | none => (.waits, bus)

def receive : MessageBus :=
  match bus.channel with
  | message :: rest => { bus with channel := rest, received := bus.received ++ [message] }
  | [] => bus

/-- A consumer puts the message it has received into the map and returns it. -/
def record (index : Nat) : BusAnswer × MessageBus :=
  match bus.received[index]? with
  | some message =>
    (.consumed message, { bus with
        received := bus.received.eraseIdx index
        inFlightAgent := bus.inFlightAgent.insert message.messageId message
        log := .consumed message.messageId :: bus.log })
  | none => (.waits, bus)

def ackAgentMessage (messageId : String) : BusAnswer × MessageBus :=
  match bus.inFlightAgent.get messageId with
  | some _ =>
    (.acked true, { bus with
        inFlightAgent := bus.inFlightAgent.erase messageId
        log := .acked messageId :: bus.log })
  | none => (.acked false, bus)

/-- Count a retry and send the message again. -/
def requeue (messageId : String) (retryPayload : AgentMessage) :
    MessageBus :=
  { bus with
    inFlightAgent := bus.inFlightAgent.insert messageId retryPayload
    senders := bus.senders ++ [⟨retryPayload, true⟩] }

def retryAgentMessage (messageId : String) : BusAnswer × MessageBus :=
  match bus.inFlightAgent.get messageId with
  | none => (.retried false, bus)
  | some message =>
    if message.retryCount ≥ message.maxRetries then
      (.retried false, { bus with
          inFlightAgent := bus.inFlightAgent.erase messageId
          log := .gaveUp messageId :: bus.log })
    else
      (.waits,
        bus.requeue messageId { message with retryCount := saturatingNext message.retryCount })

def step : BusEvent → BusAnswer × MessageBus
  | .publishAgentMessage topic sessionId content maxRetries =>
    (.waits, bus.publishAgentMessage topic sessionId content maxRetries)
  | .send index => bus.send index
  | .receive => (.waits, bus.receive)
  | .record index => bus.record index
  | .ackAgentMessage messageId => bus.ackAgentMessage messageId
  | .retryAgentMessage messageId => bus.retryAgentMessage messageId

end

end MessageBus

/-- The bus with its callers. -/
def messageBus : Component MessageBus BusEvent BusAnswer where
  initial := {}
  step := MessageBus.step

end AutoLoop.Bus

/-!
## Delivery of agent messages

A message is to be in one place: on its way to a consumer, in flight, acknowledged or
given up.  A retry that is accepted breaks this, since the message then waits in the channel
and stays in flight; without one the bus delivers each message once.
-/

namespace AutoLoop.Bus

open List Table

namespace MessageBus

section
variable (bus : MessageBus)

/-- The messages on their way to a consumer. -/
def travelling : List AgentMessage :=
  bus.senders.map Sender.message ++ bus.channel ++ bus.received

/-- How often a message is on its way. -/
def copies (messageId : String) : Nat :=
  bus.travelling.countP (·.messageId = messageId)

def inFlight (messageId : String) : Nat :=
  if (bus.inFlightAgent.get messageId).isSome then 1 else 0

/-- What consumers have not to expect again: in flight, acknowledged or given up. -/
def settled (messageId : String) : Nat :=
  bus.inFlight messageId + bus.log.count (.acked messageId) + bus.log.count (.gaveUp messageId)

def places (messageId : String) : Nat :=
  bus.copies messageId + bus.settled messageId

def Published (messageId : String) : Prop :=
  ∃ message, .published message ∈ bus.log ∧ message.messageId = messageId

end

/-- A message is returned at most once more often than it may be retried, and not after
its acknowledgement. -/
structure Limits (bus : MessageBus) : Prop where
  bounded : ∀ message, .published message ∈ bus.log →
    bus.log.count (.consumed message.messageId) ≤ message.maxRetries.toNat + 1
  final : ∀ later messageId earlier, bus.log = later ++ .consumed messageId :: earlier →
    .acked messageId ∉ earlier

structure Delivers (bus : MessageBus) : Prop extends Limits bus where
  onePlace : ∀ messageId, bus.Published messageId → bus.places messageId = 1

/-- A publication hands out an id of its own, and a retry comes to nothing. -/
def Single (bus : MessageBus) : BusEvent → Prop
  | .publishAgentMessage .. => ¬bus.Published (messageIdOf bus.nextMessageSeq)
  | .retryAgentMessage messageId => ∀ message, bus.inFlightAgent.get messageId = some message →
      message.maxRetries ≤ message.retryCount
  | _ => True

/-- What holds as long as every event is `Single`. -/
structure Once (bus : MessageBus) : Prop where
  published : ∀ messageId, bus.Published messageId → bus.places messageId = 1
  unknown : ∀ messageId, ¬bus.Published messageId → bus.places messageId = 0
  consumed : ∀ messageId, bus.log.count (.consumed messageId) = bus.settled messageId
  final : ∀ later messageId earlier, bus.log = later ++ .consumed messageId :: earlier →
    .acked messageId ∉ earlier
  keyed : ∀ messageId message, bus.inFlightAgent.get messageId = some message →
    message.messageId = messageId

section
variable {bus : MessageBus} (once : Once bus)
include once

theorem Once.places_le (messageId : String) :
    bus.places messageId ≤ 1 := by
  by_cases published : bus.Published messageId
  · exact (once.published messageId published).le
  · rw [once.unknown messageId published]
    exact Nat.zero_le 1

theorem Once.published_of_pos {messageId : String}
    (somewhere : 0 < bus.places messageId) : bus.Published messageId := by
  by_contra unknown
  rw [once.unknown messageId unknown] at somewhere
  cases somewhere

theorem Once.delivers : Delivers bus where
  onePlace := once.published
  bounded message published := by
    have atMost := once.places_le message.messageId
    rw [once.consumed]
    simp only [places] at atMost
    omega
  final := once.final

end

/-! ## What a step does to the places of a message -/

theorem Once.of_same {bus after : MessageBus} (once : Once bus) (sameLog : after.log = bus.log)
    (sameCopies : ∀ messageId, after.copies messageId = bus.copies messageId)
    (sameFlight : after.inFlightAgent = bus.inFlightAgent) : Once after := by
  have samePlaces : ∀ messageId, after.places messageId = bus.places messageId := by
    intro messageId
    simp only [places, settled, inFlight, sameCopies, sameLog, sameFlight]
  have samePublished : ∀ messageId, after.Published messageId ↔ bus.Published messageId := by
    intro messageId
    rw [Published, Published, sameLog]
  refine ⟨fun messageId published => ?_, fun messageId unknown => ?_, fun messageId => ?_, ?_, ?_⟩
  · rw [samePlaces, once.published messageId ((samePublished messageId).mp published)]
  · rw [samePlaces, once.unknown messageId fun known => unknown ((samePublished messageId).mpr known)]
  · simp only [settled, inFlight, sameLog, sameFlight]
    exact once.consumed messageId
  · rw [sameLog]
    exact once.final
  · rw [sameFlight]
    exact once.keyed

/-! ## What a step does to the messages on their way -/

theorem travelling_publishAgentMessage (bus : MessageBus) (topic : AgentMessageTopic)
    (sessionId content : String) (maxRetries : UInt8) :
    (bus.publishAgentMessage topic sessionId content maxRetries).travelling.Perm
      ({ messageId := messageIdOf bus.nextMessageSeq, topic := topic, sessionId := sessionId
         content := content, retryCount := 0, maxRetries := maxRetries } :: bus.travelling) := by
  simp only [travelling, publishAgentMessage, map_append, map_cons, map_nil, append_assoc]
  exact perm_middle

theorem travelling_send (bus : MessageBus) (index : Nat) :
    (bus.send index).2.travelling.Perm bus.travelling := by
  rw [send]
  cases isSender : bus.senders[index]? with
  | none => exact List.Perm.refl _
  | some sender =>
    dsimp only
    split
    · obtain ⟨inBounds, rfl⟩ := List.getElem?_eq_some_iff.mp isSender
      have taken := (getElem_cons_eraseIdx_perm inBounds).map Sender.message
      rw [map_cons] at taken
      refine List.Perm.trans ?_ ((taken.append_right bus.channel).append_right bus.received)
      simp only [travelling, append_assoc, cons_append, nil_append]
      rw [← append_assoc]
      refine perm_middle.trans ?_
      rw [append_assoc]
    · exact List.Perm.refl _

theorem travelling_receive (bus : MessageBus) : bus.receive.travelling.Perm bus.travelling := by
  rw [receive]
  cases isChannel : bus.channel with
  | nil => exact List.Perm.refl _
  | cons message rest =>
    simp only [travelling, isChannel, append_assoc, cons_append]
    apply List.Perm.append_left
    rw [← append_assoc]
    exact perm_append_comm

theorem travelling_record {bus : MessageBus} {index : Nat} {message : AgentMessage}
    (isMessage : bus.received[index]? = some message) :
    (message :: (bus.record index).2.travelling).Perm bus.travelling := by
  obtain ⟨inBounds, rfl⟩ := List.getElem?_eq_some_iff.mp isMessage
  simp only [record, isMessage, travelling]
  refine perm_middle.symm.trans ?_
  exact (getElem_cons_eraseIdx_perm inBounds).append_left _

section
variable (bus : MessageBus)

theorem travelling_requeue (messageId : String) (payload : AgentMessage) :
    (bus.requeue messageId payload).travelling.Perm (payload :: bus.travelling) := by
  simp only [travelling, requeue, map_append, map_cons, map_nil, append_assoc]
  exact perm_middle

theorem log_send (index : Nat) : (bus.send index).2.log = bus.log := by
  rw [send]
  split
  · split
    · rfl
    · rfl
  · rfl

theorem inFlightAgent_send (index : Nat) :
    (bus.send index).2.inFlightAgent = bus.inFlightAgent := by
  rw [send]
  split
  · split
    · rfl
    · rfl
  · rfl

theorem log_receive : bus.receive.log = bus.log := by
  rw [receive]
  split
  · rfl
  · rfl

theorem inFlightAgent_receive :
    bus.receive.inFlightAgent = bus.inFlightAgent := by
  rw [receive]
  split
  · rfl
  · rfl

theorem copies_publishAgentMessage (topic : AgentMessageTopic)
    (sessionId content : String) (maxRetries : UInt8) (messageId : String) :
    (bus.publishAgentMessage topic sessionId content maxRetries).copies messageId =
      bus.copies messageId + if messageIdOf bus.nextMessageSeq = messageId then 1 else 0 := by
  rw [copies, (travelling_publishAgentMessage ..).countP_eq, countP_cons]
  simp only [decide_eq_true_eq]
  rfl

theorem copies_requeue (key : String) (payload : AgentMessage) (messageId : String) :
    (bus.requeue key payload).copies messageId =
      bus.copies messageId + if payload.messageId = messageId then 1 else 0 := by
  rw [copies, (travelling_requeue bus key payload).countP_eq, countP_cons]
  simp only [decide_eq_true_eq]
  rfl

theorem copies_send (index : Nat) (messageId : String) :
    (bus.send index).2.copies messageId = bus.copies messageId :=
  (travelling_send bus index).countP_eq _

theorem copies_receive (messageId : String) :
    bus.receive.copies messageId = bus.copies messageId :=
  (travelling_receive bus).countP_eq _

end

theorem copies_record {bus : MessageBus} {index : Nat} {message : AgentMessage}
    (isMessage : bus.received[index]? = some message) (messageId : String) :
    (bus.record index).2.copies messageId + (if message.messageId = messageId then 1 else 0) =
      bus.copies messageId := by
  have taken := (travelling_record isMessage).countP_eq (·.messageId = messageId)
  rw [countP_cons] at taken
  simpa only [copies, decide_eq_true_eq] using taken

theorem Once.of_log {bus after : MessageBus} (once : Once bus) {entry : BusRecord}
    (grown : after.log = entry :: bus.log) (unpublished : ∀ message, entry ≠ .published message)
    (samePlaces : ∀ messageId, after.places messageId = bus.places messageId)
    (consumed : ∀ messageId, after.log.count (.consumed messageId) = after.settled messageId)
    (first : ∀ messageId, entry = .consumed messageId → .acked messageId ∉ bus.log)
    (keyed : ∀ messageId message, after.inFlightAgent.get messageId = some message →
      message.messageId = messageId) :
    Once after := by
  have samePublished : ∀ messageId, after.Published messageId ↔ bus.Published messageId := by
    intro messageId
    simp only [Published, grown, mem_cons]
    constructor
    · rintro ⟨message, isEntry | isOld, same⟩
      · exact absurd isEntry.symm (unpublished message)
      · exact ⟨message, isOld, same⟩
    · rintro ⟨message, isOld, same⟩
      exact ⟨message, Or.inr isOld, same⟩
  refine ⟨fun messageId published => ?_, fun messageId unknown => ?_, consumed, ?_, keyed⟩
  · rw [samePlaces, once.published messageId ((samePublished messageId).mp published)]
  · rw [samePlaces, once.unknown messageId fun known => unknown ((samePublished messageId).mpr known)]
  · intro later messageId earlier shape
    rw [grown] at shape
    rcases cons_eq_append_iff.mp shape with ⟨rfl, same⟩ | ⟨rest, rfl, same⟩
    · obtain ⟨isEntry, rfl⟩ := List.cons.inj same
      exact first messageId isEntry.symm
    · exact once.final rest messageId earlier same

theorem Once.record {bus : MessageBus} (once : Once bus) (index : Nat) :
    Once (bus.record index).2 := by
  cases isMessage : bus.received[index]? with
  | none =>
    simp only [MessageBus.record, isMessage]
    exact once
  | some message =>
    have moved := fun messageId => copies_record isMessage messageId
    have settledAfter : ∀ messageId, message.messageId ≠ messageId →
        (bus.record index).2.settled messageId = bus.settled messageId := by
      intro messageId other
      simp [settled, inFlight, MessageBus.record, isMessage, get_insert, other.symm]
    have onWay : bus.copies message.messageId = 1 ∧ bus.settled message.messageId = 0 := by
      have atMost := once.places_le message.messageId
      have taken := moved message.messageId
      rw [if_pos rfl] at taken
      simp only [places] at atMost
      omega
    have nothing := onWay.2
    simp only [settled, Nat.add_eq_zero_iff] at nothing
    have settledNow : (bus.record index).2.settled message.messageId = 1 := by
      simp [settled, inFlight, MessageBus.record, isMessage, nothing.1.2, nothing.2]
    have grown : (bus.record index).2.log = .consumed message.messageId :: bus.log := by
      simp only [MessageBus.record, isMessage]
    refine once.of_log grown (fun _ => nofun) ?_ ?_ ?_ ?_
    · intro messageId
      have taken := moved messageId
      by_cases isOne : message.messageId = messageId
      · subst isOne
        rw [if_pos rfl] at taken
        simp only [places, settledNow]
        omega
      · rw [if_neg isOne] at taken
        simp only [places, settledAfter messageId isOne]
        omega
    · intro messageId
      by_cases isOne : message.messageId = messageId
      · subst isOne
        rw [settledNow]
        simp only [MessageBus.record, isMessage, count_cons_self]
        rw [once.consumed, onWay.2]
      · rw [settledAfter messageId isOne, ← once.consumed]
        simp [MessageBus.record, isMessage, isOne]
    · rintro messageId same
      cases same
      exact count_eq_zero.mp nothing.1.2
    · intro messageId other found
      simp only [MessageBus.record, isMessage, get_insert] at found
      split at found
      · next isOne =>
        cases found
        exact isOne.symm
      · exact once.keyed messageId other found

theorem Once.close {bus : MessageBus} (once : Once bus) {messageId : String}
    (present : (bus.inFlightAgent.get messageId).isSome) {entry : BusRecord}
    (closes : entry = .acked messageId ∨ entry = .gaveUp messageId) :
    Once { bus with
      inFlightAgent := bus.inFlightAgent.erase messageId
      log := entry :: bus.log } := by
  have settledSame : ∀ other, MessageBus.settled
      { bus with
        inFlightAgent := bus.inFlightAgent.erase messageId
        log := entry :: bus.log } other = bus.settled other := by
    intro other
    by_cases isOne : other = messageId
    · subst isOne
      rcases closes with rfl | rfl
      · simp [settled, inFlight, get_erase, present]
        omega
      · simp [settled, inFlight, get_erase, present]
        omega
    · rcases closes with rfl | rfl
      · simp [settled, inFlight, get_erase, isOne, Ne.symm isOne]
      · simp [settled, inFlight, get_erase, isOne, Ne.symm isOne]
  refine once.of_log rfl ?_ ?_ ?_ ?_ ?_
  · rintro message rfl
    rcases closes with same | same
    · cases same
    · cases same
  · intro other
    rw [places, settledSame]
    rfl
  · intro other
    rw [settledSame, ← once.consumed]
    rcases closes with rfl | rfl
    · simp
    · simp
  · rintro other rfl
    rcases closes with same | same
    · cases same
    · cases same
  · intro other message found
    rw [get_erase] at found
    split at found
    · cases found
    · exact once.keyed other message found

theorem settled_publishAgentMessage (bus : MessageBus) (topic : AgentMessageTopic)
    (sessionId content : String) (maxRetries : UInt8) (messageId : String) :
    (bus.publishAgentMessage topic sessionId content maxRetries).settled messageId =
      bus.settled messageId := by
  simp only [settled, inFlight, publishAgentMessage, count_cons, reduceCtorEq, beq_iff_eq,
    if_false, Nat.add_zero]
  rfl

theorem Once.publish {bus : MessageBus} (once : Once bus) (topic : AgentMessageTopic)
    (sessionId content : String) (maxRetries : UInt8)
    (fresh : ¬bus.Published (messageIdOf bus.nextMessageSeq)) :
    Once (bus.publishAgentMessage topic sessionId content maxRetries) := by
  have publishedAfter : ∀ messageId,
      (bus.publishAgentMessage topic sessionId content maxRetries).Published messageId ↔
        messageIdOf bus.nextMessageSeq = messageId ∨ bus.Published messageId := by
    intro messageId
    simp [Published, publishAgentMessage, or_and_right, exists_or]
  have placesAfter : ∀ messageId,
      (bus.publishAgentMessage topic sessionId content maxRetries).places messageId =
        bus.places messageId + if messageIdOf bus.nextMessageSeq = messageId then 1 else 0 := by
    intro messageId
    simp only [places, settled_publishAgentMessage, copies_publishAgentMessage]
    omega
  refine ⟨fun messageId published => ?_, fun messageId unknown => ?_, fun messageId => ?_, ?_,
    once.keyed⟩
  · rw [placesAfter]
    rcases (publishedAfter messageId).mp published with rfl | known
    · rw [once.unknown _ fresh, if_pos rfl]
    · have other : messageIdOf bus.nextMessageSeq ≠ messageId := by
        rintro rfl
        exact fresh known
      rw [once.published messageId known, if_neg other]
  · rw [publishedAfter, not_or] at unknown
    rw [placesAfter, once.unknown messageId unknown.2, if_neg unknown.1]
  · rw [settled_publishAgentMessage, ← once.consumed]
    simp [publishAgentMessage]
  · intro later messageId earlier shape
    rcases cons_eq_append_iff.mp shape with ⟨rfl, same⟩ | ⟨rest, rfl, same⟩
    · cases (List.cons.inj same).1
    · exact once.final rest messageId earlier same

theorem once_initial : Once messageBus.initial where
  published := fun messageId ⟨_, isRecord, _⟩ => nomatch isRecord
  unknown := fun _ _ => rfl
  consumed := fun _ => rfl
  final := fun later _ _ shape => by simp [messageBus] at shape
  keyed := fun _ _ found => nomatch found

/-- Without a retry that comes to something, each message stays in one place. -/
theorem Once.step {bus : MessageBus} (once : Once bus) {event : BusEvent}
    (single : bus.Single event) : Once (bus.step event).2 := by
  cases event with
  | publishAgentMessage topic sessionId content maxRetries =>
    exact once.publish topic sessionId content maxRetries single
  | send index =>
    exact once.of_same (log_send bus index) (copies_send bus index)
      (inFlightAgent_send bus index)
  | receive =>
    exact once.of_same (log_receive bus) (copies_receive bus) (inFlightAgent_receive bus)
  | record index => exact once.record index
  | ackAgentMessage messageId =>
    simp only [MessageBus.step, ackAgentMessage]
    cases found : bus.inFlightAgent.get messageId with
    | none => exact once
    | some message => exact once.close (by rw [found]; rfl) (Or.inl rfl)
  | retryAgentMessage messageId =>
    simp only [MessageBus.step, retryAgentMessage]
    cases found : bus.inFlightAgent.get messageId with
    | none => exact once
    | some message =>
      dsimp only
      rw [if_pos (single message found)]
      exact once.close (by rw [found]; rfl) (Or.inr rfl)

/-- A step that keeps each message in one place was `Single`. -/
theorem Once.single {bus : MessageBus} (once : Once bus) {event : BusEvent}
    (delivers : Delivers (bus.step event).2) : bus.Single event := by
  cases event with
  | publishAgentMessage topic sessionId content maxRetries =>
    intro known
    have before := once.published _ known
    have after := delivers.onePlace (messageIdOf bus.nextMessageSeq)
      ⟨_, mem_cons_self, rfl⟩
    have more := copies_publishAgentMessage bus topic sessionId content maxRetries
      (messageIdOf bus.nextMessageSeq)
    rw [if_pos rfl] at more
    simp only [places, MessageBus.step, more, settled_publishAgentMessage] at before after
    omega
  | retryAgentMessage messageId =>
    intro message found
    by_contra again
    have flying : bus.inFlight messageId = 1 := by simp [inFlight, found]
    have somewhere : 0 < bus.places messageId := by
      simp only [places, settled, flying]
      omega
    have known := once.published_of_pos somewhere
    have before := once.published messageId known
    have isKey := once.keyed messageId message found
    have more := copies_requeue bus messageId
      { message with retryCount := saturatingNext message.retryCount } messageId
    simp only [MessageBus.step, retryAgentMessage, found, ge_iff_le, again, if_false]
      at delivers
    have after := delivers.onePlace messageId known
    have flies : (bus.requeue messageId
        { message with retryCount := saturatingNext message.retryCount }).inFlight messageId
          = 1 := by
      simp [inFlight, requeue]
    rw [if_pos isKey] at more
    simp only [places, settled, flying, flies, more] at before after
    simp only [requeue] at after
    omega
  | send index => trivial
  | receive => trivial
  | record index => trivial
  | ackAgentMessage messageId => trivial

end MessageBus

end AutoLoop.Bus
