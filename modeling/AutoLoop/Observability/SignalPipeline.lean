import AutoLoop.Foundation.Component
import AutoLoop.Foundation.Table
import AutoLoop.Foundation.Text
import Mathlib.Data.List.Range

/-!
# The signal pipeline

Signals are queued and passed to a sink in batches.  A flush copies the front of the queue,
sinks the copied events one by one, waiting between the attempts, and takes as many events
from the queue when it is done; a shutdown flush copies the whole queue and clears it.  What
the sink does with an event, and what `process` adds to it, is not read by the queue; whether
an attempt succeeds is given with it.
-/

namespace AutoLoop.Observability

structure SignalEvent where
  signalId : String
  sessionId : String
  traceId : String
  attributes : Table String String

/-- The clock and the process-wide sequence counter as `ingest` finds them. -/
structure Stamp where
  nowMs : UInt64
  sequenceNo : UInt64
  deriving DecidableEq, Repr

def ingest (stamp : Stamp) (event : SignalEvent) : SignalEvent where
  signalId :=
    if Text.trim event.signalId = "" then
      "signal:" ++ event.sessionId ++ ":" ++ event.traceId ++ ":" ++ stamp.nowMs.toNat.repr
    else
      event.signalId
  sessionId := event.sessionId
  traceId := event.traceId
  attributes :=
    match event.attributes.get "signal_sequence_no" with
    | some _ => event.attributes
    | none => event.attributes.insert "signal_sequence_no" stamp.sequenceNo.toNat.repr

/-- What `ingest` has given an event. -/
structure SignalEvent.Ingested (event : SignalEvent) : Prop where
  named : Text.trim event.signalId ≠ ""
  numbered : ∃ number, event.attributes.get "signal_sequence_no" = some number

theorem ingested_ingest (stamp : Stamp) (event : SignalEvent) :
    (ingest stamp event).Ingested := by
  constructor
  · rw [ingest]
    dsimp only
    split
    · have starts : 's' ∈ ("signal:" ++ event.sessionId ++ ":" ++ event.traceId ++ ":" ++
          stamp.nowMs.toNat.repr).toList := by simp
      exact Text.trim_ne_empty starts (by decide)
    · next named => exact named
  · rw [ingest]
    dsimp only
    cases found : event.attributes.get "signal_sequence_no" with
    | some number => exact ⟨number, found⟩
    | none => exact ⟨_, Table.get_insert_self _ _ _⟩

theorem ingest_of_ingested {event : SignalEvent} (ingested : event.Ingested) (stamp : Stamp) :
    ingest stamp event = event := by
  obtain ⟨number, found⟩ := ingested.numbered
  rw [ingest, if_neg ingested.named, found]

/-- A queued event, with the number of its call of `enqueue`. -/
structure QueuedEvent where
  tag : Nat
  event : SignalEvent

def QueuedEvent.ingest (stamp : Stamp) (queued : QueuedEvent) : QueuedEvent :=
  { queued with event := Observability.ingest stamp queued.event }

structure SignalPipelineConfig where
  batchSize : Nat
  maxRetries : UInt8
  deriving DecidableEq, Repr

/-- A flush on its way: how many events it has sunk, the event it sinks with the attempts made
on it, and the events that come later. -/
structure Flush where
  shutdown : Bool
  outputs : Nat
  attempt : UInt8
  current : QueuedEvent
  later : List QueuedEvent

/-- The queue, the flushes on their way and what happened, for statements about runs. -/
structure SignalPipeline where
  pending : List QueuedEvent := []
  flushes : List Flush := []
  enqueued : List QueuedEvent := []
  sunk : List QueuedEvent := []
  /-- A shutdown flush has just returned, and no call is left. -/
  closed : Bool := false

inductive PipelineEvent where
  | enqueue (event : SignalEvent) (stamp : Stamp)
  | flushIfNeeded (stamp : Stamp)
  | shutdownFlush (stamp : Stamp)
  /-- The flush at a position ends an attempt to sink its event; the stamp is the one with
  which it takes up the next event. -/
  | sinkOnce (index : Nat) (succeeds : Bool) (stamp : Stamp)

inductive PipelineAnswer where
  | queued (length : Nat)
  | waits
  | notNeeded
  | flushed (count : Nat)
  | failed
  deriving DecidableEq, Repr

namespace SignalPipeline

variable (cfg : SignalPipelineConfig)

def enqueue (pipeline : SignalPipeline) (event : SignalEvent) (stamp : Stamp) :
    PipelineAnswer × SignalPipeline :=
  let queued : QueuedEvent := ⟨pipeline.enqueued.length, ingest stamp event⟩
  let pending := pipeline.pending ++ [queued]
  (.queued pending.length, { pipeline with
      pending := pending
      enqueued := pipeline.enqueued ++ [queued]
      closed := false })

def takenFrom (pending : List QueuedEvent) (shutdown : Bool) (flushed : Nat) :
    List QueuedEvent :=
  if shutdown then [] else pending.drop (min flushed pending.length)

section
variable (pipeline : SignalPipeline)

/-- `flush_events` on a copy of the queue, up to its first attempt. -/
def flushEvents (shutdown : Bool) (snapshot : List QueuedEvent)
    (stamp : Stamp) : PipelineAnswer × SignalPipeline :=
  match snapshot with
  | [] =>
    (.flushed 0, { pipeline with
        pending := takenFrom pipeline.pending shutdown 0
        closed := shutdown && pipeline.flushes.isEmpty })
  | first :: later =>
    (.waits, { pipeline with
        flushes := pipeline.flushes ++ [⟨shutdown, 0, 0, first.ingest stamp, later⟩]
        closed := false })

def flushIfNeeded (stamp : Stamp) :
    PipelineAnswer × SignalPipeline :=
  let batchSize := max cfg.batchSize 1
  if pipeline.pending.length < batchSize then
    (.notNeeded, { pipeline with closed := false })
  else
    pipeline.flushEvents false (pipeline.pending.take batchSize) stamp

def shutdownFlush (stamp : Stamp) :
    PipelineAnswer × SignalPipeline :=
  pipeline.flushEvents true pipeline.pending stamp

end

/-- `u8::saturating_add` of one. -/
def nextAttempt (attempt : UInt8) : UInt8 := if attempt = 255 then 255 else attempt + 1

section
variable (pipeline : SignalPipeline) (index : Nat)

def sinkSucceeds (flush : Flush) (stamp : Stamp) :
    PipelineAnswer × SignalPipeline :=
  let outputs := flush.outputs + 1
  match flush.later with
  | [] =>
    let flushes := pipeline.flushes.eraseIdx index
    (.flushed outputs, { pipeline with
        pending := takenFrom pipeline.pending flush.shutdown outputs
        flushes := flushes
        sunk := pipeline.sunk ++ [flush.current]
        closed := flush.shutdown && flushes.isEmpty })
  | next :: later =>
    (.waits, { pipeline with
        flushes := pipeline.flushes.set index
          { flush with
            outputs := outputs, attempt := 0, current := next.ingest stamp, later := later }
        sunk := pipeline.sunk ++ [flush.current]
        closed := false })

def sinkFails (flush : Flush) :
    PipelineAnswer × SignalPipeline :=
  let attempt := nextAttempt flush.attempt
  if attempt > cfg.maxRetries then
    (.failed, { pipeline with flushes := pipeline.flushes.eraseIdx index, closed := false })
  else
    (.waits, { pipeline with
        flushes := pipeline.flushes.set index { flush with attempt := attempt }
        closed := false })

def sinkOnce (succeeds : Bool) (stamp : Stamp) :
    PipelineAnswer × SignalPipeline :=
  match pipeline.flushes[index]? with
  | none => (.waits, pipeline)
  | some flush =>
    if succeeds then pipeline.sinkSucceeds index flush stamp
    else pipeline.sinkFails cfg index flush

end

def step (pipeline : SignalPipeline) : PipelineEvent → PipelineAnswer × SignalPipeline
  | .enqueue event stamp => pipeline.enqueue event stamp
  | .flushIfNeeded stamp => pipeline.flushIfNeeded cfg stamp
  | .shutdownFlush stamp => pipeline.shutdownFlush stamp
  | .sinkOnce index succeeds stamp => pipeline.sinkOnce cfg index succeeds stamp

end SignalPipeline

/-- One pipeline with its callers. -/
def signalPipeline (cfg : SignalPipelineConfig) :
    Component SignalPipeline PipelineEvent PipelineAnswer where
  initial := {}
  step := SignalPipeline.step cfg

end AutoLoop.Observability

/-!
## What the signal batches lose and repeat

Calls that keep apart lose and repeat nothing: a flush starts only while no other one is on
its way and the front of the queue was not sunk by one that failed, and no event is queued
during a shutdown flush.  A call that does not keep to this can be followed by calls that
sink an event twice or drop one.
-/

namespace AutoLoop.Observability

open List

namespace SignalPipeline

variable {cfg : SignalPipelineConfig} {pipeline : SignalPipeline}

/-- Every event is sunk at most once and stays queued until then, and a shutdown flush that
returns with no call beside it has sunk all events in order. -/
structure Conserves (pipeline : SignalPipeline) : Prop where
  once : ∀ queued ∈ pipeline.enqueued, pipeline.sunk.countP (·.tag = queued.tag) ≤ 1
  kept : ∀ queued ∈ pipeline.enqueued, queued ∈ pipeline.pending ∨ queued ∈ pipeline.sunk
  closed : pipeline.closed = true → pipeline.pending = [] ∧ pipeline.sunk = pipeline.enqueued

def FreshFront (pipeline : SignalPipeline) : Prop :=
  pipeline.flushes = [] ∧ ∀ first ∈ pipeline.pending.head?, first ∉ pipeline.sunk

/-- The call keeps apart from the flushes on their way. -/
def Apart (cfg : SignalPipelineConfig) (pipeline : SignalPipeline) : PipelineEvent → Prop
  | .enqueue _ _ => ∀ flush ∈ pipeline.flushes, flush.shutdown = false
  | .flushIfNeeded _ => max cfg.batchSize 1 ≤ pipeline.pending.length → pipeline.FreshFront
  | .shutdownFlush _ => pipeline.pending ≠ [] → pipeline.FreshFront
  | .sinkOnce .. => True

/-- The events that have left the queue, and how many at its front were sunk. -/
structure Parts (pipeline : SignalPipeline) (removed : List QueuedEvent) (done : Nat) :
    Prop where
  tags : pipeline.enqueued.map QueuedEvent.tag = List.range pipeline.enqueued.length
  ingested : ∀ queued ∈ pipeline.enqueued, queued.event.Ingested
  enqueued : pipeline.enqueued = removed ++ pipeline.pending
  sunk : pipeline.sunk = removed ++ pipeline.pending.take done
  inQueue : done ≤ pipeline.pending.length
  flushing : pipeline.flushes = [] ∨ ∃ flush rest, pipeline.flushes = [flush] ∧
    pipeline.pending.drop done = flush.current :: flush.later ++ rest ∧
    flush.outputs = done ∧ (flush.shutdown = true → rest = [])
  closed : pipeline.closed = true → pipeline.pending = []

/-- What holds as long as calls keep apart. -/
def Flowing (pipeline : SignalPipeline) : Prop := ∃ removed done, Parts pipeline removed done

theorem Parts.nodup {removed : List QueuedEvent} {done : Nat}
    (parts : Parts pipeline removed done) :
    (pipeline.enqueued.map QueuedEvent.tag).Nodup := by
  rw [parts.tags]
  exact nodup_range

theorem Flowing.conserves (flowing : Flowing pipeline) : Conserves pipeline := by
  obtain ⟨removed, done, parts⟩ := flowing
  have sub : pipeline.sunk.Sublist pipeline.enqueued := by
    rw [parts.sunk, parts.enqueued]
    exact (take_sublist done pipeline.pending).append_left removed
  refine ⟨fun queued membership => ?_, fun queued membership => ?_, fun closed => ?_⟩
  · have counted := (sub.map QueuedEvent.tag).count_le queued.tag
    have atMost := nodup_iff_count_le_one.mp parts.nodup queued.tag
    rw [List.count, countP_map] at counted
    exact (countP_mono_left fun other _ same => by simpa using same).trans
      (counted.trans atMost)
  · rw [parts.enqueued, mem_append] at membership
    rcases membership with isRemoved | isPending
    · exact Or.inr (parts.sunk ▸ mem_append_left _ isRemoved)
    · exact Or.inl isPending
  · have empty := parts.closed closed
    rw [parts.sunk, parts.enqueued, empty]
    exact ⟨rfl, by rw [take_nil]⟩

/-! ## Calls that keep apart -/

section
variable {removed : List QueuedEvent} {done : Nat} (parts : Parts pipeline removed done)
include parts

theorem Parts.enqueue (event : SignalEvent) (stamp : Stamp)
    (apart : ∀ flush ∈ pipeline.flushes, flush.shutdown = false) :
    Parts (pipeline.enqueue event stamp).2 removed done where
  tags := by
    simp only [SignalPipeline.enqueue, map_append, parts.tags, map_cons, map_nil,
      length_append, length_singleton, range_succ]
  ingested queued membership := by
    rcases mem_append.mp membership with isOld | isNew
    · exact parts.ingested queued isOld
    · rw [mem_singleton.mp isNew]
      exact ingested_ingest stamp event
  enqueued := by
    simp only [SignalPipeline.enqueue]
    rw [parts.enqueued, append_assoc]
  sunk := by
    simp only [SignalPipeline.enqueue, take_append_of_le_length parts.inQueue]
    exact parts.sunk
  inQueue := by
    simp only [SignalPipeline.enqueue, length_append]
    exact Nat.le_add_right_of_le parts.inQueue
  flushing := by
    rcases parts.flushing with none | ⟨flush, rest, isFlush, ahead, outputs, -⟩
    · exact Or.inl none
    · have open_ := apart flush (isFlush ▸ mem_singleton_self flush)
      refine Or.inr ⟨flush, rest ++ [⟨pipeline.enqueued.length, ingest stamp event⟩], isFlush, ?_,
        outputs, ?_⟩
      · simp only [SignalPipeline.enqueue, drop_append_of_le_length parts.inQueue, ahead]
        rw [append_assoc]
      · intro shutdown
        rw [open_] at shutdown
        cases shutdown
  closed closed := nomatch closed

theorem Parts.done_eq_zero {first : QueuedEvent} {later : List QueuedEvent}
    (isFront : pipeline.pending = first :: later) (fresh : first ∉ pipeline.sunk) : done = 0 := by
  by_contra positive
  apply fresh
  obtain ⟨before, rfl⟩ := Nat.exists_eq_succ_of_ne_zero positive
  rw [parts.sunk, isFront, take_succ_cons]
  exact mem_append_right _ mem_cons_self

theorem Parts.flushEvents {shutdown : Bool} {snapshot rest : List QueuedEvent} (stamp : Stamp)
    (isSnapshot : pipeline.pending = snapshot ++ rest) (whole : shutdown = true → rest = [])
    (nonempty : shutdown = false → snapshot ≠ []) (apart : snapshot ≠ [] → pipeline.FreshFront) :
    Flowing (pipeline.flushEvents shutdown snapshot stamp).2 := by
  cases snapshot with
  | nil =>
    cases shutdown with
    | false => exact absurd rfl (nonempty rfl)
    | true =>
      rw [whole rfl, append_nil] at isSnapshot
      refine ⟨removed, done, ⟨parts.tags, parts.ingested, ?_, ?_, ?_, ?_, fun _ => rfl⟩⟩
      · exact parts.enqueued.trans (by rw [isSnapshot]; rfl)
      · exact parts.sunk.trans (by rw [isSnapshot]; rfl)
      · exact parts.inQueue.trans_eq (by rw [isSnapshot]; rfl)
      · rcases parts.flushing with none | ⟨flush, ahead, -, isAhead, -⟩
        · exact Or.inl none
        · rw [isSnapshot, drop_nil] at isAhead
          cases isAhead
  | cons first later =>
    obtain ⟨none, fresh⟩ := apart (cons_ne_nil _ _)
    have isFront : pipeline.pending = first :: (later ++ rest) := isSnapshot
    obtain rfl := parts.done_eq_zero isFront (fresh first (by rw [isFront]; rfl))
    have isQueued : first ∈ pipeline.enqueued := by
      rw [parts.enqueued, isFront]
      exact mem_append_right _ mem_cons_self
    have same : first.ingest stamp = first := by
      rw [QueuedEvent.ingest, ingest_of_ingested (parts.ingested first isQueued)]
    refine ⟨removed, 0, ⟨parts.tags, parts.ingested, parts.enqueued, parts.sunk,
      Nat.zero_le _, Or.inr ⟨⟨shutdown, 0, 0, first.ingest stamp, later⟩, rest, ?_, ?_, rfl,
        whole⟩, nofun⟩⟩
    · simp only [SignalPipeline.flushEvents, none, nil_append]
    · simp only [same]
      exact isFront

end

theorem take_succ_of_drop {items later : List QueuedEvent} {done : Nat} {item : QueuedEvent}
    (ahead : items.drop done = item :: later) :
    items.take (done + 1) = items.take done ++ [item] ∧ items.drop (done + 1) = later ∧
      done + 1 ≤ items.length := by
  have long := congrArg List.length ahead
  rw [length_drop, length_cons] at long
  have isItem : items[done]? = some item := by
    rw [← head?_drop, ahead]
    rfl
  refine ⟨?_, ?_, by omega⟩
  · rw [take_add_one, isItem]
    rfl
  · rw [← drop_drop, ahead]
    rfl

section
variable {removed : List QueuedEvent} {done : Nat} (parts : Parts pipeline removed done)
  {index : Nat} {flush : Flush}
include parts

theorem Parts.sinkSucceeds (stamp : Stamp) (isFlush : pipeline.flushes[index]? = some flush) :
    Flowing (pipeline.sinkSucceeds index flush stamp).2 := by
  rcases parts.flushing with none | ⟨only, rest, isOnly, ahead, outputs, whole⟩
  · rw [none] at isFlush
    cases isFlush
  · rw [isOnly] at isFlush
    obtain ⟨rfl, rfl⟩ : index = 0 ∧ only = flush := by
      cases index with
      | zero => exact ⟨rfl, Option.some.inj isFlush⟩
      | succ index => cases isFlush
    obtain ⟨taken, dropped, inQueue⟩ := take_succ_of_drop ahead
    have sunkNow : pipeline.sunk ++ [only.current] =
        removed ++ pipeline.pending.take (done + 1) := by
      rw [parts.sunk, taken, append_assoc]
    rw [SignalPipeline.sinkSucceeds]
    cases isLater : only.later with
    | nil =>
      rw [isLater] at dropped
      change pipeline.pending.drop (done + 1) = rest at dropped
      have remains : takenFrom pipeline.pending only.shutdown (only.outputs + 1) =
          pipeline.pending.drop (done + 1) := by
        rw [takenFrom]
        cases isShutdown : only.shutdown with
        | true => rw [if_pos rfl, dropped, whole isShutdown]
        | false =>
          rw [outputs, Nat.min_eq_left inQueue]
          rfl
      have split : pipeline.enqueued = removed ++ pipeline.pending.take (done + 1) ++
          pipeline.pending.drop (done + 1) := by
        rw [append_assoc, take_append_drop]
        exact parts.enqueued
      refine ⟨removed ++ pipeline.pending.take (done + 1), 0, ⟨parts.tags, parts.ingested, ?_,
        ?_, Nat.zero_le _, Or.inl ?_, fun closed => ?_⟩⟩
      · simp only [remains]
        exact split
      · simp only [sunkNow, take_zero, append_nil]
      · simp only [isOnly]
        rfl
      · simp only [Bool.and_eq_true] at closed
        simp only [takenFrom, closed.1, if_true]
    | cons next later =>
      rw [isLater] at dropped
      have isQueued : next ∈ pipeline.enqueued := by
        rw [parts.enqueued]
        apply mem_append_right
        apply mem_of_mem_drop (i := done + 1)
        rw [dropped]
        exact mem_cons_self
      have same : next.ingest stamp = next := by
        rw [QueuedEvent.ingest, ingest_of_ingested (parts.ingested next isQueued)]
      refine ⟨removed, done + 1, ⟨parts.tags, parts.ingested, parts.enqueued, sunkNow, inQueue,
        Or.inr ⟨⟨only.shutdown, only.outputs + 1, 0, next.ingest stamp, later⟩, rest, ?_, ?_,
          congrArg (· + 1) outputs, whole⟩, nofun⟩⟩
      · simp only [isOnly]
        rfl
      · simp only [same]
        exact dropped

theorem Parts.sinkFails (isFlush : pipeline.flushes[index]? = some flush) :
    Flowing (pipeline.sinkFails cfg index flush).2 := by
  rcases parts.flushing with none | ⟨only, rest, isOnly, ahead, outputs, whole⟩
  · rw [none] at isFlush
    cases isFlush
  · rw [isOnly] at isFlush
    obtain ⟨rfl, rfl⟩ : index = 0 ∧ only = flush := by
      cases index with
      | zero => exact ⟨rfl, Option.some.inj isFlush⟩
      | succ index => cases isFlush
    rw [SignalPipeline.sinkFails]
    split
    · refine ⟨removed, done, ⟨parts.tags, parts.ingested, parts.enqueued, parts.sunk,
        parts.inQueue, Or.inl ?_, nofun⟩⟩
      simp only [isOnly]
      rfl
    · refine ⟨removed, done, ⟨parts.tags, parts.ingested, parts.enqueued, parts.sunk,
        parts.inQueue, Or.inr ⟨⟨only.shutdown, only.outputs, nextAttempt only.attempt,
          only.current, only.later⟩, rest, ?_, ahead, outputs, whole⟩, nofun⟩⟩
      simp only [isOnly]
      rfl

end

/-- A call that keeps apart loses and repeats nothing. -/
theorem Flowing.step (flowing : Flowing pipeline) {event : PipelineEvent}
    (apart : Apart cfg pipeline event) : Flowing (pipeline.step cfg event).2 := by
  obtain ⟨removed, done, parts⟩ := flowing
  cases event with
  | enqueue event stamp => exact ⟨removed, done, parts.enqueue event stamp apart⟩
  | flushIfNeeded stamp =>
    rw [SignalPipeline.step, flushIfNeeded]
    split
    · exact ⟨removed, done, ⟨parts.tags, parts.ingested, parts.enqueued, parts.sunk,
        parts.inQueue, parts.flushing, nofun⟩⟩
    · next enough =>
      have snapshot := (take_append_drop (max cfg.batchSize 1) pipeline.pending).symm
      refine parts.flushEvents stamp snapshot nofun (fun _ empty => ?_)
        fun _ => apart (by omega)
      have long := congrArg List.length empty
      rw [length_take, length_nil] at long
      omega
  | shutdownFlush stamp =>
    exact parts.flushEvents stamp (append_nil _).symm (fun _ => rfl) nofun apart
  | sinkOnce index succeeds stamp =>
    rw [SignalPipeline.step, sinkOnce]
    cases isFlush : pipeline.flushes[index]? with
    | none => exact ⟨removed, done, parts⟩
    | some flush =>
      cases succeeds with
      | true => exact parts.sinkSucceeds stamp isFlush
      | false => exact parts.sinkFails isFlush

section
variable (cfg : SignalPipelineConfig)

theorem flowing_initial : Flowing (signalPipeline cfg).initial :=
  ⟨[], 0, ⟨rfl, fun _ membership => (nomatch membership), rfl, rfl, Nat.le_refl _, Or.inl rfl,
    fun _ => rfl⟩⟩

/-! ## Calls that do not keep apart -/

/-- What a successful attempt leaves for statements about runs. -/
theorem sunk_sinkOnce {index : Nat} {flush : Flush} (stamp : Stamp)
    (isFlush : pipeline.flushes[index]? = some flush) :
    (pipeline.step cfg (.sinkOnce index true stamp)).2.sunk =
        pipeline.sunk ++ [flush.current] ∧
      (pipeline.step cfg (.sinkOnce index true stamp)).2.enqueued = pipeline.enqueued := by
  rw [SignalPipeline.step, sinkOnce, isFlush]
  simp only [if_true, SignalPipeline.sinkSucceeds]
  split
  · exact ⟨rfl, rfl⟩
  · exact ⟨rfl, rfl⟩

theorem run_shutdown {pipeline : SignalPipeline} {flush : Flush}
    (stamp : Stamp) (isFlush : pipeline.flushes = [flush]) (shutdown : flush.shutdown = true) :
    ∃ events, ((signalPipeline cfg).run pipeline events).2.pending = [] ∧
      ((signalPipeline cfg).run pipeline events).2.enqueued = pipeline.enqueued ∧
      ∀ queued ∈ ((signalPipeline cfg).run pipeline events).2.sunk, queued ∈ pipeline.sunk ∨
          queued.tag ∈ (flush.current :: flush.later).map QueuedEvent.tag := by
  generalize isLater : flush.later = later
  induction later generalizing pipeline flush with
  | nil =>
    refine ⟨[.sinkOnce 0 true stamp], ?_, ?_, fun queued membership => ?_⟩
    · simp [signalPipeline, SignalPipeline.step, sinkOnce, isFlush, SignalPipeline.sinkSucceeds,
        isLater, takenFrom, shutdown]
    · exact (sunk_sinkOnce cfg stamp (by rw [isFlush]; rfl)).2
    · have sunkNow := (@sunk_sinkOnce pipeline cfg 0 flush stamp (by rw [isFlush]; rfl)).1
      change queued ∈ (pipeline.step cfg (.sinkOnce 0 true stamp)).2.sunk at membership
      rw [sunkNow, mem_append, mem_singleton] at membership
      exact membership.imp_right fun same => by simp [same]
  | cons next rest ih =>
    have isFirst : pipeline.flushes[0]? = some flush := by rw [isFlush]; rfl
    have sunkNow := sunk_sinkOnce cfg stamp isFirst
    have goesOn : (pipeline.step cfg (.sinkOnce 0 true stamp)).2.flushes =
        [⟨flush.shutdown, flush.outputs + 1, 0, next.ingest stamp, rest⟩] := by
      simp [SignalPipeline.step, sinkOnce, isFlush, SignalPipeline.sinkSucceeds, isLater]
    obtain ⟨events, empty, sameEnqueued, among⟩ := ih goesOn shutdown rfl
    refine ⟨.sinkOnce 0 true stamp :: events, empty, sameEnqueued.trans sunkNow.2,
      fun queued membership => ?_⟩
    have found := among queued membership
    rw [sunkNow.1, mem_append, mem_singleton] at found
    rcases found with (isOld | isCurrent) | isLate
    · exact Or.inl isOld
    · exact Or.inr (by simp [isCurrent])
    · refine Or.inr (mem_cons_of_mem _ ?_)
      simpa [QueuedEvent.ingest] using isLate

end

section
variable {removed : List QueuedEvent} {done : Nat} (parts : Parts pipeline removed done)
include parts

theorem Parts.tag_lt {queued : QueuedEvent}
    (membership : queued ∈ pipeline.enqueued) : queued.tag < pipeline.enqueued.length := by
  have isTag := mem_map_of_mem (f := QueuedEvent.tag) membership
  rw [parts.tags] at isTag
  exact mem_range.mp isTag

theorem Parts.mem_enqueued {queued : QueuedEvent}
    (isSunk : queued ∈ pipeline.sunk) : queued ∈ pipeline.enqueued := by
  rw [parts.sunk, mem_append] at isSunk
  rw [parts.enqueued, mem_append]
  exact isSunk.imp_right mem_of_mem_take

theorem Parts.enqueue_breaks (event : SignalEvent) (stamp : Stamp) {flush : Flush}
    (isFlush : flush ∈ pipeline.flushes) (shutdown : flush.shutdown = true) :
    ∃ later, ¬Conserves
      ((signalPipeline cfg).run (pipeline.enqueue event stamp).2 later).2 := by
  rcases parts.flushing with none | ⟨only, rest, isOnly, ahead, -, -⟩
  · rw [none] at isFlush
    cases isFlush
  · rw [isOnly, mem_singleton] at isFlush
    subst isFlush
    have isFirst : (pipeline.enqueue event stamp).2.flushes = [flush] := isOnly
    obtain ⟨events, empty, sameEnqueued, among⟩ := run_shutdown cfg stamp isFirst shutdown
    refine ⟨events, fun conserves => ?_⟩
    have isQueued : ⟨pipeline.enqueued.length, ingest stamp event⟩ ∈
        ((signalPipeline cfg).run (pipeline.enqueue event stamp).2 events).2.enqueued := by
      rw [sameEnqueued]
      exact mem_append_right _ mem_cons_self
    have kept := conserves.kept _ isQueued
    rw [empty] at kept
    rcases among _ (kept.resolve_left nofun) with isOld | isTag
    · exact absurd (parts.tag_lt (parts.mem_enqueued isOld)) (Nat.lt_irrefl _)
    · obtain ⟨other, isOther, same⟩ := mem_map.mp isTag
      have wasQueued : other ∈ pipeline.enqueued := by
        rw [parts.enqueued]
        apply mem_append_right
        apply mem_of_mem_drop (i := done)
        rw [ahead]
        exact mem_append_left _ isOther
      have below := parts.tag_lt wasQueued
      rw [same] at below
      exact absurd below (Nat.lt_irrefl _)

end

theorem countP_tag_pos {queued : QueuedEvent} {sunk : List QueuedEvent} (isSunk : queued ∈ sunk) :
    0 < sunk.countP (·.tag = queued.tag) :=
  countP_pos_iff.mpr ⟨queued, isSunk, by simp⟩

/-- A flush that starts beside another one, or on an event that was sunk, can sink an event
for the second time. -/
theorem Parts.flush_breaks {removed : List QueuedEvent} {done : Nat}
    (parts : Parts pipeline removed done) (shutdown : Bool) {first : QueuedEvent}
    {copied rest : List QueuedEvent} (stamp : Stamp)
    (isFront : pipeline.pending = first :: copied ++ rest) (stale : ¬pipeline.FreshFront) :
    ∃ later, ¬Conserves ((signalPipeline cfg).run
      (pipeline.flushEvents shutdown (first :: copied) stamp).2 later).2 := by
  have isQueued : first ∈ pipeline.enqueued := by
    rw [parts.enqueued, isFront]
    exact mem_append_right _ mem_cons_self
  let started : SignalPipeline := (pipeline.flushEvents shutdown (first :: copied) stamp).2
  have isStarted : started.flushes =
      pipeline.flushes ++ [⟨shutdown, 0, 0, first.ingest stamp, copied⟩] := rfl
  by_cases wasSunk : first ∈ pipeline.sunk
  · refine ⟨[.sinkOnce pipeline.flushes.length true stamp], fun conserves => ?_⟩
    have isNew : started.flushes[pipeline.flushes.length]? =
        some ⟨shutdown, 0, 0, first.ingest stamp, copied⟩ := by
      rw [isStarted, getElem?_concat_length]
    obtain ⟨sunkNow, sameEnqueued⟩ := sunk_sinkOnce cfg stamp isNew
    have atMost := conserves.once first (sameEnqueued ▸ isQueued)
    change (started.step cfg (.sinkOnce pipeline.flushes.length true stamp)).2.sunk.countP _ ≤ 1
      at atMost
    rw [sunkNow, countP_append] at atMost
    dsimp only at atMost
    have before : 0 < started.sunk.countP (·.tag = first.tag) := countP_tag_pos wasSunk
    have again : [first.ingest stamp].countP (·.tag = first.tag) = 1 := by
      simp [QueuedEvent.ingest]
    omega
  · rcases parts.flushing with none | ⟨only, ahead, isOnly, isAhead, -, -⟩
    · refine absurd ⟨none, fun other isHead => ?_⟩ stale
      rw [isFront] at isHead
      cases isHead
      exact wasSunk
    · obtain rfl := parts.done_eq_zero isFront wasSunk
      rw [drop_zero, isFront] at isAhead
      have isCurrent : first = only.current := (List.cons.inj isAhead).1
      refine ⟨[.sinkOnce 1 true stamp, .sinkOnce 0 true stamp], fun conserves => ?_⟩
      have isNew : started.flushes[1]? = some ⟨shutdown, 0, 0, first.ingest stamp, copied⟩ := by
        rw [isStarted, isOnly]
        rfl
      obtain ⟨sunkNow, sameEnqueued⟩ := sunk_sinkOnce cfg stamp isNew
      have isOld : (started.step cfg (.sinkOnce 1 true stamp)).2.flushes[0]? = some only := by
        rw [SignalPipeline.step, sinkOnce, isNew]
        simp only [if_true, SignalPipeline.sinkSucceeds, isStarted, isOnly]
        split
        · rfl
        · rfl
      obtain ⟨sunkThen, stillEnqueued⟩ := sunk_sinkOnce cfg stamp isOld
      have atMost := conserves.once first (by
        change first ∈ ((started.step cfg (.sinkOnce 1 true stamp)).2.step cfg
          (.sinkOnce 0 true stamp)).2.enqueued
        rw [stillEnqueued, sameEnqueued]
        exact isQueued)
      change ((started.step cfg (.sinkOnce 1 true stamp)).2.step cfg
          (.sinkOnce 0 true stamp)).2.sunk.countP _ ≤ 1 at atMost
      rw [sunkThen, sunkNow, countP_append, countP_append, ← isCurrent] at atMost
      dsimp only at atMost
      have once : [first.ingest stamp].countP (·.tag = first.tag) = 1 := by
        simp [QueuedEvent.ingest]
      have twice : [first].countP (·.tag = first.tag) = 1 := by simp
      omega

theorem Flowing.breaks (flowing : Flowing pipeline) {event : PipelineEvent}
    (close : ¬Apart cfg pipeline event) :
    ∃ later, ¬Conserves ((signalPipeline cfg).run (pipeline.step cfg event).2 later).2 := by
  obtain ⟨removed, done, parts⟩ := flowing
  cases event with
  | enqueue event stamp =>
    simp only [Apart, not_forall, Bool.not_eq_false] at close
    obtain ⟨flush, isFlush, shutdown⟩ := close
    exact parts.enqueue_breaks event stamp isFlush shutdown
  | flushIfNeeded stamp =>
    simp only [Apart, Classical.not_imp] at close
    obtain ⟨enough, stale⟩ := close
    rw [SignalPipeline.step, flushIfNeeded, if_neg (by omega)]
    have snapshot := take_append_drop (max cfg.batchSize 1) pipeline.pending
    have long : (pipeline.pending.take (max cfg.batchSize 1)).length = max cfg.batchSize 1 := by
      rw [length_take]
      omega
    cases isTaken : pipeline.pending.take (max cfg.batchSize 1) with
    | nil =>
      rw [isTaken, length_nil] at long
      omega
    | cons first copied =>
      rw [isTaken] at snapshot
      exact parts.flush_breaks false stamp snapshot.symm stale
  | shutdownFlush stamp =>
    simp only [Apart, Classical.not_imp] at close
    obtain ⟨nonempty, stale⟩ := close
    rw [SignalPipeline.step, shutdownFlush]
    cases isPending : pipeline.pending with
    | nil => exact absurd isPending nonempty
    | cons first copied =>
      exact parts.flush_breaks true stamp (isPending.trans (append_nil _).symm) stale
  | sinkOnce index succeeds stamp => exact absurd trivial close

/-! ## Runs -/

/-- Calls that keep apart lose and repeat nothing.  Any call that does not, after calls that
do, can be followed by calls and attempts that lose or repeat an event. -/
theorem batches_law (cfg : SignalPipelineConfig) (events : List PipelineEvent)
    (apart : (signalPipeline cfg).EachStep (Apart cfg) (signalPipeline cfg).initial events) :
    (signalPipeline cfg).Always Conserves (signalPipeline cfg).initial events ∧
    ∀ event, ¬Apart cfg ((signalPipeline cfg).run (signalPipeline cfg).initial events).2 event →
      ∃ later, ¬(signalPipeline cfg).Always Conserves (signalPipeline cfg).initial
        (events ++ event :: later) := by
  have kept : ∀ (pipeline : SignalPipeline) (event : PipelineEvent), Flowing pipeline →
      Apart cfg pipeline event → Flowing ((signalPipeline cfg).step pipeline event).2 :=
    fun _ _ flowing apart => flowing.step apart
  refine ⟨?_, fun event close => ?_⟩
  · exact (apart.always (flowing_initial cfg) kept).mono fun _ flowing => flowing.conserves
  · have flowing := apart.run_invariant (flowing_initial cfg) kept
    obtain ⟨later, breaks⟩ := flowing.breaks close
    refine ⟨later, fun always => breaks ?_⟩
    have atEnd := always.run
    rw [Component.run_append] at atEnd
    exact atEnd

/-- Two events, a shutdown flush that sinks the first one and fails at the second, and another
shutdown flush. -/
def retriedShutdown : List PipelineEvent :=
  let event : SignalEvent := ⟨"e", "s", "t", .empty⟩
  let stamp : Stamp := ⟨1, 1⟩
  [.enqueue event stamp, .enqueue event stamp, .shutdownFlush stamp, .sinkOnce 0 true stamp,
    .sinkOnce 0 false stamp, .shutdownFlush stamp, .sinkOnce 0 true stamp]

/-- The second shutdown flush sinks the first event again. -/
theorem retried_shutdown_repeats :
    ¬(signalPipeline ⟨1, 0⟩).Always Conserves (signalPipeline ⟨1, 0⟩).initial
      retriedShutdown := by
  intro always
  have atEnd := always.run
  have isSunk : ((signalPipeline ⟨1, 0⟩).run (signalPipeline ⟨1, 0⟩).initial
      retriedShutdown).2.sunk.map QueuedEvent.tag = [0, 0] := by decide
  have isQueued : ((signalPipeline ⟨1, 0⟩).run (signalPipeline ⟨1, 0⟩).initial
      retriedShutdown).2.enqueued.map QueuedEvent.tag = [0, 1] := by decide
  obtain ⟨queued, membership, isFirst⟩ :=
    mem_map.mp (isQueued ▸ mem_cons_self : 0 ∈ List.map QueuedEvent.tag _)
  have atMost := atEnd.once queued membership
  have counted := congrArg (List.countP (· = 0)) isSunk
  rw [countP_map] at counted
  rw [isFirst] at atMost
  have twice : ([0, 0] : List Nat).countP (· = 0) = 2 := by decide
  rw [twice] at counted
  have same : ((fun tag : Nat => decide (tag = 0)) ∘ QueuedEvent.tag) =
      fun queued : QueuedEvent => decide (queued.tag = 0) := rfl
  rw [same] at counted
  omega

/-- A queue of one event, flushed and flushed again at the end. -/
def flushedOnce : List PipelineEvent :=
  let stamp : Stamp := ⟨1, 1⟩
  [.enqueue ⟨"e", "s", "t", .empty⟩ stamp, .flushIfNeeded stamp, .sinkOnce 0 false stamp,
    .sinkOnce 0 true stamp, .shutdownFlush stamp]

theorem flushed_once_conserves :
    (signalPipeline ⟨1, 1⟩).Always Conserves (signalPipeline ⟨1, 1⟩).initial flushedOnce := by
  refine (batches_law ⟨1, 1⟩ flushedOnce ⟨?_, ?_, trivial, trivial, ?_, trivial⟩).1
  · exact fun _ membership => nomatch membership
  · exact fun _ => ⟨rfl, fun _ _ => nofun⟩
  · exact fun nonempty => absurd rfl nonempty

end SignalPipeline

end AutoLoop.Observability
