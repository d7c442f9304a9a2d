import AutoLoop.Runtime.TriggerOutline

/-!
# Recurring triggers

Workers that run one after another over a backend that answers.  Each cron, interval or
poll event whose executor succeeds leaves one successor, whose time to fire is an interval
ahead; an event whose executor fails is marked as failed and leaves none.
-/

namespace AutoLoop.Runtime

open StateAdapter TriggerAccess Future Option List

variable {Value : Type} (form : PayloadForm Value)

/-- What is documented of the JSON library for objects, as far as members are read. -/
structure PayloadForm.Lawful : Prop where
  emptyObject : form.isObject form.emptyObject
  get_emptyObject : ∀ key, form.get form.emptyObject key = none
  get_other : ∀ value key, form.isObject value = false → form.get value key = none
  isObject_insert : ∀ value number, form.isObject value →
    form.isObject (form.insert value "next_fire_at_ms" (form.number number))
  get_insert : ∀ value number key, form.isObject value →
    form.get (form.insert value "next_fire_at_ms" (form.number number)) key =
      if key = "next_fire_at_ms" then some (form.number number) else form.get value key
  asU64_number : ∀ number, form.asU64 (form.number number) = some number
  /-- A displayed object is read back with the numbers and flags that it had. -/
  reads_back : ∀ value, form.isObject value → ∃ read, form.fromStr (form.display value) = some read ∧
    ∀ key, (form.get read key).bind form.asU64 = (form.get value key).bind form.asU64 ∧
      (form.get read key).bind form.asBool = (form.get value key).bind form.asBool

/-! ## Firings -/

def TriggerRouteKind.ready (event : ScheduleEvent) : TriggerRouteKind → Bool
  | .poll => (eventPayloadBool form event "poll_ready").getD true
  | _ => true

def TriggerRouteKind.intervalSecs (event : ScheduleEvent) : TriggerRouteKind → UInt64
  | .cron => ((eventPayloadU64 form event "cron_interval_secs").or
      (eventPayloadU64 form event "interval_secs")).getD 300
  | .interval => (eventPayloadU64 form event "interval_secs").getD 120
  | .poll => (eventPayloadU64 form event "poll_interval_secs").getD 60
  | _ => 0

/-- An event that a worker passed on, with the access at which its turn came. -/
structure Firing where
  event : ScheduleEvent
  tick : Nat
  deriving DecidableEq, Repr

namespace Firing

variable (host : Nat → TriggerMoment) (firing : Firing)

def kind : TriggerRouteKind := classifyTriggerKind firing.event.topic

def recurs : Bool := firing.kind.recurs

/-- The time at which an event that recurs was found due. -/
def checkedAt : UInt64 := (host firing.tick).nowMs

/-- Whether the executor succeeds; events that recur have read the clock before. -/
def succeeds : Bool := (host (firing.tick + if firing.recurs then 1 else 0)).succeeds

/-- The time from which the next cycle is counted. -/
def scheduledAt : UInt64 := (host (firing.tick + 3)).nowMs

def intervalSecs : UInt64 := firing.kind.intervalSecs form firing.event

def nextFireAtMs : UInt64 := firing.scheduledAt host + firing.intervalSecs form * 1000

/-- The arithmetic on the times does not wrap around. -/
def Fits : Prop :=
  (firing.scheduledAt host).toNat + (firing.intervalSecs form).toNat * 1000 < 2 ^ 64

def status : String := if firing.succeeds host then "completed" else "failed"

/-- The event that the firing leaves for the next cycle. -/
def successor (id : UInt64) : ScheduleEvent where
  id
  sessionId := firing.event.sessionId
  topic := firing.event.topic
  toolName := firing.event.toolName
  payload := withNextFirePayload form firing.event.payload (firing.nextFireAtMs form host)
  actorId := firing.event.actorId
  status := "queued"

def leavesSuccessor : Bool := firing.recurs && firing.succeeds host

def settle (repo : InMemory) : InMemory :=
  (setStatus firing.event.id (firing.status host)).perform repo

/-- What the firing does to the backend. -/
def perform (repo : InMemory) : InMemory :=
  if firing.leavesSuccessor host then
    (create firing.event.sessionId firing.event.topic firing.event.toolName
      (withNextFirePayload form firing.event.payload (firing.nextFireAtMs form host))
      firing.event.actorId).perform (firing.settle host repo)
  else firing.settle host repo

end Firing

/-- The events that the worker passes on, from these that it has listed. -/
def dispatchFirings : List ScheduleEvent → TriggerWorld → List Firing
  | [], _ => []
  | event :: rest, world =>
    if ¬isTriggerTopic event.topic then dispatchFirings rest world
    else
      let after := ((dispatch form (classifyTriggerKind event.topic) event).run world).2
      if after.passed = world.passed then dispatchFirings rest after
      else ⟨event, world.tick⟩ :: dispatchFirings rest after

def workerFirings (sessionId : String) (world : TriggerWorld) : List Firing :=
  match (listPending sessionId).run world with
  | (.ok pending, after) => dispatchFirings form pending after
  | (.error _, _) => []

def runWorker (sessionId : String) (world : TriggerWorld) : TriggerWorld :=
  ((runWorkerOnce form sessionId).run world).2

def runWorkers (sessions : List String) (world : TriggerWorld) : TriggerWorld :=
  sessions.foldl (fun world sessionId => runWorker form sessionId world) world

def firingsOf : List String → TriggerWorld → List Firing
  | [], _ => []
  | sessionId :: rest, world =>
    workerFirings form sessionId world ++ firingsOf rest (runWorker form sessionId world)

/-! ## One event -/

def Answers (world : TriggerWorld) : Prop := ∀ tick, (world.host tick).refusal = none

section Dispatch

attribute [local irreducible] classifyTriggerKind isTriggerTopic isSyncTopic isRefreshTopic

variable {form} {world : TriggerWorld} {event stored : ScheduleEvent}

theorem run_onBackend {α : Type} (answers : Answers world) (name : TriggerWorld → TriggerAccess)
    (action : Effect InMemory α) :
    (onBackend name action).run world = ((action world.repo).1,
      { world with repo := (action world.repo).2, tick := world.tick + 1 }) := by
  have answered : world.moment.refusal = none := answers world.tick
  simp only [onBackend, Future.call, Future.run, Effect.ofExcept_apply, answered]

theorem run_updateScheduleStatus (answers : Answers world)
    (found : world.repo.events.get event.id = some stored) (status : String) :
    (updateScheduleStatus event.id status).run world = (.ok (), { world with
      repo := (setStatus event.id status).perform world.repo
      tick := world.tick + 1 }) := by
  rw [updateScheduleStatus, run_onBackend answers]
  simp only [TriggerAccess.perform, InMemory.updateScheduleStatus, found]

theorem run_passTo (event : ScheduleEvent) (world : TriggerWorld) :
    (passTo event).run world = (.ok (world.host world.tick).succeeds, { world with
      passed := world.passed ++ [event]
      tick := world.tick + 1 }) := rfl

theorem run_fire (event : ScheduleEvent) (world : TriggerWorld) :
    (fire event).run world = (.ok (world.host world.tick).succeeds, { world with
      passed := world.passed ++ [event]
      tick := world.tick + 1 }) := by
  rw [fire]
  split
  · exact run_passTo event world
  · split
    · exact run_passTo event world
    · exact run_passTo event world

structure Turned (form : PayloadForm Value) (world after : TriggerWorld) (event : ScheduleEvent) :
    Prop where
  host : after.host = world.host
  later : world.tick ≤ after.tick
  ends : (after.passed = world.passed ∧ after.repo = world.repo) ∨
    (after.passed = world.passed ++ [event] ∧
      after.repo = Firing.perform form world.host ⟨event, world.tick⟩ world.repo ∧
      world.tick < after.tick ∧
      ((classifyTriggerKind event.topic).recurs = true →
        isDue form event (world.host world.tick).nowMs = true))

section
variable (answers : Answers world) (found : world.repo.events.get event.id = some stored)
include answers found

theorem run_settleStatus (succeeds : Bool) :
    (settleStatus event succeeds).run world =
      (.ok (if succeeds then .completed else .failed), { world with
        repo := (setStatus event.id (if succeeds then "completed" else "failed")).perform
          world.repo
        tick := world.tick + 1 }) := by
  rw [settleStatus]
  cases succeeds with
  | true =>
    exact (run_bind_of_ok (run_updateScheduleStatus answers found "completed")).trans rfl
  | false =>
    exact (run_bind_of_ok (run_updateScheduleStatus answers found "failed")).trans rfl

theorem run_executeSingleFireEvent (once : (classifyTriggerKind event.topic).recurs = false) :
    ∃ outcome after, (executeSingleFireEvent form event).run world = (.ok outcome, after) ∧
      Turned form world after event := by
  have fires : (shouldFireEvent form event).run world = (.ok true, world) := by
    rw [shouldFireEvent, if_neg (by rw [once]; exact Bool.false_ne_true)]
    rfl
  unfold executeSingleFireEvent
  rw [run_bind_of_ok fires]
  simp only [not_true_eq_false, if_false]
  rw [run_bind_of_ok (run_fire event world)]
  have answersAfter : Answers { world with
      passed := world.passed ++ [event], tick := world.tick + 1 } := answers
  refine ⟨_, _, run_settleStatus answersAfter found _, rfl, ?_, Or.inr ⟨rfl, ?_, ?_, ?_⟩⟩
  · exact Nat.le_add_right _ 2
  · have isOnce : Firing.recurs ⟨event, world.tick⟩ = false := once
    simp only [Firing.perform, Firing.leavesSuccessor, Firing.settle, Firing.status,
      Firing.succeeds, isOnce, Bool.false_and, Bool.false_eq_true, if_false, Nat.add_zero]
  · exact Nat.lt_succ_of_le (Nat.le_add_right _ _)
  · intro recurs
    rw [once] at recurs
    cases recurs

theorem run_executeRecurringEvent {ready : Bool} {intervalSecs : UInt64}
    (recurs : (classifyTriggerKind event.topic).recurs = true)
    (isInterval : (classifyTriggerKind event.topic).intervalSecs form event = intervalSecs) :
    ∃ outcome after, (executeRecurringEvent form ready intervalSecs event).run world =
        (.ok outcome, after) ∧ Turned form world after event := by
  have checks : (shouldFireEvent form event).run world =
      (.ok (isDue form event (world.host world.tick).nowMs),
        { world with tick := world.tick + 1 }) := by
    rw [shouldFireEvent, if_pos recurs]
    rfl
  unfold executeRecurringEvent
  rw [run_bind_of_ok checks]
  by_cases due : isDue form event (world.host world.tick).nowMs = true
  · by_cases isReady : ready = true
    · simp only [due, isReady, not_true_eq_false, if_false]
      rw [executor, run_bind_of_ok (run_passTo event _)]
      simp only
      have answersPassed : Answers { world with
          passed := world.passed ++ [event], tick := world.tick + 1 + 1 } := answers
      rw [run_bind_of_ok (run_settleStatus answersPassed found _)]
      have isRecurring : Firing.recurs ⟨event, world.tick⟩ = true := recurs
      cases succeeded : (world.host (world.tick + 1)).succeeds with
      | false =>
        simp only [Bool.false_eq_true, if_false, reduceCtorEq]
        refine ⟨_, _, rfl, rfl, Nat.le_add_right _ 3, Or.inr ⟨rfl, ?_, ?_, fun _ => due⟩⟩
        · simp only [Firing.perform, Firing.leavesSuccessor, Firing.settle, Firing.status,
            Firing.succeeds, isRecurring, if_true, succeeded, Bool.and_false,
            Bool.false_eq_true, if_false]
        · exact Nat.lt_succ_of_le (Nat.le_add_right _ _)
      | true =>
        simp only [if_true]
        refine ⟨.completed, { world with
          passed := world.passed ++ [event]
          repo := Firing.perform form world.host ⟨event, world.tick⟩ world.repo
          tick := world.tick + 5 }, ?_, rfl, Nat.le_add_right _ 5,
          Or.inr ⟨rfl, rfl, Nat.lt_succ_of_le (Nat.le_add_right _ _), fun _ => due⟩⟩
        let settled : TriggerWorld := { world with
          passed := world.passed ++ [event]
          repo := (setStatus event.id "completed").perform world.repo
          tick := world.tick + 3 }
        have answersSettled : Answers { settled with tick := settled.tick + 1 } := answers
        have reads : currentTimeMs.run settled =
            (.ok (world.host (world.tick + 3)).nowMs, { settled with tick := settled.tick + 1 }) := rfl
        have schedules : ∀ now, (scheduleNextEvent form event now).run
            { settled with tick := settled.tick + 1 } = (.ok (), { settled with
              repo := (create event.sessionId event.topic event.toolName
                (withNextFirePayload form event.payload now) event.actorId).perform settled.repo
              tick := settled.tick + 2 }) := by
          intro now
          exact (run_bind_of_ok (run_onBackend answersSettled _ _)).trans rfl
        refine (run_bind_of_ok reads).trans
          ((run_bind_of_ok (schedules _)).trans ?_)
        simp only [Firing.perform, Firing.leavesSuccessor, Firing.settle, Firing.status,
          Firing.succeeds, isRecurring, if_true, succeeded, Bool.and_true]
        rw [← isInterval]
        rfl
    · simp only [due, isReady]
      exact ⟨_, _, rfl, rfl, Nat.le_succ _, Or.inl ⟨rfl, rfl⟩⟩
  · simp only [due]
    exact ⟨_, _, rfl, rfl, Nat.le_succ _, Or.inl ⟨rfl, rfl⟩⟩

end

variable (form) in
theorem run_dispatch (answers : Answers world)
    (found : world.repo.events.get event.id = some stored) :
    ∃ outcome after, (dispatch form (classifyTriggerKind event.topic) event).run world =
        (.ok outcome, after) ∧ Turned form world after event := by
  cases isKind : classifyTriggerKind event.topic with
  | cron | interval | poll =>
    exact run_executeRecurringEvent answers found (by rw [isKind]; rfl) (by rw [isKind]; rfl)
  | onMessage | webhook | focus | once | unknown =>
    exact run_executeSingleFireEvent answers found (by rw [isKind]; rfl)

end Dispatch

/-! ## What a firing does to the backend -/

section Perform

variable {form} {host : Nat → TriggerMoment} {firing : Firing} {repo : InMemory} {id : UInt64}
variable {event : ScheduleEvent}

variable (host firing repo) in
theorem settle_counts :
    (firing.settle host repo).eventsBySession = repo.eventsBySession ∧
      (firing.settle host repo).nextId = repo.nextId := by
  rw [Firing.settle, TriggerAccess.perform, InMemory.updateScheduleStatus]
  cases repo.events.get firing.event.id with
  | none => exact ⟨rfl, rfl⟩
  | some event => exact ⟨rfl, rfl⟩

theorem get_settle_of_ne (different : id ≠ firing.event.id) :
    (firing.settle host repo).events.get id = repo.events.get id := by
  rw [Firing.settle, TriggerAccess.perform, get_updateScheduleStatus]
  simp [different]

theorem get_settle_own (found : repo.events.get firing.event.id = some firing.event) :
    (firing.settle host repo).events.get firing.event.id =
      some { firing.event with status := firing.status host } := by
  rw [Firing.settle, TriggerAccess.perform, get_updateScheduleStatus, found, map_some, if_pos rfl]

theorem nextId_perform : (firing.perform form host repo).nextId =
    if firing.leavesSuccessor host then repo.nextId + 1 else repo.nextId := by
  rw [Firing.perform]
  split
  · exact congrArg (· + 1) (settle_counts host firing repo).2
  · exact (settle_counts host firing repo).2

section
variable (numbered : Numbered repo) (room : repo.nextId.toNat + 1 < 2 ^ 64)
include numbered room

theorem numbered_perform :
    Numbered (firing.perform form host repo) := by
  have settled : Numbered (firing.settle host repo) := numbered.perform trivial
  rw [Firing.perform]
  split
  · apply settled.perform
    rw [Numbers, (settle_counts host firing repo).2]
    exact room
  · exact settled

theorem get_perform_stored (found : repo.events.get id = some event) :
    (firing.perform form host repo).events.get id = (firing.settle host repo).events.get id := by
  rw [Firing.perform]
  split
  · have fresh : id ≠ (firing.settle host repo).nextId + 1 := by
      rintro rfl
      have counted := numbered.counted _ _ found
      rw [(settle_counts host firing repo).2, UInt64.toNat_add, Nat.mod_eq_of_lt (by exact room)] at counted
      simp at counted
    change ((firing.settle host repo).events.insert _ _).get id = _
    rw [HashMap.get_insert, if_neg fresh]
  · rfl

theorem get_perform_of_ne
    (found : repo.events.get id = some event) (different : id ≠ firing.event.id) :
    (firing.perform form host repo).events.get id = some event := by
  rw [get_perform_stored numbered room found, get_settle_of_ne different, found]

theorem get_perform_own (found : repo.events.get firing.event.id = some firing.event) :
    (firing.perform form host repo).events.get firing.event.id =
      some { firing.event with status := firing.status host } := by
  rw [get_perform_stored numbered room found, get_settle_own found]

end

variable (form repo) in
theorem perform_successor (leaves : firing.leavesSuccessor host = true) :
    (firing.perform form host repo).events.get (repo.nextId + 1) =
        some (firing.successor form host (repo.nextId + 1)) ∧
      repo.nextId + 1 ∈ ((firing.perform form host repo).eventsBySession.get
        firing.event.sessionId).getD [] := by
  rw [Firing.perform, if_pos leaves, ← (settle_counts host firing repo).2]
  constructor
  · change (HashMap.insert _ _ _).get _ = _
    rw [HashMap.get_insert, if_pos rfl]
    rfl
  · change _ ∈ ((HashMap.insert _ _ _).get _).getD []
    rw [HashMap.get_insert, if_pos rfl, getD_some]
    exact mem_append_right _ (mem_singleton.mpr rfl)

theorem stored_of_perform (found : (firing.perform form host repo).events.get id = some event) :
    (repo.events.get id).isSome ∨
      (firing.leavesSuccessor host = true ∧ id = repo.nextId + 1) := by
  have settled : ∀ event, (firing.settle host repo).events.get id = some event →
      (repo.events.get id).isSome := by
    intro event isSettled
    rw [Firing.settle, TriggerAccess.perform, get_updateScheduleStatus] at isSettled
    obtain ⟨before, isBefore, -⟩ := map_eq_some_iff.mp isSettled
    rw [isBefore]
    rfl
  rw [Firing.perform] at found
  split at found
  · next leaves =>
    rw [← (settle_counts host firing repo).2]
    change ((firing.settle host repo).events.insert _ _).get id = _ at found
    rw [HashMap.get_insert] at found
    split at found
    · next same => exact Or.inr ⟨leaves, same⟩
    · exact Or.inl (settled event found)
  · exact Or.inl (settled event found)

theorem listed_perform {sessionId : String}
    (listed : id ∈ (repo.eventsBySession.get sessionId).getD []) :
    id ∈ ((firing.perform form host repo).eventsBySession.get sessionId).getD [] := by
  rw [← (settle_counts host firing repo).1] at listed
  rw [Firing.perform]
  split
  · change id ∈ ((HashMap.insert _ _ _).get sessionId).getD []
    rw [HashMap.get_insert]
    split
    · next same =>
      rw [same] at listed
      exact mem_append_left _ listed
    · exact listed
  · exact listed

end Perform

/-! ## Lineages -/

def leaving (host : Nat → TriggerMoment) (firings : List Firing) : List Firing :=
  firings.filter (·.leavesSuccessor host)

/-- The identifier of the successor that is left so many places after the first. -/
def successorId (start : TriggerWorld) (index : Nat) : UInt64 :=
  UInt64.ofNat (start.repo.nextId.toNat + index + 1)

/-- The backend after these firings: each has settled its event, and each successor is
pending or has been fired in its turn. -/
structure Lineage (start world : TriggerWorld) (firings : List Firing) : Prop where
  host : world.host = start.host
  numbered : Numbered world.repo
  counter : world.repo.nextId.toNat =
    start.repo.nextId.toNat + (leaving start.host firings).length
  ticks : ∀ firing ∈ firings, firing.tick < world.tick
  once : (firings.map (·.event.id)).Nodup
  settled : ∀ firing ∈ firings, world.repo.events.get firing.event.id =
    some { firing.event with status := firing.status start.host }
  due : ∀ firing ∈ firings, firing.recurs = true →
    isDue form firing.event (firing.checkedAt start.host) = true
  fresh : ∀ id event, world.repo.events.get id = some event →
    (start.repo.events.get id).isSome ∨
      ∃ index < (leaving start.host firings).length, id = successorId start index
  successors : ∀ (index : Nat) firing, (leaving start.host firings)[index]? = some firing →
    ∃ status, world.repo.events.get (successorId start index) =
        some { firing.successor form start.host (successorId start index) with status } ∧
      successorId start index ∈
        (world.repo.eventsBySession.get firing.event.sessionId).getD [] ∧
      (status = "queued" ∨ ∃ later ∈ firings, later.event.id = successorId start index ∧
        firing.tick < later.tick)

section Lineages

variable {form} {start world after : TriggerWorld} {firings : List Firing}
variable {event : ScheduleEvent}

theorem Lineage.refl (numbered : Numbered start.repo) : Lineage form start start [] where
  host := rfl
  numbered := numbered
  counter := rfl
  ticks := nofun
  once := nodup_nil
  settled := nofun
  due := nofun
  fresh := fun id event found => Or.inl (by rw [found]; rfl)
  successors := nofun

theorem isPending_status (firing : Firing) (host : Nat → TriggerMoment) :
    isPending { firing.event with status := firing.status host } = false := by
  apply isPending_of_settles
  simp only [Firing.status]
  split
  · exact Or.inl rfl
  · exact Or.inr rfl

theorem Lineage.unfired (lineage : Lineage form start world firings)
    (found : world.repo.events.get event.id = some event) (pending : isPending event = true) :
    ∀ firing ∈ firings, firing.event.id ≠ event.id := by
  intro firing membership same
  have settled := lineage.settled firing membership
  rw [same, found] at settled
  have isSettled := isPending_status firing start.host
  rw [← Option.some.inj settled, pending] at isSettled
  cases isSettled

theorem Lineage.skip (lineage : Lineage form start world firings)
    (host : after.host = world.host) (later : world.tick ≤ after.tick)
    (repo : after.repo = world.repo) : Lineage form start after firings where
  host := host.trans lineage.host
  numbered := by
    rw [repo]
    exact lineage.numbered
  counter := by
    rw [repo]
    exact lineage.counter
  ticks := fun firing membership => (lineage.ticks firing membership).trans_le later
  once := lineage.once
  settled := by
    rw [repo]
    exact lineage.settled
  due := lineage.due
  fresh := by
    rw [repo]
    exact lineage.fresh
  successors := by
    rw [repo]
    exact lineage.successors

theorem with_status {event other : ScheduleEvent} {status final : String}
    (same : event = { other with status }) :
    { event with status := final } = { other with status := final } := by
  rw [same]

-- The texts of statuses and topics would otherwise be compared.
attribute [local irreducible] classifyTriggerKind withNextFirePayload Firing.status

theorem Lineage.fire (lineage : Lineage form start world firings)
    (found : world.repo.events.get event.id = some event) (pending : isPending event = true)
    (room : start.repo.nextId.toNat + firings.length + 1 < 2 ^ 64)
    (host : after.host = world.host) (later : world.tick < after.tick)
    (repo : after.repo = Firing.perform form world.host ⟨event, world.tick⟩ world.repo)
    (due : (classifyTriggerKind event.topic).recurs = true →
      isDue form event (world.host world.tick).nowMs = true) :
    Lineage form start after (firings ++ [⟨event, world.tick⟩]) := by
  have unfired := lineage.unfired found pending
  have few : (leaving start.host firings).length ≤ firings.length := length_filter_le _ _
  have counter := lineage.counter
  have hasRoom : world.repo.nextId.toNat + 1 < 2 ^ 64 := by omega
  have isId : successorId start (leaving start.host firings).length = world.repo.nextId + 1 := by
    apply UInt64.toNat_inj.mp
    rw [successorId, ← counter, UInt64.toNat_ofNat', UInt64.toNat_add]
    rfl
  rw [lineage.host] at repo due
  constructor
  · exact host.trans lineage.host
  · rw [repo]
    exact numbered_perform lineage.numbered hasRoom
  · rw [repo, nextId_perform, leaving, filter_append, length_append, ← leaving]
    split
    · next leaves =>
      rw [UInt64.toNat_add, Nat.mod_eq_of_lt (by exact hasRoom), counter]
      simp [leaves, Nat.add_assoc]
    · next stays => simp [stays, counter]
  · intro firing membership
    rcases mem_append.mp membership with earlier | new
    · exact (lineage.ticks firing earlier).trans later
    · rw [mem_singleton.mp new]
      exact later
  · rw [map_append, nodup_append]
    refine ⟨lineage.once, nodup_singleton _, ?_⟩
    intro id membership other isOther same
    obtain ⟨firing, inFirings, rfl⟩ := mem_map.mp membership
    rw [map_singleton, mem_singleton] at isOther
    exact unfired firing inFirings (same.trans isOther)
  · intro firing membership
    rw [repo]
    rcases mem_append.mp membership with earlier | new
    · exact get_perform_of_ne lineage.numbered hasRoom (lineage.settled firing earlier)
        (unfired firing earlier)
    · rw [mem_singleton.mp new]
      exact get_perform_own lineage.numbered hasRoom found
  · intro firing membership recurs
    rcases mem_append.mp membership with earlier | new
    · exact lineage.due firing earlier recurs
    · rw [mem_singleton.mp new] at recurs ⊢
      exact due recurs
  · intro id stored isStored
    rw [repo] at isStored
    rw [leaving, filter_append, length_append, ← leaving]
    rcases stored_of_perform isStored with before | ⟨leaves, isNew⟩
    · obtain ⟨earlier, isEarlier⟩ := isSome_iff_exists.mp before
      rcases lineage.fresh id earlier isEarlier with already | ⟨index, inside, isSuccessor⟩
      · exact Or.inl already
      · exact Or.inr ⟨index, Nat.lt_add_right _ inside, isSuccessor⟩
    · refine Or.inr ⟨(leaving start.host firings).length, ?_, isNew.trans isId.symm⟩
      simp [leaves]
  · intro index firing isLeaving
    rw [repo]
    rw [leaving, filter_append, ← leaving] at isLeaving
    rcases Nat.lt_or_ge index (leaving start.host firings).length with inside | beyond
    · rw [getElem?_append_left inside] at isLeaving
      obtain ⟨status, isStored, listed, ends⟩ := lineage.successors index firing isLeaving
      have isFiring : firing ∈ firings :=
        (mem_filter.mp (mem_of_getElem? isLeaving)).1
      by_cases same : successorId start index = event.id
      · refine ⟨Firing.status start.host ⟨event, world.tick⟩, ?_, listed_perform listed, Or.inr ?_⟩
        · rw [same] at isStored ⊢
          rw [found] at isStored
          have own : (Firing.perform form start.host ⟨event, world.tick⟩ world.repo).events.get
              event.id = some { event with status := Firing.status start.host ⟨event, world.tick⟩ } :=
            get_perform_own lineage.numbered hasRoom found
          rw [own, with_status (Option.some.inj isStored)]
        · exact ⟨_, mem_append_right _ (mem_singleton.mpr rfl), same.symm,
            lineage.ticks firing isFiring⟩
      · refine ⟨status, get_perform_of_ne lineage.numbered hasRoom isStored same,
          listed_perform listed, ?_⟩
        rcases ends with queued | ⟨other, membership, isSuccessor, behind⟩
        · exact Or.inl queued
        · exact Or.inr ⟨other, mem_append_left _ membership, isSuccessor, behind⟩
    · rw [getElem?_append_right beyond] at isLeaving
      have isNew : (⟨event, world.tick⟩ : Firing).leavesSuccessor start.host = true ∧
          index = (leaving start.host firings).length ∧ firing = ⟨event, world.tick⟩ := by
        rw [filter_singleton] at isLeaving
        cases leaves : (⟨event, world.tick⟩ : Firing).leavesSuccessor start.host with
        | false =>
          rw [leaves] at isLeaving
          cases isLeaving
        | true =>
          rw [leaves] at isLeaving
          obtain ⟨isFirst, same⟩ := List.getElem?_eq_some_iff.mp isLeaving
          have isZero : index - (leaving start.host firings).length = 0 := Nat.lt_one_iff.mp isFirst
          simp only [isZero] at same
          exact ⟨rfl, by omega, same.symm⟩
      obtain ⟨leaves, rfl, rfl⟩ := isNew
      rw [isId]
      obtain ⟨isStored, listed⟩ := perform_successor form world.repo leaves
      exact ⟨"queued", isStored, listed, Or.inl rfl⟩

end Lineages

/-! ## Workers in turn -/

section Workers

variable {form} {start world : TriggerWorld} {done : List Firing}

theorem lineage_dispatchAll {events : List ScheduleEvent} (report : TriggerWorkerReport)
    (answers : Answers world) (lineage : Lineage form start world done)
    (waiting : ∀ event ∈ events, world.repo.events.get event.id = some event ∧
      isPending event = true)
    (nodup : (events.map (·.id)).Nodup)
    (room : start.repo.nextId.toNat + done.length +
      (dispatchFirings form events world).length < 2 ^ 64) :
    ∃ counted after, (dispatchAll form events report).run world = (.ok counted, after) ∧
      Lineage form start after (done ++ dispatchFirings form events world) := by
  induction events generalizing report world done with
  | nil => exact ⟨report, world, rfl, by rw [dispatchFirings, append_nil]; exact lineage⟩
  | cons event rest ih =>
    obtain ⟨⟨found, pending⟩, waitingRest⟩ := forall_mem_cons.mp waiting
    obtain ⟨apart, nodupRest⟩ := nodup_cons.mp nodup
    rw [dispatchFirings] at room ⊢
    rw [dispatchAll]
    by_cases isTrigger : isTriggerTopic event.topic = true
    · obtain ⟨outcome, after, ran, turned⟩ :=
        run_dispatch form answers found
      have answersAfter : Answers after := by
        intro tick
        rw [turned.host]
        exact answers tick
      simp only [isTrigger, not_true_eq_false, if_false, ran] at room ⊢
      rw [run_bind_of_ok ran]
      rcases turned.ends with ⟨unpassed, unchanged⟩ | ⟨passed, performed, later, due⟩
      · rw [if_pos unpassed] at room ⊢
        apply ih _ answersAfter (lineage.skip turned.host turned.later unchanged) _ nodupRest room
        rw [unchanged]
        exact waitingRest
      · have changed : after.passed ≠ world.passed := by
          rw [passed]
          simp
        rw [if_neg changed] at room ⊢
        rw [length_cons] at room
        have few : (leaving start.host done).length ≤ done.length := length_filter_le _ _
        have counter := lineage.counter
        have fired := lineage.fire found pending (by omega) turned.host later performed due
        rw [append_cons]
        apply ih _ answersAfter fired _ nodupRest
        · rw [length_append, length_singleton]
          omega
        · intro other membership
          refine ⟨?_, (waitingRest other membership).2⟩
          rw [performed]
          apply get_perform_of_ne lineage.numbered (by omega) (waitingRest other membership).1
          intro same
          exact apart (mem_map.mpr ⟨other, membership, same⟩)
    · simp only [isTrigger, not_false_eq_true, if_true] at room ⊢
      exact ih _ answers lineage waitingRest nodupRest room

theorem run_listPending (answers : Answers world) (sessionId : String) :
    (listPending sessionId).run world = (.ok (pendingIn sessionId world.repo),
      { world with tick := world.tick + 1 }) := by
  exact (run_bind_of_ok (run_onBackend answers _ _)).trans rfl

theorem lineage_runWorker (answers : Answers world) (lineage : Lineage form start world done)
    (sessionId : String)
    (room : start.repo.nextId.toNat + done.length +
      (workerFirings form sessionId world).length < 2 ^ 64) :
    ∃ report, (runWorkerOnce form sessionId).run world =
        (.ok report, runWorker form sessionId world) ∧
      Lineage form start (runWorker form sessionId world)
        (done ++ workerFirings form sessionId world) := by
  have lists := run_listPending answers sessionId
  rw [workerFirings, lists] at room ⊢
  simp only at room ⊢
  have listed : Lineage form start { world with tick := world.tick + 1 } done :=
    lineage.skip rfl (Nat.le_succ _) rfl
  obtain ⟨report, after, ran, law⟩ := lineage_dispatchAll
    { sessionId, scanned := (pendingIn sessionId world.repo).length }
    (show Answers { world with tick := world.tick + 1 } from answers) listed
    (fun event membership => get_of_mem_pendingIn lineage.numbered membership)
    (nodup_pendingIn lineage.numbered) room
  have ranWorker : (runWorkerOnce form sessionId).run world = (.ok report, after) := by
    rw [runWorkerOnce, run_bind_of_ok lists]
    exact ran
  have isAfter : runWorker form sessionId world = after := by
    rw [runWorker, ranWorker]
  rw [isAfter]
  exact ⟨report, ranWorker, law⟩

theorem lineage_runWorkers (answers : Answers world) (lineage : Lineage form start world done)
    (sessions : List String)
    (room : start.repo.nextId.toNat + done.length + (firingsOf form sessions world).length <
      2 ^ 64) :
    Lineage form start (runWorkers form sessions world) (done ++ firingsOf form sessions world) := by
  induction sessions generalizing world done with
  | nil =>
    rw [firingsOf, append_nil]
    exact lineage
  | cons sessionId rest ih =>
    rw [firingsOf] at room ⊢
    rw [length_append] at room
    obtain ⟨-, -, ran⟩ := lineage_runWorker answers lineage sessionId (by omega)
    have answersAfter : Answers (runWorker form sessionId world) := by
      intro tick
      rw [ran.host, ← lineage.host]
      exact answers tick
    rw [runWorkers, foldl_cons, ← runWorkers, ← append_assoc]
    apply ih answersAfter ran
    rw [length_append]
    omega

theorem mem_events_of_mem_dispatchFirings {events : List ScheduleEvent} {firing : Firing}
    (membership : firing ∈ dispatchFirings form events world) : firing.event ∈ events := by
  induction events generalizing world with
  | nil => cases membership
  | cons event rest ih =>
    rw [dispatchFirings] at membership
    split at membership
    · exact mem_cons_of_mem _ (ih membership)
    · simp only at membership
      split at membership
      · exact mem_cons_of_mem _ (ih membership)
      · cases membership with
        | head => exact mem_cons_self
        | tail _ inRest => exact mem_cons_of_mem _ (ih inRest)

end Workers

/-! ## The payload of a successor -/

section Payloads

variable {form} (lawful : form.Lawful) (host : Nat → TriggerMoment) (firing : Firing) (id : UInt64)

include lawful

theorem get_withNextFirePayload (payload : String) (next : UInt64) :
    ∃ read, form.fromStr (withNextFirePayload form payload next) = some read ∧
      (form.get read "next_fire_at_ms").bind form.asU64 = some next ∧
      ∀ key ≠ "next_fire_at_ms", (form.get read key).bind form.asU64 =
            (form.fromStr payload).bind (fun value => (form.get value key).bind form.asU64) ∧
          (form.get read key).bind form.asBool =
            (form.fromStr payload).bind (fun value => (form.get value key).bind form.asBool) := by
  have inserted : ∀ value, form.isObject value = true →
      ∃ read, form.fromStr (form.display (form.insert value "next_fire_at_ms"
          (form.number next))) = some read ∧
        (form.get read "next_fire_at_ms").bind form.asU64 = some next ∧
        ∀ key ≠ "next_fire_at_ms",
          (form.get read key).bind form.asU64 = (form.get value key).bind form.asU64 ∧
            (form.get read key).bind form.asBool = (form.get value key).bind form.asBool := by
    intro value isObject
    obtain ⟨read, reads, same⟩ := lawful.reads_back _
      (lawful.isObject_insert value next isObject)
    refine ⟨read, reads, ?_, ?_⟩
    · rw [(same _).1, lawful.get_insert _ _ _ isObject, if_pos rfl, bind_some, lawful.asU64_number]
    · intro key different
      rw [(same key).1, (same key).2, lawful.get_insert _ _ _ isObject, if_neg different]
      exact ⟨rfl, rfl⟩
  rw [withNextFirePayload]
  cases parsed : form.fromStr payload with
  | none =>
    obtain ⟨read, reads, isNext, others⟩ := inserted _ lawful.emptyObject
    refine ⟨read, reads, isNext, fun key different => ?_⟩
    rw [(others key different).1, (others key different).2, lawful.get_emptyObject]
    exact ⟨rfl, rfl⟩
  | some value =>
    cases isObject : form.isObject value with
    | true =>
      rw [filter_some, if_pos isObject]
      obtain ⟨read, reads, isNext, others⟩ := inserted value isObject
      exact ⟨read, reads, isNext, others⟩
    | false =>
      rw [filter_some, if_neg (by rw [isObject]; exact Bool.false_ne_true)]
      obtain ⟨read, reads, isNext, others⟩ := inserted _ lawful.emptyObject
      refine ⟨read, reads, isNext, fun key different => ?_⟩
      rw [(others key different).1, (others key different).2, lawful.get_emptyObject,
        bind_some, bind_some, lawful.get_other value key isObject]
      exact ⟨rfl, rfl⟩

theorem eventPayload_successor :
    eventPayloadU64 form (firing.successor form host id) "next_fire_at_ms" =
        some (firing.nextFireAtMs form host) ∧
      ∀ key ≠ "next_fire_at_ms", eventPayloadU64 form (firing.successor form host id) key =
            eventPayloadU64 form firing.event key ∧
          eventPayloadBool form (firing.successor form host id) key =
            eventPayloadBool form firing.event key := by
  obtain ⟨read, reads, isNext, others⟩ :=
    get_withNextFirePayload lawful firing.event.payload (firing.nextFireAtMs form host)
  have isPayload : (firing.successor form host id).payload =
      withNextFirePayload form firing.event.payload (firing.nextFireAtMs form host) := rfl
  simp only [eventPayloadU64, eventPayloadBool, isPayload, reads]
  exact ⟨isNext, others⟩

theorem isDue_successor {event : ScheduleEvent} {now : UInt64}
    (payload : event.payload = (firing.successor form host id).payload)
    (due : isDue form event now = true) : (firing.nextFireAtMs form host).toNat ≤ now.toNat := by
  obtain ⟨read, reads, isNext, -⟩ :=
    get_withNextFirePayload lawful firing.event.payload (firing.nextFireAtMs form host)
  have isPayload : event.payload =
      withNextFirePayload form firing.event.payload (firing.nextFireAtMs form host) := payload
  simp only [isDue, isPayload, reads, isNext, getD_some, Bool.or_eq_true,
    decide_eq_true_eq] at due
  rcases due with zero | reached
  · rw [zero]
    exact Nat.zero_le _
  · exact UInt64.le_iff_toNat_le.mp reached

end Payloads

theorem toNat_nextFireAtMs {host : Nat → TriggerMoment} {firing : Firing}
    (fits : firing.Fits form host) :
    (firing.nextFireAtMs form host).toNat =
      (firing.scheduledAt host).toNat + (firing.intervalSecs form).toNat * 1000 := by
  rw [Firing.Fits] at fits
  have thousand : (1000 : UInt64).toNat = 1000 := rfl
  rw [Firing.nextFireAtMs, UInt64.toNat_add, UInt64.toNat_mul, thousand,
    Nat.mod_eq_of_lt (by omega : (firing.intervalSecs form).toNat * 1000 < 2 ^ 64),
    Nat.mod_eq_of_lt fits]

/-! ## Recurring triggers advance -/

/-- What one run of a worker leaves: a failure is marked, and each firing that leaves a
successor leaves one, which is pending. -/
structure AdvancesOnce (before after : TriggerWorld) (firings : List Firing) : Prop where
  failed : ∀ firing ∈ firings, firing.succeeds before.host = false →
    after.repo.events.get firing.event.id = some { firing.event with status := "failed" }
  successors : ∀ (index : Nat) firing, (leaving before.host firings)[index]? = some firing →
    firing.successor form before.host (successorId before index) ∈
      pendingIn firing.event.sessionId after.repo
  /-- Nothing else is queued. -/
  only : ∀ id event, after.repo.events.get id = some event →
    (before.repo.events.get id).isSome ∨
      ∃ index < (leaving before.host firings).length, id = successorId before index

structure Advanced (host : Nat → TriggerMoment) (firing : Firing) (id : UInt64) : Prop where
  next : ∃ next, eventPayloadU64 form (firing.successor form host id) "next_fire_at_ms" =
      some next ∧
    (firing.Fits form host → next.toNat =
      (firing.scheduledAt host).toNat + (firing.intervalSecs form).toNat * 1000)
  others : ∀ key ≠ "next_fire_at_ms", eventPayloadU64 form (firing.successor form host id) key =
        eventPayloadU64 form firing.event key ∧
      eventPayloadBool form (firing.successor form host id) key =
        eventPayloadBool form firing.event key

/-- What a history of runs leaves: every successor is pending or was fired in its turn, an
interval after the firing that left it. -/
structure KeepsAdvancing (start after : TriggerWorld) (firings : List Firing) : Prop where
  once : (firings.map (·.event.id)).Nodup
  survives : ∀ (index : Nat) firing, (leaving start.host firings)[index]? = some firing →
    firing.successor form start.host (successorId start index) ∈
        pendingIn firing.event.sessionId after.repo ∨
      ∃ later ∈ firings, later.event.id = successorId start index ∧ firing.tick < later.tick
  spaced : ∀ (index : Nat) firing later, (leaving start.host firings)[index]? = some firing →
    firing.Fits form start.host → later ∈ firings → later.event.id = successorId start index →
      (firing.scheduledAt start.host).toNat + (firing.intervalSecs form).toNat * 1000 ≤
        (later.checkedAt start.host).toNat

section Laws

variable {form} {start world : TriggerWorld} {firings : List Firing}

attribute [local irreducible] classifyTriggerKind withNextFirePayload

theorem mem_pendingIn_of_queued {sessionId : String} {event : ScheduleEvent}
    (found : world.repo.events.get event.id = some event)
    (listed : event.id ∈ (world.repo.eventsBySession.get sessionId).getD [])
    (queued : event.status = "queued") : event ∈ pendingIn sessionId world.repo := by
  rw [pendingIn, mem_filter, mem_filterMap]
  refine ⟨⟨event.id, listed, found⟩, ?_⟩
  rw [isPending, queued]
  decide

theorem Lineage.survives (lineage : Lineage form start world firings) {index : Nat}
    {firing : Firing} (isLeaving : (leaving start.host firings)[index]? = some firing) :
    firing.successor form start.host (successorId start index) ∈
        pendingIn firing.event.sessionId world.repo ∨
      ∃ later ∈ firings, later.event.id = successorId start index ∧ firing.tick < later.tick := by
  obtain ⟨status, isStored, listed, ends⟩ := lineage.successors index firing isLeaving
  rcases ends with rfl | fired
  · exact Or.inl (mem_pendingIn_of_queued isStored listed rfl)
  · exact Or.inr fired

theorem Lineage.keepsAdvancing (lineage : Lineage form start world firings)
    (lawful : form.Lawful) : KeepsAdvancing form start world firings where
  once := lineage.once
  survives := fun _ _ isLeaving => lineage.survives isLeaving
  spaced := by
    intro index firing later isLeaving fits membership isSuccessor
    obtain ⟨status, isStored, -, -⟩ := lineage.successors index firing isLeaving
    have settled := lineage.settled later membership
    rw [isSuccessor, isStored] at settled
    have same := Option.some.inj settled
    have payload : later.event.payload =
        (firing.successor form start.host (successorId start index)).payload :=
      (congrArg ScheduleEvent.payload same).symm
    have topic : later.event.topic = firing.event.topic :=
      (congrArg ScheduleEvent.topic same).symm
    have leaves := (mem_filter.mp (mem_of_getElem? isLeaving)).2
    have recurs : later.recurs = true := by
      rw [Firing.recurs, Firing.kind, topic]
      exact (Bool.and_eq_true_iff.mp leaves).1
    rw [← toNat_nextFireAtMs form fits]
    exact isDue_successor lawful start.host firing _ payload (lineage.due later membership recurs)

theorem firingsOf_snoc (earlier : List String) (sessionId : String) (world : TriggerWorld) :
    firingsOf form (earlier ++ [sessionId]) world =
      firingsOf form earlier world ++
        workerFirings form sessionId (runWorkers form earlier world) := by
  induction earlier generalizing world with
  | nil => rw [nil_append, firingsOf, firingsOf, firingsOf, append_nil,
      nil_append, runWorkers, foldl_nil]
  | cons first rest ih =>
    rw [cons_append, firingsOf, ih, firingsOf, append_assoc, runWorkers, runWorkers, foldl_cons]

theorem listed_of_mem_workerFirings (answers : Answers world) {sessionId : String}
    {firing : Firing} (membership : firing ∈ workerFirings form sessionId world) :
    firing.event ∈ pendingIn sessionId world.repo := by
  rw [workerFirings, run_listPending answers] at membership
  exact mem_events_of_mem_dispatchFirings membership

theorem advancesOnce (answers : Answers world) (numbered : Numbered world.repo) (sessionId : String)
    (room : world.repo.nextId.toNat + (workerFirings form sessionId world).length < 2 ^ 64) :
    AdvancesOnce form world (runWorker form sessionId world)
      (workerFirings form sessionId world) := by
  have start : Lineage form world world [] := .refl numbered
  obtain ⟨-, -, lineage⟩ := lineage_runWorker answers start sessionId room
  rw [nil_append] at lineage
  constructor
  · intro firing membership failed
    rw [lineage.settled firing membership, Firing.status, failed]
    rfl
  · intro index firing isLeaving
    rcases lineage.survives isLeaving with pending | ⟨later, membership, isSuccessor, -⟩
    · exact pending
    · have stored := (get_of_mem_pendingIn numbered
        (listed_of_mem_workerFirings answers membership)).1
      have counted := numbered.counted _ _ stored
      have few : (leaving world.host (workerFirings form sessionId world)).length ≤
          (workerFirings form sessionId world).length := length_filter_le _ _
      obtain ⟨inside, -⟩ := List.getElem?_eq_some_iff.mp isLeaving
      rw [isSuccessor, successorId, UInt64.toNat_ofNat', Nat.mod_eq_of_lt (by omega)] at counted
      omega
  · exact lineage.fresh

end Laws

inductive TimePayload where
  | number (value : UInt64)
  | object (nextFireAtMs : Option UInt64)
  deriving DecidableEq

namespace TimePayload

def emptyText : String := "\x7b\x7d"

def timePrefix : List Char := "\x7b\"next_fire_at_ms\":".toList

def timeText (next : UInt64) : String :=
  String.ofList (timePrefix ++ (next.toNat.repr.toList ++ ['\x7d']))

def readTime (text : String) : Option TimePayload :=
  (Text.parseUnsigned (2 ^ 64) (String.ofList (text.toList.drop 19).dropLast)).map
    fun value => .object (some (UInt64.ofNat value))

def read (text : String) : Option TimePayload :=
  if text = emptyText then some (.object none) else readTime text

def display : TimePayload → String
  | .number value => value.toNat.repr
  | .object next => next.elim emptyText timeText

theorem timeText_ne (next : UInt64) : timeText next ≠ emptyText := by
  intro same
  have lengths := congrArg (fun text : String => text.toList.length) same
  have isPrefix : timePrefix.length = 19 := by decide
  have braces : emptyText.toList.length = 2 := by decide
  simp only [timeText, String.toList_ofList, length_append] at lengths
  omega

theorem readTime_timeText (next : UInt64) :
    readTime (timeText next) = some (.object (some next)) := by
  have isPrefix : timePrefix.length = 19 := by decide
  have digits : ((timeText next).toList.drop 19).dropLast = next.toNat.repr.toList := by
    rw [timeText, String.toList_ofList, drop_left' isPrefix, dropLast_concat]
  rw [readTime, digits, String.ofList_toList, Text.parseUnsigned_repr next.toNat_lt,
    map_some, UInt64.ofNat_toNat]

theorem read_display (next : Option UInt64) : read (display (.object next)) = some (.object next) := by
  cases next with
  | none => exact if_pos rfl
  | some next => exact (if_neg (timeText_ne next)).trans (readTime_timeText next)

end TimePayload

def timeForm : PayloadForm TimePayload where
  fromStr := TimePayload.read
  get
    | .object next, key => if key = "next_fire_at_ms" then next.map .number else none
    | .number _, _ => none
  asU64
    | .number value => some value
    | .object _ => none
  asBool := fun _ => none
  isObject
    | .object _ => true
    | .number _ => false
  emptyObject := .object none
  insert
    | .object _, _, .number value => .object (some value)
    | value, _, _ => value
  number := .number
  string := fun _ => .object none
  display := TimePayload.display

theorem timeForm_lawful : timeForm.Lawful where
  emptyObject := rfl
  get_emptyObject key := by
    change (if _ then _ else _) = _
    split
    · rfl
    · rfl
  get_other value key other := by
    cases value with
    | number value => rfl
    | object next => cases other
  isObject_insert value number isObject := by
    cases value with
    | number value => cases isObject
    | object next => rfl
  get_insert value number key isObject := by
    cases value with
    | number value => cases isObject
    | object next =>
      by_cases same : key = "next_fire_at_ms"
      · simp [timeForm, same]
      · simp [timeForm, same]
  asU64_number number := rfl
  reads_back value isObject := by
    cases value with
    | number value => cases isObject
    | object next => exact ⟨.object next, TimePayload.read_display next, fun _ => ⟨rfl, rfl⟩⟩

def nightlyCron : TriggerAccess :=
  .create "s" "trigger:cron:nightly" "focus-trigger" "\x7b\x7d" "a"

/-- A cron event in a backend that answers, with a clock that advances. -/
def nightly (succeeds : Bool) : TriggerWorld where
  repo := nightlyCron.perform InMemory.default
  passed := []
  host := fun tick => ⟨UInt64.ofNat (tick * 1000000), succeeds, none⟩
  tick := 0

theorem numbered_nightly (succeeds : Bool) : Numbered (nightly succeeds).repo := by
  have room : nightlyCron.Numbers InMemory.default := by
    change InMemory.default.nextId.toNat + 1 < 2 ^ 64
    decide
  exact numbered_default.perform room

end AutoLoop.Runtime
