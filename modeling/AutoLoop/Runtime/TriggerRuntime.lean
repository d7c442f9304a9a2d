import AutoLoop.Foundation.Future
import AutoLoop.StateAdapter.InMemory

/-!
# The trigger runtime

A worker lists the pending schedule events of a session once, passes each one that is
a trigger and due to its executor, and writes the status of the event afterwards.  An
event that recurs is then queued again for its next cycle.
-/

namespace AutoLoop.Runtime

open StateAdapter Text

/-! ## Topics -/

inductive TriggerRouteKind where
  | cron
  | once
  | interval
  | poll
  | onMessage
  | webhook
  | focus
  | unknown
  deriving DecidableEq, Repr

namespace TriggerRouteKind

def asStr : TriggerRouteKind → String
  | cron => "cron"
  | once => "once"
  | interval => "interval"
  | poll => "poll"
  | onMessage => "on_message"
  | webhook => "webhook"
  | focus => "focus"
  | unknown => "unknown"

/-- The kinds that are queued again. -/
def recurs : TriggerRouteKind → Bool
  | cron | interval | poll => true
  | _ => false

end TriggerRouteKind

section
variable (topic : String)

def classifyTriggerKind : TriggerRouteKind :=
  let lowered := toAsciiLowercase topic
  if startsWith lowered "focus:trigger:" then .focus
  else if startsWith lowered "trigger:webhook:" then .webhook
  else if contains lowered ":cron:" then .cron
  else if contains lowered ":interval:" then .interval
  else if contains lowered ":poll:" then .poll
  else if contains lowered ":on_message:" || contains lowered ":message:" then .onMessage
  else if contains lowered ":once:" then .once
  else .unknown

def isSyncTopic : Bool :=
  startsWith (toAsciiLowercase topic) "trigger:sync:"

def isRefreshTopic : Bool :=
  startsWith (toAsciiLowercase topic) "trigger:refresh:"

/-- The topics that a worker dispatches; unlike the kinds they are told apart by case. -/
def isTriggerTopic : Bool :=
  startsWith topic "focus:trigger:" || startsWith topic "trigger:"

end

/-- `char::is_ascii_alphanumeric` or one of the separators that stay. -/
def staysInTopic (char : Char) : Bool :=
  char.isAlphanum || char == ':' || char == '-' || char == '_'

/-- `str::trim_matches('-')`. -/
def trimDashes (text : List Char) : List Char :=
  ((text.dropWhile (· == '-')).reverse.dropWhile (· == '-')).reverse

def normalizeWebhookTopic (topic : String) : String :=
  let topic := trim topic
  if topic.isEmpty then "trigger:webhook:external"
  else if startsWith topic "trigger:" || startsWith topic "focus:trigger:" then topic
  else
    let normalized := String.ofList
      (trimDashes (topic.toList.map fun char => if staysInTopic char then char else '-'))
    if normalized.isEmpty then "trigger:webhook:external" else "trigger:webhook:" ++ normalized

/-! ## Payloads -/

/-- What the JSON library does with a payload. -/
structure PayloadForm (Value : Type) where
  fromStr : String → Option Value
  get : Value → String → Option Value
  asU64 : Value → Option UInt64
  asBool : Value → Option Bool
  isObject : Value → Bool
  emptyObject : Value
  insert : Value → String → Value → Value
  number : UInt64 → Value
  string : String → Value
  display : Value → String

section Payloads

variable {Value : Type} (form : PayloadForm Value)

def eventPayloadU64 (event : ScheduleEvent) (key : String) : Option UInt64 := do
  let value ← form.fromStr event.payload
  let member ← form.get value key
  form.asU64 member

def eventPayloadBool (event : ScheduleEvent) (key : String) : Option Bool := do
  let value ← form.fromStr event.payload
  let member ← form.get value key
  form.asBool member

def withNextFirePayload (payload : String) (nextFireAtMs : UInt64) : String :=
  let value := ((form.fromStr payload).filter form.isObject).getD form.emptyObject
  form.display (form.insert value "next_fire_at_ms" (form.number nextFireAtMs))

/-- Whether an event that recurs is due. -/
def isDue (event : ScheduleEvent) (now : UInt64) : Bool :=
  match form.fromStr event.payload with
  | some value =>
    let next := ((form.get value "next_fire_at_ms").bind form.asU64).getD 0
    next = 0 || next ≤ now
  | none => true

end Payloads

/-! ## The world of the workers -/

/-- What the surroundings do at one access. -/
structure TriggerMoment where
  nowMs : UInt64
  /-- The executor or handler under way ends without an error. -/
  succeeds : Bool
  /-- The error of the backend, if it does not answer. -/
  refusal : Option String

structure TriggerWorld where
  repo : InMemory
  /-- The events that were passed to an executor or a handler, in order. -/
  passed : List ScheduleEvent
  host : Nat → TriggerMoment
  tick : Nat

def TriggerWorld.moment (world : TriggerWorld) : TriggerMoment := world.host world.tick

inductive TriggerAccess where
  | clock (nowMs : UInt64)
  | list (sessionId : String) (pending : List ScheduleEvent)
  | pass (event : ScheduleEvent)
  | ended (event : ScheduleEvent) (succeeds : Bool)
  | setStatus (eventId : UInt64) (status : String)
  | create (sessionId topic toolName payload actorId : String)
  | refused (error : String)
  deriving DecidableEq, Repr

abbrev TriggerCall (α : Type) : Type := Future TriggerWorld TriggerAccess α

/-- A call to the backend, which may fail; the name is that of an answered call. -/
def onBackend {α : Type} (name : TriggerWorld → TriggerAccess) (action : Effect InMemory α) :
    TriggerCall α :=
  Future.call
    (fun world =>
      match world.moment.refusal with
      | some error => .refused error
      | none => name world)
    (fun world =>
      match world.moment.refusal with
      | some error => (.error error, { world with tick := world.tick + 1 })
      | none =>
        ((action world.repo).1,
          { world with repo := (action world.repo).2, tick := world.tick + 1 }))

def currentTimeMs : TriggerCall UInt64 :=
  Future.call (fun world => .clock world.moment.nowMs)
    (fun world => (.ok world.moment.nowMs, { world with tick := world.tick + 1 }))

section
variable (event : ScheduleEvent)

/-- Hand an event to code that runs on its own until it ends. -/
def passTo : TriggerCall Bool := do
  Future.call (fun _ => .pass event)
    (fun world => (.ok (), { world with passed := world.passed ++ [event] }))
  Future.call (fun world => .ended event world.moment.succeeds)
    (fun world => (.ok world.moment.succeeds, { world with tick := world.tick + 1 }))

/-- `executor(event).await`. -/
def executor : TriggerCall Bool := passTo event

/-- The handler reads the workspace and writes knowledge records; schedule events are
left alone. -/
def handleSyncEvent : TriggerCall Bool := passTo event

def handleRefreshEvent : TriggerCall Bool := passTo event

def fire : TriggerCall Bool :=
  if isSyncTopic event.topic then handleSyncEvent event
  else if isRefreshTopic event.topic then handleRefreshEvent event
  else executor event

end

def createScheduleEvent (sessionId topic toolName payload actorId : String) :
    TriggerCall ScheduleEvent :=
  onBackend (fun _ => .create sessionId topic toolName payload actorId)
    (InMemory.createScheduleEvent sessionId topic toolName payload actorId)

def updateScheduleStatus (eventId : UInt64) (status : String) : TriggerCall Unit :=
  onBackend (fun _ => .setStatus eventId status) (InMemory.updateScheduleStatus eventId status)

/-! ## Workers -/

def isPending (event : ScheduleEvent) : Bool :=
  let status := toAsciiLowercase event.status
  status ≠ "completed" && status ≠ "cancelled" && status ≠ "failed"

def pendingIn (sessionId : String) (repo : InMemory) : List ScheduleEvent :=
  (((repo.eventsBySession.get sessionId).getD []).filterMap repo.events.get).filter isPending

def listPending (sessionId : String) : TriggerCall (List ScheduleEvent) := do
  let events ← onBackend (fun world => .list sessionId (pendingIn sessionId world.repo))
    (InMemory.listScheduleEvents sessionId)
  return events.filter isPending

inductive TriggerDispatchOutcome where
  | skipped
  | completed
  | failed
  deriving DecidableEq, Repr

structure TriggerWorkerReport where
  sessionId : String
  scanned : Nat := 0
  executed : Nat := 0
  completed : Nat := 0
  failed : Nat := 0
  skipped : Nat := 0
  executedByKind : HashMap String Nat := HashMap.empty

def TriggerWorkerReport.count (report : TriggerWorkerReport) (kind : TriggerRouteKind) :
    TriggerDispatchOutcome → TriggerWorkerReport
  | .skipped => { report with skipped := report.skipped + 1 }
  | .completed => { report with
      executed := report.executed + 1
      completed := report.completed + 1
      executedByKind := report.executedByKind.insert kind.asStr
        ((report.executedByKind.get kind.asStr).getD 0 + 1) }
  | .failed => { report with
      executed := report.executed + 1
      failed := report.failed + 1
      executedByKind := report.executedByKind.insert kind.asStr
        ((report.executedByKind.get kind.asStr).getD 0 + 1) }

/-- Write the status of an event whose execution has ended. -/
def settleStatus (event : ScheduleEvent) (succeeds : Bool) : TriggerCall TriggerDispatchOutcome :=
  if succeeds then do
    updateScheduleStatus event.id "completed"
    return .completed
  else do
    updateScheduleStatus event.id "failed"
    return .failed

section Workers

variable {Value : Type} (form : PayloadForm Value)

def shouldFireEvent (event : ScheduleEvent) : TriggerCall Bool :=
  if (classifyTriggerKind event.topic).recurs then do
    let now ← currentTimeMs
    return isDue form event now
  else return true

def scheduleNextEvent (event : ScheduleEvent) (nextFireAtMs : UInt64) : TriggerCall Unit := do
  let _ ← createScheduleEvent event.sessionId event.topic event.toolName
    (withNextFirePayload form event.payload nextFireAtMs) event.actorId
  return ()

/-- Execute an event that recurs when it is due and ready, and queue its next cycle
when it went well. -/
def executeRecurringEvent (ready : Bool) (intervalSecs : UInt64) (event : ScheduleEvent) :
    TriggerCall TriggerDispatchOutcome := do
  let fires ← shouldFireEvent form event
  if ¬fires then return .skipped
  if ¬ready then return .skipped
  let succeeds ← executor event
  let outcome ← settleStatus event succeeds
  if outcome = .completed then
    let now ← currentTimeMs
    scheduleNextEvent form event (now + intervalSecs * 1000)
  return outcome

section
variable (event : ScheduleEvent)

def executeCronEvent : TriggerCall TriggerDispatchOutcome :=
  executeRecurringEvent form true
    (((eventPayloadU64 form event "cron_interval_secs").or
      (eventPayloadU64 form event "interval_secs")).getD 300) event

def executeIntervalEvent : TriggerCall TriggerDispatchOutcome :=
  executeRecurringEvent form true ((eventPayloadU64 form event "interval_secs").getD 120) event

def executePollEvent : TriggerCall TriggerDispatchOutcome :=
  executeRecurringEvent form ((eventPayloadBool form event "poll_ready").getD true)
    ((eventPayloadU64 form event "poll_interval_secs").getD 60) event

def executeSingleFireEvent : TriggerCall TriggerDispatchOutcome := do
  let fires ← shouldFireEvent form event
  if ¬fires then return .skipped
  let succeeds ← fire event
  settleStatus event succeeds

def executeOnMessageEvent : TriggerCall TriggerDispatchOutcome :=
  executeSingleFireEvent form event

end

/-- The executor of the kind. -/
def dispatch (kind : TriggerRouteKind) (event : ScheduleEvent) :
    TriggerCall TriggerDispatchOutcome :=
  match kind with
  | .cron => executeCronEvent form event
  | .interval => executeIntervalEvent form event
  | .poll => executePollEvent form event
  | .onMessage => executeOnMessageEvent form event
  | .webhook | .focus | .once | .unknown => executeSingleFireEvent form event

/-- The loop over the pending events. -/
def dispatchAll : List ScheduleEvent → TriggerWorkerReport → TriggerCall TriggerWorkerReport
  | [], report => return report
  | event :: rest, report =>
    let kind := classifyTriggerKind event.topic
    if ¬isTriggerTopic event.topic then
      dispatchAll rest { report with skipped := report.skipped + 1 }
    else do
      let outcome ← dispatch form kind event
      dispatchAll rest (report.count kind outcome)

def runWorkerOnce (sessionId : String) : TriggerCall TriggerWorkerReport := do
  let pending ← listPending sessionId
  dispatchAll form pending { sessionId, scanned := pending.length }

def ingestWebhookEvent (sessionId topic : String) (payload : Option String) (actorId : String) :
    TriggerCall ScheduleEvent :=
  let normalizedTopic := normalizeWebhookTopic topic
  let payload := ((payload.map trim).filter (!·.isEmpty)).getD
    (form.display (form.insert (form.insert (form.insert form.emptyObject
      "source" (form.string "webhook")) "topic" (form.string topic))
      "normalized_topic" (form.string normalizedTopic)))
  let actor := if (trim actorId).isEmpty then "webhook" else actorId
  createScheduleEvent sessionId normalizedTopic "focus-trigger" payload actor

end Workers

end AutoLoop.Runtime
