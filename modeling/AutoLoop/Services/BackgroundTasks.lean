import AutoLoop.Foundation.Component
import AutoLoop.Foundation.Table
import AutoLoop.Foundation.Text

/-!
# Background tasks

The manager of background tasks, with its callers and worker loops interleaved.  A caller
or a worker runs from one point where it waits to the next: for a lock, a command, a log
file, a worker's end or a timeout.
-/

namespace AutoLoop.Services

inductive BackgroundTaskKind where
  | shell
  | agent
  deriving DecidableEq, Repr

inductive BackgroundTaskStatus where
  | running
  | completed
  | failed
  | stopping
  | stopped
  deriving DecidableEq, Repr

structure TaskName where
  sessionId : String
  taskId : String
  deriving DecidableEq, Repr

def sanitize (value : String) : String :=
  let cleaned := String.ofList (value.toList.map fun ch =>
    if ch.isAlphanum || ch = '-' || ch = '_' then ch else '_')
  if cleaned = "" then "default" else cleaned

namespace TaskName

def taskKey (name : TaskName) : String := sanitize name.sessionId ++ "::" ++ sanitize name.taskId

/-- The directory and the file, below the root. -/
def logPathFor (name : TaskName) : String × String :=
  (sanitize name.sessionId, sanitize name.taskId ++ ".log")

end TaskName

structure BackgroundTaskRecord where
  name : TaskName
  kind : BackgroundTaskKind
  spec : String
  status : BackgroundTaskStatus
  restartCount : Nat
  maxRestarts : Nat
  logPath : String × String
  deriving DecidableEq, Repr

/-! ## Workers -/

/-- Why a worker writes its record. -/
inductive WorkerOutcome where
  | stopObserved
  | completed
  | failed
  deriving DecidableEq, Repr

inductive WorkerPhase where
  | looping
  | executing
  /-- It waits for its record. -/
  | returned (outcome : WorkerOutcome)
  /-- It holds its record and writes its log. -/
  | logging (outcome : WorkerOutcome)
  | ended
  deriving DecidableEq, Repr

def WorkerPhase.isLogging : WorkerPhase → Bool
  | .logging _ => true
  | _ => false

structure TaskHandle where
  record : BackgroundTaskRecord
  stopSent : Bool
  joinTaken : Bool
  worker : WorkerPhase
  deriving DecidableEq, Repr

namespace TaskHandle

/-- A task whose worker was just spawned. -/
def spawned (name : TaskName) (kind : BackgroundTaskKind) (spec : String) (maxRestarts : Nat) :
    TaskHandle where
  record :=
    { name
      kind
      spec
      status := .running
      restartCount := 0
      maxRestarts
      logPath := name.logPathFor }
  stopSent := false
  joinTaken := false
  worker := .looping

def withStatus (handle : TaskHandle) (status : BackgroundTaskStatus) : TaskHandle :=
  { handle with record := { handle.record with status } }

/-- What the worker writes before it logs. -/
def recorded (handle : TaskHandle) : WorkerOutcome → TaskHandle
  | .stopObserved => handle.withStatus .stopped
  | .completed => handle.withStatus .completed
  | .failed =>
    { handle with record :=
        { handle.record with restartCount := min (handle.record.restartCount + 1) 4294967295 } }

/-- A worker goes on; a command that it executes succeeds or fails. -/
def work (handle : TaskHandle) (succeeds : Bool) : TaskHandle :=
  match handle.worker with
  | .looping =>
    { handle with worker := if handle.stopSent then .returned .stopObserved else .executing }
  | .executing =>
    { handle with worker := .returned (if succeeds then .completed else .failed) }
  | .returned outcome => { handle.recorded outcome with worker := .logging outcome }
  | .logging .failed =>
    if handle.record.maxRestarts < handle.record.restartCount then
      { handle.withStatus .failed with worker := .ended }
    else { handle with worker := .looping }
  | .logging _ => { handle with worker := .ended }
  | .ended => handle

end TaskHandle

/-! ## Callers -/

inductive TaskOperation where
  | start (kind : BackgroundTaskKind) (spec : String) (maxRestarts : Nat)
  | stop
  | restart
  deriving DecidableEq, Repr

/-- Where a caller waits. -/
inductive CallerPoint where
  /-- For the table. -/
  | entering
  /-- For a record, holding the table. -/
  | reading (handle : Nat)
  /-- For the log file. -/
  | announcing
  /-- For the table, to insert a handle whose worker is spawned. -/
  | inserting (handle : Nat)
  /-- For the record, to mark it as stopping. -/
  | marking (handle : Nat)
  /-- For the join handle. -/
  | taking (handle : Nat)
  /-- For the worker, holding the join handle. -/
  | waiting (handle : Nat)
  /-- For the record, to mark it as stopped. -/
  | settling (handle : Nat)
  /-- For the record, to answer it. -/
  | answering (handle : Nat)
  | sleeping
  | ended
  deriving DecidableEq, Repr

namespace CallerPoint

def handle : CallerPoint → Option Nat
  | .reading handle | .inserting handle | .marking handle | .taking handle | .waiting handle
  | .settling handle | .answering handle => some handle
  | _ => none

def isReading : CallerPoint → Bool
  | .reading _ => true
  | _ => false

def isInserting : CallerPoint → Bool
  | .inserting _ => true
  | _ => false

end CallerPoint

/-- A call; a restart stops first and remembers what to start. -/
structure Caller where
  name : TaskName
  operation : TaskOperation
  next : Option (BackgroundTaskKind × String × Nat)
  point : CallerPoint
  deriving DecidableEq, Repr

def promptRequiresHarnessFacade (prompt : String) : Bool :=
  let lowered := Text.toAsciiLowercase prompt
  ["requires_artifact", "artifact_delivery/v1", "target_path", "```"].any
      (Text.contains lowered ·) ||
    [".rs", ".py", ".ts", ".tsx", ".js", ".jsx", ".html", ".css", "cargo ", "pytest", "npm run",
      "编译", "写代码", "代码", "修复bug", "debug", "implement", "refactor", "clone",
      "build frontend"].any (Text.contains lowered ·)

/-- Agents do not take prompts for code. -/
def refused (kind : BackgroundTaskKind) (spec : String) : Bool :=
  kind = .agent && promptRequiresHarnessFacade spec

/-! ## The manager -/

structure TaskWorld where
  tasks : Table String Nat
  handles : Table Nat TaskHandle
  callers : Table Nat Caller
  nextHandle : Nat
  nextCaller : Nat

inductive TaskEvent where
  | call (name : TaskName) (operation : TaskOperation)
  | caller (index : Nat)
  | timeout (index : Nat)
  | worker (handle : Nat) (succeeds : Bool)
  deriving DecidableEq, Repr

namespace TaskWorld

def empty : TaskWorld := ⟨.empty, .empty, .empty, 0, 0⟩

variable (world : TaskWorld)

def tableHeld : Bool := world.callers.rows.any (·.2.point.isReading)

/-- A caller waits to write the table, so nobody else gets it. -/
def insertWaits : Bool := world.callers.rows.any (·.2.point.isInserting)

def joinHeld (handle : Nat) : Bool := world.callers.rows.any (·.2.point = .waiting handle)

section
variable (index : Nat)

def withCaller (caller : Caller) : TaskWorld :=
  { world with callers := world.callers.insert index caller }

def withHandle (handle : TaskHandle) : TaskWorld :=
  { world with handles := world.handles.insert index handle }

section
variable (caller : Caller)

def move (point : CallerPoint) : TaskWorld :=
  world.withCaller index { caller with point }

/-- A call ends, or a restart goes on. -/
def finish : TaskWorld :=
  world.move index caller (if caller.next.isSome then .sleeping else .ended)

/-- What follows once a record could be read: `ensure_not_running`, or a restart. -/
def afterLookup (handle : TaskHandle) : TaskWorld :=
  match caller.operation with
  | .start _ _ _ =>
    if handle.record.status = .running ∨ handle.record.status = .stopping then
      world.finish index caller
    else world.move index caller .announcing
  | .restart =>
    world.withCaller index
      { caller with
        operation := .stop
        next := some (handle.record.kind, handle.record.spec, handle.record.maxRestarts)
        point := .entering }
  | .stop => world

/-- A caller got the table. -/
def enter : TaskWorld :=
  match caller.operation, world.tasks.get caller.name.taskKey with
  | .start _ _ _, none => world.move index caller .announcing
  | .restart, none => world.finish index caller
  | .stop, none => world.finish index caller
  | .stop, some found =>
    match world.handles.get found with
    | some handle =>
      (world.withHandle found { handle with stopSent := true }).move index caller
        (.marking found)
    | none => world
  | _, some found =>
    match world.handles.get found with
    | some handle =>
      if handle.worker.isLogging then world.move index caller (.reading found)
      else world.afterLookup index caller handle
    | none => world

/-- The worker is spawned before the table is asked for. -/
def spawn (kind : BackgroundTaskKind) (spec : String)
    (maxRestarts : Nat) : TaskWorld :=
  let spawned : TaskWorld :=
    { world with
      handles := world.handles.insert world.nextHandle
        (.spawned caller.name kind spec maxRestarts)
      nextHandle := world.nextHandle + 1 }
  if world.tableHeld then spawned.move index caller (.inserting world.nextHandle)
  else
    { spawned with tasks := world.tasks.insert caller.name.taskKey world.nextHandle }.move index
      caller (.answering world.nextHandle)

/-- A caller goes on, or stays where it is as long as what it waits for is taken. -/
def advance : TaskWorld :=
  match caller.point with
  | .entering => if world.insertWaits then world else world.enter index caller
  | .reading found =>
    match world.handles.get found with
    | some handle =>
      if handle.worker.isLogging then world else world.afterLookup index caller handle
    | none => world
  | .announcing =>
    match caller.operation with
    | .start kind spec maxRestarts => world.spawn index caller kind spec maxRestarts
    | _ => world
  | .inserting found =>
    if world.tableHeld then world
    else
      { world with tasks := world.tasks.insert caller.name.taskKey found }.move index caller
        (.answering found)
  | .marking found =>
    match world.handles.get found with
    | some handle =>
      if handle.worker.isLogging then world
      else (world.withHandle found (handle.withStatus .stopping)).move index caller
        (.taking found)
    | none => world
  | .taking found =>
    match world.handles.get found with
    | some handle =>
      if world.joinHeld found then world
      else if handle.joinTaken then world.move index caller (.settling found)
      else (world.withHandle found { handle with joinTaken := true }).move index caller
        (.waiting found)
    | none => world
  | .waiting found =>
    match world.handles.get found with
    | some handle =>
      if handle.worker = .ended then world.move index caller (.settling found) else world
    | none => world
  | .settling found =>
    match world.handles.get found with
    | some handle =>
      if handle.worker.isLogging then world
      else if handle.record.status = .stopping then
        (world.withHandle found (handle.withStatus .stopped)).move index caller
          (.answering found)
      else world.move index caller (.answering found)
    | none => world
  | .answering found =>
    match world.handles.get found with
    | some handle => if handle.worker.isLogging then world else world.finish index caller
    | none => world
  | .sleeping =>
    match caller.next with
    | some (kind, spec, maxRestarts) =>
      if refused kind spec then world.move index caller .ended
      else
        world.withCaller index
          { caller with
            operation := .start kind spec maxRestarts
            next := none
            point := .entering }
    | none => world
  | .ended => world

end

end

/-- A call is made. -/
def admitCall (name : TaskName) (operation : TaskOperation) : TaskWorld :=
  { world.withCaller world.nextCaller ⟨name, operation, none, .entering⟩ with
    nextCaller := world.nextCaller + 1 }

def step : TaskEvent → TaskWorld
  | .call name (.start kind spec maxRestarts) =>
    if refused kind spec then world
    else world.admitCall name (.start kind spec maxRestarts)
  | .call name operation => world.admitCall name operation
  | .caller index =>
    match world.callers.get index with
    | some caller => world.advance index caller
    | none => world
  | .timeout index =>
    match world.callers.get index with
    | some caller =>
      match caller.point with
      | .waiting found => world.move index caller (.settling found)
      | _ => world
    | none => world
  | .worker found succeeds =>
    match world.handles.get found with
    | some handle => world.withHandle found (handle.work succeeds)
    | none => world

end TaskWorld

/-- The manager as a component. -/
def backgroundTasks : Component TaskWorld TaskEvent Unit where
  initial := .empty
  step world event := ((), world.step event)

end AutoLoop.Services
