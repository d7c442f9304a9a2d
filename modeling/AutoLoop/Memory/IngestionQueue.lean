import AutoLoop.Foundation.Component
import AutoLoop.Foundation.StableSort
import AutoLoop.Foundation.Table
import AutoLoop.Foundation.Text

/-!
# The ingestion queue

Calls put jobs into the queue of a session, and workers take them out, each an interleaving
of its store calls with those of the others.  A job stands under its own key and, while it is
the one written last, under the key of the latest job.
-/

namespace AutoLoop.Memory

inductive ProcessingStatus where
  | queued
  | extracting
  | chunking
  | embedding
  | indexing
  | done
  | failed
  deriving DecidableEq, Repr

structure IngestionJob where
  jobId : String
  sessionId : String
  tenantId : String
  source : String
  documentId : String
  metadata : List (String × String)
  documentDate : Option String
  eventDate : Option String
  queuedAtMs : UInt64
  status : ProcessingStatus
  deriving DecidableEq, Repr

/-- The arguments of `queue_ingestion`, with the metadata that its scope leaves. -/
structure QueueCall where
  tenantId : String
  source : String
  metadata : List (String × String)
  documentDate : Option String
  eventDate : Option String
  now : UInt64
  deriving DecidableEq, Repr

def QueueCall.job (sessionId : String) (call : QueueCall) : IngestionJob where
  jobId := "job:" ++ sessionId ++ ":" ++ call.now.toNat.repr
  sessionId
  tenantId := call.tenantId
  source := call.source
  documentId := "doc:" ++ sessionId ++ ":" ++ call.now.toNat.repr
  metadata := call.metadata
  documentDate := call.documentDate
  eventDate := call.eventDate
  queuedAtMs := call.now
  status := .queued

/-! ## Keys -/

def queuePrefix (sessionId : String) : String := "memory:supermemory:queue:" ++ sessionId ++ ":"

/-- The key that `persist_append_record` writes a job to. -/
def appendKey (job : IngestionJob) : String := queuePrefix job.sessionId ++ job.jobId

/-- The key that `persist_update_record` writes a job to. -/
def updateKey (job : IngestionJob) : String := queuePrefix job.sessionId ++ "latest"

/-! ## Workers -/

/-- The store call, or the work, that a run of a worker awaits. -/
inductive Awaiting where
  /-- The payload of the job, before the contract of its scope is built. -/
  | payload
  /-- The write of the job under its own key. -/
  | append
  /-- The write of the job under the key of the latest one. -/
  | update
  /-- What comes after the status: extraction, the memories, the records of the pipeline. -/
  | work
  deriving DecidableEq, Repr

/-- A run of `run_queue_worker_once` that has taken a job. -/
structure WorkerRun where
  job : IngestionJob
  awaiting : Awaiting
  deriving DecidableEq, Repr

def ProcessingStatus.next : ProcessingStatus → ProcessingStatus
  | .queued => .extracting
  | .extracting => .chunking
  | .chunking => .embedding
  | .embedding => .indexing
  | .indexing => .done
  | .done => .done
  | .failed => .failed

/-- What follows a call that succeeds; none once the run is over. -/
def WorkerRun.next (run : WorkerRun) : Option WorkerRun :=
  let marked := { run.job with status := run.job.status.next }
  match run.awaiting with
  | .payload => some ⟨marked, .append⟩
  | .append => some ⟨run.job, .update⟩
  | .update =>
    match run.job.status with
    | .done => none
    -- The chunks are embedded without a call in between.
    | .chunking => some ⟨marked, .append⟩
    | _ => some ⟨run.job, .work⟩
  | .work => some ⟨marked, .append⟩

/-! ## The queue -/

/-- A run that is over: its job, whether it returned `Ok`, and the status that the job was
left in. -/
structure EndedRun where
  job : IngestionJob
  isOk : Bool
  left : Option ProcessingStatus
  deriving DecidableEq, Repr

/-- The jobs that are stored, the calls and runs that go on, and what happened so far. -/
structure IngestionQueue where
  rows : Table String IngestionJob
  /-- The jobs whose calls have written them under their own keys only. -/
  halfway : List IngestionJob
  workers : List WorkerRun
  /-- Every job that was queued. -/
  issued : List IngestionJob
  /-- Every job that a run has taken. -/
  taken : List IngestionJob
  ended : List EndedRun

inductive QueueEvent where
  /-- A call puts a job under its own key. -/
  | queue (call : QueueCall)
  /-- The call puts the job under the key of the latest one, or fails to. -/
  | queued (place : Nat) (succeeds : Bool)
  /-- A worker lists the queue, and takes a job if there is one. -/
  | take
  /-- What a run awaits succeeds or fails. -/
  | step (place : Nat) (succeeds : Bool)
  deriving DecidableEq, Repr

namespace IngestionQueue

variable (sessionId : String)

def empty : IngestionQueue := ⟨Table.empty, [], [], [], [], []⟩

section
variable (queue : IngestionQueue)

/-- The job that a worker takes from the listing. -/
def front : Option IngestionJob :=
  (sortByKey (fun job : IngestionJob => job.queuedAtMs.toNat)
    (((queue.rows.select (Text.startsWith · (queuePrefix sessionId))).map (·.2)).filter
      (·.status = .queued))).head?

def statusOf (job : IngestionJob) : Option ProcessingStatus :=
  (queue.rows.get (appendKey job)).map (·.status)

/-- What a run that goes on writes. -/
def written (run : WorkerRun) : Table String IngestionJob :=
  match run.awaiting with
  | .append => queue.rows.insert (appendKey run.job) run.job
  | .update => queue.rows.insert (updateKey run.job) run.job
  | _ => queue.rows

/-- A run goes on, or is over.  A write that fails leaves the rows as they are. -/
def advance (place : Nat) (run : WorkerRun) (succeeds : Bool) :
    IngestionQueue :=
  if succeeds then
    let queue := { queue with rows := queue.written run }
    match run.next with
    | some next => { queue with workers := queue.workers.set place next }
    | none => { queue with
        workers := queue.workers.eraseIdx place
        ended := queue.ended ++ [⟨run.job, true, queue.statusOf run.job⟩] }
  else { queue with
    workers := queue.workers.eraseIdx place
    ended := queue.ended ++ [⟨run.job, false, queue.statusOf run.job⟩] }

end

def step (queue : IngestionQueue) : QueueEvent → IngestionQueue
  | .queue call =>
    let job := call.job sessionId
    { queue with
      rows := queue.rows.insert (appendKey job) job
      halfway := queue.halfway ++ [job]
      issued := queue.issued ++ [job] }
  | .queued place succeeds =>
    match queue.halfway[place]? with
    | none => queue
    | some job => { queue with
        rows := if succeeds then queue.rows.insert (updateKey job) job else queue.rows
        halfway := queue.halfway.eraseIdx place }
  | .take =>
    match queue.front sessionId with
    | none => queue
    | some job => { queue with
        workers := queue.workers ++ [⟨job, .payload⟩]
        taken := queue.taken ++ [job] }
  | .step place succeeds =>
    match queue.workers[place]? with
    | none => queue
    | some run => queue.advance place run succeeds

def component : Component IngestionQueue QueueEvent Unit where
  initial := empty
  step := fun queue event => ((), queue.step sessionId event)

/-! ## What is promised -/

/-- The jobs that runs hold, and those whose runs returned `Ok`. -/
def heldIds (queue : IngestionQueue) : List String :=
  queue.workers.map (·.job.jobId) ++ (queue.ended.filter (·.isOk)).map (·.job.jobId)

structure ProcessedOnce (queue : IngestionQueue) : Prop where
  /-- Jobs are taken in the order of the queue. -/
  inOrder : queue.taken.Pairwise fun first second => first.queuedAtMs ≤ second.queuedAtMs
  /-- No two runs hold a job, and none holds a job that is done. -/
  oneRun : queue.heldIds.Nodup
  okDone : ∀ run ∈ queue.ended, run.isOk = true →
    run.left = some .done ∧ queue.statusOf run.job = some .done
  errLeft : ∀ run ∈ queue.ended, run.isOk = false →
    run.left = some .queued ∨ run.left = some .failed
  /-- A job that no run holds or has done still waits. -/
  waits : ∀ job ∈ queue.issued, job.jobId ∉ queue.heldIds →
    queue.statusOf job = some .queued

end IngestionQueue

/-! ## The condition -/

/-- A run has not yet written that it extracts under both keys. -/
def WorkerRun.IsStarting (run : WorkerRun) : Prop :=
  run.job.status = .queued ∨ (run.job.status = .extracting ∧ run.awaiting ≠ .work)

/-- A run has not written anything about its job. -/
def WorkerRun.IsUntouched (run : WorkerRun) : Prop :=
  run.job.status = .queued ∨ (run.job.status = .extracting ∧ run.awaiting = .append)

instance (run : WorkerRun) : Decidable run.IsStarting := inferInstanceAs (Decidable (_ ∨ _))

instance (run : WorkerRun) : Decidable run.IsUntouched := inferInstanceAs (Decidable (_ ∨ _))

namespace IngestionQueue

variable (sessionId : String)

/-- A call comes at a later millisecond than those before it, a worker lists the queue only
while the first job there is neither half written nor held by a run that starts, and a run
fails only as long as it has written nothing. -/
def Undisturbed (queue : IngestionQueue) : QueueEvent → Prop
  | .queue call => ∀ job ∈ queue.issued, job.queuedAtMs < call.now
  | .queued .. => True
  | .take => ∀ job, queue.front sessionId = some job →
      (∀ half ∈ queue.halfway, half.jobId ≠ job.jobId) ∧
        ∀ run ∈ queue.workers, run.IsStarting → run.job.jobId ≠ job.jobId
  | .step place succeeds => succeeds = false →
      ∀ run, queue.workers[place]? = some run → run.IsUntouched

instance decidableUndisturbed (queue : IngestionQueue) :
    ∀ event, Decidable (queue.Undisturbed sessionId event)
  | .queue call => inferInstanceAs (Decidable (∀ job ∈ queue.issued, job.queuedAtMs < call.now))
  | .queued .. => .isTrue trivial
  | .take => inferInstanceAs (Decidable (∀ job ∈ queue.front sessionId,
      (∀ half ∈ queue.halfway, half.jobId ≠ job.jobId) ∧
        ∀ run ∈ queue.workers, run.IsStarting → run.job.jobId ≠ job.jobId))
  | .step place succeeds => inferInstanceAs (Decidable (succeeds = false →
      ∀ run ∈ queue.workers[place]?, run.IsUntouched))

end IngestionQueue

end AutoLoop.Memory
