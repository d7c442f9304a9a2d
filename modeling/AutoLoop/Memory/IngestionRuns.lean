import AutoLoop.Memory.IngestionQueue
import Mathlib.Data.List.Perm.Basic

/-!
# Runs of the ingestion queue

Each job is found under the key of its millisecond.  As long as no step disturbs the queue, a
job that stands there as queued is waiting or held by a run that starts, and so is one that the
latest key shows as queued.
-/

namespace AutoLoop.Memory

open IngestionJob List Table WorkerRun

variable {sessionId : String}

/-! ## The jobs of a session -/

def IngestionJob.asQueued (job : IngestionJob) : IngestionJob := { job with status := .queued }

@[simp] theorem IngestionJob.asQueued_mark (job : IngestionJob) (status : ProcessingStatus) :
    asQueued { job with status } = job.asQueued := rfl

@[simp] theorem IngestionJob.queuedAtMs_asQueued (job : IngestionJob) :
    job.asQueued.queuedAtMs = job.queuedAtMs := rfl

theorem IngestionJob.queuedAtMs_of_asQueued {first second : IngestionJob}
    (same : first.asQueued = second.asQueued) : first.queuedAtMs = second.queuedAtMs := by
  rw [← queuedAtMs_asQueued, same, queuedAtMs_asQueued]

def jobIdAt (sessionId : String) (millisecond : UInt64) : String :=
  "job:" ++ sessionId ++ ":" ++ millisecond.toNat.repr

def keyAt (sessionId : String) (millisecond : UInt64) : String :=
  queuePrefix sessionId ++ jobIdAt sessionId millisecond

def latestKey (sessionId : String) : String := queuePrefix sessionId ++ "latest"

/-- The job has the identifiers of its session and millisecond. -/
structure IngestionJob.IsOf (sessionId : String) (job : IngestionJob) : Prop where
  session : job.sessionId = sessionId
  jobId : job.jobId = jobIdAt sessionId job.queuedAtMs

theorem jobIdAt_inj {first second : UInt64} :
    jobIdAt sessionId first = jobIdAt sessionId second ↔ first = second := by
  rw [jobIdAt, jobIdAt, String.append_right_inj, Text.repr_inj, UInt64.toNat_inj]

theorem keyAt_inj {first second : UInt64} :
    keyAt sessionId first = keyAt sessionId second ↔ first = second := by
  rw [keyAt, keyAt, String.append_right_inj, jobIdAt_inj]

theorem keyAt_ne_latestKey (millisecond : UInt64) :
    keyAt sessionId millisecond ≠ latestKey sessionId := by
  intro same
  rw [keyAt, latestKey, String.append_right_inj, jobIdAt] at same
  have starts := congrArg String.toList same
  simp [String.toList_append] at starts

namespace IngestionJob.IsOf

variable {job : IngestionJob} (isOf : job.IsOf sessionId)
include isOf

theorem appendKey_eq : appendKey job = keyAt sessionId job.queuedAtMs := by
  rw [appendKey, keyAt, isOf.session, isOf.jobId]

theorem updateKey_eq : updateKey job = latestKey sessionId := by
  rw [updateKey, latestKey, isOf.session]

end IngestionJob.IsOf

theorem isOf_job (call : QueueCall) : (call.job sessionId).IsOf sessionId := ⟨rfl, rfl⟩

theorem isOf_asQueued {job : IngestionJob} :
    job.asQueued.IsOf sessionId ↔ job.IsOf sessionId :=
  ⟨fun isOf => ⟨isOf.session, isOf.jobId⟩, fun isOf => ⟨isOf.session, isOf.jobId⟩⟩

theorem startsWith_keyAt (millisecond : UInt64) :
    Text.startsWith (keyAt sessionId millisecond) (queuePrefix sessionId) = true :=
  Text.startsWith_iff_exists.mpr ⟨_, rfl⟩

/-! ## What a run has stored -/

def ProcessingStatus.before : ProcessingStatus → ProcessingStatus
  | .queued => .queued
  | .extracting => .queued
  | .chunking => .extracting
  | .embedding => .chunking
  | .indexing => .embedding
  | .done => .indexing
  | .failed => .failed

def WorkerRun.stored (run : WorkerRun) : ProcessingStatus :=
  match run.awaiting with
  | .payload | .append => run.job.status.before
  | .update | .work => run.job.status

def WorkerRun.Fits (run : WorkerRun) : Prop :=
  match run.awaiting with
  | .payload => run.job.status = .queued
  | .append | .update => run.job.status ≠ .queued ∧ run.job.status ≠ .failed
  | .work => run.job.status = .extracting ∨ run.job.status = .embedding ∨
      run.job.status = .indexing

variable {run : WorkerRun}

theorem WorkerRun.stored_of_isUntouched (untouched : run.IsUntouched)
    (fits : run.Fits) : run.stored = .queued := by
  rcases run with ⟨job, awaiting⟩
  rcases untouched with isQueued | ⟨isExtracting, rfl⟩
  · cases awaiting <;> simp_all [stored, Fits, ProcessingStatus.before]
  · have status : job.status = .extracting := isExtracting
    simp only [stored, status, ProcessingStatus.before]

theorem WorkerRun.isStarting_of_stored (fits : run.Fits)
    (isQueued : run.stored = .queued) : run.IsStarting := by
  rcases run with ⟨job, awaiting⟩
  cases awaiting with
  | payload => exact Or.inl fits
  | append =>
    refine Or.inr ⟨?_, nofun⟩
    revert fits isQueued
    simp only [Fits, stored]
    cases job.status <;> simp [ProcessingStatus.before]
  | update => exact absurd isQueued fits.1
  | work => exact Or.inl isQueued

theorem WorkerRun.next_cases (fits : run.Fits) :
    (run.awaiting = .update ∧ run.job.status = .done ∧ run.next = none) ∨
      ∃ next, run.next = some next ∧ next.Fits ∧ next.job.asQueued = run.job.asQueued ∧
        next.stored = (if run.awaiting = .append then run.job.status else run.stored) ∧
        (run.awaiting = .append → next.job.status = run.job.status ∧ next.awaiting = .update) := by
  rcases run with ⟨job, awaiting⟩
  revert fits
  cases awaiting <;> cases status : job.status <;>
    simp [Fits, next, stored, status, ProcessingStatus.next, ProcessingStatus.before]

/-! ## The table -/

def statusIn (sessionId : String) (rows : Table String IngestionJob) (millisecond : UInt64) :
    Option ProcessingStatus :=
  (rows.get (keyAt sessionId millisecond)).map (·.status)

section Writes

variable (rows : Table String IngestionJob) (job : IngestionJob)

variable (millisecond : UInt64)

theorem statusIn_own :
    statusIn sessionId (rows.insert (keyAt sessionId job.queuedAtMs) job) millisecond =
      if millisecond = job.queuedAtMs then some job.status
      else statusIn sessionId rows millisecond := by
  rw [statusIn, get_insert]
  by_cases same : millisecond = job.queuedAtMs
  · rw [if_pos (keyAt_inj.mpr same), if_pos same]
    rfl
  · rw [if_neg (fun keys => same (keyAt_inj.mp keys)), if_neg same]
    rfl

theorem statusIn_latest :
    statusIn sessionId (rows.insert (latestKey sessionId) job) millisecond =
      statusIn sessionId rows millisecond := by
  rw [statusIn, get_insert_of_ne _ _ (keyAt_ne_latestKey millisecond)]
  rfl

theorem latest_own :
    (rows.insert (keyAt sessionId millisecond) job).get (latestKey sessionId) =
      rows.get (latestKey sessionId) :=
  get_insert_of_ne _ _ (keyAt_ne_latestKey millisecond).symm

end Writes

/-- The table holds the jobs that were issued, each under the key of its millisecond, and
nothing else but the latest one. -/
structure Holds (sessionId : String) (rows : Table String IngestionJob)
    (issued : List IngestionJob) : Prop where
  isOf : ∀ job ∈ issued, job.IsOf sessionId ∧ job.status = .queued
  increasing : issued.Pairwise fun first second => first.queuedAtMs < second.queuedAtMs
  kept : ∀ job ∈ issued, ∃ status,
    rows.get (keyAt sessionId job.queuedAtMs) = some { job with status }
  places : ∀ key job, rows.get key = some job → job.asQueued ∈ issued ∧
    (key = keyAt sessionId job.queuedAtMs ∨ key = latestKey sessionId)

namespace Holds

variable {rows : Table String IngestionJob} {issued : List IngestionJob}
variable (holds : Holds sessionId rows issued)
include holds

theorem isOf_of_mem {job : IngestionJob} (isIssued : job.asQueued ∈ issued) :
    job.IsOf sessionId :=
  isOf_asQueued.mp (holds.isOf _ isIssued).1

theorem eq_of_millisecond {first second : IngestionJob} (firstIssued : first ∈ issued)
    (secondIssued : second ∈ issued) (same : first.queuedAtMs = second.queuedAtMs) :
    first = second := by
  have distinct : (issued.map (·.queuedAtMs)).Nodup := by
    rw [List.Nodup, pairwise_map]
    exact holds.increasing.imp fun below => UInt64.ne_of_lt below
  exact inj_on_of_nodup_map distinct firstIssued secondIssued same

theorem own {job : IngestionJob} (isIssued : job.asQueued ∈ issued) :
    Holds sessionId (rows.insert (keyAt sessionId job.queuedAtMs) job) issued where
  isOf := holds.isOf
  increasing := holds.increasing
  kept := by
    intro other otherIssued
    rw [get_insert]
    by_cases same : other.queuedAtMs = job.queuedAtMs
    · rw [if_pos (keyAt_inj.mpr same), holds.eq_of_millisecond otherIssued isIssued same]
      exact ⟨job.status, rfl⟩
    · rw [if_neg (fun keys => same (keyAt_inj.mp keys))]
      exact holds.kept other otherIssued
  places := by
    intro key other
    rw [get_insert]
    split
    · next same =>
      intro isJob
      cases isJob
      exact ⟨isIssued, Or.inl same⟩
    · exact holds.places key other

theorem latest {job : IngestionJob} (isIssued : job.asQueued ∈ issued) :
    Holds sessionId (rows.insert (latestKey sessionId) job) issued where
  isOf := holds.isOf
  increasing := holds.increasing
  kept := by
    intro other otherIssued
    rw [get_insert_of_ne _ _ (keyAt_ne_latestKey _)]
    exact holds.kept other otherIssued
  places := by
    intro key other
    rw [get_insert]
    split
    · next same =>
      intro isJob
      cases isJob
      exact ⟨isIssued, Or.inr same⟩
    · exact holds.places key other

theorem issue {job : IngestionJob} (isOf : job.IsOf sessionId) (isQueued : job.status = .queued)
    (later : ∀ other ∈ issued, other.queuedAtMs < job.queuedAtMs) :
    Holds sessionId (rows.insert (keyAt sessionId job.queuedAtMs) job) (issued ++ [job]) where
  isOf := by
    intro other membership
    rcases mem_append.mp membership with old | isNew
    · exact holds.isOf other old
    · cases mem_singleton.mp isNew
      exact ⟨isOf, isQueued⟩
  increasing := by
    refine pairwise_append.mpr ⟨holds.increasing, pairwise_singleton _ _, ?_⟩
    intro other old new isNew
    cases mem_singleton.mp isNew
    exact later other old
  kept := by
    intro other membership
    rw [get_insert]
    rcases mem_append.mp membership with old | isNew
    · rw [if_neg (fun keys => UInt64.ne_of_lt (later other old) (keyAt_inj.mp keys))]
      exact holds.kept other old
    · cases mem_singleton.mp isNew
      exact ⟨job.status, if_pos rfl⟩
  places := by
    intro key other
    rw [get_insert]
    split
    · next same =>
      intro isJob
      cases isJob
      have unchanged : job.asQueued = job := by rw [asQueued, ← isQueued]
      have isIssued : job.asQueued ∈ issued ++ [job] := by
        rw [unchanged]
        exact mem_append_right _ (mem_singleton_self job)
      exact ⟨isIssued, Or.inl same⟩
    · intro found
      exact (holds.places key other found).imp (mem_append_left _) id

end Holds

/-! ## Lists with distinct keys -/

section Places

variable {α Key : Type} {items : List α} {keyOf : α → Key} {place : Nat} {item : α}

section
variable (distinct : (items.map keyOf).Nodup) (found : items[place]? = some item)
include distinct found

theorem mem_eraseIdx_of_nodup {other : α} :
    other ∈ items.eraseIdx place ↔ other ∈ items ∧ keyOf other ≠ keyOf item := by
  obtain ⟨inBounds, rfl⟩ := List.getElem?_eq_some_iff.mp found
  have perm := getElem_cons_eraseIdx_perm inBounds
  have nodup := (perm.map keyOf).nodup_iff.mpr distinct
  have absent := (nodup_cons.mp nodup).1
  rw [← perm.mem_iff, mem_cons]
  constructor
  · intro stays
    exact ⟨Or.inr stays, fun same => absent (same ▸ mem_map_of_mem stays)⟩
  · rintro ⟨rfl | stays, differs⟩
    · exact absurd rfl differs
    · exact stays

theorem mem_set_of_nodup {next other : α} :
    other ∈ items.set place next ↔
      other = next ∨ (other ∈ items ∧ keyOf other ≠ keyOf item) := by
  obtain ⟨inBounds, rfl⟩ := List.getElem?_eq_some_iff.mp found
  rw [← mem_eraseIdx_of_nodup distinct (getElem?_eq_getElem inBounds)]
  have isNext : (items.set place next)[place]? = some next := by
    rw [getElem?_set_self inBounds]
  obtain ⟨inSet, isNext⟩ := List.getElem?_eq_some_iff.mp isNext
  have perm := getElem_cons_eraseIdx_perm inSet
  rw [isNext, eraseIdx_set_eq] at perm
  rw [← perm.mem_iff, mem_cons]

end

theorem map_set_of_eq (found : items[place]? = some item) {next : α}
    (same : keyOf next = keyOf item) : (items.set place next).map keyOf = items.map keyOf := by
  obtain ⟨inBounds, rfl⟩ := List.getElem?_eq_some_iff.mp found
  have inMap : place < (items.map keyOf).length := by rwa [length_map]
  have isKey : (items.map keyOf)[place] = keyOf items[place] := getElem_map keyOf
  rw [map_set, same, ← isKey]
  exact set_getElem_self inMap

end Places

/-! ## The invariant -/

namespace IngestionQueue

/-- The milliseconds of the jobs that runs hold. -/
def active (queue : IngestionQueue) : List UInt64 := queue.workers.map (·.job.queuedAtMs)

/-- The milliseconds of the jobs whose runs returned `Ok`. -/
def finished (queue : IngestionQueue) : List UInt64 :=
  (queue.ended.filter (·.isOk)).map (·.job.queuedAtMs)

/-- What holds as long as no step disturbs the queue. -/
structure Sound (sessionId : String) (queue : IngestionQueue) : Prop where
  holds : Holds sessionId queue.rows queue.issued
  halfway : ∀ job ∈ queue.halfway, job ∈ queue.issued ∧
    statusIn sessionId queue.rows job.queuedAtMs = some .queued ∧ job.queuedAtMs ∉ queue.active
  working : ∀ run ∈ queue.workers, run.job.asQueued ∈ queue.issued ∧ run.Fits ∧
    statusIn sessionId queue.rows run.job.queuedAtMs = some run.stored
  once : (queue.active ++ queue.finished).Nodup
  okDone : ∀ run ∈ queue.ended, run.isOk = true → run.job.asQueued ∈ queue.issued ∧
    run.left = some .done ∧ statusIn sessionId queue.rows run.job.queuedAtMs = some .done
  errLeft : ∀ run ∈ queue.ended, run.isOk = false → run.left = some .queued
  waits : ∀ job ∈ queue.issued, job.queuedAtMs ∉ queue.active →
    job.queuedAtMs ∉ queue.finished →
      statusIn sessionId queue.rows job.queuedAtMs = some .queued
  /-- What the latest key shows as queued is so, or the run that holds it is about to write
  there. -/
  latest : ∀ job, queue.rows.get (latestKey sessionId) = some job → job.status = .queued →
    statusIn sessionId queue.rows job.queuedAtMs = some .queued ∨
      ∃ run ∈ queue.workers, run.job.queuedAtMs = job.queuedAtMs ∧
        run.job.status = .extracting ∧ run.awaiting = .update
  /-- Nothing before a job that was taken is queued any more. -/
  passed : ∀ job ∈ queue.taken, job.asQueued ∈ queue.issued ∧
    ∀ other ∈ queue.issued, other.queuedAtMs < job.queuedAtMs →
      statusIn sessionId queue.rows other.queuedAtMs ≠ some .queued
  inOrder : queue.taken.Pairwise fun first second => first.queuedAtMs ≤ second.queuedAtMs

theorem active_erase {queue : IngestionQueue} {place : Nat} {run : WorkerRun} (found : queue.workers[place]? = some run) :
    queue.active.Perm
      (run.job.queuedAtMs :: (queue.workers.eraseIdx place).map (·.job.queuedAtMs)) := by
  obtain ⟨inBounds, rfl⟩ := List.getElem?_eq_some_iff.mp found
  exact ((getElem_cons_eraseIdx_perm inBounds).map _).symm

theorem sound_empty : Sound sessionId empty where
  holds := ⟨nofun, .nil, nofun, nofun⟩
  halfway := nofun
  working := nofun
  once := .nil
  okDone := nofun
  errLeft := nofun
  waits := nofun
  latest := nofun
  passed := nofun
  inOrder := .nil

namespace Sound

variable {queue : IngestionQueue} (sound : Sound sessionId queue)
include sound

theorem distinct : (queue.workers.map (·.job.queuedAtMs)).Nodup :=
  (nodup_append.mp sound.once).1

theorem statusOf_eq {job : IngestionJob} (isIssued : job.asQueued ∈ queue.issued) :
    queue.statusOf job = statusIn sessionId queue.rows job.queuedAtMs := by
  rw [statusOf, statusIn, (sound.holds.isOf_of_mem isIssued).appendKey_eq]

/-- The calls of a session give its jobs distinct milliseconds, and so distinct ids. -/
theorem jobId_inj {first second : IngestionJob} (firstIssued : first.asQueued ∈ queue.issued)
    (secondIssued : second.asQueued ∈ queue.issued) :
    first.jobId = second.jobId ↔ first.queuedAtMs = second.queuedAtMs := by
  rw [(sound.holds.isOf_of_mem firstIssued).jobId, (sound.holds.isOf_of_mem secondIssued).jobId,
    jobIdAt_inj]

theorem asQueued_of_mem {job : IngestionJob} (isIssued : job ∈ queue.issued) :
    job.asQueued = job := by
  rw [asQueued, ← (sound.holds.isOf job isIssued).2]

/-! ### Calls -/

theorem queue_call (call : QueueCall) (later : ∀ job ∈ queue.issued, job.queuedAtMs < call.now) :
    Sound sessionId (queue.step sessionId (.queue call)) := by
  have isOf : (call.job sessionId).IsOf sessionId := isOf_job call
  have isLater : ∀ job : IngestionJob, job.asQueued ∈ queue.issued →
      job.queuedAtMs ≠ (call.job sessionId).queuedAtMs :=
    fun job isIssued => UInt64.ne_of_lt (later job.asQueued isIssued)
  have old : ∀ job : IngestionJob, job.asQueued ∈ queue.issued →
      statusIn sessionId (queue.rows.insert (keyAt sessionId (call.job sessionId).queuedAtMs)
        (call.job sessionId)) job.queuedAtMs =
      statusIn sessionId queue.rows job.queuedAtMs := by
    intro job isIssued
    rw [statusIn_own, if_neg (isLater job isIssued)]
  have oldIssued : ∀ job ∈ queue.issued,
      statusIn sessionId (queue.rows.insert (keyAt sessionId (call.job sessionId).queuedAtMs)
        (call.job sessionId)) job.queuedAtMs =
      statusIn sessionId queue.rows job.queuedAtMs := by
    intro job isIssued
    exact old job (by rwa [sound.asQueued_of_mem isIssued])
  have new : statusIn sessionId (queue.rows.insert
      (keyAt sessionId (call.job sessionId).queuedAtMs) (call.job sessionId))
      (call.job sessionId).queuedAtMs = some .queued := by
    rw [statusIn_own, if_pos rfl]
    rfl
  rw [step, isOf.appendKey_eq]
  refine
    { holds := sound.holds.issue isOf rfl later
      halfway := ?_
      working := ?_
      once := sound.once
      okDone := ?_
      errLeft := sound.errLeft
      waits := ?_
      latest := ?_
      passed := ?_
      inOrder := sound.inOrder }
  · intro job membership
    rcases mem_append.mp membership with before | isNew
    · obtain ⟨isIssued, isQueued, idle⟩ := sound.halfway job before
      exact ⟨mem_append_left _ isIssued, (oldIssued job isIssued).trans isQueued, idle⟩
    · cases mem_singleton.mp isNew
      refine ⟨mem_append_right _ isNew, new, fun isActive => ?_⟩
      obtain ⟨run, isRun, same⟩ := mem_map.mp isActive
      exact isLater _ (sound.working run isRun).1 same
  · intro run isRun
    obtain ⟨isIssued, fits, isStored⟩ := sound.working run isRun
    exact ⟨mem_append_left _ isIssued, fits, (old run.job isIssued).trans isStored⟩
  · intro run isRun isOk
    obtain ⟨isIssued, isLeft, isStored⟩ := sound.okDone run isRun isOk
    exact ⟨mem_append_left _ isIssued, isLeft, (old run.job isIssued).trans isStored⟩
  · intro job membership idle unfinished
    rcases mem_append.mp membership with before | isNew
    · exact (oldIssued job before).trans (sound.waits job before idle unfinished)
    · cases mem_singleton.mp isNew
      exact new
  · intro job isLatest isQueued
    rw [latest_own] at isLatest
    exact (sound.latest job isLatest isQueued).imp_left
      (old job (sound.holds.places _ _ isLatest).1).trans
  · intro job isTaken
    obtain ⟨isIssued, before⟩ := sound.passed job isTaken
    refine ⟨mem_append_left _ isIssued, fun other membership below => ?_⟩
    rcases mem_append.mp membership with isOld | isNew
    · rw [oldIssued other isOld]
      exact before other isOld below
    · cases mem_singleton.mp isNew
      exact absurd (UInt64.lt_trans below (later job.asQueued isIssued)) (UInt64.lt_irrefl _)

theorem setLatest {job : IngestionJob} (isIssued : job.asQueued ∈ queue.issued)
    (isQueued : job.status = .queued →
      statusIn sessionId queue.rows job.queuedAtMs = some .queued) :
    Sound sessionId { queue with rows := queue.rows.insert (latestKey sessionId) job } where
  holds := sound.holds.latest isIssued
  halfway other isHalfway := by
    rw [statusIn_latest]
    exact sound.halfway other isHalfway
  working run isRun := by
    rw [statusIn_latest]
    exact sound.working run isRun
  once := sound.once
  okDone run isRun isOk := by
    rw [statusIn_latest]
    exact sound.okDone run isRun isOk
  errLeft := sound.errLeft
  waits other otherIssued idle unfinished := by
    rw [statusIn_latest]
    exact sound.waits other otherIssued idle unfinished
  latest other isLatest showsQueued := by
    rw [get_insert_self] at isLatest
    cases isLatest
    rw [statusIn_latest]
    exact Or.inl (isQueued showsQueued)
  passed other isTaken := by
    refine ⟨(sound.passed other isTaken).1, fun earlier => ?_⟩
    rw [statusIn_latest]
    exact (sound.passed other isTaken).2 earlier
  inOrder := sound.inOrder

theorem dropHalfway {rest : List IngestionJob} (fewer : rest ⊆ queue.halfway) :
    Sound sessionId { queue with halfway := rest } :=
  { sound with halfway := fun job isHalfway => sound.halfway job (fewer isHalfway) }

theorem queued (place : Nat) (succeeds : Bool) :
    Sound sessionId (queue.step sessionId (.queued place succeeds)) := by
  simp only [step]
  cases found : queue.halfway[place]? with
  | none => exact sound
  | some job =>
    obtain ⟨isIssued, isQueued, -⟩ := sound.halfway job (mem_of_getElem? found)
    have fewer := (eraseIdx_sublist queue.halfway place).subset
    cases succeeds with
    | false => exact sound.dropHalfway fewer
    | true =>
      have written : Sound sessionId
          { queue with rows := queue.rows.insert (latestKey sessionId) job } :=
        sound.setLatest ((sound.asQueued_of_mem isIssued).symm ▸ isIssued) fun _ => isQueued
      rw [← (sound.holds.isOf job isIssued).1.updateKey_eq] at written
      exact written.dropHalfway fewer

/-! ### Listing the queue -/

/-- The first job that the listing shows is the first that waits. -/
theorem of_front {job : IngestionJob} (isFront : queue.front sessionId = some job)
    (undisturbed : queue.Undisturbed sessionId .take) :
    job ∈ queue.issued ∧ statusIn sessionId queue.rows job.queuedAtMs = some .queued ∧
      job.queuedAtMs ∉ queue.active ∧ job.queuedAtMs ∉ queue.finished ∧
      job.queuedAtMs ∉ queue.halfway.map (·.queuedAtMs) ∧
      ∀ other ∈ queue.issued, statusIn sessionId queue.rows other.queuedAtMs = some .queued →
        job.queuedAtMs ≤ other.queuedAtMs := by
  obtain ⟨notHalf, notStarting⟩ := undisturbed job isFront
  have inListing := mem_of_mem_head? isFront
  rw [mem_sortByKey, mem_filter, mem_map] at inListing
  obtain ⟨⟨⟨key, listed⟩, selected, rfl⟩, showsQueued⟩ := inListing
  have showsQueued : listed.status = .queued := of_decide_eq_true showsQueued
  obtain ⟨isRow, -⟩ := mem_select_iff.mp selected
  obtain ⟨isIssued, place⟩ := sound.holds.places key listed isRow
  have unchanged : listed.asQueued = listed := by rw [asQueued, ← showsQueued]
  have notStartingHere : ∀ run ∈ queue.workers, run.job.queuedAtMs = listed.queuedAtMs →
      ¬run.IsStarting := by
    intro run isRun same starting
    exact notStarting run isRun starting
      ((sound.jobId_inj (sound.working run isRun).1 isIssued).mpr same)
  have isQueued : statusIn sessionId queue.rows listed.queuedAtMs = some .queued := by
    rcases place with isOwn | isLatest
    · rw [statusIn, ← isOwn, isRow]
      exact congrArg some showsQueued
    · rcases sound.latest listed (isLatest ▸ isRow) showsQueued with
        isQueued | ⟨run, isRun, same, isExtracting, awaits⟩
      · exact isQueued
      · refine absurd (Or.inr ⟨isExtracting, ?_⟩) (notStartingHere run isRun same)
        rw [awaits]
        exact nofun
  refine ⟨unchanged ▸ isIssued, isQueued, ?_, ?_, ?_, ?_⟩
  · intro isActive
    obtain ⟨run, isRun, same⟩ := mem_map.mp isActive
    obtain ⟨-, fits, isStored⟩ := sound.working run isRun
    rw [same, isQueued] at isStored
    exact notStartingHere run isRun same
      (isStarting_of_stored fits (Option.some.inj isStored).symm)
  · intro isFinished
    obtain ⟨run, isEnded, same⟩ := mem_map.mp isFinished
    obtain ⟨isEnded, isOk⟩ := mem_filter.mp isEnded
    obtain ⟨-, -, isDone⟩ := sound.okDone run isEnded isOk
    rw [same, isQueued] at isDone
    cases isDone
  · intro isHalfway
    obtain ⟨half, isHalf, same⟩ := mem_map.mp isHalfway
    have halfIssued := (sound.halfway half isHalf).1
    exact notHalf half isHalf ((sound.jobId_inj
      ((sound.asQueued_of_mem halfIssued).symm ▸ halfIssued) isIssued).mpr same)
  · intro other otherIssued otherQueued
    obtain ⟨status, otherRow⟩ := sound.holds.kept other otherIssued
    rw [statusIn, otherRow] at otherQueued
    have otherListed : { other with status } ∈
        ((queue.rows.select (Text.startsWith · (queuePrefix sessionId))).map (·.2)).filter
          (·.status = .queued) := by
      refine mem_filter.mpr ⟨mem_map.mpr ⟨(_, _), mem_select_iff.mpr
        ⟨otherRow, startsWith_keyAt _⟩, rfl⟩, ?_⟩
      exact decide_eq_true (Option.some.inj otherQueued)
    rw [front] at isFront
    have isFirst := head?_sortByKey_le isFront otherListed
    exact UInt64.le_iff_toNat_le.mpr isFirst

theorem take (undisturbed : queue.Undisturbed sessionId .take) :
    Sound sessionId (queue.step sessionId .take) := by
  simp only [step]
  cases isFront : queue.front sessionId with
  | none => exact sound
  | some job =>
    obtain ⟨isIssued, isQueued, idle, unfinished, notHalf, isFirst⟩ :=
      sound.of_front isFront undisturbed
    have unchanged := sound.asQueued_of_mem isIssued
    have active : ({ queue with
        workers := queue.workers ++ [⟨job, .payload⟩]
        taken := queue.taken ++ [job] } : IngestionQueue).active =
          queue.active ++ [job.queuedAtMs] := map_append
    refine
      { holds := sound.holds
        halfway := ?_
        working := ?_
        once := ?_
        okDone := sound.okDone
        errLeft := sound.errLeft
        waits := ?_
        latest := ?_
        passed := ?_
        inOrder := ?_ }
    · intro half isHalf
      obtain ⟨halfIssued, halfQueued, halfIdle⟩ := sound.halfway half isHalf
      refine ⟨halfIssued, halfQueued, ?_⟩
      rw [active, mem_append, mem_singleton]
      rintro (isActive | same)
      · exact halfIdle isActive
      · exact notHalf (same ▸ mem_map_of_mem isHalf)
    · intro run membership
      rcases mem_append.mp membership with isRun | isNew
      · exact sound.working run isRun
      · cases mem_singleton.mp isNew
        have status := (sound.holds.isOf job isIssued).2
        refine ⟨unchanged.symm ▸ isIssued, status, isQueued.trans ?_⟩
        rw [WorkerRun.stored, status]
        rfl
    · rw [active, append_assoc, singleton_append, nodup_middle]
      refine nodup_cons.mpr ⟨?_, sound.once⟩
      rw [mem_append]
      exact not_or.mpr ⟨idle, unfinished⟩
    · intro other otherIssued otherIdle
      rw [active, mem_append, not_or] at otherIdle
      exact sound.waits other otherIssued otherIdle.1
    · intro other isLatest showsQueued
      refine (sound.latest other isLatest showsQueued).imp_right ?_
      rintro ⟨run, isRun, writes⟩
      exact ⟨run, mem_append_left _ isRun, writes⟩
    · intro other membership
      rcases mem_append.mp membership with before | isNew
      · exact sound.passed other before
      · cases mem_singleton.mp isNew
        refine ⟨unchanged.symm ▸ isIssued, fun earlier earlierIssued below stillQueued => ?_⟩
        have above := isFirst earlier earlierIssued stillQueued
        exact UInt64.not_le.mpr below above
    · refine pairwise_append.mpr ⟨sound.inOrder, pairwise_singleton _ _, ?_⟩
      intro before isTaken new isNew
      cases mem_singleton.mp isNew
      by_contra above
      exact (sound.passed before isTaken).2 job isIssued (UInt64.not_le.mp above) isQueued

/-! ### What a run awaits -/

section
variable {place : Nat}

variable {run : WorkerRun}

theorem retire {isOk : Bool}
    (found : queue.workers[place]? = some run)
    (isStored : statusIn sessionId queue.rows run.job.queuedAtMs =
      some (if isOk then .done else .queued))
    (quiet : ¬(run.job.status = .extracting ∧ run.awaiting = .update)) :
    Sound sessionId { queue with
      workers := queue.workers.eraseIdx place
      ended := queue.ended ++ [⟨run.job, isOk, queue.statusOf run.job⟩] } := by
  have isIssued := (sound.working run (mem_of_getElem? found)).1
  have isLeft := (sound.statusOf_eq isIssued).trans isStored
  have perm := active_erase found
  have stays : ∀ other : WorkerRun, other ∈ queue.workers.eraseIdx place ↔
      other ∈ queue.workers ∧ other.job.queuedAtMs ≠ run.job.queuedAtMs :=
    fun _ => mem_eraseIdx_of_nodup sound.distinct found
  have finished : ({ queue with
      workers := queue.workers.eraseIdx place
      ended := queue.ended ++ [⟨run.job, isOk, queue.statusOf run.job⟩] } :
        IngestionQueue).finished =
          queue.finished ++ if isOk then [run.job.queuedAtMs] else [] := by
    cases isOk <;> simp [IngestionQueue.finished]
  refine
    { holds := sound.holds
      halfway := ?_
      working := fun other isOther => sound.working other ((stays other).mp isOther).1
      once := ?_
      okDone := ?_
      errLeft := ?_
      waits := ?_
      latest := ?_
      passed := sound.passed
      inOrder := sound.inOrder }
  · intro half isHalf
    obtain ⟨halfIssued, halfQueued, halfIdle⟩ := sound.halfway half isHalf
    exact ⟨halfIssued, halfQueued, fun isActive =>
      halfIdle (perm.mem_iff.mpr (mem_cons_of_mem _ isActive))⟩
  · have moved := (perm.append_right queue.finished).nodup_iff.mp sound.once
    rw [finished]
    cases isOk with
    | false =>
      rw [if_neg Bool.false_ne_true, append_nil]
      exact (nodup_cons.mp moved).2
    | true =>
      rw [cons_append, ← nodup_middle] at moved
      refine (List.Perm.nodup_iff ?_).mp moved
      exact (perm_append_singleton _ _).symm.append_left _
  · intro other membership otherOk
    rcases mem_append.mp membership with isEnded | isNew
    · exact sound.okDone other isEnded otherOk
    · cases mem_singleton.mp isNew
      cases otherOk
      exact ⟨isIssued, isLeft, isStored⟩
  · intro other membership otherErr
    rcases mem_append.mp membership with isEnded | isNew
    · exact sound.errLeft other isEnded otherErr
    · cases mem_singleton.mp isNew
      cases otherErr
      exact isLeft
  · intro job jobIssued idle unfinished
    rw [finished, mem_append, not_or] at unfinished
    by_cases isIts : job.queuedAtMs = run.job.queuedAtMs
    · cases isOk with
      | false =>
        rw [isIts]
        exact isStored
      | true => exact absurd (mem_singleton.mpr isIts) unfinished.2
    · refine sound.waits job jobIssued (fun isActive => ?_) unfinished.1
      rcases mem_cons.mp (perm.mem_iff.mp isActive) with same | stillActive
      · exact isIts same
      · exact idle stillActive
  · intro job isLatest showsQueued
    rcases sound.latest job isLatest showsQueued with isQueued | ⟨other, isOther, same, writes⟩
    · exact Or.inl isQueued
    · refine Or.inr ⟨other, (stays other).mpr ⟨isOther, fun isIts => ?_⟩, same, writes⟩
      have isRun : other = run :=
        inj_on_of_nodup_map sound.distinct isOther (mem_of_getElem? found) isIts
      exact quiet (isRun ▸ writes)

theorem fail (found : queue.workers[place]? = some run)
    (untouched : run.IsUntouched) : Sound sessionId (queue.advance place run false) := by
  obtain ⟨-, fits, isStored⟩ := sound.working run (mem_of_getElem? found)
  rw [stored_of_isUntouched untouched fits] at isStored
  rw [advance, if_neg Bool.false_ne_true]
  refine sound.retire found isStored ?_
  rintro ⟨isExtracting, awaitsLatest⟩
  rcases untouched with isQueued | ⟨-, awaitsOwn⟩
  · rw [isQueued] at isExtracting
    cases isExtracting
  · rw [awaitsOwn] at awaitsLatest
    cases awaitsLatest

section
variable {run next : WorkerRun} (found : queue.workers[place]? = some run)
include found

theorem proceed (same : next.job.asQueued = run.job.asQueued) (fits : next.Fits)
    (isStored : next.stored = run.stored)
    (shown : run.awaiting = .update →
      ∀ job, queue.rows.get (latestKey sessionId) = some job → job.status ≠ .queued) :
    Sound sessionId { queue with workers := queue.workers.set place next } := by
  have isRun := sound.working run (mem_of_getElem? found)
  have sameMs : next.job.queuedAtMs = run.job.queuedAtMs :=
    queuedAtMs_of_asQueued same
  have active : ({ queue with workers := queue.workers.set place next } : IngestionQueue).active =
      queue.active := map_set_of_eq found sameMs
  have goesOn : ∀ other : WorkerRun, other ∈ queue.workers.set place next ↔
      other = next ∨ (other ∈ queue.workers ∧ other.job.queuedAtMs ≠ run.job.queuedAtMs) :=
    fun _ => mem_set_of_nodup sound.distinct found
  refine
    { holds := sound.holds
      halfway := active ▸ sound.halfway
      working := ?_
      once := active ▸ sound.once
      okDone := sound.okDone
      errLeft := sound.errLeft
      waits := active ▸ sound.waits
      latest := ?_
      passed := sound.passed
      inOrder := sound.inOrder }
  · intro other membership
    rcases (goesOn other).mp membership with rfl | ⟨isOther, -⟩
    · rw [same, sameMs, isStored]
      exact ⟨isRun.1, fits, isRun.2.2⟩
    · exact sound.working other isOther
  · intro job isLatest showsQueued
    rcases sound.latest job isLatest showsQueued with
      isQueued | ⟨other, isOther, sameJob, isExtracting, writes⟩
    · exact Or.inl isQueued
    · by_cases isIts : other.job.queuedAtMs = run.job.queuedAtMs
      · have isRun : other = run :=
          inj_on_of_nodup_map sound.distinct isOther (mem_of_getElem? found) isIts
        exact absurd showsQueued (shown (isRun ▸ writes) job isLatest)
      · exact Or.inr ⟨other, (goesOn other).mpr (Or.inr ⟨isOther, isIts⟩), sameJob, isExtracting,
          writes⟩

theorem writeOwn (awaits : run.awaiting = .append) (same : next.job.asQueued = run.job.asQueued)
    (fits : next.Fits) (isStored : next.stored = run.job.status)
    (sameStatus : next.job.status = run.job.status) (writes : next.awaiting = .update) :
    Sound sessionId { queue with
      rows := queue.rows.insert (keyAt sessionId run.job.queuedAtMs) run.job
      workers := queue.workers.set place next } := by
  obtain ⟨isIssued, runFits, wasStored⟩ := sound.working run (mem_of_getElem? found)
  have sameMs : next.job.queuedAtMs = run.job.queuedAtMs :=
    queuedAtMs_of_asQueued same
  have isActive : run.job.queuedAtMs ∈ queue.active :=
    mem_map_of_mem (mem_of_getElem? found)
  have marked : run.job.status ≠ .queued := by
    rw [WorkerRun.Fits, awaits] at runFits
    exact runFits.1
  have active : ({ queue with
      rows := queue.rows.insert (keyAt sessionId run.job.queuedAtMs) run.job
      workers := queue.workers.set place next } : IngestionQueue).active = queue.active :=
    map_set_of_eq found sameMs
  have goesOn : ∀ other : WorkerRun, other ∈ queue.workers.set place next ↔
      other = next ∨ (other ∈ queue.workers ∧ other.job.queuedAtMs ≠ run.job.queuedAtMs) :=
    fun _ => mem_set_of_nodup sound.distinct found
  have others : ∀ millisecond, millisecond ≠ run.job.queuedAtMs →
      statusIn sessionId (queue.rows.insert (keyAt sessionId run.job.queuedAtMs) run.job)
        millisecond = statusIn sessionId queue.rows millisecond := by
    intro millisecond differs
    rw [statusIn_own, if_neg differs]
  refine
    { holds := sound.holds.own isIssued
      halfway := ?_
      working := ?_
      once := active ▸ sound.once
      okDone := ?_
      errLeft := sound.errLeft
      waits := ?_
      latest := ?_
      passed := ?_
      inOrder := sound.inOrder }
  · intro half isHalf
    obtain ⟨halfIssued, halfQueued, halfIdle⟩ := sound.halfway half isHalf
    rw [active, others half.queuedAtMs fun isIts => halfIdle (isIts ▸ isActive)]
    exact ⟨halfIssued, halfQueued, halfIdle⟩
  · intro other membership
    rcases (goesOn other).mp membership with rfl | ⟨isOther, differs⟩
    · rw [same, sameMs, statusIn_own, if_pos rfl, isStored]
      exact ⟨isIssued, fits, rfl⟩
    · rw [others _ differs]
      exact sound.working other isOther
  · intro ended isEnded isOk
    have isFinished : ended.job.queuedAtMs ∈ queue.finished :=
      mem_map_of_mem (mem_filter.mpr ⟨isEnded, isOk⟩)
    rw [others _ fun isIts =>
      (nodup_append.mp sound.once).2.2 _ isActive _ isFinished isIts.symm]
    exact sound.okDone ended isEnded isOk
  · intro job jobIssued idle unfinished
    rw [active] at idle
    rw [others job.queuedAtMs fun isIts => idle (isIts ▸ isActive)]
    exact sound.waits job jobIssued idle unfinished
  · intro job isLatest showsQueued
    rw [latest_own] at isLatest
    by_cases isIts : job.queuedAtMs = run.job.queuedAtMs
    · -- The run is about to write the job there again.
      refine Or.inr ⟨next, (goesOn next).mpr (Or.inl rfl), sameMs.trans isIts.symm, ?_, writes⟩
      rcases sound.latest job isLatest showsQueued with
        isQueued | ⟨other, isOther, isSame, awaitsLatest⟩
      · rw [isIts, wasStored, WorkerRun.stored, awaits] at isQueued
        rw [sameStatus]
        revert isQueued marked
        cases run.job.status <;> simp [ProcessingStatus.before]
      · have isRun : other = run := inj_on_of_nodup_map sound.distinct isOther
          (mem_of_getElem? found) (isSame.trans isIts)
        rw [isRun, awaits] at awaitsLatest
        cases awaitsLatest.2
    · rw [others _ isIts]
      refine (sound.latest job isLatest showsQueued).imp_right ?_
      rintro ⟨other, isOther, isSame, awaitsLatest⟩
      exact ⟨other, (goesOn other).mpr (Or.inr ⟨isOther, isSame.symm ▸ isIts⟩), isSame,
        awaitsLatest⟩
  · intro job isTaken
    refine ⟨(sound.passed job isTaken).1, fun other otherIssued below => ?_⟩
    by_cases isIts : other.queuedAtMs = run.job.queuedAtMs
    · rw [isIts, statusIn_own, if_pos rfl]
      exact fun isQueued => marked (Option.some.inj isQueued)
    · rw [others _ isIts]
      exact (sound.passed job isTaken).2 other otherIssued below

end

/-- A run returns `Ok` once its job is stored as done. -/
theorem finish (found : queue.workers[place]? = some run)
    (awaits : run.awaiting = .update) (isDone : run.job.status = .done) :
    Sound sessionId { queue with
      workers := queue.workers.eraseIdx place
      ended := queue.ended ++ [⟨run.job, true, queue.statusOf run.job⟩] } := by
  obtain ⟨-, -, isStored⟩ := sound.working run (mem_of_getElem? found)
  rw [WorkerRun.stored, awaits] at isStored
  refine sound.retire found (isStored.trans (congrArg some isDone)) ?_
  rintro ⟨isExtracting, -⟩
  rw [isDone] at isExtracting
  cases isExtracting

theorem succeed (found : queue.workers[place]? = some run) :
    Sound sessionId (queue.advance place run true) := by
  obtain ⟨isIssued, fits, isStored⟩ := sound.working run (mem_of_getElem? found)
  have isOf := sound.holds.isOf_of_mem isIssued
  have shownNext : Sound sessionId { queue with rows := queue.written run } →
      run.awaiting ≠ .append →
      (run.awaiting = .update → ∀ job,
        (queue.written run).get (latestKey sessionId) = some job → job.status ≠ .queued) →
      Sound sessionId (queue.advance place run true) := by
    intro shown awaitsOther fresh
    rw [advance, if_pos rfl]
    rcases next_cases fits with
      ⟨awaits, isDone, isLast⟩ | ⟨next, isNext, nextFits, same, nextStored, -⟩
    · rw [isLast]
      exact shown.finish found awaits isDone
    · rw [isNext]
      rw [if_neg awaitsOther] at nextStored
      exact shown.proceed found same nextFits nextStored fresh
  cases awaits : run.awaiting with
  | append =>
    have written : queue.written run =
        queue.rows.insert (keyAt sessionId run.job.queuedAtMs) run.job := by
      rw [IngestionQueue.written, awaits, isOf.appendKey_eq]
    rcases next_cases fits with
      ⟨awaitsLatest, -⟩ | ⟨next, isNext, nextFits, same, nextStored, marks⟩
    · rw [awaits] at awaitsLatest
      cases awaitsLatest
    · rw [if_pos awaits] at nextStored
      rw [advance, if_pos rfl]
      simp only [isNext, written]
      exact sound.writeOwn found awaits same nextFits nextStored (marks awaits).1
        (marks awaits).2
  | update =>
    have written : queue.written run = queue.rows.insert (latestKey sessionId) run.job := by
      rw [IngestionQueue.written, awaits, isOf.updateKey_eq]
    have marked : run.job.status ≠ .queued := by
      rw [WorkerRun.Fits, awaits] at fits
      exact fits.1
    have shown := sound.setLatest isIssued fun isQueued => absurd isQueued marked
    rw [← written] at shown
    refine shownNext shown (by rw [awaits]; exact nofun) fun _ job isLatest => ?_
    rw [written, get_insert_self] at isLatest
    cases isLatest
    exact marked
  | payload =>
    have written : queue.written run = queue.rows := by rw [IngestionQueue.written, awaits]
    refine shownNext (by rwa [written]) (by rw [awaits]; exact nofun) ?_
    rw [awaits]
    exact nofun
  | work =>
    have written : queue.written run = queue.rows := by rw [IngestionQueue.written, awaits]
    refine shownNext (by rwa [written]) (by rw [awaits]; exact nofun) ?_
    rw [awaits]
    exact nofun

end

theorem step_of_undisturbed (event : QueueEvent) (undisturbed : queue.Undisturbed sessionId event) :
    Sound sessionId (queue.step sessionId event) := by
  cases event with
  | queue call => exact sound.queue_call call undisturbed
  | queued place succeeds => exact sound.queued place succeeds
  | take => exact sound.take undisturbed
  | step place succeeds =>
    simp only [step]
    cases found : queue.workers[place]? with
    | none => exact sound
    | some run =>
      cases succeeds with
      | false => exact sound.fail found (undisturbed rfl run found)
      | true => exact sound.succeed found

theorem heldIds_eq :
    queue.heldIds = (queue.active ++ queue.finished).map (jobIdAt sessionId) := by
  rw [heldIds, IngestionQueue.active, IngestionQueue.finished, map_append, map_map, map_map]
  refine congrArg₂ _ (map_congr_left fun run isRun => ?_)
    (map_congr_left fun run isEnded => ?_)
  · exact (sound.holds.isOf_of_mem (sound.working run isRun).1).jobId
  · obtain ⟨isEnded, isOk⟩ := mem_filter.mp isEnded
    exact (sound.holds.isOf_of_mem (sound.okDone run isEnded isOk).1).jobId

theorem processedOnce : ProcessedOnce queue where
  inOrder := sound.inOrder
  oneRun := by
    rw [sound.heldIds_eq]
    exact sound.once.map fun _ _ same => jobIdAt_inj.mp same
  okDone run isEnded isOk := by
    obtain ⟨isIssued, isLeft, isStored⟩ := sound.okDone run isEnded isOk
    exact ⟨isLeft, (sound.statusOf_eq isIssued).trans isStored⟩
  errLeft run isEnded isErr := Or.inl (sound.errLeft run isEnded isErr)
  waits job isIssued idle := by
    have unchanged := sound.asQueued_of_mem isIssued
    have isAt : ∀ millisecond ∈ queue.active ++ queue.finished, job.queuedAtMs ≠ millisecond := by
      rintro millisecond isHeld rfl
      refine idle ?_
      rw [sound.heldIds_eq, (sound.holds.isOf job isIssued).1.jobId]
      exact mem_map_of_mem isHeld
    rw [sound.statusOf_eq (unchanged.symm ▸ isIssued)]
    exact sound.waits job isIssued (fun isActive => isAt _ (mem_append_left _ isActive) rfl)
      fun isFinished => isAt _ (mem_append_right _ isFinished) rfl

end Sound

end IngestionQueue

section Example

open IngestionQueue

/-- A call at a millisecond. -/
def callAt (now : UInt64) : QueueCall := ⟨"t", "chat", [], none, none, now⟩

/-- The second job is taken while the first one is worked on, fails, and is taken again. -/
def sharedQueue : List QueueEvent :=
  [.queue (callAt 1), .queued 0 true, .take, .queue (callAt 2)] ++
    List.replicate 3 (.step 0 true) ++ [.queued 0 true, .take, .step 1 false, .take] ++
      List.replicate 11 (.step 0 true) ++ List.replicate 14 (.step 0 true)

end Example

end AutoLoop.Memory
