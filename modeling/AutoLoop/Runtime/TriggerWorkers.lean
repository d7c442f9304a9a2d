import AutoLoop.Runtime.TriggerOutline

/-!
# Workers side by side

Workers over one backend, interleaved in any order with webhooks that queue events.  As
long as no worker lists an event that another one still holds, an event that does not
recur is passed on once, while it is pending.
-/

namespace AutoLoop.Runtime

open StateAdapter List

/-! ## Requests -/

inductive TriggerRequest where
  | worker (sessionId : String)
  | webhook (sessionId topic : String) (payload : Option String) (actorId : String)
  deriving DecidableEq, Repr

def TriggerRequest.request {Value : Type} (form : PayloadForm Value) :
    TriggerRequest → TriggerCall Unit
  | .worker sessionId => do
      let _ ← runWorkerOnce form sessionId
      return ()
  | .webhook sessionId topic payload actorId => do
      let _ ← ingestWebhookEvent form sessionId topic payload actorId
      return ()

abbrev TriggerPool : Type := Pool TriggerWorld TriggerAccess TriggerRequest Unit

abbrev TriggerJob : Type := Job TriggerWorld TriggerAccess TriggerRequest Unit

open TriggerRequest

/-- Requests over one backend, interleaved at their accesses. -/
def triggers {Value : Type} (form : PayloadForm Value) (world : TriggerWorld) :
    Component TriggerPool (PoolEvent TriggerRequest) Unit :=
  Pool.component (request form) ⟨world, []⟩

/-- The topics of trigger events that are not queued again. -/
def firesOnce (topic : String) : Bool :=
  isTriggerTopic topic && !(classifyTriggerKind topic).recurs

/-- The identifiers of the events of such topics, in order. -/
def firing (events : List ScheduleEvent) : List UInt64 :=
  (events.filter (firesOnce ·.topic)).map (·.id)

/-! ## Who holds an event -/

namespace TriggerJob

variable (job : TriggerJob) (id : UInt64)

/-- The worker is under way and has not passed the event on. -/
def Awaits : Prop := id ∉ handedBy job.past ∧ job.rest.isDone = false

/-- The worker has passed the event on and has not written its status. -/
def Runs : Prop := id ∈ handedBy job.past ∧ id ∉ settledBy job.past

/-- The worker has listed an event that fires once, and is not through with it. -/
def Holds : Prop := id ∈ firing (listedBy job.past) ∧ (Awaits job id ∨ Runs job id)

instance decidableHolds : Decidable (Holds job id) := inferInstanceAs (Decidable (_ ∧ ((_ ∧ _) ∨ (_ ∧ _))))

end TriggerJob

open TriggerJob

namespace TriggerPool

/-- A worker does not list an event that is held, and the counter does not wrap around. -/
def Admits (pool : TriggerPool) : TriggerAccess → Prop
  | .list _ pending => ∀ id ∈ firing pending, ∀ job ∈ pool.jobs, ¬Holds job id
  | access => access.Numbers pool.world.repo

instance decidableAdmits (pool : TriggerPool) : ∀ access, Decidable (pool.Admits access)
  | .list _ pending =>
    List.decidableBAll (fun id => ∀ job ∈ pool.jobs, ¬Holds job id) (firing pending)
  | .create .. => inferInstanceAs (Decidable (_ < _))
  | .clock _ | .pass _ | .ended .. | .setStatus .. | .refused _ => .isTrue trivial

def Guarded (pool : TriggerPool) : PoolEvent TriggerRequest → Prop
  | .start _ => True
  | .advance index => ∀ access ∈ pool.nextAccess index, pool.Admits access

instance decidableGuarded (pool : TriggerPool) : ∀ event, Decidable (pool.Guarded event)
  | .start _ => .isTrue trivial
  | .advance index =>
    inferInstanceAs (Decidable (∀ access ∈ pool.nextAccess index, pool.Admits access))

/-- Every event that fires once has been passed on at most once. -/
def FiredOnce (pool : TriggerPool) : Prop := (firing pool.world.passed).Nodup

instance (pool : TriggerPool) : Decidable pool.FiredOnce :=
  inferInstanceAs (Decidable (List.Nodup _))

/-- An event that fires once is not passed on once its status is written. -/
def FiresPending (pool : TriggerPool) : PoolEvent TriggerRequest → Prop
  | .start _ => True
  | .advance index => ∀ event, pool.nextAccess index = some (.pass event) →
      firesOnce event.topic = true → ¬Settled pool.world.repo event.id

end TriggerPool

theorem mem_firing {events : List ScheduleEvent} {id : UInt64} :
    id ∈ firing events ↔ ∃ event ∈ events, firesOnce event.topic = true ∧ event.id = id := by
  simp [firing, and_assoc]

theorem firing_append (first second : List ScheduleEvent) :
    firing (first ++ second) = firing first ++ firing second := by
  simp [firing]

theorem conforms_request {Value : Type} (form : PayloadForm Value) (call : TriggerRequest)
    (world : TriggerWorld) :
    triggering.Conforms (Then fun _ => True) [] (call.request form) world := by
  cases call with
  | worker sessionId =>
    exact conforms_bind (conforms_runWorkerOnce sessionId)
      fun _ _ _ _ => conforms_return trivial
  | webhook sessionId topic payload actorId =>
    exact conforms_bind (conforms_ingestWebhookEvent sessionId topic payload actorId)
      fun _ _ _ _ => conforms_return trivial

/-! ## One access -/

/-- What holds between the accesses of guarded requests. -/
structure Tidy (pool : TriggerPool) : Prop where
  sound : Pool.Sound (fun world => Numbered world.repo) (fun _ => triggering)
    (fun _ => Then fun _ => True) pool
  stored : ∀ job ∈ pool.jobs, ∀ event ∈ listedBy job.past,
    Stored pool.world.repo event.id event.topic
  settled : ∀ job ∈ pool.jobs, ∀ id ∈ settledBy job.past,
    id ∈ handedBy job.past ∧ Settled pool.world.repo id
  once : pool.FiredOnce
  fired : ∀ id ∈ firing pool.world.passed, Settled pool.world.repo id ∨
    ∃ job ∈ pool.jobs, id ∈ firing (listedBy job.past) ∧ Runs job id
  awaited : ∀ job ∈ pool.jobs, ∀ id ∈ firing (listedBy job.past), Awaits job id →
    id ∉ firing pool.world.passed ∧ ¬Settled pool.world.repo id
  apart : ∀ (index other : Nat) job otherJob id, index ≠ other →
    pool.jobs[index]? = some job → pool.jobs[other]? = some otherJob →
      Holds job id → ¬Holds otherJob id

/-- An admitted access of a job, which goes on as `next`. -/
structure Advances (pool after : TriggerPool) (index : Nat) (job next : TriggerJob)
    (access : TriggerAccess) : Prop where
  found : pool.jobs[index]? = some job
  active : job.rest.isDone = false
  admitted : pool.Admits access
  legal : Legal job.past pool.world.repo access
  repo : after.world.repo = access.perform pool.world.repo
  passed : after.world.passed = pool.world.passed ++ access.handed
  past : next.past = job.past ++ [access]
  jobs : after.jobs = pool.jobs.set index next

namespace Advances

variable {pool after : TriggerPool} {index : Nat} {job next other : TriggerJob}
variable {access : TriggerAccess} {id : UInt64} {topic : String}

section
variable (advances : Advances pool after index job next access)
include advances

theorem mem : job ∈ pool.jobs :=
  mem_of_getElem? advances.found

theorem numbers :
    access.Numbers pool.world.repo := by
  have admitted := advances.admitted
  cases access with
  | list => trivial
  | clock | pass | ended | setStatus | create | refused => exact admitted

theorem job_after {place : Nat} (found : after.jobs[place]? = some other) :
    place ≠ index ∧ pool.jobs[place]? = some other ∨ place = index ∧ other = next := by
  rw [advances.jobs, getElem?_set] at found
  split at found
  · next same =>
    split at found
    · cases found
      exact Or.inr ⟨same.symm, rfl⟩
    · cases found
  · next different => exact Or.inl ⟨Ne.symm different, found⟩

theorem mem_after : next ∈ after.jobs := by
  rw [advances.jobs]
  obtain ⟨inRange, -⟩ := List.getElem?_eq_some_iff.mp advances.found
  exact mem_set inRange next

theorem mem_after_of_ne (membership : other ∈ pool.jobs) : other = job ∨ other ∈ after.jobs := by
  obtain ⟨place, found⟩ := mem_iff_getElem?.mp membership
  by_cases same : place = index
  · subst same
    rw [advances.found] at found
    cases found
    exact Or.inl rfl
  · refine Or.inr (mem_of_getElem? (i := place) ?_)
    rw [advances.jobs, getElem?_set_ne (Ne.symm same), found]

theorem mem_of_mem_after (membership : other ∈ after.jobs) : other ∈ pool.jobs ∨ other = next := by
  obtain ⟨place, found⟩ := mem_iff_getElem?.mp membership
  rcases advances.job_after found with ⟨-, earlier⟩ | ⟨-, same⟩
  · exact Or.inl (mem_of_getElem? earlier)
  · exact Or.inr same

theorem stored (numbered : Numbered pool.world.repo) (stored : Stored pool.world.repo id topic) :
    Stored after.world.repo id topic := by
  rw [advances.repo]
  exact stored.perform numbered advances.numbers

theorem settled (numbered : Numbered pool.world.repo) (settled : Settled pool.world.repo id) :
    Settled after.world.repo id := by
  rw [advances.repo]
  apply settled.perform numbered advances.numbers
  rintro status rfl
  exact advances.legal.2.2

theorem holds_before (holds : Holds next id) :
    Holds job id ∨ ∃ sessionId pending, access = .list sessionId pending ∧ id ∈ firing pending := by
  obtain ⟨listed, phase⟩ := holds
  rw [advances.past, listedBy_append, firing_append, mem_append] at listed
  rw [Awaits, Runs, advances.past, handedBy_append, settledBy_append, mem_append,
    mem_append] at phase
  rcases listed with before | new
  · refine Or.inl ⟨before, ?_⟩
    by_cases handed : id ∈ handedBy job.past
    · refine Or.inr ⟨handed, ?_⟩
      intro settled
      rcases phase with ⟨unhanded, -⟩ | ⟨-, unsettled⟩
      · exact unhanded (Or.inl handed)
      · exact unsettled (Or.inl settled)
    · exact Or.inl ⟨handed, advances.active⟩
  · cases access with
    | list sessionId pending => exact Or.inr ⟨sessionId, pending, rfl, new⟩
    | clock | pass | ended | setStatus | create | refused => cases new

theorem runs_after (runs : Runs job id) : Runs next id ∨ id ∈ access.settling := by
  by_cases settling : id ∈ access.settling
  · exact Or.inr settling
  · refine Or.inl ?_
    rw [Runs, advances.past, handedBy_append, settledBy_append, mem_append, mem_append]
    exact ⟨Or.inl runs.1, not_or.mpr ⟨runs.2, settling⟩⟩

theorem listed_after
    (listed : id ∈ firing (listedBy job.past)) : id ∈ firing (listedBy next.past) := by
  rw [advances.past, listedBy_append, firing_append]
  exact mem_append_left _ listed

end

end Advances

/-! ## What an access keeps -/

theorem mem_map_of_mem_firing {events : List ScheduleEvent} {id : UInt64}
    (membership : id ∈ firing events) : id ∈ events.map (·.id) := by
  obtain ⟨event, isMem, -, same⟩ := mem_firing.mp membership
  exact mem_map.mpr ⟨event, isMem, same⟩

theorem Stored.topic_eq {repo : InMemory} {id : UInt64} {topic other : String}
    (stored : Stored repo id topic) (otherStored : Stored repo id other) : topic = other := by
  obtain ⟨event, found, rfl⟩ := stored
  obtain ⟨second, otherFound, rfl⟩ := otherStored
  rw [found] at otherFound
  cases otherFound
  rfl

namespace Tidy

variable {pool after : TriggerPool} {index : Nat} {job next other : TriggerJob}
variable {access : TriggerAccess} {id : UInt64}

theorem numbered (tidy : Tidy pool) : Numbered pool.world.repo := tidy.sound.world

theorem stored_of_firing (tidy : Tidy pool) (membership : job ∈ pool.jobs)
    (listed : id ∈ firing (listedBy job.past)) :
    ∃ topic, Stored pool.world.repo id topic ∧ firesOnce topic = true := by
  obtain ⟨event, isMem, fires, rfl⟩ := mem_firing.mp listed
  exact ⟨event.topic, tidy.stored job membership event isMem, fires⟩

theorem awaits_of_passing (advances : Advances pool after index job next access)
    (passing : id ∈ firing access.handed) :
    id ∈ firing (listedBy job.past) ∧ Awaits job id ∧ access.settling = [] := by
  cases access with
  | pass event =>
    obtain ⟨member, isMem, fires, rfl⟩ := mem_firing.mp passing
    cases mem_singleton.mp isMem
    exact ⟨mem_firing.mpr ⟨event, advances.legal.1, fires, rfl⟩,
      ⟨advances.legal.2.2, advances.active⟩, rfl⟩
  | clock | list | ended | setStatus | create | refused => cases passing

section
variable (tidy : Tidy pool) (advances : Advances pool after index job next access)
include tidy advances

theorem settled_of_settling (settling : id ∈ access.settling) :
    id ∈ handedBy job.past ∧ Settled after.world.repo id := by
  cases access with
  | setStatus other status =>
    cases mem_singleton.mp settling
    obtain ⟨⟨event, listed, rfl⟩, handed, settles⟩ := advances.legal
    refine ⟨handed, ?_⟩
    rw [advances.repo]
    exact (tidy.stored job advances.mem event listed).settled settles
  | clock | list | pass | ended | create | refused => cases settling

theorem stored_after :
    ∀ job ∈ after.jobs, ∀ event ∈ listedBy job.past,
      Stored after.world.repo event.id event.topic := by
  intro later membership event listed
  apply advances.stored tidy.numbered
  rcases advances.mem_of_mem_after membership with earlier | rfl
  · exact tidy.stored later earlier event listed
  · rw [advances.past, listedBy_append] at listed
    rcases mem_append.mp listed with before | new
    · exact tidy.stored job advances.mem event before
    · cases access with
      | list sessionId pending =>
        rw [TriggerAccess.listed, advances.legal.2] at new
        exact stored_of_mem_pendingIn tidy.numbered new
      | clock | pass | ended | setStatus | create | refused => cases new

theorem settled_after :
    ∀ job ∈ after.jobs, ∀ id ∈ settledBy job.past,
      id ∈ handedBy job.past ∧ Settled after.world.repo id := by
  intro later membership id settled
  rcases advances.mem_of_mem_after membership with earlier | rfl
  · obtain ⟨handed, before⟩ := tidy.settled later earlier id settled
    exact ⟨handed, advances.settled tidy.numbered before⟩
  · rw [advances.past, handedBy_append]
    rw [advances.past, settledBy_append] at settled
    rcases mem_append.mp settled with before | new
    · obtain ⟨handed, isSettled⟩ := tidy.settled job advances.mem id before
      exact ⟨mem_append_left _ handed, advances.settled tidy.numbered isSettled⟩
    · obtain ⟨handed, isSettled⟩ := tidy.settled_of_settling advances new
      exact ⟨mem_append_left _ handed, isSettled⟩

end

theorem nodup_firing_handed (access : TriggerAccess) : (firing access.handed).Nodup := by
  have short : access.handed.length ≤ 1 := by
    cases access with
    | pass => exact Nat.le_refl 1
    | clock | list | ended | setStatus | create | refused => exact Nat.zero_le 1
  have shorter : (firing access.handed).length ≤ 1 := by
    rw [firing, length_map]
    exact (length_filter_le _ _).trans short
  match firing access.handed, shorter with
  | [], _ => exact nodup_nil
  | [id], _ => exact nodup_singleton id

section
variable (tidy : Tidy pool)
include tidy

section
variable (advances : Advances pool after index job next access)
include advances

theorem once_after :
    after.FiredOnce := by
  rw [TriggerPool.FiredOnce, advances.passed, firing_append, nodup_append]
  refine ⟨tidy.once, nodup_firing_handed access, ?_⟩
  rintro id before other passing rfl
  obtain ⟨listed, awaits, -⟩ := awaits_of_passing advances passing
  exact (tidy.awaited job advances.mem id listed awaits).1 before

theorem fired_after :
    ∀ id ∈ firing after.world.passed, Settled after.world.repo id ∨
      ∃ job ∈ after.jobs, id ∈ firing (listedBy job.past) ∧ Runs job id := by
  intro id fired
  rw [advances.passed, firing_append] at fired
  rcases mem_append.mp fired with before | passing
  · rcases tidy.fired id before with settled | ⟨runner, membership, listed, runs⟩
    · exact Or.inl (advances.settled tidy.numbered settled)
    · rcases advances.mem_after_of_ne membership with rfl | stays
      · rcases advances.runs_after runs with runsOn | settling
        · exact Or.inr ⟨next, advances.mem_after, advances.listed_after listed, runsOn⟩
        · exact Or.inl (tidy.settled_of_settling advances settling).2
      · exact Or.inr ⟨runner, stays, listed, runs⟩
  · obtain ⟨listed, awaits, quiet⟩ := awaits_of_passing advances passing
    refine Or.inr ⟨next, advances.mem_after, advances.listed_after listed, ?_, ?_⟩
    · rw [advances.past, handedBy_append]
      exact mem_append_right _ (mem_map_of_mem_firing passing)
    · rw [advances.past, settledBy_append, quiet, append_nil]
      intro settled
      exact awaits.1 (tidy.settled job advances.mem id settled).1

theorem unsettled_elsewhere {place : Nat}
    (different : place ≠ index) (found : pool.jobs[place]? = some other)
    (listed : id ∈ firing (listedBy other.past)) (awaits : Awaits other id) :
    ¬Settled after.world.repo id := by
  have membership : other ∈ pool.jobs := mem_of_getElem? found
  obtain ⟨-, unsettled⟩ := tidy.awaited other membership id listed awaits
  obtain ⟨topic, stored, fires⟩ := tidy.stored_of_firing membership listed
  intro settled
  rw [advances.repo] at settled
  rcases settled_of_perform tidy.numbered advances.numbers stored settled with
    before | ⟨status, rfl⟩
  · exact unsettled before
  · obtain ⟨⟨event, isMem, same⟩, handed, -⟩ := advances.legal
    have isStored := tidy.stored job advances.mem event isMem
    rw [same] at isStored
    have isFiring : id ∈ firing (listedBy job.past) :=
      mem_firing.mpr ⟨event, isMem, by rw [isStored.topic_eq stored]; exact fires, same⟩
    by_cases written : id ∈ settledBy job.past
    · exact unsettled (tidy.settled job advances.mem id written).2
    · exact tidy.apart index place job other id (Ne.symm different) advances.found found
        ⟨isFiring, Or.inr ⟨handed, written⟩⟩ ⟨listed, Or.inl awaits⟩

end

theorem not_fired_of_listed (unsettled : ¬Settled pool.world.repo id)
    (free : ∀ job ∈ pool.jobs, ¬Holds job id) : id ∉ firing pool.world.passed := by
  intro fired
  rcases tidy.fired id fired with settled | ⟨runner, membership, listed, runs⟩
  · exact unsettled settled
  · exact free runner membership ⟨listed, Or.inr runs⟩

theorem awaited_after (advances : Advances pool after index job next access) :
    ∀ job ∈ after.jobs, ∀ id ∈ firing (listedBy job.past), Awaits job id →
      id ∉ firing after.world.passed ∧ ¬Settled after.world.repo id := by
  intro later membership id listed awaits
  rw [advances.passed, firing_append, mem_append, not_or]
  obtain ⟨place, found⟩ := mem_iff_getElem?.mp membership
  rcases advances.job_after found with ⟨different, earlier⟩ | ⟨-, rfl⟩
  · have inPool : later ∈ pool.jobs := mem_of_getElem? earlier
    refine ⟨⟨(tidy.awaited later inPool id listed awaits).1, ?_⟩,
      tidy.unsettled_elsewhere advances different earlier listed awaits⟩
    intro passing
    obtain ⟨isFiring, alsoAwaits, -⟩ := awaits_of_passing advances passing
    exact tidy.apart index place job later id (Ne.symm different) advances.found earlier
      ⟨isFiring, Or.inl alsoAwaits⟩ ⟨listed, Or.inl awaits⟩
  · obtain ⟨unhanded, -⟩ := awaits
    rw [advances.past, handedBy_append, mem_append, not_or] at unhanded
    have unpassed : id ∉ firing access.handed :=
      fun passing => unhanded.2 (mem_map_of_mem_firing passing)
    rw [advances.past, listedBy_append, firing_append] at listed
    rcases mem_append.mp listed with before | new
    · obtain ⟨unfired, unsettled⟩ :=
        tidy.awaited job advances.mem id before ⟨unhanded.1, advances.active⟩
      refine ⟨⟨unfired, unpassed⟩, ?_⟩
      intro settled
      obtain ⟨topic, stored, -⟩ := tidy.stored_of_firing advances.mem before
      rw [advances.repo] at settled
      rcases settled_of_perform tidy.numbered advances.numbers stored settled with
        already | ⟨status, rfl⟩
      · exact unsettled already
      · exact unhanded.1 advances.legal.2.1
    · cases access with
      | list sessionId pending =>
        have unsettled : ¬Settled pool.world.repo id := by
          obtain ⟨event, isMem, -, rfl⟩ := mem_firing.mp new
          rw [TriggerAccess.listed, advances.legal.2] at isMem
          exact not_settled_of_mem_pendingIn tidy.numbered isMem
        refine ⟨⟨?_, unpassed⟩, ?_⟩
        · exact tidy.not_fired_of_listed unsettled (advances.admitted id new)
        · rw [advances.repo]
          exact unsettled
      | clock | pass | ended | setStatus | create | refused => cases new

theorem apart_after (advances : Advances pool after index job next access) :
    ∀ (first second : Nat) job otherJob id, first ≠ second →
      after.jobs[first]? = some job → after.jobs[second]? = some otherJob →
        Holds job id → ¬Holds otherJob id := by
  -- what the advancing job holds, no other job holds
  have alone : ∀ (place : Nat) other id, place ≠ index → pool.jobs[place]? = some other →
      Holds next id → ¬Holds other id := by
    intro place other id different found holds
    rcases advances.holds_before holds with before | ⟨sessionId, pending, rfl, new⟩
    · exact tidy.apart index place job other id (Ne.symm different) advances.found found before
    · exact advances.admitted id new other (mem_of_getElem? found)
  intro first second firstJob secondJob id different firstFound secondFound firstHolds secondHolds
  rcases advances.job_after firstFound with ⟨firstNe, firstEarlier⟩ | ⟨rfl, rfl⟩
  · rcases advances.job_after secondFound with ⟨secondNe, secondEarlier⟩ | ⟨rfl, rfl⟩
    · exact tidy.apart first second firstJob secondJob id different firstEarlier secondEarlier
        firstHolds secondHolds
    · exact alone first firstJob id firstNe firstEarlier secondHolds firstHolds
  · rcases advances.job_after secondFound with ⟨secondNe, secondEarlier⟩ | ⟨same, -⟩
    · exact alone second secondJob id secondNe secondEarlier firstHolds secondHolds
    · exact different same.symm

variable {Value : Type} (form : PayloadForm Value)

theorem start (call : TriggerRequest) :
    Tidy (Pool.step (request form) pool (.start call)) := by
  have mem_step : ∀ job ∈ (Pool.step (request form) pool (.start call)).jobs,
      job ∈ pool.jobs ∨ job.past = [] := by
    intro job membership
    rcases mem_append.mp membership with earlier | new
    · exact Or.inl earlier
    · rw [mem_singleton.mp new]
      exact Or.inr rfl
  have found_step : ∀ (place : Nat) job id,
      (Pool.step (request form) pool (.start call)).jobs[place]? = some job →
        Holds job id → pool.jobs[place]? = some job := by
    intro place job id found holds
    rw [Pool.step, getElem?_append] at found
    split at found
    · exact found
    · obtain ⟨listed, -⟩ := holds
      rw [mem_singleton.mp (mem_of_getElem? found)] at listed
      cases listed
  constructor
  · exact tidy.sound.start (conforms_request form call pool.world)
  · intro job membership event listed
    rcases mem_step job membership with earlier | fresh
    · exact tidy.stored job earlier event listed
    · rw [fresh] at listed
      cases listed
  · intro job membership id settled
    rcases mem_step job membership with earlier | fresh
    · exact tidy.settled job earlier id settled
    · rw [fresh] at settled
      cases settled
  · exact tidy.once
  · intro id fired
    rcases tidy.fired id fired with settled | ⟨runner, membership, running⟩
    · exact Or.inl settled
    · exact Or.inr ⟨runner, mem_append_left _ membership, running⟩
  · intro job membership id listed awaits
    rcases mem_step job membership with earlier | fresh
    · exact tidy.awaited job earlier id listed awaits
    · rw [fresh] at listed
      cases listed
  · intro first second job otherJob id different firstFound secondFound firstHolds secondHolds
    exact tidy.apart first second job otherJob id different
      (found_step first job id firstFound firstHolds)
      (found_step second otherJob id secondFound secondHolds) firstHolds secondHolds

theorem advances
    (guarded : pool.Guarded (.advance index)) (isNext : pool.nextAccess index = some access) :
    ∃ job next, Advances pool (Pool.step (request form) pool (.advance index))
      index job next access := by
  obtain ⟨job, later, rest, found, active, guaranteed, isStep⟩ :=
    tidy.sound.advance_guaranteed (request form) (fun _ _ _ => trivial) isNext
      fun _ _ => tidy.numbered
  obtain ⟨legal, repo, passed⟩ := guaranteed
  refine ⟨job, ⟨job.call, job.past ++ [access], rest⟩, found, active, guarded access isNext,
    legal, ?_, ?_, rfl, ?_⟩
  · rw [isStep]
    exact repo
  · rw [isStep]
    exact passed
  · rw [isStep]

theorem advance (guarded : pool.Guarded (.advance index)) :
    Tidy (Pool.step (request form) pool (.advance index)) := by
  cases isNext : pool.nextAccess index with
  | none =>
    rw [Pool.advance_of_none isNext]
    exact tidy
  | some access =>
    obtain ⟨job, next, advances⟩ := tidy.advances form guarded isNext
    refine ⟨?_, tidy.stored_after advances, tidy.settled_after advances,
      tidy.once_after advances, tidy.fired_after advances, tidy.awaited_after advances,
      tidy.apart_after advances⟩
    apply tidy.sound.advance (fun _ _ _ _ _ _ _ => trivial) (fun _ _ _ => trivial)
    · exact fun _ _ _ _ => tidy.numbered
    · intro other otherAccess later found isOther guaranteed
      rw [isNext] at isOther
      cases isOther
      rw [guaranteed.2.1]
      exact tidy.numbered.perform advances.numbers
    · exact fun _ _ _ _ _ _ _ _ _ _ => ⟨fun _ => trivial, fun _ _ ended => ended⟩

theorem step {event : PoolEvent TriggerRequest} (guarded : pool.Guarded event) :
    Tidy (Pool.step (request form) pool event) := by
  cases event with
  | start call => exact tidy.start form call
  | advance index => exact tidy.advance form guarded

theorem firesPending (form : PayloadForm Value)
    {event : PoolEvent TriggerRequest} (guarded : pool.Guarded event) :
    pool.FiresPending event := by
  cases event with
  | start call => trivial
  | advance index =>
    intro passed isPass fires
    obtain ⟨job, next, advances⟩ := tidy.advances form guarded isPass
    obtain ⟨listed, -, unhanded⟩ := advances.legal
    exact (tidy.awaited job advances.mem passed.id (mem_firing.mpr ⟨passed, listed, fires, rfl⟩)
      ⟨unhanded, advances.active⟩).2

end

end Tidy

theorem tidy_initial {world : TriggerWorld} (numbered : Numbered world.repo)
    (fresh : world.passed = []) : Tidy ⟨world, []⟩ where
  sound := ⟨numbered, nofun⟩
  stored := nofun
  settled := nofun
  once := by
    rw [TriggerPool.FiredOnce, fresh]
    exact nodup_nil
  fired := by
    rw [fresh]
    nofun
  awaited := nofun
  apart := nofun

/-! ## At most once -/

/-- Payloads without members. -/
def bare : PayloadForm Unit where
  fromStr := fun _ => none
  get := fun _ _ => none
  asU64 := fun _ => none
  asBool := fun _ => none
  isObject := fun _ => true
  emptyObject := ()
  insert := fun _ _ _ => ()
  number := fun _ => ()
  string := fun _ => ()
  display := fun _ => "\x7b\x7d"

/-- An empty backend that answers, and executors that succeed. -/
def readyWorld : TriggerWorld := ⟨InMemory.default, [], fun _ => ⟨0, true, none⟩, 0⟩

def inTurn : List (PoolEvent TriggerRequest) :=
  [.start (.webhook "s" "order" none "a"), .advance 0, .start (.worker "s"), .advance 1,
    .advance 1, .advance 1, .advance 1, .start (.worker "s"), .advance 2]

def sideBySide : List (PoolEvent TriggerRequest) :=
  [.start (.webhook "s" "order" none "a"), .advance 0, .start (.worker "s"),
    .start (.worker "s"), .advance 1, .advance 2, .advance 1, .advance 2]

end AutoLoop.Runtime
