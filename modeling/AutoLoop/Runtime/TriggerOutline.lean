import AutoLoop.Runtime.TriggerRuntime

/-!
# What a worker does to the schedule events

Whatever other workers do meanwhile, a worker lists the pending events first, passes
each of them on at most once, and writes the status of an event only behind passing
it on.
-/

namespace AutoLoop.Runtime

open StateAdapter Outline.Conforms List HashMap

/-! ## Events in the backend -/

structure Numbered (repo : InMemory) : Prop where
  named : ∀ id event, repo.events.get id = some event → event.id = id
  counted : ∀ id event, repo.events.get id = some event → id.toNat ≤ repo.nextId.toNat
  once : ∀ sessionId, ((repo.eventsBySession.get sessionId).getD []).Nodup
  passed : ∀ sessionId, ∀ id ∈ (repo.eventsBySession.get sessionId).getD [],
    id.toNat ≤ repo.nextId.toNat

/-- The event has got a status with which it is not pending any more. -/
def Settled (repo : InMemory) (id : UInt64) : Prop :=
  ∃ event, repo.events.get id = some event ∧ isPending event = false

def Stored (repo : InMemory) (id : UInt64) (topic : String) : Prop :=
  ∃ event, repo.events.get id = some event ∧ event.topic = topic

theorem numbered_default : Numbered InMemory.default where
  named := nofun
  counted := nofun
  once := fun _ => nodup_nil
  passed := fun _ _ membership => absurd membership not_mem_nil

section Listings

variable {repo : InMemory} {sessionId : String} {event : ScheduleEvent}

section
variable (numbered : Numbered repo) (membership : event ∈ pendingIn sessionId repo)
include numbered membership

theorem get_of_mem_pendingIn :
    repo.events.get event.id = some event ∧ isPending event = true := by
  obtain ⟨listed, pending⟩ := mem_filter.mp membership
  obtain ⟨id, -, found⟩ := mem_filterMap.mp listed
  rw [numbered.named id event found]
  exact ⟨found, pending⟩

theorem stored_of_mem_pendingIn : Stored repo event.id event.topic :=
  ⟨event, (get_of_mem_pendingIn numbered membership).1, rfl⟩

theorem not_settled_of_mem_pendingIn : ¬Settled repo event.id := by
  rintro ⟨other, found, settled⟩
  obtain ⟨stored, pending⟩ := get_of_mem_pendingIn numbered membership
  rw [stored] at found
  cases found
  rw [pending] at settled
  cases settled

end

theorem nodup_filterMap_ids (numbered : Numbered repo) {ids : List UInt64} (nodup : ids.Nodup) :
    ((ids.filterMap repo.events.get).map (·.id)).Nodup := by
  induction ids with
  | nil => exact nodup_nil
  | cons id rest ih =>
    obtain ⟨new, nodupRest⟩ := nodup_cons.mp nodup
    cases found : repo.events.get id with
    | none =>
      rw [filterMap_cons_none found]
      exact ih nodupRest
    | some event =>
      rw [filterMap_cons_some found, map_cons, nodup_cons]
      refine ⟨?_, ih nodupRest⟩
      intro membership
      obtain ⟨other, inRest, same⟩ := mem_map.mp membership
      obtain ⟨otherId, isMem, otherFound⟩ := mem_filterMap.mp inRest
      apply new
      rw [← numbered.named id event found, ← same, numbered.named otherId other otherFound]
      exact isMem

theorem nodup_pendingIn (numbered : Numbered repo) :
    ((pendingIn sessionId repo).map (·.id)).Nodup :=
  (nodup_filterMap_ids numbered (numbered.once sessionId)).sublist
    (filter_sublist.map _)

end Listings

/-! ## Accesses -/

namespace TriggerAccess

/-- The effect of an answered call on the backend. -/
def perform : TriggerAccess → InMemory → InMemory
  | .setStatus id status, repo => (InMemory.updateScheduleStatus id status repo).2
  | .create sessionId topic toolName payload actorId, repo =>
    (InMemory.createScheduleEvent sessionId topic toolName payload actorId repo).2
  | _, repo => repo

def listed : TriggerAccess → List ScheduleEvent
  | .list _ pending => pending
  | _ => []

def handed : TriggerAccess → List ScheduleEvent
  | .pass event => [event]
  | _ => []

/-- The identifiers whose status is written. -/
def settling : TriggerAccess → List UInt64
  | .setStatus id _ => [id]
  | _ => []

/-- The counter of the backend does not wrap around. -/
def Numbers (repo : InMemory) : TriggerAccess → Prop
  | .create .. => repo.nextId.toNat + 1 < 2 ^ 64
  | _ => True

end TriggerAccess

section
variable (past : List TriggerAccess)

/-- The events that were listed by these accesses. -/
def listedBy : List ScheduleEvent := past.flatMap (·.listed)

/-- The identifiers of the events that these accesses passed on. -/
def handedBy : List UInt64 :=
  (past.flatMap (·.handed)).map (·.id)

/-- The identifiers whose status these accesses wrote. -/
def settledBy : List UInt64 := past.flatMap (·.settling)

end

section
variable (past : List TriggerAccess) (access : TriggerAccess)

@[simp] theorem listedBy_append :
    listedBy (past ++ [access]) = listedBy past ++ access.listed := by
  simp [listedBy]

@[simp] theorem handedBy_append :
    handedBy (past ++ [access]) = handedBy past ++ access.handed.map (·.id) := by
  simp [handedBy]

@[simp] theorem settledBy_append :
    settledBy (past ++ [access]) = settledBy past ++ access.settling := by
  simp [settledBy]

end

section Performed

variable {repo : InMemory} {access : TriggerAccess} {id : UInt64} {topic : String}

theorem get_updateScheduleStatus (repo : InMemory) (id other : UInt64) (status : String) :
    (InMemory.updateScheduleStatus id status repo).2.events.get other =
      (repo.events.get other).map fun event =>
        if other = id then { event with status } else event := by
  rw [InMemory.updateScheduleStatus]
  cases found : repo.events.get id with
  | none =>
    by_cases same : other = id
    · rw [same, found]
      rfl
    · simp [same]
  | some event =>
    by_cases same : other = id
    · simp [same, found]
    · simp [get_insert, same]

theorem get_perform (numbered : Numbered repo) (numbers : access.Numbers repo)
    {event : ScheduleEvent} (found : repo.events.get id = some event) :
    ∃ status, (access.perform repo).events.get id = some { event with status } ∧
      (status = event.status ∨ access = .setStatus id status) := by
  cases access with
  | setStatus other status =>
    rw [TriggerAccess.perform, get_updateScheduleStatus, found]
    by_cases same : id = other
    · subst same
      exact ⟨status, by simp, Or.inr rfl⟩
    · exact ⟨event.status, by simp [same], Or.inl rfl⟩
  | create sessionId topic toolName payload actorId =>
    have fresh : id ≠ repo.nextId + 1 := by
      rintro rfl
      have counted := numbered.counted _ _ found
      rw [UInt64.toNat_add, Nat.mod_eq_of_lt (by exact numbers)] at counted
      simp at counted
    refine ⟨event.status, ?_, Or.inl rfl⟩
    change (repo.events.insert (repo.nextId + 1) _).get id = _
    rw [get_insert, if_neg fresh, found]
  | clock | list | pass | ended | refused => exact ⟨event.status, found, Or.inl rfl⟩

theorem Stored.perform (stored : Stored repo id topic) (numbered : Numbered repo)
    (numbers : access.Numbers repo) : Stored (access.perform repo) id topic := by
  obtain ⟨event, found, isTopic⟩ := stored
  obtain ⟨status, after, -⟩ := get_perform numbered numbers found
  exact ⟨_, after, isTopic⟩

/-- The statuses that workers write. -/
def Settles (status : String) : Prop := status = "completed" ∨ status = "failed"

theorem isPending_of_settles {event : ScheduleEvent} (settles : Settles event.status) :
    isPending event = false := by
  rw [isPending]
  rcases settles with same | same
  · rw [same]
    decide
  · rw [same]
    decide

theorem Settled.perform (settled : Settled repo id) (numbered : Numbered repo)
    (numbers : access.Numbers repo)
    (settling : ∀ status, access = .setStatus id status → Settles status) :
    Settled (access.perform repo) id := by
  obtain ⟨event, found, isSettled⟩ := settled
  obtain ⟨status, after, same | sets⟩ := get_perform numbered numbers found
  · exact ⟨_, after, by rw [same]; exact isSettled⟩
  · exact ⟨_, after, isPending_of_settles (settling status sets)⟩

theorem Stored.settled (stored : Stored repo id topic) {status : String}
    (settles : Settles status) :
    Settled ((TriggerAccess.setStatus id status).perform repo) id := by
  obtain ⟨event, found, -⟩ := stored
  refine ⟨{ event with status }, ?_, isPending_of_settles settles⟩
  rw [TriggerAccess.perform, get_updateScheduleStatus, found, Option.map_some, if_pos rfl]

theorem settled_of_perform (numbered : Numbered repo) (numbers : access.Numbers repo)
    (stored : Stored repo id topic) (settled : Settled (access.perform repo) id) :
    Settled repo id ∨ ∃ status, access = .setStatus id status := by
  obtain ⟨event, found, -⟩ := stored
  obtain ⟨other, isOther, isSettled⟩ := settled
  obtain ⟨status, after, same | sets⟩ := get_perform numbered numbers found
  · rw [after] at isOther
    cases isOther
    rw [same] at isSettled
    exact Or.inl ⟨event, found, isSettled⟩
  · exact Or.inr ⟨status, sets⟩

theorem Numbered.perform (numbered : Numbered repo) (numbers : access.Numbers repo) :
    Numbered (access.perform repo) := by
  cases access with
  | setStatus other status =>
    have same : (InMemory.updateScheduleStatus other status repo).2.eventsBySession =
          repo.eventsBySession ∧
        (InMemory.updateScheduleStatus other status repo).2.nextId = repo.nextId := by
      rw [InMemory.updateScheduleStatus]
      cases repo.events.get other <;> exact ⟨rfl, rfl⟩
    have kept : ∀ id event, (InMemory.updateScheduleStatus other status repo).2.events.get id =
        some event → ∃ before, repo.events.get id = some before ∧ event.id = before.id := by
      intro id event found
      rw [get_updateScheduleStatus] at found
      obtain ⟨before, isBefore, rfl⟩ := Option.map_eq_some_iff.mp found
      refine ⟨before, isBefore, ?_⟩
      split <;> rfl
    constructor
    · intro id event found
      obtain ⟨before, isBefore, sameId⟩ := kept id event found
      rw [sameId, numbered.named id before isBefore]
    · intro id event found
      obtain ⟨before, isBefore, -⟩ := kept id event found
      rw [TriggerAccess.perform, same.2]
      exact numbered.counted id before isBefore
    · rw [TriggerAccess.perform, same.1]
      exact numbered.once
    · rw [TriggerAccess.perform, same.1, same.2]
      exact numbered.passed
  | create sessionId topic toolName payload actorId =>
    have next : (repo.nextId + 1).toNat = repo.nextId.toNat + 1 := by
      rw [UInt64.toNat_add, Nat.mod_eq_of_lt (by exact numbers)]
      rfl
    constructor
    · intro id event found
      change (repo.events.insert (repo.nextId + 1) _).get id = some event at found
      rw [get_insert] at found
      split at found
      · next same =>
        cases found
        exact same.symm
      · exact numbered.named id event found
    · intro id event found
      change (repo.events.insert (repo.nextId + 1) _).get id = some event at found
      change id.toNat ≤ (repo.nextId + 1).toNat
      rw [get_insert] at found
      split at found
      · next same => rw [same]
      · have counted := numbered.counted id event found
        omega
    · intro session
      change ((repo.eventsBySession.insert sessionId _).get session |>.getD []).Nodup
      rw [get_insert]
      split
      · rw [Option.getD_some, nodup_append]
        refine ⟨numbered.once _, nodup_singleton _, ?_⟩
        intro id membership other isOther same
        rw [mem_singleton.mp isOther] at same
        have counted := numbered.passed _ id membership
        rw [same] at counted
        omega
      · exact numbered.once session
    · intro session id membership
      change id ∈ ((repo.eventsBySession.insert sessionId _).get session).getD [] at membership
      change id.toNat ≤ (repo.nextId + 1).toNat
      rw [get_insert] at membership
      split at membership
      · rw [Option.getD_some] at membership
        rcases mem_append.mp membership with earlier | isLast
        · have counted := numbered.passed _ id earlier
          omega
        · rw [mem_singleton.mp isLast]
      · have counted := numbered.passed _ id membership
        omega
  | clock | list | pass | ended | refused => exact numbered

end Performed

/-! ## The outline of a worker -/

/-- What an access may be, after these accesses. -/
def Legal (past : List TriggerAccess) (repo : InMemory) : TriggerAccess → Prop
  | .list sessionId pending => past = [] ∧ pending = pendingIn sessionId repo
  | .pass event =>
    event ∈ listedBy past ∧ isTriggerTopic event.topic = true ∧ event.id ∉ handedBy past
  | .setStatus id status =>
    (∃ event ∈ listedBy past, event.id = id) ∧ id ∈ handedBy past ∧ Settles status
  | _ => True

/-- A worker accesses as it may, whatever others do. -/
def triggering : Outline TriggerWorld TriggerAccess where
  rely _ _ _ := True
  during _ _ := True
  allowed _ _ world := Numbered world.repo
  guarantee past access before after := Legal past before.repo access ∧
    after.repo = access.perform before.repo ∧ after.passed = before.passed ++ access.handed

/-- The events that the worker has yet to come to. -/
structure Waiting (events : List ScheduleEvent) (past : List TriggerAccess) : Prop where
  listed : ∀ event ∈ events, event ∈ listedBy past
  once : (events.map (·.id)).Nodup
  unhanded : ∀ event ∈ events, event.id ∉ handedBy past

structure Passed (event : ScheduleEvent) (rest : List ScheduleEvent) (past : List TriggerAccess) :
    Prop where
  waiting : Waiting rest past
  listed : event ∈ listedBy past
  handed : event.id ∈ handedBy past

/-- What holds of the accesses when a computation answers. -/
def Then {α : Type} (holds : List TriggerAccess → Prop) (past : List TriggerAccess)
    (answer : Except String α) (_world : TriggerWorld) : Prop :=
  ∀ value, answer = .ok value → holds past

/-- An access that neither lists events nor passes one on. -/
def Quiet (access : TriggerAccess) : Prop := access.listed = [] ∧ access.handed = []

section Waits

variable {event : ScheduleEvent} {events rest : List ScheduleEvent} {past : List TriggerAccess}
variable {access : TriggerAccess}

theorem Waiting.quiet (waiting : Waiting events past) (isQuiet : Quiet access) :
    Waiting events (past ++ [access]) where
  listed := by
    rw [listedBy_append, isQuiet.1, append_nil]
    exact waiting.listed
  once := waiting.once
  unhanded := by
    rw [handedBy_append, isQuiet.2, map_nil, append_nil]
    exact waiting.unhanded

theorem Waiting.tail (waiting : Waiting (event :: rest) past) : Waiting rest past where
  listed := fun other membership => waiting.listed other (mem_cons_of_mem _ membership)
  once := (nodup_cons.mp waiting.once).2
  unhanded := fun other membership => waiting.unhanded other (mem_cons_of_mem _ membership)

theorem Waiting.pass (waiting : Waiting (event :: rest) past) :
    Passed event rest (past ++ [.pass event]) where
  waiting := {
    listed := by
      rw [listedBy_append]
      exact fun other membership => mem_append_left _ (waiting.tail.listed other membership)
    once := waiting.tail.once
    unhanded := by
      intro other membership handed
      rw [handedBy_append] at handed
      rcases mem_append.mp handed with earlier | same
      · exact waiting.tail.unhanded other membership earlier
      · apply (nodup_cons.mp waiting.once).1
        rw [← mem_singleton.mp same]
        exact mem_map_of_mem membership }
  listed := by
    rw [listedBy_append]
    exact mem_append_left _ (waiting.listed event mem_cons_self)
  handed := by
    rw [handedBy_append]
    exact mem_append_right _ (mem_singleton.mpr rfl)

theorem Passed.quiet (isPassed : Passed event rest past) (isQuiet : Quiet access) :
    Passed event rest (past ++ [access]) where
  waiting := isPassed.waiting.quiet isQuiet
  listed := by
    rw [listedBy_append, isQuiet.1, append_nil]
    exact isPassed.listed
  handed := by
    rw [handedBy_append, isQuiet.2, map_nil, append_nil]
    exact isPassed.handed

end Waits

section Outlines

-- Elaboration would otherwise run the workers up to the comparison of topics.
attribute [local irreducible] classifyTriggerKind isTriggerTopic isSyncTopic isRefreshTopic

variable {Value : Type} {form : PayloadForm Value} {α : Type}
variable {event : ScheduleEvent} {rest : List ScheduleEvent} {past : List TriggerAccess}
variable {world : TriggerWorld} {holds : List TriggerAccess → Prop}

theorem conforms_onBackend {name : TriggerWorld → TriggerAccess} {action : Effect InMemory α}
    (legal : ∀ world, Numbered world.repo → Legal past world.repo (name world))
    (performs : ∀ world, (action world.repo).2 = (name world).perform world.repo)
    (keeps : ∀ world, (name world).handed = [])
    (answered : ∀ world, Numbered world.repo → holds (past ++ [name world])) :
    triggering.Conforms (Then holds) past (onBackend name action) world := by
  apply of_call
  intro later _
  refine ⟨trivial, fun numbered => ?_⟩
  cases refused : later.moment.refusal with
  | some error => exact ⟨⟨trivial, rfl, (append_nil _).symm⟩, nofun⟩
  | none =>
    refine ⟨⟨legal later numbered, performs later, ?_⟩, fun _ _ => answered later numbered⟩
    rw [keeps, append_nil]

theorem conforms_currentTimeMs (holding : holds past)
    (quiet : ∀ access, Quiet access → holds past → holds (past ++ [access])) :
    triggering.Conforms (Then holds) past currentTimeMs world := by
  apply of_call
  intro later _
  exact ⟨trivial, fun _ => ⟨⟨trivial, rfl, (append_nil _).symm⟩,
    fun _ _ => quiet _ ⟨rfl, rfl⟩ holding⟩⟩

theorem conforms_bind {β : Type} {between : List TriggerAccess → Prop}
    {next : α → TriggerCall β} {part : TriggerCall α}
    (first : triggering.Conforms (Then between) past part world)
    (second : ∀ past value world, between past →
      triggering.Conforms (Then holds) past (next value) world) :
    triggering.Conforms (Then holds) past (part >>= next) world := by
  apply bind first
  · intro past value world held
    exact second past value world (held value rfl)
  · intro past message world _ value same
    cases same

theorem conforms_return {value : α} (holding : holds past) :
    triggering.Conforms (Then holds) past (pure value : TriggerCall α) world :=
  fun _ _ => holding

section
variable (waiting : Waiting (event :: rest) past) (isTrigger : isTriggerTopic event.topic = true)
include waiting isTrigger

theorem conforms_passTo :
    triggering.Conforms (Then (Passed event rest)) past (passTo event) world := by
  refine conforms_bind (?_ : triggering.Conforms (Then (Passed event rest)) past _ world) ?_
  · apply of_call
    intro later _
    refine ⟨trivial, fun _ => ⟨⟨⟨?_, isTrigger, ?_⟩, rfl, rfl⟩, fun _ _ => waiting.pass⟩⟩
    · exact waiting.listed event mem_cons_self
    · exact waiting.unhanded event mem_cons_self
  · intro past _ world isPassed
    apply of_call
    intro later _
    exact ⟨trivial, fun _ => ⟨⟨trivial, rfl, (append_nil _).symm⟩,
      fun _ _ => isPassed.quiet ⟨rfl, rfl⟩⟩⟩

theorem conforms_fire :
    triggering.Conforms (Then (Passed event rest)) past (fire event) world := by
  rw [fire]
  split
  · exact conforms_passTo waiting isTrigger
  split
  · exact conforms_passTo waiting isTrigger
  · exact conforms_passTo waiting isTrigger

end

theorem conforms_updateScheduleStatus {status : String} (settles : Settles status)
    (isPassed : Passed event rest past) :
    triggering.Conforms (Then (Waiting rest)) past (updateScheduleStatus event.id status)
      world := by
  apply conforms_onBackend
  · exact fun _ _ => ⟨⟨event, isPassed.listed, rfl⟩, isPassed.handed, settles⟩
  · exact fun _ => rfl
  · exact fun _ => rfl
  · exact fun _ _ => isPassed.waiting.quiet ⟨rfl, rfl⟩

theorem conforms_settleStatus (succeeds : Bool) (isPassed : Passed event rest past) :
    triggering.Conforms (Then (Waiting rest)) past (settleStatus event succeeds) world := by
  cases succeeds with
  | true =>
    exact conforms_bind (conforms_updateScheduleStatus (Or.inl rfl) isPassed)
      fun _ _ _ waiting => conforms_return waiting
  | false =>
    exact conforms_bind (conforms_updateScheduleStatus (Or.inr rfl) isPassed)
      fun _ _ _ waiting => conforms_return waiting

theorem conforms_shouldFireEvent (waiting : Waiting (event :: rest) past) :
    triggering.Conforms (Then (Waiting (event :: rest))) past (shouldFireEvent form event)
      world := by
  rw [shouldFireEvent]
  split
  · apply conforms_bind
    · exact conforms_currentTimeMs waiting fun _ isQuiet waiting => waiting.quiet isQuiet
    · exact fun _ _ _ waiting => conforms_return waiting
  · exact conforms_return waiting

theorem conforms_scheduleNextEvent (nextFireAtMs : UInt64) (waiting : Waiting rest past) :
    triggering.Conforms (Then (Waiting rest)) past (scheduleNextEvent form event nextFireAtMs)
      world := by
  refine conforms_bind (?_ : triggering.Conforms (Then (Waiting rest)) past _ world) ?_
  · apply conforms_onBackend
    · exact fun _ _ => trivial
    · exact fun _ => rfl
    · exact fun _ => rfl
    · exact fun _ _ => waiting.quiet ⟨rfl, rfl⟩
  · exact fun _ _ _ waiting => conforms_return waiting

theorem conforms_executeRecurringEvent (ready : Bool) (intervalSecs : UInt64)
    (waiting : Waiting (event :: rest) past) (isTrigger : isTriggerTopic event.topic = true) :
    triggering.Conforms (Then (Waiting rest)) past
      (executeRecurringEvent form ready intervalSecs event) world := by
  apply conforms_bind (conforms_shouldFireEvent waiting)
  intro past fires world waiting
  split
  · exact conforms_return waiting.tail
  split
  · exact conforms_return waiting.tail
  apply conforms_bind (conforms_passTo waiting isTrigger)
  intro past succeeds world isPassed
  apply conforms_bind (conforms_settleStatus succeeds isPassed)
  intro past outcome world waiting
  split
  · apply conforms_bind
    · exact conforms_currentTimeMs waiting fun _ isQuiet waiting => waiting.quiet isQuiet
    · intro past now world waiting
      exact conforms_bind (conforms_scheduleNextEvent _ waiting)
        fun _ _ _ waiting => conforms_return waiting
  · exact conforms_return waiting

theorem conforms_executeSingleFireEvent (waiting : Waiting (event :: rest) past)
    (isTrigger : isTriggerTopic event.topic = true) :
    triggering.Conforms (Then (Waiting rest)) past (executeSingleFireEvent form event)
      world := by
  unfold executeSingleFireEvent
  apply conforms_bind (conforms_shouldFireEvent waiting)
  intro past fires world waiting
  split
  · exact conforms_return waiting.tail
  · have fired : triggering.Conforms (Then (Passed event rest)) past (fire event) world :=
      conforms_fire waiting isTrigger
    apply conforms_bind fired
    intro past succeeds world isPassed
    exact conforms_settleStatus succeeds isPassed

theorem conforms_dispatch (kind : TriggerRouteKind)
    (waiting : Waiting (event :: rest) past) (isTrigger : isTriggerTopic event.topic = true) :
    triggering.Conforms (Then (Waiting rest)) past (dispatch form kind event) world := by
  have single : triggering.Conforms (Then (Waiting rest)) past
      (executeSingleFireEvent form event) world :=
    conforms_executeSingleFireEvent waiting isTrigger
  have recurring : ∀ ready intervalSecs, triggering.Conforms (Then (Waiting rest)) past
      (executeRecurringEvent form ready intervalSecs event) world :=
    fun ready intervalSecs =>
      conforms_executeRecurringEvent ready intervalSecs waiting isTrigger
  unfold dispatch
  split
  · exact recurring _ _
  · exact recurring _ _
  · exact recurring _ _
  · exact single
  · exact single
  · exact single
  · exact single
  · exact single

theorem conforms_dispatchAll {events : List ScheduleEvent} (report : TriggerWorkerReport)
    (waiting : Waiting events past) :
    triggering.Conforms (Then fun _ => True) past (dispatchAll form events report) world := by
  induction events generalizing report past world with
  | nil => exact conforms_return trivial
  | cons event rest ih =>
    rw [dispatchAll]
    split
    · exact ih _ waiting.tail
    · next isTrigger =>
      apply conforms_bind (conforms_dispatch _ waiting (not_not.mp isTrigger))
      exact fun _ _ _ waiting => ih _ waiting

theorem conforms_listPending (sessionId : String) :
    triggering.Conforms (fun past answer _ => ∀ events, answer = .ok events → Waiting events past)
      [] (listPending sessionId) world := by
  intro later _
  refine ⟨trivial, fun numbered => ?_⟩
  cases refused : later.moment.refusal with
  | some error =>
    simp only [refused]
    exact ⟨⟨trivial, rfl, (append_nil _).symm⟩, nofun⟩
  | none =>
    simp only [refused]
    refine ⟨⟨⟨rfl, rfl⟩, rfl, (append_nil _).symm⟩, ?_⟩
    intro events answered
    cases answered
    constructor
    · intro event membership
      rw [nil_append, listedBy, flatMap_singleton]
      exact membership
    · exact nodup_pendingIn numbered
    · exact fun _ _ => not_mem_nil

theorem conforms_runWorkerOnce (sessionId : String) :
    triggering.Conforms (Then fun _ => True) [] (runWorkerOnce form sessionId) world := by
  apply bind (conforms_listPending sessionId)
  · intro past events world waiting
    exact conforms_dispatchAll _ (waiting events rfl)
  · exact fun _ _ _ _ => nofun

theorem conforms_ingestWebhookEvent (sessionId topic : String) (payload : Option String)
    (actorId : String) :
    triggering.Conforms (Then fun _ => True) []
      (ingestWebhookEvent form sessionId topic payload actorId) world := by
  apply conforms_onBackend
  · exact fun _ _ => trivial
  · exact fun _ => rfl
  · exact fun _ => rfl
  · exact fun _ _ => trivial

end Outlines

end AutoLoop.Runtime
