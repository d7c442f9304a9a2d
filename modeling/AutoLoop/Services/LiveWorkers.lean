import AutoLoop.Services.BackgroundTasks

/-!
# One live worker per task

As long as starts of one task do not overlap, a stop does not settle before the worker has
ended, tasks have keys of their own and nobody looks up a task while its log is written, a
task has one worker, found under its key, and tasks do not touch each other.
-/

namespace AutoLoop.Services

open Table TaskHandle

/-- The record of a worker that goes on says that it runs or is being stopped. -/
def TaskHandle.Truthful (handle : TaskHandle) : Prop :=
  handle.worker = .ended ∨ handle.worker = .logging .stopObserved ∨
    handle.worker = .logging .completed ∨ handle.record.status = .running ∨
    handle.record.status = .stopping

theorem TaskHandle.name_work (handle : TaskHandle) (succeeds : Bool) :
    (handle.work succeeds).record.name = handle.record.name := by
  unfold work
  split
  · rfl
  · rfl
  · next outcome isWorker => cases outcome <;> rfl
  · split
    · rfl
    · rfl
  · rfl
  · rfl

theorem TaskHandle.truthful_work {handle : TaskHandle} (truthful : handle.Truthful)
    (succeeds : Bool) : (handle.work succeeds).Truthful := by
  cases isWorker : handle.worker with
  | looping =>
    simp only [Truthful, isWorker, reduceCtorEq, false_or] at truthful
    simp only [Truthful, work, isWorker, truthful, or_true]
  | executing =>
    simp only [Truthful, isWorker, reduceCtorEq, false_or] at truthful
    simp only [Truthful, work, isWorker, truthful, or_true]
  | returned outcome =>
    simp only [Truthful, isWorker, reduceCtorEq, false_or] at truthful
    cases outcome with
    | stopObserved => simp [Truthful, work, isWorker]
    | completed => simp [Truthful, work, isWorker]
    | failed => simp only [Truthful, work, isWorker, recorded, truthful, or_true]
  | logging outcome =>
    cases outcome with
    | stopObserved => simp [Truthful, work, isWorker]
    | completed => simp [Truthful, work, isWorker]
    | failed =>
      simp only [Truthful, isWorker, reduceCtorEq, false_or, WorkerPhase.logging.injEq]
        at truthful
      simp only [Truthful, work, isWorker]
      split
      · exact Or.inl rfl
      · exact Or.inr (Or.inr (Or.inr truthful))
  | ended => simp [Truthful, work, isWorker]

namespace TaskWorld

variable {world : TaskWorld}

/-! ## What is expected -/

section
variable (world : TaskWorld) (index : Nat) (name : TaskName)

/-- A worker executes a command for a task. -/
def Executes : Prop :=
  ∃ handle, world.handles.get index = some handle ∧ handle.worker = .executing ∧
    handle.record.name = name

/-- A handle is that of a task. -/
def IsOf : Prop :=
  ∃ handle, world.handles.get index = some handle ∧ handle.record.name = name

end

def WaitsForTable (world : TaskWorld) (caller : Caller) : Prop :=
  caller.point.isInserting = true ∨ caller.point = .entering ∧ world.insertWaits = true

structure KeepsApart (world : TaskWorld) : Prop where
  oneCommand : ∀ first second name, world.Executes first name → world.Executes second name →
    first = second
  reachable : ∀ index handle, world.handles.get index = some handle → handle.worker ≠ .ended →
    world.tasks.get handle.record.name.taskKey = some index
  own : ∀ index caller found, world.callers.get index = some caller → caller.point ≠ .ended →
    world.tasks.get caller.name.taskKey = some found ∨ caller.point.handle = some found →
      world.IsOf found caller.name
  unblocked : ∀ index caller other holder, world.callers.get index = some caller →
    world.callers.get other = some holder → world.WaitsForTable caller →
      holder.point.isReading = true → holder.name = caller.name

/-! ## The condition -/

section
variable (world : TaskWorld) (index : Nat) (caller : Caller)

/-- No other start of a key stands between its check and its insertion. -/
def Alone : Prop :=
  ∀ other holder, world.callers.get other = some holder → other ≠ index →
    holder.name.taskKey = caller.name.taskKey →
      holder.point ≠ .announcing ∧ holder.point.isInserting = false

/-- The condition on a caller that goes on: a start is alone with its key, a lookup finds
its record free, and a stop settles a task whose worker has ended. -/
def OrderlyCaller : Prop :=
  (caller.point = .entering → caller.operation ≠ .stop → world.Alone index caller ∧
        ∀ found handle, world.handles.get found = some handle →
          world.tasks.get caller.name.taskKey = some found → handle.worker.isLogging = false) ∧
    ∀ found handle, world.handles.get found = some handle → caller.point = .settling found →
      handle.record.status = .stopping → handle.worker = .ended

end

/-- The condition on a step: further, a call is for a task whose key no other task has. -/
def Orderly (world : TaskWorld) : TaskEvent → Prop
  | .call name _ => ∀ index caller, world.callers.get index = some caller →
      caller.name.taskKey = name.taskKey → caller.name = name
  | .caller index => ∀ caller, world.callers.get index = some caller →
      world.OrderlyCaller index caller
  | .timeout _ => True
  | .worker _ _ => True

section Decidable

variable {Key Value : Type} [LinearOrder Key]

local instance decidableForallRows (table : Table Key Value) (holds : Key → Value → Prop)
    [∀ key value, Decidable (holds key value)] :
    Decidable (∀ key value, table.get key = some value → holds key value) :=
  decidable_of_iff (∀ row ∈ table.rows, holds row.1 row.2)
    ⟨fun all key value isRow => all (key, value) (mem_rows_iff.mpr isRow),
      fun all row isRow => all row.1 row.2 (mem_rows_iff.mp isRow)⟩

local instance decidableForallFound (found : Option Value) (holds : Value → Prop)
    [∀ value, Decidable (holds value)] :
    Decidable (∀ value, found = some value → holds value) :=
  match found with
  | none => .isTrue (by simp)
  | some value => decidable_of_iff (holds value) (by simp)

instance decidableOrderlyCaller (world : TaskWorld) (index : Nat) (caller : Caller) :
    Decidable (world.OrderlyCaller index caller) := by
  unfold OrderlyCaller Alone
  infer_instance

instance decidableOrderly (world : TaskWorld) (event : TaskEvent) :
    Decidable (world.Orderly event) :=
  match event with
  | .call _ _ => inferInstanceAs (Decidable (∀ index caller, _ → _))
  | .caller _ => inferInstanceAs (Decidable (∀ caller, _ → _))
  | .timeout _ => .isTrue trivial
  | .worker _ _ => .isTrue trivial

end Decidable

/-! ## The invariant -/

structure Sound (world : TaskWorld) : Prop where
  callersBounded : ∀ index caller, world.callers.get index = some caller →
    index < world.nextCaller
  handlesBounded : ∀ index handle, world.handles.get index = some handle →
    index < world.nextHandle
  steady : ∀ index caller, world.callers.get index = some caller →
    caller.point.isReading = false ∧ caller.point.isInserting = false
  names : ∀ index caller other holder, world.callers.get index = some caller →
    world.callers.get other = some holder → caller.name.taskKey = holder.name.taskKey →
      caller.name = holder.name
  named : ∀ index handle, world.handles.get index = some handle →
    ∃ caller holder, world.callers.get caller = some holder ∧
      holder.name = handle.record.name
  listed : ∀ key index, world.tasks.get key = some index →
    ∃ handle, world.handles.get index = some handle ∧ handle.record.name.taskKey = key
  pointing : ∀ index caller found, world.callers.get index = some caller →
    caller.point.handle = some found → world.IsOf found caller.name
  working : ∀ index handle, world.handles.get index = some handle →
    handle.Truthful
  reachable : ∀ index handle, world.handles.get index = some handle → handle.worker ≠ .ended →
    world.tasks.get handle.record.name.taskKey = some index
  announced : ∀ index caller found handle, world.callers.get index = some caller →
    caller.point = .announcing → world.tasks.get caller.name.taskKey = some found →
      world.handles.get found = some handle → handle.worker = .ended
  single : ∀ index caller other holder, world.callers.get index = some caller →
    world.callers.get other = some holder → caller.point = .announcing →
      holder.point = .announcing → caller.name.taskKey = holder.name.taskKey → index = other

theorem sound_empty : Sound .empty := by
  constructor <;> simp [empty]

section
variable (sound : world.Sound)
include sound

theorem Sound.isOf {index found : Nat} {caller : Caller}
    (isCaller : world.callers.get index = some caller)
    (isFound : world.tasks.get caller.name.taskKey = some found) :
    world.IsOf found caller.name := by
  obtain ⟨handle, isHandle, sameKey⟩ := sound.listed _ _ isFound
  obtain ⟨other, holder, isHolder, sameName⟩ := sound.named found handle isHandle
  refine ⟨handle, isHandle, ?_⟩
  rw [← sameName] at sameKey ⊢
  exact sound.names other holder index caller isHolder isCaller sameKey

theorem Sound.keepsApart : world.KeepsApart where
  oneCommand first second name executes also := by
    obtain ⟨handle, isHandle, isExecuting, rfl⟩ := executes
    obtain ⟨other, isOther, alsoExecuting, sameName⟩ := also
    have firstFound := sound.reachable first handle isHandle (by simp [isExecuting])
    have secondFound := sound.reachable second other isOther (by simp [alsoExecuting])
    rw [sameName, firstFound] at secondFound
    exact Option.some.inj secondFound
  reachable := sound.reachable
  own index caller found isCaller _ either := by
    cases either with
    | inl isFound => exact sound.isOf isCaller isFound
    | inr points => exact sound.pointing index caller found isCaller points
  unblocked index caller other holder _ isHolder _ reads := by
    rw [(sound.steady other holder isHolder).1] at reads
    cases reads

/-! ## Nobody holds the table -/

theorem Sound.tableHeld_eq : world.tableHeld = false := by
  rw [tableHeld, List.any_eq_false]
  intro row isRow
  have steady := (sound.steady row.1 row.2 (mem_rows_iff.mp isRow)).1
  simp [steady]

/-! ## Steps of a caller -/

variable {index : Nat} {caller : Caller}

theorem Sound.withCaller {caller later : Caller}
    (isCaller : world.callers.get index = some caller) (sameName : later.name = caller.name)
    (steady : later.point.isReading = false ∧ later.point.isInserting = false)
    (pointing : ∀ found, later.point.handle = some found → world.IsOf found caller.name)
    (announced : later.point = .announcing →
      (∀ found handle, world.tasks.get caller.name.taskKey = some found →
        world.handles.get found = some handle → handle.worker = .ended) ∧
      ∀ other holder, world.callers.get other = some holder → other ≠ index →
        holder.name.taskKey = caller.name.taskKey → holder.point ≠ .announcing) :
    (world.withCaller index later).Sound where
  callersBounded other holder isHolder := by
    simp only [TaskWorld.withCaller, get_insert] at isHolder
    split at isHolder
    · next same => exact same ▸ sound.callersBounded index caller isCaller
    · exact sound.callersBounded other holder isHolder
  handlesBounded := sound.handlesBounded
  steady other holder isHolder := by
    simp only [TaskWorld.withCaller, get_insert] at isHolder
    split at isHolder
    · cases isHolder
      exact steady
    · exact sound.steady other holder isHolder
  names first caller' second holder isFirst isSecond := by
    simp only [TaskWorld.withCaller, get_insert] at isFirst isSecond
    split at isFirst
    · cases isFirst
      split at isSecond
      · cases isSecond
        exact fun _ => rfl
      · rw [sameName]
        exact sound.names index caller second holder isCaller isSecond
    · split at isSecond
      · cases isSecond
        rw [sameName]
        exact sound.names first caller' index caller isFirst isCaller
      · exact sound.names first caller' second holder isFirst isSecond
  named found handle isHandle := by
    obtain ⟨other, holder, isHolder, isName⟩ := sound.named found handle isHandle
    by_cases same : other = index
    · refine ⟨index, later, by simp [TaskWorld.withCaller], ?_⟩
      rw [same, isCaller] at isHolder
      cases isHolder
      exact sameName.trans isName
    · refine ⟨other, holder, ?_, isName⟩
      simp only [TaskWorld.withCaller]
      rw [get_insert_of_ne _ _ same]
      exact isHolder
  listed := sound.listed
  pointing other holder found isHolder points := by
    simp only [TaskWorld.withCaller, get_insert] at isHolder
    split at isHolder
    · cases isHolder
      rw [sameName]
      exact pointing found points
    · exact sound.pointing other holder found isHolder points
  working := sound.working
  reachable := sound.reachable
  announced other holder found handle isHolder isPoint := by
    simp only [TaskWorld.withCaller, get_insert] at isHolder
    split at isHolder
    · cases isHolder
      rw [sameName]
      exact (announced isPoint).1 found handle
    · exact sound.announced other holder found handle isHolder isPoint
  single first caller' second holder isFirst isSecond isPoint alsoPoint sameKey := by
    simp only [TaskWorld.withCaller, get_insert] at isFirst isSecond
    split at isFirst
    · next isIndex =>
      cases isFirst
      split at isSecond
      · next alsoIndex => exact isIndex.trans alsoIndex.symm
      · next different =>
        rw [sameName] at sameKey
        exact absurd alsoPoint ((announced isPoint).2 second holder isSecond different sameKey.symm)
    · next different =>
      split at isSecond
      · cases isSecond
        rw [sameName] at sameKey
        exact absurd isPoint ((announced alsoPoint).2 first caller' isFirst different sameKey)
      · exact sound.single first caller' second holder isFirst isSecond isPoint alsoPoint
          sameKey

theorem Sound.move (isCaller : world.callers.get index = some caller) {point : CallerPoint}
    (steady : point.isReading = false ∧ point.isInserting = false) (waits : point ≠ .announcing)
    (pointing : ∀ found, point.handle = some found → world.IsOf found caller.name) :
    (world.move index caller point).Sound :=
  sound.withCaller isCaller rfl steady pointing (fun isPoint => absurd isPoint waits)

theorem Sound.finish
    (isCaller : world.callers.get index = some caller) : (world.finish index caller).Sound := by
  refine sound.move isCaller ?_ ?_ ?_
  · cases caller.next <;> exact ⟨rfl, rfl⟩
  · cases caller.next <;> simp
  · cases caller.next <;> simp [CallerPoint.handle]

/-! ## Changes of a handle -/

theorem Sound.withHandle {found : Nat} {handle later : TaskHandle}
    (isHandle : world.handles.get found = some handle)
    (sameName : later.record.name = handle.record.name)
    (ends : handle.worker = .ended → later.worker = .ended) (working : later.Truthful) :
    (world.withHandle found later).Sound where
  callersBounded := sound.callersBounded
  handlesBounded index other isOther := by
    simp only [TaskWorld.withHandle, get_insert] at isOther
    split at isOther
    · next same => exact same ▸ sound.handlesBounded found handle isHandle
    · exact sound.handlesBounded index other isOther
  steady := sound.steady
  names := sound.names
  named index other isOther := by
    simp only [TaskWorld.withHandle, get_insert] at isOther
    split at isOther
    · cases isOther
      rw [sameName]
      exact sound.named found handle isHandle
    · exact sound.named index other isOther
  listed key index isListed := by
    obtain ⟨other, isOther, isKey⟩ := sound.listed key index isListed
    simp only [TaskWorld.withHandle, get_insert]
    split
    · next same =>
      rw [same, isHandle] at isOther
      cases isOther
      exact ⟨later, rfl, by rw [sameName, isKey]⟩
    · exact ⟨other, isOther, isKey⟩
  pointing index caller other isCaller points := by
    obtain ⟨held, isHeld, isName⟩ := sound.pointing index caller other isCaller points
    simp only [IsOf, TaskWorld.withHandle, get_insert]
    split
    · next same =>
      rw [same, isHandle] at isHeld
      cases isHeld
      exact ⟨later, rfl, sameName.trans isName⟩
    · exact ⟨held, isHeld, isName⟩
  working index other isOther := by
    simp only [TaskWorld.withHandle, get_insert] at isOther
    split at isOther
    · cases isOther
      exact working
    · exact sound.working index other isOther
  reachable index other isOther lives := by
    simp only [TaskWorld.withHandle, get_insert] at isOther
    split at isOther
    · next same =>
      cases isOther
      rw [sameName, same]
      exact sound.reachable found handle isHandle (fun ended => lives (ends ended))
    · exact sound.reachable index other isOther lives
  announced index caller other held isCaller isPoint isListed isHeld := by
    simp only [TaskWorld.withHandle, get_insert] at isHeld
    split at isHeld
    · next same =>
      cases isHeld
      exact ends (sound.announced index caller other handle isCaller isPoint isListed
        (same ▸ isHandle))
    · exact sound.announced index caller other held isCaller isPoint isListed isHeld
  single := sound.single

/-- A worker goes on. -/
theorem Sound.work {found : Nat} {handle : TaskHandle}
    (isHandle : world.handles.get found = some handle) (succeeds : Bool) :
    (world.withHandle found (handle.work succeeds)).Sound := by
  refine sound.withHandle isHandle (handle.name_work succeeds) ?_
    (truthful_work (sound.working found handle isHandle) succeeds)
  intro ended
  rw [TaskHandle.work, ended]
  exact ended

section
variable {index found : Nat} {caller : Caller} {handle : TaskHandle}
  (isCaller : world.callers.get index = some caller)
include isCaller

theorem Sound.withHandle_move
    (isHandle : world.handles.get found = some handle) (isOf : world.IsOf found caller.name)
    (later : TaskHandle) (sameName : later.record.name = handle.record.name)
    (ends : handle.worker = .ended → later.worker = .ended) (working : later.Truthful)
    (point : CallerPoint) (steady : point.isReading = false ∧ point.isInserting = false)
    (waits : point ≠ .announcing) (points : point.handle = some found) :
    ((world.withHandle found later).move index caller point).Sound := by
  refine (sound.withHandle isHandle sameName ends working).move isCaller steady waits ?_
  intro other isOther
  rw [points] at isOther
  cases isOther
  obtain ⟨held, isHeld, isName⟩ := isOf
  rw [isHandle] at isHeld
  cases isHeld
  exact ⟨later, by simp [TaskWorld.withHandle], sameName.trans isName⟩

/-! ## Steps -/

theorem Sound.afterLookup (isFound : world.tasks.get caller.name.taskKey = some found)
    (isHandle : world.handles.get found = some handle)
    (free : handle.worker.isLogging = false) (alone : world.Alone index caller) :
    (world.afterLookup index caller handle).Sound := by
  unfold TaskWorld.afterLookup
  split
  · split
    · exact sound.finish isCaller
    · next settled =>
      refine sound.withCaller isCaller rfl ⟨rfl, rfl⟩ (by simp [CallerPoint.handle]) ?_
      intro _
      constructor
      · intro other held isOther isHeld
        rw [isFound] at isOther
        cases isOther
        rw [isHandle] at isHeld
        cases isHeld
        have truthful := sound.working found handle isHandle
        rw [not_or] at settled
        cases isWorker : handle.worker with
        | ended => rfl
        | logging outcome => simp [isWorker, WorkerPhase.isLogging] at free
        | looping => simp [TaskHandle.Truthful, isWorker, settled] at truthful
        | executing => simp [TaskHandle.Truthful, isWorker, settled] at truthful
        | returned outcome => simp [TaskHandle.Truthful, isWorker, settled] at truthful
      · intro other holder isHolder different sameKey
        exact (alone other holder isHolder different sameKey).1
  · exact sound.withCaller isCaller rfl ⟨rfl, rfl⟩ (by simp [CallerPoint.handle])
      (fun isPoint => by cases isPoint)
  · exact sound

end

section
variable (isCaller : world.callers.get index = some caller)
include isCaller

theorem Sound.enter (isPoint : caller.point = .entering)
    (orderly : world.OrderlyCaller index caller) : (world.enter index caller).Sound := by
  have condition := orderly.1 isPoint
  unfold TaskWorld.enter
  split
  · next isOperation isFound =>
    refine sound.withCaller isCaller rfl ⟨rfl, rfl⟩ (by simp [CallerPoint.handle]) ?_
    intro _
    constructor
    · intro other held isOther
      rw [isFound] at isOther
      cases isOther
    · intro other holder isHolder different sameKey
      exact ((condition (by simp [isOperation])).1 other holder isHolder different sameKey).1
  · exact sound.finish isCaller
  · exact sound.finish isCaller
  · next found isOperation isFound =>
    split
    · next handle isHandle =>
      exact sound.withHandle_move isCaller isHandle (sound.isOf isCaller isFound)
        { handle with stopSent := true } rfl id (sound.working found handle isHandle)
        (.marking found) ⟨rfl, rfl⟩ (by simp) rfl
    · exact sound
  · next found isFound notStop =>
    split
    · next handle isHandle =>
      obtain ⟨alone, free⟩ := condition (fun isStop => notStop isStop)
      have isFree := free found handle isHandle isFound
      rw [if_neg (by simp [isFree])]
      exact sound.afterLookup isCaller isFound isHandle isFree alone
    · exact sound

theorem Sound.publish (vacant : ∀ found handle, world.tasks.get caller.name.taskKey = some found →
      world.handles.get found = some handle → handle.worker = .ended)
    (nobody : ∀ other holder, world.callers.get other = some holder →
      holder.point = .announcing → holder.name.taskKey ≠ caller.name.taskKey)
    {handle : TaskHandle} (isName : handle.record.name = caller.name)
    (truthful : handle.Truthful) :
    Sound { world with
      handles := world.handles.insert world.nextHandle handle
      nextHandle := world.nextHandle + 1
      tasks := world.tasks.insert caller.name.taskKey world.nextHandle } where
  callersBounded := sound.callersBounded
  handlesBounded other held isHeld := by
    simp only [get_insert] at isHeld
    split at isHeld
    · next same => exact same ▸ Nat.lt_succ_self _
    · exact Nat.lt_succ_of_lt (sound.handlesBounded other held isHeld)
  steady := sound.steady
  names := sound.names
  named other held isHeld := by
    simp only [get_insert] at isHeld
    split at isHeld
    · cases isHeld
      exact ⟨index, caller, isCaller, isName.symm⟩
    · exact sound.named other held isHeld
  listed key other isListed := by
    simp only [get_insert] at isListed ⊢
    split at isListed
    · next isKey =>
      cases isListed
      rw [if_pos rfl]
      exact ⟨handle, rfl, by rw [isName, isKey]⟩
    · obtain ⟨held, isHeld, sameKey⟩ := sound.listed key other isListed
      rw [if_neg (Nat.ne_of_lt (sound.handlesBounded other held isHeld))]
      exact ⟨held, isHeld, sameKey⟩
  pointing other holder found isHolder points := by
    obtain ⟨held, isHeld, sameName⟩ := sound.pointing other holder found isHolder points
    refine ⟨held, ?_, sameName⟩
    rw [get_insert_of_ne _ _ (Nat.ne_of_lt (sound.handlesBounded found held isHeld))]
    exact isHeld
  working other held isHeld := by
    simp only [get_insert] at isHeld
    split at isHeld
    · cases isHeld
      exact truthful
    · exact sound.working other held isHeld
  reachable other held isHeld lives := by
    simp only [get_insert] at isHeld ⊢
    split at isHeld
    · next same =>
      cases isHeld
      rw [isName, if_pos rfl, same]
    · have isListed := sound.reachable other held isHeld lives
      rw [if_neg]
      · exact isListed
      · intro sameKey
        rw [sameKey] at isListed
        exact lives (vacant other held isListed isHeld)
  announced other holder found held isHolder isPoint isListed isHeld := by
    simp only [get_insert] at isListed isHeld
    rw [if_neg (nobody other holder isHolder isPoint)] at isListed
    obtain ⟨listed, isThere, -⟩ := sound.listed _ _ isListed
    rw [if_neg (Nat.ne_of_lt (sound.handlesBounded found listed isThere))] at isHeld
    exact sound.announced other holder found held isHolder isPoint isListed isHeld
  single := sound.single

theorem Sound.spawn (isPoint : caller.point = .announcing)
    (kind : BackgroundTaskKind) (spec : String) (maxRestarts : Nat) :
    (world.spawn index caller kind spec maxRestarts).Sound := by
  -- The caller leaves first, so that nobody announces the task when the handle is listed.
  have left : (world.move index caller .ended).Sound :=
    sound.move isCaller ⟨rfl, rfl⟩ (by simp) (by simp [CallerPoint.handle])
  have isLeft : (world.move index caller .ended).callers.get index =
      some { caller with point := .ended } := by
    simp [TaskWorld.move, TaskWorld.withCaller]
  have nobody : ∀ other holder, (world.move index caller .ended).callers.get other = some holder →
      holder.point = .announcing → holder.name.taskKey ≠ caller.name.taskKey := by
    intro other holder isHolder announces sameKey
    simp only [TaskWorld.move, TaskWorld.withCaller, get_insert] at isHolder
    split at isHolder
    · cases isHolder
      cases announces
    · next different =>
      exact different (sound.single other holder index caller isHolder isCaller announces
        isPoint sameKey)
  have published := @Sound.publish (world.move index caller .ended) left index
    { caller with point := .ended } isLeft
    (fun found handle => sound.announced index caller found handle isCaller isPoint) nobody
    (spawned caller.name kind spec maxRestarts) rfl
    (by simp [TaskHandle.Truthful, spawned])
  have inserted := @Sound.withCaller _ published index { caller with point := .ended }
    { caller with point := .answering world.nextHandle } isLeft rfl ⟨rfl, rfl⟩
    (by
      intro found isFound
      cases isFound
      exact ⟨_, get_insert_self _ _ _, rfl⟩)
    (fun announces => by cases announces)
  have twice : (world.callers.insert index { caller with point := .ended }).insert index
      { caller with point := .answering world.nextHandle } =
        world.callers.insert index { caller with point := .answering world.nextHandle } := by
    apply ext_get
    intro other
    simp only [get_insert]
    split
    · rfl
    · rfl
  unfold TaskWorld.spawn
  rw [sound.tableHeld_eq, if_neg Bool.false_ne_true]
  simp only [TaskWorld.withCaller, TaskWorld.move, twice] at inserted ⊢
  exact inserted

theorem Sound.advance
    (orderly : world.OrderlyCaller index caller) : (world.advance index caller).Sound := by
  have pointing := sound.pointing index caller
  unfold TaskWorld.advance
  cases isPoint : caller.point with
  | entering =>
    simp only
    split
    · exact sound
    · exact sound.enter isCaller isPoint orderly
  | reading found =>
    have steady := (sound.steady index caller isCaller).1
    rw [isPoint] at steady
    cases steady
  | announcing =>
    simp only
    split
    · exact sound.spawn isCaller isPoint _ _ _
    · exact sound
  | inserting found =>
    have steady := (sound.steady index caller isCaller).2
    rw [isPoint] at steady
    cases steady
  | marking found =>
    have isOf := pointing found isCaller (by rw [isPoint]; rfl)
    simp only
    split
    · next handle isHandle =>
      split
      · exact sound
      · refine sound.withHandle_move isCaller isHandle isOf (handle.withStatus .stopping) rfl
          id ?_ (.taking found) ⟨rfl, rfl⟩ (by simp) rfl
        simp [TaskHandle.Truthful, withStatus]
    · exact sound
  | taking found =>
    have isOf := pointing found isCaller (by rw [isPoint]; rfl)
    simp only
    split
    · next handle isHandle =>
      split
      · exact sound
      · split
        · exact sound.move isCaller ⟨rfl, rfl⟩ (by simp)
            (fun other isOther => by cases isOther; exact isOf)
        · exact sound.withHandle_move isCaller isHandle isOf
            { handle with joinTaken := true } rfl id
            (sound.working found handle isHandle) (.waiting found) ⟨rfl, rfl⟩ (by simp) rfl
    · exact sound
  | waiting found =>
    have isOf := pointing found isCaller (by rw [isPoint]; rfl)
    simp only
    split
    · split
      · exact sound.move isCaller ⟨rfl, rfl⟩ (by simp)
          (fun other isOther => by cases isOther; exact isOf)
      · exact sound
    · exact sound
  | settling found =>
    have isOf := pointing found isCaller (by rw [isPoint]; rfl)
    simp only
    split
    · next handle isHandle =>
      split
      · exact sound
      · split
        · next stops =>
          have ended := orderly.2 found handle isHandle isPoint stops
          exact sound.withHandle_move isCaller isHandle isOf
            (handle.withStatus .stopped) rfl id (Or.inl ended) (.answering found) ⟨rfl, rfl⟩ (by simp) rfl
        · exact sound.move isCaller ⟨rfl, rfl⟩ (by simp)
            (fun other isOther => by cases isOther; exact isOf)
    · exact sound
  | answering found =>
    simp only
    split
    · split
      · exact sound
      · exact sound.finish isCaller
    · exact sound
  | sleeping =>
    simp only
    split
    · split
      · exact sound.move isCaller ⟨rfl, rfl⟩ (by simp) (by simp [CallerPoint.handle])
      · exact sound.withCaller isCaller rfl ⟨rfl, rfl⟩ (by simp [CallerPoint.handle])
          (fun announces => by cases announces)
    · exact sound
  | ended => exact sound

end

theorem Sound.admitCall {name : TaskName}
    (own : ∀ index caller, world.callers.get index = some caller →
      caller.name.taskKey = name.taskKey → caller.name = name) (operation : TaskOperation) :
    (world.admitCall name operation).Sound where
  callersBounded index caller isCaller := by
    simp only [TaskWorld.admitCall, TaskWorld.withCaller, get_insert] at isCaller ⊢
    split at isCaller
    · next same => exact same ▸ Nat.lt_succ_self _
    · exact Nat.lt_succ_of_lt (sound.callersBounded index caller isCaller)
  handlesBounded := sound.handlesBounded
  steady index caller isCaller := by
    simp only [TaskWorld.admitCall, TaskWorld.withCaller, get_insert] at isCaller
    split at isCaller
    · cases isCaller
      exact ⟨rfl, rfl⟩
    · exact sound.steady index caller isCaller
  names index caller other holder isCaller isHolder sameKey := by
    simp only [TaskWorld.admitCall, TaskWorld.withCaller, get_insert] at isCaller isHolder
    split at isCaller
    · cases isCaller
      split at isHolder
      · cases isHolder
        rfl
      · exact (own other holder isHolder sameKey.symm).symm
    · split at isHolder
      · cases isHolder
        exact own index caller isCaller sameKey
      · exact sound.names index caller other holder isCaller isHolder sameKey
  named found handle isHandle := by
    obtain ⟨other, holder, isHolder, isName⟩ := sound.named found handle isHandle
    refine ⟨other, holder, ?_, isName⟩
    simp only [TaskWorld.admitCall, TaskWorld.withCaller]
    rw [get_insert_of_ne _ _ (Nat.ne_of_lt (sound.callersBounded other holder isHolder))]
    exact isHolder
  listed := sound.listed
  pointing index caller found isCaller points := by
    simp only [TaskWorld.admitCall, TaskWorld.withCaller, get_insert] at isCaller
    split at isCaller
    · cases isCaller
      cases points
    · exact sound.pointing index caller found isCaller points
  working := sound.working
  reachable := sound.reachable
  announced index caller found handle isCaller isPoint := by
    simp only [TaskWorld.admitCall, TaskWorld.withCaller, get_insert] at isCaller
    split at isCaller
    · cases isCaller
      cases isPoint
    · exact sound.announced index caller found handle isCaller isPoint
  single index caller other holder isCaller isHolder isPoint alsoPoint := by
    simp only [TaskWorld.admitCall, TaskWorld.withCaller, get_insert] at isCaller isHolder
    split at isCaller
    · cases isCaller
      cases isPoint
    · split at isHolder
      · cases isHolder
        cases alsoPoint
      · exact sound.single index caller other holder isCaller isHolder isPoint alsoPoint

theorem Sound.step {event : TaskEvent} (orderly : world.Orderly event) :
    (world.step event).Sound := by
  cases event with
  | call name operation =>
    cases operation with
    | start kind spec maxRestarts =>
      simp only [TaskWorld.step]
      split
      · exact sound
      · exact sound.admitCall orderly _
    | stop => exact sound.admitCall orderly _
    | restart => exact sound.admitCall orderly _
  | caller index =>
    simp only [TaskWorld.step]
    split
    · next caller isCaller => exact sound.advance isCaller (orderly caller isCaller)
    · exact sound
  | timeout index =>
    simp only [TaskWorld.step]
    split
    · next caller isCaller =>
      split
      · next found isPoint =>
        have isOf := sound.pointing index caller found isCaller (by rw [isPoint]; rfl)
        exact sound.move isCaller ⟨rfl, rfl⟩ (by simp)
          (fun other isOther => by cases isOther; exact isOf)
      · exact sound
    · exact sound
  | worker found succeeds =>
    simp only [TaskWorld.step]
    split
    · next handle isHandle => exact sound.work isHandle succeeds
    · exact sound

end

/-! ## Runs -/

/-- In every run whose steps are orderly, tasks are kept apart in every state. -/
theorem kept_apart_in_orderly_runs (events : List TaskEvent)
    (orderly : backgroundTasks.EachStep Orderly .empty events) :
    backgroundTasks.Always KeepsApart .empty events :=
  (orderly.always sound_empty (fun _ _ sound meets => sound.step meets)).mono
    fun _ sound => sound.keepsApart

def startedAndStopped : List TaskEvent :=
  [.call ⟨"session", "build"⟩ (.start .shell "make" 0), .caller 0, .caller 0, .worker 0 true,
    .worker 0 true, .worker 0 true, .worker 0 true, .caller 0, .call ⟨"session", "build"⟩ .stop,
    .caller 1, .caller 1, .caller 1, .caller 1, .caller 1]

theorem started_and_stopped_apart : backgroundTasks.Always KeepsApart .empty startedAndStopped :=
  kept_apart_in_orderly_runs startedAndStopped (by decide +kernel)

def startedTwice : List TaskEvent :=
  [.call ⟨"session", "build"⟩ (.start .shell "sleep 60" 0),
    .call ⟨"session", "build"⟩ (.start .shell "sleep 60" 0), .caller 0, .caller 1, .caller 0,
    .caller 1, .worker 0 true, .worker 1 true]

/-- Two workers execute a command for one task. -/
theorem started_twice_runs_twice :
    ¬backgroundTasks.Always KeepsApart .empty startedTwice := by
  intro always
  have apart := always.run
  have first : (backgroundTasks.run .empty startedTwice).2.Executes 0 ⟨"session", "build"⟩ :=
    ⟨_, rfl, rfl, rfl⟩
  have second : (backgroundTasks.run .empty startedTwice).2.Executes 1 ⟨"session", "build"⟩ :=
    ⟨_, rfl, rfl, rfl⟩
  exact absurd (apart.oneCommand 0 1 _ first second) (by decide)

end TaskWorld

end AutoLoop.Services
