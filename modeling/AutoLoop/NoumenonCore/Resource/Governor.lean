import Mathlib.Algebra.BigOperators.Group.List.Basic
import AutoLoop.Foundation.Component
import AutoLoop.Foundation.Effect
import AutoLoop.NoumenonCore.Ir

/-!
# The resource governor

Quotas on the CPU units and memory of running executions.  A reservation is held
for the duration of an execution and released when it is dropped.  The counters
are 32-bit words and the limit check adds with wrap-around, as in a release
build, so the counters follow the live reservations exactly as long as no
accepted reservation overflows a word.
-/

namespace AutoLoop.NoumenonCore

structure ResourceRequirement where
  cpuUnits : UInt32
  memoryMb : UInt32
  maxRuntimeMs : UInt64
  deriving DecidableEq, Repr

def ResourceRequirement.fromConstraints (constraints : ConstraintSet) :
    ResourceRequirement where
  cpuUnits := max constraints.maxCpuUnits 1
  memoryMb := max constraints.maxMemoryMb 64
  maxRuntimeMs := max constraints.maxRuntimeMs 1000

/-- The trait `ResourceGovernor`, over the type of governor states. -/
class ResourceGovernor (Governor : Type) where
  reserve (requirement : ResourceRequirement) : Effect Governor Unit
  release (requirement : ResourceRequirement) : Governor → Governor

structure SimpleResourceGovernor where
  cpuLimit : UInt32
  memoryLimitMb : UInt32
  cpuUsed : UInt32
  memoryUsedMb : UInt32
  deriving DecidableEq, Repr

namespace SimpleResourceGovernor

def new (cpuLimit memoryLimitMb : UInt32) : SimpleResourceGovernor where
  cpuLimit := cpuLimit
  memoryLimitMb := memoryLimitMb
  cpuUsed := 0
  memoryUsedMb := 0

def reserve (requirement : ResourceRequirement) :
    Effect SimpleResourceGovernor Unit := fun state =>
  if state.cpuUsed + requirement.cpuUnits > state.cpuLimit then
    (.error "cpu quota exceeded", state)
  else if state.memoryUsedMb + requirement.memoryMb > state.memoryLimitMb then
    (.error "memory quota exceeded", state)
  else
    (.ok (),
      { state with
        cpuUsed := state.cpuUsed + requirement.cpuUnits
        memoryUsedMb := state.memoryUsedMb + requirement.memoryMb })

def release (requirement : ResourceRequirement) (state : SimpleResourceGovernor) :
    SimpleResourceGovernor :=
  { state with
    cpuUsed := saturatingSub32 state.cpuUsed requirement.cpuUnits
    memoryUsedMb := saturatingSub32 state.memoryUsedMb requirement.memoryMb }

end SimpleResourceGovernor

instance : ResourceGovernor SimpleResourceGovernor where
  reserve := SimpleResourceGovernor.reserve
  release := SimpleResourceGovernor.release

namespace SimpleResourceGovernor

section
variable (state : SimpleResourceGovernor) (requirement : ResourceRequirement)

/-- The limit check of `reserve`, whose sums wrap around. -/
def Admits : Prop :=
  state.cpuUsed + requirement.cpuUnits ≤ state.cpuLimit ∧
    state.memoryUsedMb + requirement.memoryMb ≤ state.memoryLimitMb

/-- Neither counter leaves its word when the requirement is added. -/
def NoOverflow :
    Prop :=
  state.cpuUsed.toNat + requirement.cpuUnits.toNat < 2 ^ 32 ∧
    state.memoryUsedMb.toNat + requirement.memoryMb.toNat < 2 ^ 32

/-- What `reserve` does: add when the check admits the requirement, and fail
without a change otherwise. -/
theorem reserve_cases :
    (state.Admits requirement ∧
      reserve requirement state =
        (.ok (),
          { state with
            cpuUsed := state.cpuUsed + requirement.cpuUnits
            memoryUsedMb := state.memoryUsedMb + requirement.memoryMb })) ∨
    (¬state.Admits requirement ∧
      ∃ message, reserve requirement state = (.error message, state)) := by
  simp only [reserve, Admits, GT.gt, ← UInt32.not_le]
  by_cases cpuFits : state.cpuUsed + requirement.cpuUnits ≤ state.cpuLimit
  · by_cases memoryFits :
        state.memoryUsedMb + requirement.memoryMb ≤ state.memoryLimitMb
    · simp [cpuFits, memoryFits]
    · simp [cpuFits, memoryFits]
  · simp [cpuFits]

end

section
variable {state after : SimpleResourceGovernor} {requirement : ResourceRequirement}

/-- A failed reservation changes nothing. -/
theorem reserve_error {message : String}
    (refused : reserve requirement state = (.error message, after)) : after = state := by
  rcases reserve_cases state requirement with ⟨-, accepted⟩ | ⟨-, reason, kept⟩
  · rw [accepted] at refused
    cases refused
  · rw [kept] at refused
    cases refused
    rfl

theorem release_reserve (fits : state.NoOverflow requirement)
    (accepted : reserve requirement state = (.ok (), after)) :
    release requirement after = state := by
  rcases reserve_cases state requirement with ⟨-, shape⟩ | ⟨-, reason, shape⟩
  · rw [shape] at accepted
    cases accepted
    have cpuBound := fits.1
    have memoryBound := fits.2
    have cpu : saturatingSub32 (state.cpuUsed + requirement.cpuUnits)
        requirement.cpuUnits = state.cpuUsed := by
      apply UInt32.toNat_inj.mp
      rw [toNat_saturatingSub32, UInt32.toNat_add, Nat.mod_eq_of_lt cpuBound]
      omega
    have memory : saturatingSub32 (state.memoryUsedMb + requirement.memoryMb)
        requirement.memoryMb = state.memoryUsedMb := by
      apply UInt32.toNat_inj.mp
      rw [toNat_saturatingSub32, UInt32.toNat_add, Nat.mod_eq_of_lt memoryBound]
      omega
    simp only [release, cpu, memory]
  · rw [shape] at accepted
    cases accepted

end

end SimpleResourceGovernor

/-! ## Live reservations -/

/-- A pool together with the requirements of the reservations that are alive. -/
structure ResourcePool where
  governor : SimpleResourceGovernor
  live : List ResourceRequirement
  deriving DecidableEq, Repr

/-- Creating and dropping `ResourceReservation` values.  A drop names the live
reservation by its position. -/
inductive ReservationOp where
  | new (requirement : ResourceRequirement)
  | drop (index : Nat)
  deriving DecidableEq, Repr

namespace ResourcePool

def start (cpuLimit memoryLimitMb : UInt32) : ResourcePool where
  governor := SimpleResourceGovernor.new cpuLimit memoryLimitMb
  live := []

def step (pool : ResourcePool) : ReservationOp → Except String Unit × ResourcePool
  | .new requirement =>
    match ResourceGovernor.reserve requirement pool.governor with
    | (.ok (), governor) => (.ok (), ⟨governor, requirement :: pool.live⟩)
    | (.error message, governor) => (.error message, { pool with governor })
  | .drop index =>
    match pool.live[index]? with
    | some requirement =>
      (.ok (), ⟨ResourceGovernor.release requirement pool.governor,
        pool.live.eraseIdx index⟩)
    | none => (.ok (), pool)

/-- Reservations of one pool, created and dropped in any order. -/
def component (cpuLimit memoryLimitMb : UInt32) :
    Component ResourcePool ReservationOp (Except String Unit) where
  initial := start cpuLimit memoryLimitMb
  step := step

def liveCpu (pool : ResourcePool) : Nat := (pool.live.map (·.cpuUnits.toNat)).sum

def liveMemory (pool : ResourcePool) : Nat := (pool.live.map (·.memoryMb.toNat)).sum

/-- The counters are the exact sums of the live requirements and within the
limits. -/
def Exact (pool : ResourcePool) : Prop :=
  pool.governor.cpuUsed.toNat = pool.liveCpu ∧
    pool.governor.memoryUsedMb.toNat = pool.liveMemory ∧
    pool.governor.cpuUsed ≤ pool.governor.cpuLimit ∧
    pool.governor.memoryUsedMb ≤ pool.governor.memoryLimitMb

instance (pool : ResourcePool) : Decidable pool.Exact :=
  inferInstanceAs (Decidable (_ ∧ _))

/-- The quota law in one state: exact counters, and reservations that fail change
nothing. -/
def QuotaLaw (pool : ResourcePool) : Prop :=
  pool.Exact ∧ ∀ requirement message after,
    ResourceGovernor.reserve requirement pool.governor = (.error message, after) →
      after = pool.governor

/-- The step is not a reservation that the wrapped check admits although a
counter overflows. -/
def NoWrap (pool : ResourcePool) : ReservationOp → Prop
  | .new requirement =>
    pool.governor.Admits requirement → pool.governor.NoOverflow requirement
  | .drop _ => True

/-- An admitted reservation keeps the counters exact exactly when neither of them
overflows. -/
theorem exact_new_iff {pool : ResourcePool} (exact : pool.Exact)
    (requirement : ResourceRequirement) :
    (pool.step (.new requirement)).2.Exact ↔ pool.NoWrap (.new requirement) := by
  obtain ⟨cpuSum, memorySum, -, -⟩ := id exact
  have cpuBound := pool.governor.cpuUsed.toNat_lt
  have memoryBound := pool.governor.memoryUsedMb.toNat_lt
  rcases SimpleResourceGovernor.reserve_cases pool.governor requirement with
    ⟨admitted, accepted⟩ | ⟨refused, message, kept⟩
  · have stepped : (pool.step (.new requirement)).2 =
        ⟨{ pool.governor with
            cpuUsed := pool.governor.cpuUsed + requirement.cpuUnits
            memoryUsedMb := pool.governor.memoryUsedMb + requirement.memoryMb },
          requirement :: pool.live⟩ := by
      simp only [step, ResourceGovernor.reserve, accepted]
    rw [stepped]
    simp only [Exact, NoWrap, SimpleResourceGovernor.NoOverflow, liveCpu, liveMemory,
      List.map_cons, List.sum_cons, UInt32.toNat_add] at cpuSum memorySum ⊢
    constructor
    · rintro ⟨cpu, memory, -, -⟩ -
      constructor
      · omega
      · omega
    · intro fits
      obtain ⟨cpuFits, memoryFits⟩ := fits admitted
      rw [Nat.mod_eq_of_lt cpuFits, Nat.mod_eq_of_lt memoryFits]
      exact ⟨by omega, by omega, admitted.1, admitted.2⟩
  · have stepped : (pool.step (.new requirement)).2 = pool := by
      simp only [step, ResourceGovernor.reserve, kept]
    rw [stepped]
    exact ⟨fun _ admitted => absurd admitted refused, fun _ => exact⟩

theorem sum_eraseIdx {live : List ResourceRequirement} {index : Nat}
    {requirement : ResourceRequirement} (found : live[index]? = some requirement)
    (units : ResourceRequirement → Nat) :
    (live.map units).sum = units requirement + ((live.eraseIdx index).map units).sum := by
  obtain ⟨inBounds, rfl⟩ := List.getElem?_eq_some_iff.mp found
  have perm := List.getElem_cons_eraseIdx_perm inBounds
  rw [← (perm.map units).sum_eq, List.map_cons, List.sum_cons]

/-- Dropping a reservation keeps the counters exact. -/
theorem exact_drop {pool : ResourcePool} (exact : pool.Exact) (index : Nat) :
    (pool.step (.drop index)).2.Exact := by
  cases found : pool.live[index]? with
  | none => simpa only [step, found] using exact
  | some requirement =>
    obtain ⟨cpuSum, memorySum, cpuLimited, memoryLimited⟩ := exact
    have cpuRest := sum_eraseIdx found (·.cpuUnits.toNat)
    have memoryRest := sum_eraseIdx found (·.memoryMb.toNat)
    simp only [UInt32.le_iff_toNat_le] at cpuLimited memoryLimited
    simp only [liveCpu, liveMemory] at cpuSum memorySum
    simp only [step, found, Exact, ResourceGovernor.release,
      SimpleResourceGovernor.release, liveCpu, liveMemory, toNat_saturatingSub32,
      UInt32.le_iff_toNat_le]
    exact ⟨by omega, by omega, by omega, by omega⟩

theorem exact_step_iff (pool : ResourcePool) (op : ReservationOp) (exact : pool.Exact) :
    (pool.step op).2.Exact ↔ pool.NoWrap op := by
  cases op with
  | new requirement => exact exact_new_iff exact requirement
  | drop index => exact ⟨fun _ => trivial, fun _ => exact_drop exact index⟩

theorem start_exact (cpuLimit memoryLimitMb : UInt32) :
    (start cpuLimit memoryLimitMb).Exact := by
  simp [Exact, start, SimpleResourceGovernor.new, liveCpu, liveMemory]

/-- Over every sequence of reservations and drops the quota law holds throughout
exactly when no reservation is admitted whose sum overflows a word. -/
theorem quotaLaw_iff_noWrap (cpuLimit memoryLimitMb : UInt32)
    (ops : List ReservationOp) :
    (component cpuLimit memoryLimitMb).Always QuotaLaw
        (start cpuLimit memoryLimitMb) ops ↔
      (component cpuLimit memoryLimitMb).EachStep NoWrap
        (start cpuLimit memoryLimitMb) ops := by
  have failuresFrame : ∀ (pool : ResourcePool) requirement message after,
      ResourceGovernor.reserve requirement pool.governor = (.error message, after) →
        after = pool.governor :=
    fun _ _ _ _ refused => SimpleResourceGovernor.reserve_error refused
  have step : ∀ (pool : ResourcePool) op, pool.QuotaLaw → True →
      (((component cpuLimit memoryLimitMb).step pool op).2.QuotaLaw ↔ pool.NoWrap op) := by
    rintro pool op ⟨exact, -⟩ -
    rw [QuotaLaw, and_iff_left (failuresFrame _)]
    exact exact_step_iff pool op exact
  exact Component.always_iff_eachStep step
    ⟨start_exact cpuLimit memoryLimitMb, failuresFrame _⟩
    (Component.EachStep.of_forall (fun _ _ => trivial) _ _)

/-- A second reservation of almost all memory wraps the sum to zero: it is
admitted, and the counter forgets both reservations. -/
theorem quotaLaw_fails_on_wrap :
    ¬(component 8 1024).Always QuotaLaw (start 8 1024)
      [.new (.fromConstraints
          { maxRuntimeMs := 1000, maxCpuUnits := 2, maxMemoryMb := 256, policyRefs := [] }),
        .new (.fromConstraints
          { maxRuntimeMs := 1000, maxCpuUnits := 1, maxMemoryMb := 4294967040,
            policyRefs := [] })] := by
  intro always
  have final := always.2.2.head.1
  revert final
  decide

end ResourcePool

end AutoLoop.NoumenonCore
