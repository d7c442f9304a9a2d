import AutoLoop.Foundation.Check
import AutoLoop.Foundation.Text
import AutoLoop.NoumenonCore.Ir

/-!
# Hardening of high-risk steps

A step that runs WebAssembly, foreign code or a plugin must bring a complete
hardening policy.  Every setting has a typed field and an entry in the step's
string map.  For all settings the typed field comes first, except for the island
itself: there the map entry is read before the declared island.

The last section determines for which steps the declared island's demands are
met whenever the check accepts.
-/

namespace AutoLoop.NoumenonCore

open Text Check

/-! ## Settings of a step -/

def parseRuntimeIsland (label : String) : Option RuntimeIsland :=
  match toAsciiLowercase (trim label) with
  | "trusted" => some .trusted
  | "wasm" => some .wasm
  | "ffi" => some .ffi
  | "plugin" => some .plugin
  | _ => none

def inferRuntimeIslandFromCapability (capabilityRef : Option String) :
    Option RuntimeIsland := do
  let cap := toAsciiLowercase (← capabilityRef)
  if contains cap "wasm" then
    some .wasm
  else if contains cap "ffi" || contains cap "cabi" then
    some .ffi
  else if contains cap "plugin" then
    some .plugin
  else
    none

/-- The island named by the step's own string map. -/
def mapRuntimeIsland (step : ExecutionStep) : Option RuntimeIsland :=
  (step.localConstraints.get "runtime_island").bind parseRuntimeIsland

def effectiveRuntimeIsland (step : ExecutionStep) : RuntimeIsland :=
  match mapRuntimeIsland step with
  | some parsed => parsed
  | none =>
    if step.runtimeIsland ≠ .trusted then
      step.runtimeIsland
    else
      (inferRuntimeIslandFromCapability step.capabilityRef).getD .trusted

def nonEmpty (value : Option String) : Option String := do
  let trimmed := trim (← value)
  if trimmed = "" then none else some trimmed

section
variable (step : ExecutionStep)

/-- The string map's entry for a textual setting. -/
def mapped (key : String) : Option String :=
  nonEmpty (step.localConstraints.get key)

def resolveHardeningProfile : Option String :=
  (nonEmpty step.hardening.hardeningProfile).or (mapped step "hardening_profile")

def resolveSyscallConstraints : Bool :=
  (nonEmpty step.hardening.syscallPolicyRef).isSome ||
    !step.hardening.syscallAllowlist.isEmpty ||
    (mapped step "syscall_policy_ref").isSome ||
    (mapped step "syscall_allowlist").isSome

def resolveSeccompProfile : Bool :=
  (nonEmpty step.hardening.seccompProfileRef).isSome ||
    (mapped step "seccomp_profile_ref").isSome

def resolveBoolConstraint (key : String) : Option Bool := do
  let raw ← step.localConstraints.get key
  match toAsciiLowercase (trim raw) with
  | "1" | "true" | "yes" | "on" => some true
  | "0" | "false" | "no" | "off" => some false
  | _ => none

end

/-- An isolation flag: the typed field or the map entry switches it on. -/
def resolveIsolation (typed : HardeningPolicy → Bool) (key : String)
    (step : ExecutionStep) : Bool :=
  typed step.hardening || (resolveBoolConstraint step key).getD false

def resolveNamespaceIsolation : ExecutionStep → Bool :=
  resolveIsolation (·.enforceNamespaceIsolation) "enforce_namespace_isolation"

def resolveCgroupIsolation : ExecutionStep → Bool :=
  resolveIsolation (·.enforceCgroupIsolation) "enforce_cgroup_isolation"

def resolveFsIsolation : ExecutionStep → Bool :=
  resolveIsolation (·.enforceFsIsolation) "enforce_fs_isolation"

def resolveNetworkIsolation : ExecutionStep → Bool :=
  resolveIsolation (·.enforceNetworkIsolation) "enforce_network_isolation"

section
variable (step : ExecutionStep)

def parseU64Constraint (key : String) : Option UInt64 := do
  (parseUnsigned (2 ^ 64) (← step.localConstraints.get key)).map UInt64.ofNat

def parseU32Constraint (key : String) : Option UInt32 := do
  (parseUnsigned (2 ^ 32) (← step.localConstraints.get key)).map UInt32.ofNat

def resolveStepRuntimeMs : Option UInt64 :=
  step.hardening.maxRuntimeMs.or (parseU64Constraint step "step_max_runtime_ms")

def resolveStepMemoryMb : Option UInt32 :=
  step.hardening.maxMemoryMb.or (parseU32Constraint step "step_max_memory_mb")

def resolveStepCpuUnits : Option UInt32 :=
  step.hardening.maxCpuUnits.or (parseU32Constraint step "step_max_cpu_units")

def resolveIsolationBackend : Option String :=
  mapped step "isolation_backend"

end

/-! ## Isolation backends -/

inductive TargetOs where
  | linux
  | windows
  | other
  deriving DecidableEq, Repr

/-- What the check finds out about the machine it runs on. -/
structure Host where
  targetOs : TargetOs
  linuxKernelIsolationPrimitivesAvailable : Bool
  commandAvailable : String → Bool

def Host.linuxBackendOk (host : Host) (command : String) : Bool :=
  host.targetOs = .linux && host.linuxKernelIsolationPrimitivesAvailable &&
    host.commandAvailable command

/-- Whether the host can run a backend, named in lower case. -/
def Host.supports (host : Host) (backend : String) : Bool :=
  match backend with
  | "auto" =>
    if host.targetOs = .windows then
      true
    else
      host.linuxBackendOk "nsjail" || host.linuxBackendOk "bwrap" ||
        host.linuxBackendOk "firejail" || host.linuxBackendOk "unshare"
  | "nsjail" => host.linuxBackendOk "nsjail"
  | "bwrap" | "bubblewrap" => host.linuxBackendOk "bwrap"
  | "firejail" => host.linuxBackendOk "firejail"
  | "unshare" => host.linuxBackendOk "unshare"
  | "wasmtime" => host.commandAvailable "wasmtime"
  | "job_object" | "windows-job-object" => host.targetOs = .windows
  | custom => host.commandAvailable custom

/-- Backends that isolate any high-risk island. -/
def generalBackends : List String :=
  ["auto", "nsjail", "bwrap", "bubblewrap", "firejail", "unshare", "job_object",
    "windows-job-object"]

/-- The backends that the check accepts for an island; a trusted step may name
any. -/
def backendAllowed (island : RuntimeIsland) (backend : String) : Bool :=
  match island with
  | .trusted => true
  | .wasm => "wasmtime" :: generalBackends |>.contains backend
  | .ffi | .plugin => generalBackends.contains backend

/-- The island's name in error messages. -/
def RuntimeIsland.label : RuntimeIsland → String
  | .trusted => "unknown"
  | .wasm => "wasm"
  | .ffi => "ffi"
  | .plugin => "plugin"

def capabilityLabel (step : ExecutionStep) : String :=
  step.capabilityRef.getD "<missing-capability>"

def ensureIsolationExecutorAvailable (host : Host) (step : ExecutionStep)
    (backend : String) : Except String Unit := do
  let capability := capabilityLabel step
  let backendLc := toAsciiLowercase (trim backend)
  let island := effectiveRuntimeIsland step
  require (host.supports backendLc)
    ("isolation backend '" ++ backend ++
      "' is unavailable for high-risk island capability: " ++ capability)
  require (backendAllowed island backendLc)
    ("isolation backend '" ++ backend ++ "' is not allowed for " ++ island.label ++
      " island capability: " ++ capability)

/-! ## The check -/

def enforceRuntimeIslandHardening (host : Host) (step : ExecutionStep)
    (constraints : ConstraintSet) : Except String Unit :=
  if !(effectiveRuntimeIsland step).requiresHardening then
    .ok ()
  else do
    let capability := capabilityLabel step
    let highRisk := " for high-risk island capability: " ++ capability
    let profile ← present (resolveHardeningProfile step)
      ("missing hardening_profile" ++ highRisk)
    require (!eqIgnoreAsciiCase profile "none")
      ("hardening_profile=none is forbidden" ++ highRisk)
    require (resolveSeccompProfile step) ("missing seccomp profile" ++ highRisk)
    require (resolveSyscallConstraints step)
      ("missing syscall constraint (syscall_policy_ref or syscall_allowlist)" ++ highRisk)
    require (resolveNamespaceIsolation step) ("missing namespace isolation" ++ highRisk)
    require (resolveCgroupIsolation step) ("missing cgroup isolation" ++ highRisk)
    require (resolveFsIsolation step) ("missing fs isolation" ++ highRisk)
    require (resolveNetworkIsolation step) ("missing network isolation" ++ highRisk)
    let isolationBackend ← present (resolveIsolationBackend step)
      ("missing isolation_backend" ++ highRisk)
    ensureIsolationExecutorAvailable host step isolationBackend
    let stepRuntimeMs ← present (resolveStepRuntimeMs step)
      ("missing step_max_runtime_ms" ++ highRisk)
    let stepMemoryMb ← present (resolveStepMemoryMb step)
      ("missing step_max_memory_mb" ++ highRisk)
    let stepCpuUnits ← present (resolveStepCpuUnits step)
      ("missing step_max_cpu_units" ++ highRisk)
    require (¬(stepRuntimeMs = 0 ∨ stepMemoryMb = 0 ∨ stepCpuUnits = 0))
      ("step resource constraints must be > 0" ++ highRisk)
    let maxRuntimeMs := max constraints.maxRuntimeMs 1
    let maxMemoryMb := max constraints.maxMemoryMb 1
    let maxCpuUnits := max constraints.maxCpuUnits 1
    require (stepRuntimeMs ≤ maxRuntimeMs)
      ("step_max_runtime_ms=" ++ stepRuntimeMs.toNat.repr ++
        " exceeds request max_runtime_ms=" ++ maxRuntimeMs.toNat.repr ++
        " for capability: " ++ capability)
    require (stepMemoryMb ≤ maxMemoryMb)
      ("step_max_memory_mb=" ++ stepMemoryMb.toNat.repr ++
        " exceeds request max_memory_mb=" ++ maxMemoryMb.toNat.repr ++
        " for capability: " ++ capability)
    require (stepCpuUnits ≤ maxCpuUnits)
      ("step_max_cpu_units=" ++ stepCpuUnits.toNat.repr ++
        " exceeds request max_cpu_units=" ++ maxCpuUnits.toNat.repr ++
        " for capability: " ++ capability)

/-! ## What an accepted step brings -/

/-- A limit of the step lies between one and the request's limit. -/
def LimitedBy {Word : Type} [LE Word] [Max Word] [OfNat Word 1] (limit : Option Word)
    (requestLimit : Word) : Prop :=
  ∃ value, limit = some value ∧ 1 ≤ value ∧ value ≤ max requestLimit 1

/-- Everything that a high-risk step must bring on any island, apart from the
choice of its isolation backend. -/
structure Fortified (step : ExecutionStep) (constraints : ConstraintSet) : Prop where
  profile : ∃ profile, resolveHardeningProfile step = some profile ∧ profile ≠ "" ∧
    eqIgnoreAsciiCase profile "none" = false
  seccompProfile : resolveSeccompProfile step = true
  syscallConstraints : resolveSyscallConstraints step = true
  namespaceIsolation : resolveNamespaceIsolation step = true
  cgroupIsolation : resolveCgroupIsolation step = true
  fsIsolation : resolveFsIsolation step = true
  networkIsolation : resolveNetworkIsolation step = true
  runtime : LimitedBy (resolveStepRuntimeMs step) constraints.maxRuntimeMs
  memory : LimitedBy (resolveStepMemoryMb step) constraints.maxMemoryMb
  cpu : LimitedBy (resolveStepCpuUnits step) constraints.maxCpuUnits

/-- The step's isolation backend as the check compares it. -/
def isolationBackendLc (step : ExecutionStep) : Option String :=
  (resolveIsolationBackend step).map fun backend => toAsciiLowercase (trim backend)

/-- The demands on a step that runs on the given high-risk island. -/
structure Hardened (step : ExecutionStep) (constraints : ConstraintSet)
    (island : RuntimeIsland) : Prop extends Fortified step constraints where
  backend : ∃ name, isolationBackendLc step = some name ∧ backendAllowed island name = true

theorem nonEmpty_ne_empty {value : Option String} {text : String}
    (given : nonEmpty value = some text) : text ≠ "" := by
  obtain ⟨raw, -, shape⟩ := Option.bind_eq_some_iff.mp given
  dsimp only at shape
  split at shape
  · cases shape
  · next notEmpty =>
    cases shape
    exact notEmpty

variable {step : ExecutionStep} {island : RuntimeIsland}

theorem resolveHardeningProfile_ne_empty {profile : String}
    (resolved : resolveHardeningProfile step = some profile) : profile ≠ "" := by
  rcases Option.or_eq_some_iff.mp resolved with typed | ⟨-, fromMap⟩
  · exact nonEmpty_ne_empty typed
  · exact nonEmpty_ne_empty fromMap

theorem enforceRuntimeIslandHardening_ok_iff (host : Host) (step : ExecutionStep)
    (constraints : ConstraintSet)
    (highRisk : (effectiveRuntimeIsland step).requiresHardening = true) :
    enforceRuntimeIslandHardening host step constraints = .ok () ↔
      Hardened step constraints (effectiveRuntimeIsland step) ∧
        ∃ name, isolationBackendLc step = some name ∧ host.supports name = true := by
  simp only [enforceRuntimeIslandHardening, highRisk, Bool.not_true, Bool.false_eq_true,
    if_false, ensureIsolationExecutorAvailable, bind_eq_ok, present_eq_ok, require_eq_ok,
    exists_unit, Bool.not_eq_eq_eq_not]
  constructor
  · rintro ⟨profile, hasProfile, notNone, seccomp, syscalls, namespaces, cgroups, fs,
      network, backend, hasBackend, ⟨supported, allowed⟩, runtime, hasRuntime, memory,
      hasMemory, cpu, hasCpu, positive, runtimeFits, memoryFits, cpuFits⟩
    have backendName : isolationBackendLc step = some (toAsciiLowercase (trim backend)) := by
      rw [isolationBackendLc, hasBackend, Option.map_some]
    simp only [not_or] at positive
    refine ⟨⟨⟨?profile, seccomp, syscalls, namespaces, cgroups, fs, network, ?runtime,
      ?memory, ?cpu⟩, ?backend⟩, ?supported⟩
    case profile =>
      exact ⟨profile, hasProfile, resolveHardeningProfile_ne_empty hasProfile, notNone⟩
    case runtime =>
      exact ⟨runtime, hasRuntime, one_le_iff_ne_zero64.mpr positive.1, runtimeFits⟩
    case memory =>
      exact ⟨memory, hasMemory, one_le_iff_ne_zero32.mpr positive.2.1, memoryFits⟩
    case cpu =>
      exact ⟨cpu, hasCpu, one_le_iff_ne_zero32.mpr positive.2.2, cpuFits⟩
    case backend => exact ⟨_, backendName, allowed⟩
    case supported => exact ⟨_, backendName, supported⟩
  · rintro ⟨hardened, name, named, supported⟩
    obtain ⟨profile, hasProfile, -, notNone⟩ := hardened.profile
    obtain ⟨runtime, hasRuntime, runtimePositive, runtimeFits⟩ := hardened.runtime
    obtain ⟨memory, hasMemory, memoryPositive, memoryFits⟩ := hardened.memory
    obtain ⟨cpu, hasCpu, cpuPositive, cpuFits⟩ := hardened.cpu
    obtain ⟨other, otherNamed, allowed⟩ := hardened.backend
    obtain rfl : name = other := Option.some.inj (named.symm.trans otherNamed)
    obtain ⟨backend, hasBackend, rfl⟩ := Option.map_eq_some_iff.mp named
    have positive : ¬(runtime = 0 ∨ memory = 0 ∨ cpu = 0) := by
      simp only [not_or]
      exact ⟨one_le_iff_ne_zero64.mp runtimePositive, one_le_iff_ne_zero32.mp memoryPositive,
        one_le_iff_ne_zero32.mp cpuPositive⟩
    exact ⟨profile, hasProfile, notNone, hardened.seccompProfile,
      hardened.syscallConstraints, hardened.namespaceIsolation, hardened.cgroupIsolation,
      hardened.fsIsolation, hardened.networkIsolation, backend, hasBackend,
      ⟨supported, allowed⟩, runtime, hasRuntime, memory, hasMemory, cpu, hasCpu, positive,
      runtimeFits, memoryFits, cpuFits⟩

/-! ## The declared island -/

@[simp] theorem effectiveRuntimeIsland_of_map (overridden : mapRuntimeIsland step = some island) :
    effectiveRuntimeIsland step = island := by
  rw [effectiveRuntimeIsland, overridden]

theorem effectiveRuntimeIsland_of_declared (notOverridden : mapRuntimeIsland step = none)
    (declared : step.runtimeIsland.requiresHardening = true) :
    effectiveRuntimeIsland step = step.runtimeIsland := by
  have notTrusted : step.runtimeIsland ≠ .trusted := by
    intro trusted
    rw [trusted] at declared
    cases declared
  rw [effectiveRuntimeIsland, notOverridden]
  exact if_pos notTrusted

theorem backendAllowed_of_general {name : String}
    (general : generalBackends.contains name = true) : backendAllowed island name = true := by
  cases island with
  | trusted => rfl
  | wasm => rw [backendAllowed, List.contains_cons, general, Bool.or_true]
  | ffi | plugin => exact general

theorem general_of_backendAllowed {name : String}
    (highRisk : island.requiresHardening = true) (allowed : backendAllowed island name = true)
    (notWasmtime : island = .wasm → name ≠ "wasmtime") :
    generalBackends.contains name = true := by
  cases island with
  | trusted => cases highRisk
  | wasm =>
    rw [backendAllowed, List.contains_cons, Bool.or_eq_true, beq_iff_eq] at allowed
    exact allowed.resolve_left (notWasmtime rfl)
  | ffi | plugin => exact allowed

theorem wasmtime_not_general : generalBackends.contains "wasmtime" = false := by decide

/-- The demands of one high-risk island carry over to another, except that
`wasmtime` isolates WebAssembly only. -/
theorem Hardened.change_island {constraints : ConstraintSet} {island other : RuntimeIsland}
    (hardened : Hardened step constraints island) (highRisk : island.requiresHardening = true)
    (notWasmtime : island = .wasm → isolationBackendLc step ≠ some "wasmtime") :
    Hardened step constraints other := by
  obtain ⟨fortified, name, named, allowed⟩ := hardened
  have general : generalBackends.contains name = true := by
    apply general_of_backendAllowed highRisk allowed
    intro isWasm isWasmtime
    rw [isWasmtime] at named
    exact notWasmtime isWasm named
  exact ⟨fortified, name, named, backendAllowed_of_general general⟩

/-- The map entry `runtime_island` exempts the step from a demand of its declared
island: it names the trusted island for a step that does not meet the demands, or
it names WebAssembly for other code that only `wasmtime` isolates. -/
def MapWaivesHardening (host : Host) (step : ExecutionStep) (constraints : ConstraintSet) : Prop :=
  (mapRuntimeIsland step = some .trusted ∧ ¬Hardened step constraints step.runtimeIsland) ∨
    (mapRuntimeIsland step = some .wasm ∧ step.runtimeIsland ≠ .wasm ∧
      isolationBackendLc step = some "wasmtime" ∧
      host.commandAvailable "wasmtime" = true ∧ Fortified step constraints)

/-- A step of a declared high-risk island that is accepted meets the demands of
that island, exactly when its own map does not waive them. -/
theorem hardened_of_accepted_iff (host : Host) (step : ExecutionStep) (constraints : ConstraintSet)
    (declared : step.runtimeIsland.requiresHardening = true) :
    (enforceRuntimeIslandHardening host step constraints = .ok () →
        Hardened step constraints step.runtimeIsland) ↔
      ¬MapWaivesHardening host step constraints := by
  have accepted_iff := enforceRuntimeIslandHardening_ok_iff host step constraints
  cases overridden : mapRuntimeIsland step with
  | none =>
    have effective := effectiveRuntimeIsland_of_declared overridden declared
    rw [effective] at accepted_iff
    constructor
    · rintro - (⟨trusted, -⟩ | ⟨wasm, -⟩)
      · rw [overridden] at trusted
        cases trusted
      · rw [overridden] at wasm
        cases wasm
    · intro _ accepted
      exact ((accepted_iff declared).mp accepted).1
  | some island =>
    rw [effectiveRuntimeIsland_of_map overridden] at accepted_iff
    simp only [MapWaivesHardening, overridden, Option.some.injEq]
    cases island with
    | trusted =>
      have accepted : enforceRuntimeIslandHardening host step constraints = .ok () := by
        rw [enforceRuntimeIslandHardening, effectiveRuntimeIsland_of_map overridden]
        rfl
      simp [accepted]
    | ffi | plugin =>
      simp only [reduceCtorEq, false_and, or_self, not_false_eq_true, iff_true]
      intro accepted
      exact ((accepted_iff rfl).mp accepted).1.change_island rfl (by simp)
    | wasm =>
      simp only [reduceCtorEq, false_and, false_or, true_and]
      constructor
      · rintro kept ⟨notWasm, wasmtime, available, fortified⟩
        have supported : host.supports "wasmtime" = true := available
        have hardened := kept ((accepted_iff rfl).mpr
          ⟨⟨fortified, _, wasmtime, by decide⟩, _, wasmtime, supported⟩)
        obtain ⟨name, named, allowed⟩ := hardened.backend
        obtain rfl := Option.some.inj (wasmtime.symm.trans named)
        have general := general_of_backendAllowed declared allowed
          fun isWasm => absurd isWasm notWasm
        rw [wasmtime_not_general] at general
        cases general
      · intro notWaived accepted
        obtain ⟨hardened, name, named, supported⟩ := (accepted_iff rfl).mp accepted
        by_cases isWasm : step.runtimeIsland = .wasm
        · rw [isWasm]
          exact hardened
        · apply hardened.change_island rfl
          rintro - wasmtime
          obtain rfl := Option.some.inj (wasmtime.symm.trans named)
          exact notWaived ⟨isWasm, wasmtime, supported, hardened.toFortified⟩

/-- A Linux machine with every isolation tool. -/
def linuxHost : Host where
  targetOs := .linux
  linuxKernelIsolationPrimitivesAvailable := true
  commandAvailable := fun _ => true

def wasmConstraints : ConstraintSet where
  maxRuntimeMs := 1000
  maxCpuUnits := 2
  maxMemoryMb := 256
  policyRefs := []

/-- A WebAssembly step with a complete policy, its limits in the string map. -/
def fortifiedWasmStep : ExecutionStep where
  stepId := "s1"
  capabilityRef := some "wasm.run"
  runtimeIsland := .wasm
  hardening :=
    { hardeningProfile := some "strict"
      syscallAllowlist := ["read"]
      seccompProfileRef := some "default"
      enforceNamespaceIsolation := true
      enforceCgroupIsolation := true
      enforceFsIsolation := true
      enforceNetworkIsolation := true
      maxRuntimeMs := some 500
      maxMemoryMb := some 64 }
  input := "in"
  localConstraints :=
    (HashMap.empty.insert "isolation_backend" " NSJail ").insert "step_max_cpu_units" "+2"

/-- A complete WebAssembly step is accepted, and so meets its demands. -/
theorem fortifiedWasmStep_hardened :
    fortifiedWasmStep.runtimeIsland.requiresHardening = true ∧
      enforceRuntimeIslandHardening linuxHost fortifiedWasmStep wasmConstraints = .ok () ∧
      Hardened fortifiedWasmStep wasmConstraints .wasm := by
  have accepted :
      enforceRuntimeIslandHardening linuxHost fortifiedWasmStep wasmConstraints = .ok () := by
    decide
  have notWaived : ¬MapWaivesHardening linuxHost fortifiedWasmStep wasmConstraints := by
    rintro (⟨trusted, -⟩ | ⟨wasm, -⟩)
    · revert trusted
      decide
    · revert wasm
      decide
  exact ⟨rfl, accepted,
    (hardened_of_accepted_iff linuxHost fortifiedWasmStep wasmConstraints rfl).mpr notWaived
      accepted⟩

/-- A WebAssembly step without any policy, whose map names the trusted island. -/
def selfTrustedWasmStep : ExecutionStep where
  stepId := "s1"
  capabilityRef := some "wasm.run"
  runtimeIsland := .wasm
  input := "in"
  localConstraints := HashMap.empty.insert "runtime_island" "trusted"

/-- The step is accepted although it brings nothing of what its declared island
demands. -/
theorem selfTrustedWasmStep_waives :
    selfTrustedWasmStep.runtimeIsland.requiresHardening = true ∧
      ¬(enforceRuntimeIslandHardening linuxHost selfTrustedWasmStep wasmConstraints = .ok () →
        Hardened selfTrustedWasmStep wasmConstraints selfTrustedWasmStep.runtimeIsland) := by
  have accepted :
      enforceRuntimeIslandHardening linuxHost selfTrustedWasmStep wasmConstraints = .ok () := by
    decide
  refine ⟨rfl, fun kept => ?_⟩
  have seccomp := (kept accepted).seccompProfile
  revert seccomp
  decide

end AutoLoop.NoumenonCore
