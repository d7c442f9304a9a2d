import AutoLoop.Foundation.Numbering
import AutoLoop.StateAdapter.StoredTexts
import AutoLoop.StateAdapter.TypedTables

/-!
# Circuit breakers

Each tool and each server has a breaker, which is stored under a key of its own and read again
before every outcome.  A breaker opens with the failures since the last success, and what it
blocks can be told from the outcomes alone.
-/

namespace AutoLoop.Runtime

open StateAdapter (JsonForm)
open Option

inductive CircuitPhase where
  | closed
  | open
  | halfOpen
  deriving DecidableEq, Repr

structure CircuitState where
  scopeKey : String
  failureCount : UInt32
  successCount : UInt32
  phase : CircuitPhase
  openedAtMs : Option UInt64
  lastFailureMs : Option UInt64
  lastSuccessMs : Option UInt64
  cooldownMs : UInt64
  threshold : UInt32
  lastReason : Option String
  deriving DecidableEq, Repr

structure CircuitLimits where
  toolBreakerFailureThreshold : UInt32
  toolBreakerCooldownMs : UInt64
  mcpBreakerFailureThreshold : UInt32
  mcpBreakerCooldownMs : UInt64
  deriving DecidableEq, Repr

def CircuitLimits.threshold (limits : CircuitLimits) (isMcp : Bool) : UInt32 :=
  if isMcp then limits.mcpBreakerFailureThreshold else limits.toolBreakerFailureThreshold

def CircuitLimits.cooldownMs (limits : CircuitLimits) (isMcp : Bool) : UInt64 :=
  if isMcp then limits.mcpBreakerCooldownMs else limits.toolBreakerCooldownMs

/-- `u32::saturating_add(1)`. -/
def countUp32 (count : UInt32) : UInt32 := if count = 4294967295 then count else count + 1

/-- `u64::saturating_sub`. -/
def elapsed (nowMs sinceMs : UInt64) : Nat := nowMs.toNat - sinceMs.toNat

/-! ## One breaker -/

def defaultCircuitState (limits : CircuitLimits) (scopeKey : String) (isMcp : Bool) :
    CircuitState where
  scopeKey
  failureCount := 0
  successCount := 0
  phase := .closed
  openedAtMs := none
  lastFailureMs := none
  lastSuccessMs := none
  cooldownMs := limits.cooldownMs isMcp
  threshold := limits.threshold isMcp
  lastReason := none

def transitionCircuitState (state : CircuitState) (succeeded : Bool) (nowMs : UInt64)
    (reason : String) : CircuitState :=
  if succeeded then
    { state with
      successCount := countUp32 state.successCount
      failureCount := 0
      phase := .closed
      lastSuccessMs := some nowMs
      openedAtMs := none
      lastReason := some "execution succeeded and circuit closed" }
  else
    let failed := { state with
      failureCount := countUp32 state.failureCount
      lastFailureMs := some nowMs
      lastReason := some reason }
    if state.threshold ≤ failed.failureCount then
      { failed with phase := .open, openedAtMs := some nowMs }
    else if state.phase = .halfOpen then
      { failed with phase := .open, openedAtMs := some nowMs }
    else failed

def circuitBlockReason (state : CircuitState) (nowMs : UInt64) : Option String :=
  match state.phase with
  | .closed => none
  | .halfOpen => none
  | .open =>
    let openedAt := state.openedAtMs.getD nowMs
    if state.cooldownMs.toNat ≤ elapsed nowMs openedAt then none
    else some ("cooldown active for " ++
      (state.cooldownMs.toNat - elapsed nowMs openedAt).repr ++ " ms (failures: " ++
        state.failureCount.toNat.repr ++ ")")

/-- The phase of a breaker when it is read. -/
def CircuitState.loadedAt (state : CircuitState) (nowMs : UInt64) : CircuitState :=
  match state.phase, state.openedAtMs with
  | .open, some openedAt =>
    if state.cooldownMs.toNat ≤ elapsed nowMs openedAt then { state with phase := .halfOpen }
    else state
  | _, _ => state

/-! ## The stored breakers -/

abbrev StoredTexts : Type := Table String String

section Stored

variable (form : JsonForm CircuitState)

def loadCircuitState (texts : StoredTexts) (key : String) (nowMs : UInt64) :
    Option CircuitState :=
  ((texts.get key).bind form.decode).map (·.loadedAt nowMs)

def persistCircuitState (texts : StoredTexts) (state : CircuitState) : StoredTexts :=
  texts.insert state.scopeKey (form.encode state)

def toolCircuitKey (toolName : String) : String := "metrics:circuit:tool:" ++ toolName

def serverCircuitKey (serverName : String) : String := "metrics:circuit:server:" ++ serverName

def circuitKey (isMcp : Bool) (name : String) : String :=
  if isMcp then serverCircuitKey name else toolCircuitKey name

/-- An outcome for one breaker, with the clock as the outcome and the load of the breaker find
it. -/
structure CircuitOutcome where
  isMcp : Bool
  name : String
  succeeded : Bool
  nowMs : UInt64
  loadedAtMs : UInt64
  reason : String
  deriving DecidableEq, Repr

def CircuitOutcome.key (outcome : CircuitOutcome) : String := circuitKey outcome.isMcp outcome.name

variable (limits : CircuitLimits)

def recordOutcome (texts : StoredTexts) (outcome : CircuitOutcome) : StoredTexts :=
  let state := (loadCircuitState form texts outcome.key outcome.loadedAtMs).getD
    (defaultCircuitState limits outcome.key outcome.isMcp)
  persistCircuitState form texts
    (transitionCircuitState state outcome.succeeded outcome.nowMs outcome.reason)

/-- What an execution report says about its outcome. -/
structure OutcomeReport where
  toolUsed : Option String
  mcpServer : Option String
  guardDecision : String
  outcomeScore : Int32
  output : String
  deriving DecidableEq, Repr

/-- The server in a tool name of the form `mcp::server::…`. -/
def serverNameFor (toolName : String) : Option String :=
  match Text.splitOnce "::" toolName with
  | some ("mcp", rest) => some (((Text.splitOnce "::" rest).map (·.1)).getD rest)
  | _ => none

def OutcomeReport.outcomes (report : OutcomeReport)
    (nowMs toolLoadedAtMs serverLoadedAtMs : UInt64) :
    List CircuitOutcome :=
  match report.toolUsed with
  | none => []
  | some toolName =>
    if ¬Text.eqIgnoreAsciiCase report.guardDecision "allow" then []
    else
      let output := Text.toAsciiLowercase report.output
      let succeeded := decide (0 < report.outcomeScore) && !Text.contains output "failed" &&
        !Text.contains output "blocked"
      ⟨false, toolName, succeeded, nowMs, toolLoadedAtMs, report.output⟩ ::
        ((report.mcpServer.or (serverNameFor toolName)).toList.map fun serverName =>
          ⟨true, serverName, succeeded, nowMs, serverLoadedAtMs, report.output⟩)

def recordExecutionOutcome (texts : StoredTexts) (report : OutcomeReport)
    (nowMs toolLoadedAtMs serverLoadedAtMs : UInt64) : StoredTexts :=
  (report.outcomes nowMs toolLoadedAtMs serverLoadedAtMs).foldl (recordOutcome form limits) texts

/-- The store after these outcomes, of whichever breakers. -/
def recordAll (outcomes : List CircuitOutcome) : StoredTexts :=
  outcomes.foldl (recordOutcome form limits) Table.empty

/-- Why the guard blocks at a time, as the breaker is loaded then. -/
def blockReasonAt (texts : StoredTexts) (key : String) (nowMs : UInt64) : Option String :=
  (loadCircuitState form texts key nowMs).bind (circuitBlockReason · nowMs)

end Stored

/-! ## The history of a breaker -/

/-- The outcomes of one breaker. -/
def outcomesOf (isMcp : Bool) (name : String) (outcomes : List CircuitOutcome) :
    List CircuitOutcome :=
  outcomes.filter fun outcome => outcome.isMcp = isMcp ∧ outcome.name = name

/-- The failures since the last success, the latest one first. -/
def failuresSinceSuccess (outcomes : List CircuitOutcome) : List CircuitOutcome :=
  outcomes.reverse.takeWhile fun outcome => !outcome.succeeded

def OpenAt (limits : CircuitLimits) (isMcp : Bool) (outcomes : List CircuitOutcome)
    (nowMs : UInt64) : Prop :=
  (limits.threshold isMcp).toNat ≤ (failuresSinceSuccess outcomes).length ∧
    ∃ last, (failuresSinceSuccess outcomes).head? = some last ∧
      elapsed nowMs last.nowMs < (limits.cooldownMs isMcp).toNat

theorem failuresSinceSuccess_snoc (outcomes : List CircuitOutcome) (outcome : CircuitOutcome) :
    failuresSinceSuccess (outcomes ++ [outcome]) =
      if outcome.succeeded then [] else outcome :: failuresSinceSuccess outcomes := by
  rw [failuresSinceSuccess, List.reverse_append, List.reverse_singleton, List.singleton_append,
    List.takeWhile_cons]
  cases outcome.succeeded <;> rfl

/-! ## Keys -/

theorem circuitKey_inj {isMcp otherMcp : Bool} {name other : String} :
    circuitKey isMcp name = circuitKey otherMcp other ↔ isMcp = otherMcp ∧ name = other := by
  have apart : ∀ first second : String,
      "metrics:circuit:server:" ++ first ≠ "metrics:circuit:tool:" ++ second :=
    Text.append_ne_append (by decide)
  constructor
  · intro same
    cases isMcp with
    | false =>
      cases otherMcp with
      | false => exact ⟨rfl, (String.append_right_inj _).mp same⟩
      | true => exact absurd same.symm (apart other name)
    | true =>
      cases otherMcp with
      | false => exact absurd same (apart name other)
      | true => exact ⟨rfl, (String.append_right_inj _).mp same⟩
  · rintro ⟨rfl, rfl⟩
    rfl

theorem toNat_countUp32 (count : UInt32) :
    (countUp32 count).toNat = min (count.toNat + 1) (2 ^ 32 - 1) := by
  rw [countUp32]
  have bounded := count.toNat_lt
  split
  · next isLast =>
    rw [isLast]
    rfl
  · next notLast =>
    have below : count.toNat ≠ 4294967295 := fun same => notLast (UInt32.toNat_inj.mp same)
    rw [UInt32.toNat_add, UInt32.toNat_one]
    omega

/-! ## What is stored -/

section Law

variable {form : JsonForm CircuitState} {limits : CircuitLimits} {isMcp : Bool} {name : String}

/-- A stored breaker as its failures since the last success make it. -/
structure Tracks (limits : CircuitLimits) (isMcp : Bool) (name : String)
    (outcomes : List CircuitOutcome) (state : CircuitState) : Prop where
  scopeKey : state.scopeKey = circuitKey isMcp name
  threshold : state.threshold = limits.threshold isMcp
  cooldownMs : state.cooldownMs = limits.cooldownMs isMcp
  failureCount : state.failureCount.toNat =
    min (failuresSinceSuccess outcomes).length (2 ^ 32 - 1)
  phase : state.phase =
    if (limits.threshold isMcp).toNat ≤ (failuresSinceSuccess outcomes).length then .open
    else .closed
  openedAtMs : state.phase = .open →
    state.openedAtMs = (failuresSinceSuccess outcomes).head?.map (·.nowMs)

theorem Tracks.default (positive : 1 ≤ limits.threshold isMcp) :
    Tracks limits isMcp name [] (defaultCircuitState limits (circuitKey isMcp name) isMcp) where
  scopeKey := rfl
  threshold := rfl
  cooldownMs := rfl
  failureCount := rfl
  phase := by
    rw [UInt32.le_iff_toNat_le, UInt32.toNat_one] at positive
    exact (if_neg (by simp only [failuresSinceSuccess, List.reverse_nil, List.takeWhile_nil,
      List.length_nil]; omega)).symm
  openedAtMs := nofun

/-- Reading a breaker changes its phase only, and never closes it. -/
theorem loadedAt_cases (state : CircuitState) (nowMs : UInt64) :
    state.loadedAt nowMs = state ∨
      (state.phase = .open ∧ state.loadedAt nowMs = { state with phase := .halfOpen }) := by
  rw [CircuitState.loadedAt]
  split
  · next isOpen _ =>
    split
    · exact Or.inr ⟨isOpen, rfl⟩
    · exact Or.inl rfl
  · exact Or.inl rfl

/-- An outcome leads from the breaker of a history to that of the longer one. -/
theorem Tracks.transition {outcomes : List CircuitOutcome} {state : CircuitState}
    (tracks : Tracks limits isMcp name outcomes state) (positive : 1 ≤ limits.threshold isMcp)
    (outcome : CircuitOutcome) :
    Tracks limits isMcp name (outcomes ++ [outcome])
      (transitionCircuitState (state.loadedAt outcome.loadedAtMs) outcome.succeeded outcome.nowMs
        outcome.reason) := by
  have bounded := (limits.threshold isMcp).toNat_lt
  rw [UInt32.le_iff_toNat_le, UInt32.toNat_one] at positive
  have kept : (state.loadedAt outcome.loadedAtMs).scopeKey = state.scopeKey ∧
      (state.loadedAt outcome.loadedAtMs).threshold = state.threshold ∧
      (state.loadedAt outcome.loadedAtMs).cooldownMs = state.cooldownMs ∧
      (state.loadedAt outcome.loadedAtMs).failureCount = state.failureCount := by
    rcases loadedAt_cases state outcome.loadedAtMs with same | ⟨-, halfOpen⟩
    · rw [same]
      exact ⟨rfl, rfl, rfl, rfl⟩
    · rw [halfOpen]
      exact ⟨rfl, rfl, rfl, rfl⟩
  obtain ⟨sameKey, sameThreshold, sameCooldown, sameCount⟩ := kept
  cases succeeded : outcome.succeeded with
  | true =>
    have none : failuresSinceSuccess (outcomes ++ [outcome]) = [] := by
      rw [failuresSinceSuccess_snoc, succeeded, if_pos rfl]
    rw [transitionCircuitState, if_pos rfl]
    refine ⟨sameKey.trans tracks.scopeKey, sameThreshold.trans tracks.threshold,
      sameCooldown.trans tracks.cooldownMs, ?_, ?_, nofun⟩
    · rw [none]
      rfl
    · rw [none, List.length_nil, if_neg (by omega)]
  | false =>
    have more : failuresSinceSuccess (outcomes ++ [outcome]) =
        outcome :: failuresSinceSuccess outcomes := by
      rw [failuresSinceSuccess_snoc, succeeded, if_neg Bool.false_ne_true]
    have counted : (countUp32 (state.loadedAt outcome.loadedAtMs).failureCount).toNat =
        min ((failuresSinceSuccess outcomes).length + 1) (2 ^ 32 - 1) := by
      rw [toNat_countUp32, sameCount, tracks.failureCount]
      omega
    have reaches : (state.loadedAt outcome.loadedAtMs).threshold ≤
        countUp32 (state.loadedAt outcome.loadedAtMs).failureCount ↔
          (limits.threshold isMcp).toNat ≤ (failuresSinceSuccess outcomes).length + 1 := by
      rw [UInt32.le_iff_toNat_le, counted, sameThreshold, tracks.threshold]
      omega
    rw [transitionCircuitState, if_neg Bool.false_ne_true]
    dsimp only
    by_cases enough : (state.loadedAt outcome.loadedAtMs).threshold ≤
        countUp32 (state.loadedAt outcome.loadedAtMs).failureCount
    · rw [if_pos enough]
      refine ⟨sameKey.trans tracks.scopeKey, sameThreshold.trans tracks.threshold,
        sameCooldown.trans tracks.cooldownMs, ?_, ?_, fun _ => ?_⟩
      · rw [more, List.length_cons]
        exact counted
      · rw [more, List.length_cons, if_pos (reaches.mp enough)]
      · rw [more]
        rfl
    · -- Below the threshold the breaker was closed, and so it was not half-open either.
      have below : ¬(limits.threshold isMcp).toNat ≤ (failuresSinceSuccess outcomes).length + 1 :=
        fun reached => enough (reaches.mpr reached)
      have wasClosed : state.phase = .closed := by
        rw [tracks.phase, if_neg (by omega)]
      have stillClosed : (state.loadedAt outcome.loadedAtMs).phase = .closed := by
        rcases loadedAt_cases state outcome.loadedAtMs with same | ⟨isOpen, -⟩
        · rw [same, wasClosed]
        · rw [wasClosed] at isOpen
          cases isOpen
      rw [if_neg enough, if_neg (by rw [stillClosed]; exact nofun)]
      refine ⟨sameKey.trans tracks.scopeKey, sameThreshold.trans tracks.threshold,
        sameCooldown.trans tracks.cooldownMs, ?_, ?_, fun isOpen => ?_⟩
      · rw [more, List.length_cons]
        exact counted
      · rw [more, List.length_cons, if_neg below]
        exact stillClosed
      · rw [stillClosed] at isOpen
        cases isOpen

section
variable (outcomes : List CircuitOutcome) (outcome : CircuitOutcome)

theorem outcomesOf_snoc :
    outcomesOf isMcp name (outcomes ++ [outcome]) =
      if outcome.key = circuitKey isMcp name then outcomesOf isMcp name outcomes ++ [outcome]
      else outcomesOf isMcp name outcomes := by
  have isOwn : outcome.key = circuitKey isMcp name ↔
      outcome.isMcp = isMcp ∧ outcome.name = name := circuitKey_inj
  rw [outcomesOf, List.filter_append]
  by_cases own : outcome.isMcp = isMcp ∧ outcome.name = name
  · rw [if_pos (isOwn.mpr own), List.filter_singleton, decide_eq_true own]
    rfl
  · rw [if_neg fun same => own (isOwn.mp same), List.filter_singleton, decide_eq_false own]
    exact List.append_nil _

theorem outcomesOf_snoc_self :
    outcomesOf outcome.isMcp outcome.name (outcomes ++ [outcome]) =
      outcomesOf outcome.isMcp outcome.name outcomes ++ [outcome] := by
  rw [outcomesOf_snoc]
  exact if_pos rfl

end

/-- What the store has of a breaker. -/
def StoresOutcomes (form : JsonForm CircuitState) (limits : CircuitLimits) (isMcp : Bool)
    (name : String) (outcomes : List CircuitOutcome) (texts : StoredTexts) : Prop :=
  (outcomesOf isMcp name outcomes = [] ∧ texts.get (circuitKey isMcp name) = none) ∨
    ∃ state, texts.get (circuitKey isMcp name) = some (form.encode state) ∧
      Tracks limits isMcp name (outcomesOf isMcp name outcomes) state

theorem recordOutcome_eq (positive : ∀ isMcp, 1 ≤ limits.threshold isMcp)
    {outcomes : List CircuitOutcome} {texts : StoredTexts} (outcome : CircuitOutcome)
    (stores : StoresOutcomes form limits outcome.isMcp outcome.name outcomes texts) :
    ∃ state, recordOutcome form limits texts outcome =
        texts.insert outcome.key (form.encode state) ∧
      Tracks limits outcome.isMcp outcome.name
        (outcomesOf outcome.isMcp outcome.name outcomes ++ [outcome]) state := by
  have writes : ∀ state : CircuitState, Tracks limits outcome.isMcp outcome.name
        (outcomesOf outcome.isMcp outcome.name outcomes) state →
      (loadCircuitState form texts outcome.key outcome.loadedAtMs).getD
        (defaultCircuitState limits outcome.key outcome.isMcp) =
          state.loadedAt outcome.loadedAtMs →
      ∃ state, recordOutcome form limits texts outcome =
          texts.insert outcome.key (form.encode state) ∧
        Tracks limits outcome.isMcp outcome.name
          (outcomesOf outcome.isMcp outcome.name outcomes ++ [outcome]) state := by
    intro state tracks loads
    have next := tracks.transition (positive _) outcome
    refine ⟨_, ?_, next⟩
    rw [recordOutcome, loads, persistCircuitState, next.scopeKey]
    rfl
  rcases stores with ⟨empty, unstored⟩ | ⟨state, isStored, tracks⟩
  · refine writes (defaultCircuitState limits outcome.key outcome.isMcp) ?_ ?_
    · rw [empty]
      exact Tracks.default (positive _)
    · have unloaded : texts.get outcome.key = none := unstored
      rw [loadCircuitState, unloaded]
      rfl
  · refine writes state tracks ?_
    have isText : texts.get outcome.key = some (form.encode state) := isStored
    rw [loadCircuitState, isText, bind_some, form.decode_encode]
    rfl

theorem stores_recordAll (positive : ∀ isMcp, 1 ≤ limits.threshold isMcp)
    (outcomes : List CircuitOutcome) :
    ∀ isMcp name,
      StoresOutcomes form limits isMcp name outcomes (recordAll form limits outcomes) := by
  induction outcomes using List.reverseRecOn with
  | nil => exact fun _ _ => Or.inl ⟨rfl, rfl⟩
  | append_singleton outcomes outcome ih =>
    intro isMcp name
    have shape : recordAll form limits (outcomes ++ [outcome]) =
        recordOutcome form limits (recordAll form limits outcomes) outcome := by
      rw [recordAll, List.foldl_append]
      rfl
    obtain ⟨state, records, tracks⟩ :=
      recordOutcome_eq positive outcome (ih outcome.isMcp outcome.name)
    rw [StoresOutcomes, shape, records, outcomesOf_snoc, Table.get_insert]
    by_cases own : outcome.key = circuitKey isMcp name
    · obtain ⟨sameKind, sameName⟩ := circuitKey_inj.mp own
      rw [if_pos own, if_pos own.symm]
      refine Or.inr ⟨state, rfl, ?_⟩
      rwa [sameKind, sameName] at tracks
    · rw [if_neg own, if_neg (Ne.symm own)]
      exact ih isMcp name

theorem Tracks.blocks {outcomes : List CircuitOutcome} {state : CircuitState}
    (tracks : Tracks limits isMcp name outcomes state) (positive : 1 ≤ limits.threshold isMcp)
    (nowMs : UInt64) :
    (circuitBlockReason (state.loadedAt nowMs) nowMs).isSome = true ↔
      OpenAt limits isMcp outcomes nowMs := by
  rw [UInt32.le_iff_toNat_le, UInt32.toNat_one] at positive
  by_cases enough : (limits.threshold isMcp).toNat ≤ (failuresSinceSuccess outcomes).length
  · have isOpen : state.phase = .open := by rw [tracks.phase, if_pos enough]
    obtain ⟨last, rest, failures⟩ := List.exists_cons_of_length_pos
      (show 0 < (failuresSinceSuccess outcomes).length by omega)
    have openedAt := tracks.openedAtMs isOpen
    rw [failures, List.head?_cons, map_some] at openedAt
    have openAt : OpenAt limits isMcp outcomes nowMs ↔
        elapsed nowMs last.nowMs < (limits.cooldownMs isMcp).toNat := by
      rw [OpenAt, and_iff_right enough, failures, List.head?_cons]
      simp
    rw [openAt, ← tracks.cooldownMs]
    have loads : state.loadedAt nowMs =
        if state.cooldownMs.toNat ≤ elapsed nowMs last.nowMs then
          { state with phase := .halfOpen } else state := by
      rw [CircuitState.loadedAt]
      simp only [isOpen, openedAt]
    rw [loads]
    by_cases past : state.cooldownMs.toNat ≤ elapsed nowMs last.nowMs
    · rw [if_pos past]
      exact iff_of_false nofun (Nat.not_lt.mpr past)
    · rw [if_neg past, circuitBlockReason, isOpen]
      simp only [openedAt, getD_some]
      rw [if_neg past]
      exact iff_of_true rfl (Nat.not_le.mp past)
  · have isClosed : state.phase = .closed := by rw [tracks.phase, if_neg enough]
    have same : state.loadedAt nowMs = state := by
      rcases loadedAt_cases state nowMs with same | ⟨isOpen, -⟩
      · exact same
      · rw [isClosed] at isOpen
        cases isOpen
    rw [same, circuitBlockReason, isClosed]
    exact iff_of_false nofun fun openAt => enough openAt.1

section
variable (positive : ∀ isMcp, 1 ≤ limits.threshold isMcp) (outcomes : List CircuitOutcome)
include positive

theorem blockReasonAt_iff (isMcp : Bool) (name : String) (nowMs : UInt64) :
    (blockReasonAt form (recordAll form limits outcomes) (circuitKey isMcp name) nowMs).isSome =
        true ↔
      OpenAt limits isMcp (outcomesOf isMcp name outcomes) nowMs := by
  rw [blockReasonAt, loadCircuitState]
  have stores : StoresOutcomes form limits isMcp name outcomes (recordAll form limits outcomes) :=
    stores_recordAll positive outcomes isMcp name
  rcases stores with
    ⟨empty, unstored⟩ | ⟨state, isStored, tracks⟩
  · rw [empty, unstored]
    refine iff_of_false nofun ?_
    rintro ⟨-, last, isLast, -⟩
    cases isLast
  · rw [isStored, bind_some, form.decode_encode, map_some, bind_some]
    exact tracks.blocks (positive isMcp) nowMs

theorem closed_of_success {outcome : CircuitOutcome}
    (succeeded : outcome.succeeded = true) (nowMs : UInt64) :
    ∃ state, loadCircuitState form (recordAll form limits (outcomes ++ [outcome])) outcome.key
      nowMs = some state ∧ state.phase = .closed := by
  have stores : StoresOutcomes form limits outcome.isMcp outcome.name (outcomes ++ [outcome])
      (recordAll form limits (outcomes ++ [outcome])) := stores_recordAll positive _ _ _
  rw [StoresOutcomes, outcomesOf_snoc_self] at stores
  rcases stores with ⟨empty, -⟩ | ⟨state, isStored, tracks⟩
  · exact absurd empty (by simp)
  · have none : failuresSinceSuccess
        (outcomesOf outcome.isMcp outcome.name outcomes ++ [outcome]) = [] := by
      rw [failuresSinceSuccess_snoc, succeeded, if_pos rfl]
    have reaches := positive outcome.isMcp
    rw [UInt32.le_iff_toNat_le, UInt32.toNat_one] at reaches
    have isClosed : state.phase = .closed := by
      rw [tracks.phase, none, List.length_nil, if_neg (by omega)]
    have isText : (recordAll form limits (outcomes ++ [outcome])).get outcome.key =
        some (form.encode state) := isStored
    refine ⟨state.loadedAt nowMs, ?_, ?_⟩
    · rw [loadCircuitState, isText, bind_some, form.decode_encode]
      rfl
    · rcases loadedAt_cases state nowMs with same | ⟨isOpen, -⟩
      · rw [same, isClosed]
      · rw [isClosed] at isOpen
        cases isOpen

theorem reopens_of_halfOpen {outcome : CircuitOutcome}
    (failed : outcome.succeeded = false) {state : CircuitState}
    (loads : loadCircuitState form (recordAll form limits outcomes) outcome.key
      outcome.loadedAtMs = some state) (halfOpen : state.phase = .halfOpen) (nowMs : UInt64) :
    (blockReasonAt form (recordAll form limits (outcomes ++ [outcome])) outcome.key
        nowMs).isSome = true ↔
      elapsed nowMs outcome.nowMs < (limits.cooldownMs outcome.isMcp).toNat := by
  have stores : StoresOutcomes form limits outcome.isMcp outcome.name outcomes
      (recordAll form limits outcomes) := stores_recordAll positive _ _ _
  have enough : (limits.threshold outcome.isMcp).toNat ≤
      (failuresSinceSuccess (outcomesOf outcome.isMcp outcome.name outcomes)).length := by
    rcases stores with ⟨-, unstored⟩ | ⟨stored, isStored, tracks⟩
    · have unloaded : (recordAll form limits outcomes).get outcome.key = none := unstored
      rw [loadCircuitState, unloaded] at loads
      cases loads
    · have isText : (recordAll form limits outcomes).get outcome.key =
          some (form.encode stored) := isStored
      rw [loadCircuitState, isText, bind_some, form.decode_encode, map_some] at loads
      cases loads
      by_contra few
      have isClosed : stored.phase = .closed := by rw [tracks.phase, if_neg few]
      rcases loadedAt_cases stored outcome.loadedAtMs with same | ⟨isOpen, -⟩
      · rw [same, isClosed] at halfOpen
        cases halfOpen
      · rw [isClosed] at isOpen
        cases isOpen
  have more : failuresSinceSuccess (outcomesOf outcome.isMcp outcome.name (outcomes ++ [outcome])) =
      outcome :: failuresSinceSuccess (outcomesOf outcome.isMcp outcome.name outcomes) := by
    rw [outcomesOf_snoc_self, failuresSinceSuccess_snoc, failed, if_neg Bool.false_ne_true]
  rw [CircuitOutcome.key, blockReasonAt_iff positive, OpenAt, more, List.length_cons,
    List.head?_cons, and_iff_right (by omega)]
  simp

end

end Law

section Example

deriving instance Encodable for CircuitPhase, CircuitState

def numberedCircuit : JsonForm CircuitState := ⟨numberText, ofNumberText, ofNumberText_numberText⟩

def twoFailures : List CircuitOutcome :=
  [⟨false, "tool", false, 1000, 1000, "failed"⟩, ⟨false, "tool", false, 2000, 2000, "failed"⟩]

end Example

end AutoLoop.Runtime
