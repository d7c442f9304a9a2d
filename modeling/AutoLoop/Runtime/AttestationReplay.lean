import AutoLoop.Foundation.Component
import AutoLoop.Foundation.HashMap
import AutoLoop.Foundation.Text
import AutoLoop.Foundation.Word

/-!
# One-time attestation challenges

Challenges are reserved under a digest of their scope and nonce until they expire.  A
reservation ends when the clock reaches the expiry, one reading before the challenge has
expired, and scopes are told apart only by their text with colons.
-/

namespace AutoLoop.Runtime

/-- What a challenge is reserved for. -/
structure ChallengeScope where
  tenantId : String
  workspace : String
  executionId : String
  nonce : String
  deriving DecidableEq, Repr

def ChallengeScope.text (scope : ChallengeScope) : String :=
  Text.joinWith ':' [scope.tenantId, scope.workspace, scope.executionId, scope.nonce]

structure AttestationChallenge where
  nonce : String
  expectedBinding : String
  issuedAtMs : UInt64
  expiresAtMs : UInt64
  tenantScope : String
  sessionScope : String
  oneTimeKey : String

/-- A call to verify, with the readings of the clock on its way. -/
structure AttestationCall where
  backend : String
  required : Bool
  requireNonce : Bool
  evidenceTtlMs : UInt64
  executionId : String
  traceId : String
  tenantId : String
  workspace : String
  principal : String
  /-- `AUTOLOOP_ATTESTATION_NONCE`. -/
  fixedNonce : Option String
  issuedAtMs : UInt64
  checkedAtMs : UInt64
  reservedAtMs : UInt64

structure ReplayProtection where
  usedChallenges : HashMap String UInt64
  counter : UInt64
  accepted : List (ChallengeScope × UInt64)
  clock : UInt64

/-- `HashMap::retain` of what has not expired. -/
def liveChallenges (now : UInt64) (used : HashMap String UInt64) : HashMap String UInt64 :=
  fun key => (used.get key).filter (now < ·)

theorem get_liveChallenges {now expires : UInt64} {used : HashMap String UInt64} {key : String} :
    (liveChallenges now used).get key = some expires ↔
      used.get key = some expires ∧ now < expires := by
  refine Option.filter_eq_some_iff.trans ?_
  simp

section

variable (digestHex : String → String)

def buildAttestationChallenge (counter : UInt64) (call : AttestationCall) :
    AttestationChallenge × UInt64 :=
  let fixed := call.fixedNonce.filter (Text.trim · ≠ "")
  let nonce := fixed.getD (digestHex (Text.joinWith ':'
    [call.executionId, call.traceId, call.tenantId, call.workspace,
      call.issuedAtMs.toNat.repr, counter.toNat.repr]))
  ({ nonce
     expectedBinding := digestHex (Text.joinWith ':' [call.backend, call.executionId,
       call.traceId, call.tenantId, call.workspace, call.principal, nonce])
     issuedAtMs := call.issuedAtMs
     expiresAtMs := saturatingAdd call.issuedAtMs call.evidenceTtlMs
     tenantScope := call.tenantId
     sessionScope := call.workspace
     oneTimeKey := digestHex
       (ChallengeScope.text ⟨call.tenantId, call.workspace, call.executionId, nonce⟩) },
    if fixed.isNone then counter + 1 else counter)

def reserveOneTimeChallenge (now : UInt64) (used : HashMap String UInt64)
    (challenge : AttestationChallenge) : Except String Unit × HashMap String UInt64 :=
  let live := liveChallenges now used
  if (live.get challenge.oneTimeKey).isSome then
    (.error "policy_reject::attestation_replay::challenge replay detected for tenant/session scope",
      live)
  else (.ok (), live.insert challenge.oneTimeKey challenge.expiresAtMs)

section
variable (state : ReplayProtection) (call : AttestationCall)

/-- The challenge of a call, the scope it is for and the reservation the call comes to. -/
def builtChallenge : AttestationChallenge :=
  (buildAttestationChallenge digestHex state.counter call).1

def challengeScope : ChallengeScope :=
  ⟨call.tenantId, call.workspace, call.executionId, (builtChallenge digestHex state call).nonce⟩

def reservation :
    Except String Unit × HashMap String UInt64 :=
  reserveOneTimeChallenge call.reservedAtMs state.usedChallenges
    (builtChallenge digestHex state call)

/-- A call passes the checks before the reservation. -/
def Reserves : Prop :=
  let challenge := builtChallenge digestHex state call
  call.required = true ∧ ¬(call.requireNonce = true ∧ Text.trim challenge.nonce = "") ∧
    ¬call.checkedAtMs > challenge.expiresAtMs

end

instance (state : ReplayProtection) (call : AttestationCall) :
    Decidable (Reserves digestHex state call) :=
  inferInstanceAs (Decidable (_ ∧ _))

/-- `verify_attestation_legacy` up to the evidence of the backend. -/
def verifyAttestationLegacy (state : ReplayProtection) (call : AttestationCall) :
    Except String Unit × ReplayProtection :=
  let (challenge, counter) := buildAttestationChallenge digestHex state.counter call
  if ¬call.required then (.ok (), state)
  else if call.requireNonce ∧ Text.trim challenge.nonce = "" then
    (.error ("policy_reject::attestation_nonce::" ++
      "attestation policy requires nonce but challenge nonce is missing"),
      { state with counter })
  else if call.checkedAtMs > challenge.expiresAtMs then
    (.error ("policy_reject::attestation_ttl::" ++
      "attestation challenge expired before verification"), { state with counter })
  else
    let (answer, usedChallenges) := reservation digestHex state call
    (answer,
      { usedChallenges
        counter
        accepted :=
          if answer.isOk then
            (challengeScope digestHex state call, challenge.expiresAtMs) :: state.accepted
          else state.accepted
        clock := call.reservedAtMs })

def replayProtection : Component ReplayProtection AttestationCall (Except String Unit) where
  initial := ⟨.empty, 0, [], 0⟩
  step := verifyAttestationLegacy digestHex

/-! ## What one-time means -/

section
variable (state : ReplayProtection) (call : AttestationCall)

/-- No challenge is accepted while one of its scope has not expired, and none is rejected
but for one of its scope. -/
def OneTime : Prop :=
  Reserves digestHex state call →
    ((reservation digestHex state call).1.isOk = true →
      ∀ other ∈ state.accepted, other.1 = challengeScope digestHex state call →
        call.reservedAtMs > other.2) ∧
    ((reservation digestHex state call).1.isOk = false →
      ∃ other ∈ state.accepted, other.1 = challengeScope digestHex state call ∧
        call.reservedAtMs < other.2)

/-- A challenge of the scope is still reserved, or else none of the scope expires just now
and none of another scope with the same text is still reserved. -/
def Apart : Prop :=
  Reserves digestHex state call →
    (∃ other ∈ state.accepted, other.1 = challengeScope digestHex state call ∧
      call.reservedAtMs < other.2) ∨
    ∀ other ∈ state.accepted,
      (other.1 = challengeScope digestHex state call → other.2 ≠ call.reservedAtMs) ∧
      (other.1.text = (challengeScope digestHex state call).text →
        ¬call.reservedAtMs < other.2)

/-- The clock of the reservations does not go back. -/
def Onward : Prop :=
  state.clock ≤ call.reservedAtMs

/-- An accepted challenge with the key of the call's has not expired. -/
def Taken : Prop :=
  ∃ other ∈ state.accepted,
    digestHex other.1.text = digestHex (challengeScope digestHex state call).text ∧
      call.reservedAtMs < other.2

end

def KeepsTrack (state : ReplayProtection) : Prop :=
  ∀ (key : String) (now : UInt64), state.clock ≤ now →
    ((∃ expires, state.usedChallenges.get key = some expires ∧ now < expires) ↔
      ∃ other ∈ state.accepted, digestHex other.1.text = key ∧ now < other.2)

variable {digestHex} {state : ReplayProtection} {call : AttestationCall}

section
variable (tracks : KeepsTrack digestHex state) (onward : Onward state call)
include tracks onward

theorem reservation_cases :
    ((reservation digestHex state call).1.isOk = false ∧
      (reservation digestHex state call).2 =
        liveChallenges call.reservedAtMs state.usedChallenges ∧ Taken digestHex state call) ∨
    ((reservation digestHex state call).1.isOk = true ∧
      (reservation digestHex state call).2 =
        (liveChallenges call.reservedAtMs state.usedChallenges).insert
          (digestHex (challengeScope digestHex state call).text)
          (builtChallenge digestHex state call).expiresAtMs ∧ ¬Taken digestHex state call) := by
  rw [Taken, ← tracks _ _ onward, reservation, reserveOneTimeChallenge]
  split
  · next held =>
    obtain ⟨expires, found⟩ := Option.isSome_iff_exists.mp held
    exact Or.inl ⟨rfl, rfl, expires, get_liveChallenges.mp found⟩
  · next free =>
    refine Or.inr ⟨rfl, rfl, ?_⟩
    rintro ⟨expires, isUsed⟩
    exact free (Option.isSome_iff_exists.mpr ⟨expires, get_liveChallenges.mpr isUsed⟩)

theorem KeepsTrack.reserved (counter : UInt64) :
    KeepsTrack digestHex
      { usedChallenges := (reservation digestHex state call).2
        counter
        accepted :=
          if (reservation digestHex state call).1.isOk then
            (challengeScope digestHex state call,
              (builtChallenge digestHex state call).expiresAtMs) :: state.accepted
          else state.accepted
        clock := call.reservedAtMs } := by
  intro key now later
  have live : (∃ expires, (liveChallenges call.reservedAtMs state.usedChallenges).get key =
        some expires ∧ now < expires) ↔
      ∃ other ∈ state.accepted, digestHex other.1.text = key ∧ now < other.2 := by
    rw [← tracks key now (UInt64.le_trans onward later)]
    refine exists_congr fun expires => and_congr_left fun before => ?_
    rw [get_liveChallenges]
    exact and_iff_left (UInt64.lt_of_le_of_lt later before)
  obtain ⟨rejected, same, -⟩ | ⟨accepted, inserted, free⟩ := reservation_cases tracks onward
  · simp only [rejected, same]
    exact live
  · simp only [accepted, inserted, if_true, HashMap.get_insert, List.exists_mem_cons_iff]
    split
    · next isKey =>
      have none : ¬∃ other ∈ state.accepted, digestHex other.1.text = key ∧ now < other.2 := by
        rintro ⟨other, old, sameKey, before⟩
        exact free ⟨other, old, sameKey.trans isKey, UInt64.lt_of_le_of_lt later before⟩
      rw [or_iff_left none, and_iff_right isKey.symm]
      simp
    · next apart =>
      rw [live, or_iff_right]
      exact fun taken => apart taken.1.symm

theorem KeepsTrack.step :
    KeepsTrack digestHex (verifyAttestationLegacy digestHex state call).2 := by
  unfold verifyAttestationLegacy
  simp only
  split
  · exact tracks
  · split
    · exact tracks
    · split
      · exact tracks
      · exact tracks.reserved onward _

end

theorem oneTime_iff_apart (injective : Function.Injective digestHex)
    (tracks : KeepsTrack digestHex state) (onward : Onward state call) :
    OneTime digestHex state call ↔ Apart digestHex state call := by
  refine forall_congr' fun _ => ?_
  obtain ⟨rejected, -, other, membership, sameText, live⟩ | ⟨accepted, -, free⟩ :=
    reservation_cases tracks onward
  · simp only [rejected, forall_const, Bool.false_eq_true, false_imp_iff, true_and]
    refine ⟨Or.inl, fun apart => apart.elim id fun none => ?_⟩
    exact absurd live ((none other membership).2 (injective sameText))
  · have unheld : ∀ other ∈ state.accepted,
        other.1.text = (challengeScope digestHex state call).text →
          ¬call.reservedAtMs < other.2 := fun other membership sameText live =>
      free ⟨other, membership, congrArg digestHex sameText, live⟩
    simp only [accepted, forall_const, Bool.true_eq_false, false_imp_iff, and_true]
    refine ⟨fun expired => Or.inr fun other membership =>
      ⟨fun same expires => ?_, unheld other membership⟩, ?_⟩
    · exact UInt64.lt_irrefl _ (expires ▸ expired other membership same)
    · rintro (⟨other, membership, same, live⟩ | none) other' membership' same'
      · exact absurd live (unheld other membership (congrArg ChallengeScope.text same))
      · refine UInt64.lt_of_le_of_ne ?_ ((none other' membership').1 same')
        exact UInt64.not_lt.mp (unheld other' membership' (congrArg ChallengeScope.text same'))

end

def fixedCall (tenantId workspace : String) (atMs : UInt64) : AttestationCall :=
  ⟨"env", true, true, 10, "run", "trace", tenantId, workspace, "user", some "nonce", atMs, atMs,
    atMs⟩

end AutoLoop.Runtime
