import AutoLoop.Foundation.Component
import AutoLoop.Transport.RemoteSession

/-!
# Runs of remote sessions

Sequences of calls, beside the history of what they issued, validated, started and
stopped.
-/

namespace AutoLoop.Transport

inductive RemoteCall where
  | issueToken (nowMs : UInt64) (sessionId subject tenantId : String) (ttlMs : UInt64)
  | validateToken (nowMs : UInt64) (sessionId jwtToken : String)
  | remoteStart (clock : StartClock) (sessionId transportKind jwtToken : String)
      (ttlMs : UInt64)
  | remoteStop (nowMs : UInt64) (sessionId : String)
  | ingestEnvelope (nowMs : UInt64) (envelope : TransportEnvelope)

structure StoredCall where
  call : RemoteCall
  store : StoreAnswers

inductive RemoteAnswer where
  | token (result : Except String String)
  | claims (result : Except String JwtSessionClaims)
  | status (result : Except String BridgeRuntimeStatus)
  | taken (result : Except String Unit)

inductive RemoteEvent where
  | issued (sessionId jwtToken : String) (exp : UInt64)
  | validated (jwtToken : String)
  | started (sessionId : String) (expiresAtMs exp : UInt64)
  | stopped (sessionId : String)
  deriving DecidableEq, Repr

/-- A runner, with what happened so far, the latest first. -/
structure RemoteWorld where
  runner : RemoteSessionRunner
  history : List RemoteEvent

def RemoteWorld.start : RemoteWorld where
  runner := ⟨.empty, .empty, []⟩
  history := []

namespace RemoteCall

open RemoteSessionRunner

variable (codec : TokenCodec) (policy : JwtPolicy)

section
variable (store : StoreAnswers) (runner : RemoteSessionRunner)

def perform :
    RemoteCall → RemoteAnswer × RemoteSessionRunner
  | .issueToken nowMs sessionId subject tenantId ttlMs =>
    let result := RemoteSessionRunner.issueToken codec policy store nowMs sessionId subject
      tenantId ttlMs runner
    (.token result.1, result.2)
  | .validateToken nowMs sessionId jwtToken =>
    let result := RemoteSessionRunner.validateToken codec policy nowMs sessionId jwtToken runner
    (.claims result.1, result.2)
  | .remoteStart clock sessionId transportKind jwtToken ttlMs =>
    let result := RemoteSessionRunner.remoteStart codec policy store clock sessionId
      transportKind jwtToken ttlMs runner
    (.status result.1, result.2)
  | .remoteStop nowMs sessionId =>
    let result := RemoteSessionRunner.remoteStop store nowMs sessionId runner
    (.status result.1, result.2)
  | .ingestEnvelope _ envelope =>
    let result := onBridge (TransportBridgeRuntime.ingestEnvelope store envelope) runner
    (.taken result.1, result.2)

/-- What a call leaves in the history: tokens returned, tokens accepted, bridges started
with an accepted token, and stops that reached the bridge. -/
def events : RemoteCall → List RemoteEvent
  | .issueToken nowMs sessionId subject tenantId ttlMs =>
    match (RemoteSessionRunner.issueToken codec policy store nowMs sessionId subject tenantId
        ttlMs runner).1 with
    | .ok token =>
      [.issued sessionId token (issuedClaims policy nowMs sessionId subject tenantId ttlMs).exp]
    | .error _ => []
  | .validateToken nowMs sessionId jwtToken =>
    match admittedClaims codec policy runner nowMs sessionId jwtToken with
    | .ok _ => [.validated jwtToken]
    | .error _ => []
  | .remoteStart clock sessionId _ jwtToken ttlMs =>
    match admittedClaims codec policy runner clock.validateMs sessionId jwtToken with
    | .ok claims =>
      [.started sessionId
          (saturatingAdd clock.bridgeMs (bridgeTtl claims clock.boundMs ttlMs)) claims.exp,
        .validated jwtToken]
    | .error _ => []
  | .remoteStop nowMs sessionId =>
    match (onBridge (TransportBridgeRuntime.recordRemoteAudit store nowMs sessionId) runner).1 with
    | .ok _ => [.stopped sessionId]
    | .error _ => []
  | .ingestEnvelope _ _ => []

end

def act (world : RemoteWorld) (stored : StoredCall) : RemoteAnswer × RemoteWorld :=
  let result := perform codec policy stored.store world.runner stored.call
  (result.1, ⟨result.2, events codec policy stored.store world.runner stored.call ++ world.history⟩)

end RemoteCall

def remoteSessions (codec : TokenCodec) (policy : JwtPolicy) :
    Component RemoteWorld StoredCall RemoteAnswer where
  initial := .start
  step := RemoteCall.act codec policy

namespace RemoteSessionRunner

variable {codec : TokenCodec} {policy : JwtPolicy} {store : StoreAnswers}
variable {runner : RemoteSessionRunner} {nowMs : UInt64} {sessionId jwtToken : String}

/-! ## What the calls change -/

theorem admit_eq_ok {claims : JwtSessionClaims} :
    admittedClaims codec policy runner nowMs sessionId jwtToken = .ok claims ↔
      codec.decode jwtToken = .ok claims ∧ saturatingSub (nowMs / 1000) 60 ≤ claims.exp ∧
        claims.iss = policy.issuer ∧ claims.aud = policy.audience ∧
        claims.sessionId = sessionId ∧ nowMs / 1000 < claims.exp ∧
        (∀ record, runner.sessions.get sessionId = some record → record.token = jwtToken) ∧
        claims.jti ∉ runner.consumedJti := by
  simp only [admittedClaims, decodeClaims, libraryChecks, Check.bind_eq_ok, Check.require_eq_ok,
    Check.exists_unit, pure, Except.pure, Except.ok.injEq, Option.mem_def]
  constructor
  · intro admitted
    obtain ⟨found, ⟨same, decoded, ⟨leeway, iss, aud⟩, rfl⟩, session, exp, -, latest, fresh,
      rfl⟩ := admitted
    exact ⟨decoded, leeway, iss, aud, session, exp, latest, fresh⟩
  · intro checks
    obtain ⟨decoded, leeway, iss, aud, session, exp, latest, fresh⟩ := checks
    exact ⟨claims, ⟨claims, decoded, ⟨leeway, iss, aud⟩, rfl⟩, session, exp, ⟨iss, aud⟩, latest,
      fresh, rfl⟩

theorem leeway_of_lt {exp : UInt64} (unexpired : nowMs / 1000 < exp) :
    saturatingSub (nowMs / 1000) 60 ≤ exp := by
  rw [UInt64.le_iff_toNat_le, toNat_saturatingSub]
  rw [UInt64.lt_iff_toNat_lt] at unexpired
  omega

theorem validateToken_of_ok {claims : JwtSessionClaims}
    (admitted : admittedClaims codec policy runner nowMs sessionId jwtToken = .ok claims) :
    validateToken codec policy nowMs sessionId jwtToken runner =
      (.ok claims, { runner with consumedJti := claims.jti :: runner.consumedJti }) := by
  simp only [validateToken, admitted]

theorem validateToken_of_error {error : String}
    (refused : admittedClaims codec policy runner nowMs sessionId jwtToken = .error error) :
    validateToken codec policy nowMs sessionId jwtToken runner = (.error error, runner) := by
  simp only [validateToken, refused]

/-- A bridge call leaves the tokens alone. -/
theorem onBridge_apply {α : Type} (action : Effect BridgeEntries α) :
    onBridge action runner =
      ((action runner.bridge).1, { runner with bridge := (action runner.bridge).2 }) := rfl

end RemoteSessionRunner

end AutoLoop.Transport
