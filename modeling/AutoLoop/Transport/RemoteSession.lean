import AutoLoop.Foundation.Check
import AutoLoop.Foundation.Effect
import AutoLoop.Foundation.Table
import AutoLoop.Foundation.Text
import AutoLoop.Foundation.Word

/-!
# The transport bridge

The bridge keeps one entry for every session that was started.  A stop marks the entry;
an envelope is taken as long as the entry is running.
-/

namespace AutoLoop.Transport

inductive TransportKind where
  | cli
  | webSocket
  | sse
  | webhook
  | sdk
  deriving DecidableEq, Repr

structure BridgeSessionDescriptor where
  sessionId : String
  bridgeId : String
  transportKind : TransportKind
  authSubject : String
  tenantId : String
  connectedAtMs : UInt64
  expiresAtMs : UInt64
  deriving DecidableEq, Repr

structure BridgeRuntimeEntry where
  descriptor : BridgeSessionDescriptor
  running : Bool
  bufferedMessages : Nat
  startedAtMs : UInt64
  stoppedAtMs : Option UInt64
  deriving DecidableEq, Repr

structure BridgeRuntimeStatus where
  sessionId : String
  running : Bool
  descriptor : Option BridgeSessionDescriptor
  bufferedMessages : Nat
  startedAtMs : Option UInt64
  stoppedAtMs : Option UInt64
  deriving DecidableEq, Repr

/-- The parts of an envelope that name its record. -/
structure TransportEnvelope where
  sessionId : String
  messageId : String
  deriving DecidableEq, Repr

/-- What the state store answers to the write of a key. -/
abbrev StoreAnswers := String → Except String Unit

abbrev BridgeEntries := Table String BridgeRuntimeEntry

def parseTransportKind (value : String) : TransportKind :=
  match Text.toAsciiLowercase value with
  | "cli" => .cli
  | "sse" => .sse
  | "ws" | "websocket" => .webSocket
  | "webhook" => .webhook
  | "sdk" => .sdk
  | _ => .cli

def sanitizeSessionId (sessionId : String) : String :=
  String.ofList (sessionId.toList.map fun char => if char.isAlphanum then char else '-')

namespace TransportBridgeRuntime

variable (store : StoreAnswers)

def status (sessionId : String) : Effect BridgeEntries BridgeRuntimeStatus := fun entries =>
  (.ok (match entries.get sessionId with
    | some entry =>
      { sessionId
        running := entry.running
        descriptor := some entry.descriptor
        bufferedMessages := entry.bufferedMessages
        startedAtMs := some entry.startedAtMs
        stoppedAtMs := entry.stoppedAtMs }
    | none =>
      { sessionId
        running := false
        descriptor := none
        bufferedMessages := 0
        startedAtMs := none
        stoppedAtMs := none }), entries)

def persistStatus (sessionId : String) : Effect BridgeEntries Unit :=
  Effect.ofExcept (store ("transport:bridge:" ++ sessionId ++ ":status"))

def newDescriptor (sessionId : String) (kind : TransportKind) (authSubject tenantId : String)
    (nowMs ttlMs : UInt64) : BridgeSessionDescriptor where
  sessionId
  bridgeId := "bridge:" ++ sanitizeSessionId sessionId ++ ":" ++ nowMs.toNat.repr
  transportKind := kind
  authSubject
  tenantId
  connectedAtMs := nowMs
  expiresAtMs := saturatingAdd nowMs ttlMs

def newEntry (descriptor : BridgeSessionDescriptor) (nowMs : UInt64) : BridgeRuntimeEntry where
  descriptor
  running := true
  bufferedMessages := 0
  startedAtMs := nowMs
  stoppedAtMs := none

def start (nowMs : UInt64) (sessionId : String) (kind : TransportKind)
    (authSubject tenantId : String) (ttlMs : UInt64) :
    Effect BridgeEntries BridgeRuntimeStatus := do
  Effect.modify fun entries => entries.insert sessionId
    (newEntry (newDescriptor sessionId kind authSubject tenantId nowMs ttlMs) nowMs)
  persistStatus store sessionId
  status sessionId

/-- `get_mut` of an entry. -/
def change (sessionId : String) (update : BridgeRuntimeEntry → BridgeRuntimeEntry)
    (entries : BridgeEntries) : BridgeEntries :=
  match entries.get sessionId with
  | some entry => entries.insert sessionId (update entry)
  | none => entries

def stop (nowMs : UInt64) (sessionId : String) : Effect BridgeEntries BridgeRuntimeStatus := do
  Effect.modify (change sessionId fun entry =>
    { entry with running := false, stoppedAtMs := some nowMs })
  persistStatus store sessionId
  status sessionId

def ingestEnvelope (envelope : TransportEnvelope) : Effect BridgeEntries Unit := do
  let current ← status envelope.sessionId
  if !current.running then
    Effect.fail ("bridge session '" ++ envelope.sessionId ++ "' is not running")
  else
    Effect.modify (change envelope.sessionId fun entry =>
      { entry with bufferedMessages := entry.bufferedMessages + 1 })
    Effect.ofExcept (store
      ("transport:envelope:" ++ envelope.sessionId ++ ":" ++ envelope.messageId))
    persistStatus store envelope.sessionId

def recordRemoteAudit (nowMs : UInt64) (sessionId : String) : Effect BridgeEntries Unit :=
  Effect.ofExcept (store ("transport:remote-audit:" ++ sessionId ++ ":" ++ nowMs.toNat.repr))

end TransportBridgeRuntime

end AutoLoop.Transport

/-!
## Remote sessions

A runner issues signed session tokens and remembers the last one of each session.  A
token is validated against that record and its identifier is consumed.
-/

namespace AutoLoop.Transport

open TransportBridgeRuntime Check

structure JwtSessionClaims where
  iss : String
  aud : String
  sub : String
  jti : String
  exp : UInt64
  iat : UInt64
  nbf : UInt64
  sessionId : String
  tenantId : String
  policyVersion : String
  deriving DecidableEq, Repr

/-- What of the policy the claims are checked against. -/
structure JwtPolicy where
  issuer : String
  audience : String
  maxTtlMs : UInt64
  deriving DecidableEq, Repr

/-- The token library under the key of the policy: signing, and reading what was signed. -/
structure TokenCodec where
  encode : JwtSessionClaims → Except String String
  decode : String → Except String JwtSessionClaims

/-- Reading accepts exactly the encoded claims. -/
def TokenCodec.Faithful (codec : TokenCodec) : Prop :=
  ∀ token claims, codec.decode token = .ok claims ↔ codec.encode claims = .ok token

structure RemoteSessionRecord where
  claims : JwtSessionClaims
  token : String
  deriving DecidableEq, Repr

structure RemoteSessionRunner where
  bridge : BridgeEntries
  sessions : Table String RemoteSessionRecord
  consumedJti : List String

/-- `saturating_mul`. -/
def saturatingMul (left right : UInt64) : UInt64 :=
  .ofNat (min (left.toNat * right.toNat) u64Max)

structure StartClock where
  validateMs : UInt64
  boundMs : UInt64
  bridgeMs : UInt64
  deriving DecidableEq, Repr

namespace RemoteSessionRunner

variable (codec : TokenCodec) (policy : JwtPolicy) (store : StoreAnswers)

def onBridge {α : Type} (action : Effect BridgeEntries α) : Effect RemoteSessionRunner α :=
  Effect.zoom bridge (fun bridge runner => { runner with bridge }) action

/-! ## Issuing -/

def jti (sessionId : String) (nowMs : UInt64) : String :=
  "jti:" ++ sessionId ++ ":" ++ nowMs.toNat.repr

section
variable (nowMs : UInt64) (sessionId subject tenantId : String) (ttlMs : UInt64)

def issuedClaims :
    JwtSessionClaims where
  iss := policy.issuer
  aud := policy.audience
  sub := subject
  jti := jti sessionId nowMs
  exp := (nowMs + max (min ttlMs policy.maxTtlMs) 30000) / 1000
  iat := nowMs / 1000
  nbf := nowMs / 1000
  sessionId
  tenantId
  policyVersion := "v1"

def issueToken :
    Effect RemoteSessionRunner String := do
  let claims := issuedClaims policy nowMs sessionId subject tenantId ttlMs
  let token ← Effect.ofExcept (codec.encode claims)
  Effect.modify fun runner =>
    { runner with sessions := runner.sessions.insert sessionId ⟨claims, token⟩ }
  onBridge (recordRemoteAudit store nowMs sessionId)
  return token

end

/-! ## Validating -/

/-- The library's own checks: expiry with a minute of leeway, issuer and audience. -/
def libraryChecks (nowMs : UInt64) (claims : JwtSessionClaims) : Except String Unit := do
  require (saturatingSub (nowMs / 1000) 60 ≤ claims.exp) "ExpiredSignature"
  require (claims.iss = policy.issuer) "InvalidIssuer"
  require (claims.aud = policy.audience) "InvalidAudience"

def decodeClaims (nowMs : UInt64) (token : String) : Except String JwtSessionClaims := do
  let claims ← codec.decode token
  libraryChecks policy nowMs claims
  return claims

/-- The checks of `validate_token`, in their order. -/
def admittedClaims (runner : RemoteSessionRunner) (nowMs : UInt64) (sessionId jwtToken : String) :
    Except String JwtSessionClaims := do
  let claims ← decodeClaims codec policy nowMs jwtToken
  require (claims.sessionId = sessionId)
    ("jwt session mismatch: token_session=" ++ claims.sessionId ++ " requested_session=" ++
      sessionId)
  require (nowMs / 1000 < claims.exp) "jwt session token expired"
  require (claims.iss = policy.issuer ∧ claims.aud = policy.audience)
    "jwt claims policy mismatch"
  require (∀ record ∈ runner.sessions.get sessionId, record.token = jwtToken)
    "jwt token revoked or rotated"
  require (claims.jti ∉ runner.consumedJti) "jwt jti replay detected"
  return claims

def validateToken (nowMs : UInt64) (sessionId jwtToken : String) :
    Effect RemoteSessionRunner JwtSessionClaims := fun runner =>
  match admittedClaims codec policy runner nowMs sessionId jwtToken with
  | .ok claims => (.ok claims, { runner with consumedJti := claims.jti :: runner.consumedJti })
  | .error error => (.error error, runner)

/-! ## Starting and stopping -/

/-- The lifetime of the bridge: what is left of the token's, at least ten seconds. -/
def bridgeTtl (claims : JwtSessionClaims) (boundMs ttlMs : UInt64) : UInt64 :=
  max (min ttlMs (saturatingSub (saturatingMul claims.exp 1000) boundMs)) 10000

def startValidated (clock : StartClock) (sessionId transportKind : String) (ttlMs : UInt64)
    (claims : JwtSessionClaims) : Effect RemoteSessionRunner BridgeRuntimeStatus := do
  let status ← onBridge (TransportBridgeRuntime.start store clock.bridgeMs sessionId
    (parseTransportKind transportKind) claims.sub claims.tenantId
    (bridgeTtl claims clock.boundMs ttlMs))
  onBridge (recordRemoteAudit store clock.bridgeMs sessionId)
  return status

def remoteStart (clock : StartClock) (sessionId transportKind jwtToken : String)
    (ttlMs : UInt64) : Effect RemoteSessionRunner BridgeRuntimeStatus := do
  let claims ← validateToken codec policy clock.validateMs sessionId jwtToken
  startValidated store clock sessionId transportKind ttlMs claims

def remoteStop (nowMs : UInt64) (sessionId : String) :
    Effect RemoteSessionRunner BridgeRuntimeStatus := do
  onBridge (recordRemoteAudit store nowMs sessionId)
  onBridge (stop store nowMs sessionId)

end RemoteSessionRunner

end AutoLoop.Transport
