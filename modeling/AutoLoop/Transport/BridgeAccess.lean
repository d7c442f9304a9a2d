import AutoLoop.Transport.RemoteRuns

/-!
# How long a bridge takes envelopes

A running entry is the work of the last start of its session, which was not stopped.
Nothing else ends it: neither the expiry of the descriptor nor that of the token is looked
at when an envelope comes in.
-/

namespace AutoLoop.Transport

open TransportBridgeRuntime Effect TransportBridgeRuntime

def lastStart : List RemoteEvent → String → Option (UInt64 × UInt64)
  | [], _ => none
  | .started sessionId expiresAtMs exp :: earlier, session =>
    if sessionId = session then some (expiresAtMs, exp) else lastStart earlier session
  | .stopped sessionId :: earlier, session =>
    if sessionId = session then none else lastStart earlier session
  | .issued .. :: earlier, session => lastStart earlier session
  | .validated _ :: earlier, session => lastStart earlier session

def runningUntil (entries : BridgeEntries) (sessionId : String) : Option UInt64 :=
  match entries.get sessionId with
  | some entry => if entry.running then some entry.descriptor.expiresAtMs else none
  | none => none

def StoreTakes (store : StoreAnswers) (envelope : TransportEnvelope) : Prop :=
  store ("transport:envelope:" ++ envelope.sessionId ++ ":" ++ envelope.messageId) = .ok () ∧
    store ("transport:bridge:" ++ envelope.sessionId ++ ":status") = .ok ()

namespace RemoteWorld

/-- An envelope is taken only before both expiries of a start that was not stopped. -/
def Bounded (world : RemoteWorld) (stored : StoredCall) : Prop :=
  match stored.call with
  | .ingestEnvelope nowMs envelope =>
    (TransportBridgeRuntime.ingestEnvelope stored.store envelope world.runner.bridge).1 =
        .ok () →
      ∃ expiresAtMs exp, lastStart world.history envelope.sessionId = some (expiresAtMs, exp) ∧
        nowMs ≤ expiresAtMs ∧ nowMs.toNat ≤ exp.toNat * 1000
  | _ => True

def Timely (world : RemoteWorld) (stored : StoredCall) : Prop :=
  match stored.call with
  | .ingestEnvelope nowMs envelope =>
    StoreTakes stored.store envelope → ∀ expiresAtMs exp,
      lastStart world.history envelope.sessionId = some (expiresAtMs, exp) →
        nowMs ≤ expiresAtMs ∧ nowMs.toNat ≤ exp.toNat * 1000
  | _ => True

def Follows (world : RemoteWorld) : Prop :=
  ∀ sessionId, runningUntil world.runner.bridge sessionId =
    (lastStart world.history sessionId).map (·.1)

end RemoteWorld

open RemoteSessionRunner

/-! ## What the calls do to the bridge -/

section Calls

variable {store : StoreAnswers} {entries : BridgeEntries} {sessionId : String}

theorem runningUntil_insert (entries : BridgeEntries) (sessionId other : String)
    (entry : BridgeRuntimeEntry) :
    runningUntil (entries.insert sessionId entry) other =
      if other = sessionId then
        if entry.running then some entry.descriptor.expiresAtMs else none
      else runningUntil entries other := by
  by_cases same : other = sessionId
  · rw [if_pos same, same, runningUntil, Table.get_insert_self]
  · rw [if_neg same, runningUntil, Table.get_insert_of_ne _ _ same, runningUntil]

variable {update : BridgeRuntimeEntry → BridgeRuntimeEntry}

theorem runningUntil_change (running : ∀ entry, (update entry).running = entry.running)
    (descriptor : ∀ entry, (update entry).descriptor = entry.descriptor) (other : String) :
    runningUntil (change sessionId update entries) other =
      runningUntil entries other := by
  unfold change
  cases isEntry : entries.get sessionId with
  | none => rfl
  | some entry =>
    rw [runningUntil_insert, running, descriptor]
    split
    · next same => rw [same, runningUntil, isEntry]
    · rfl

theorem runningUntil_stopped (stopped : ∀ entry, (update entry).running = false) (other : String) :
    runningUntil (change sessionId update entries) other =
      if other = sessionId then none else runningUntil entries other := by
  unfold change
  cases isEntry : entries.get sessionId with
  | none =>
    by_cases same : other = sessionId
    · rw [if_pos same, same, runningUntil, isEntry]
    · rw [if_neg same]
  | some entry =>
    rw [runningUntil_insert, stopped]
    rfl

theorem bridge_start (store : StoreAnswers) (nowMs : UInt64) (sessionId : String)
    (kind : TransportKind) (authSubject tenantId : String) (ttlMs : UInt64)
    (entries : BridgeEntries) :
    (start store nowMs sessionId kind authSubject tenantId ttlMs entries).2 =
      entries.insert sessionId (newEntry
        (newDescriptor sessionId kind authSubject tenantId nowMs ttlMs)
        nowMs) := by
  simp only [start, persistStatus, bind_apply, modify_apply, ofExcept_apply]
  cases store ("transport:bridge:" ++ sessionId ++ ":status") with
  | ok _ => rfl
  | error error => rfl

theorem bridge_startValidated (store : StoreAnswers) (clock : StartClock)
    (sessionId transportKind : String) (ttlMs : UInt64) (claims : JwtSessionClaims)
    (runner : RemoteSessionRunner) :
    ∃ entry, (startValidated store clock sessionId transportKind ttlMs claims runner).2.bridge =
        runner.bridge.insert sessionId entry ∧ entry.running = true ∧
      entry.descriptor.expiresAtMs =
        saturatingAdd clock.bridgeMs (bridgeTtl claims clock.boundMs ttlMs) := by
  refine ⟨newEntry (newDescriptor sessionId
    (parseTransportKind transportKind) claims.sub claims.tenantId clock.bridgeMs
    (bridgeTtl claims clock.boundMs ttlMs)) clock.bridgeMs, ?_, rfl, rfl⟩
  rw [← bridge_start store clock.bridgeMs sessionId (parseTransportKind transportKind) claims.sub
    claims.tenantId (bridgeTtl claims clock.boundMs ttlMs) runner.bridge]
  rw [startValidated, bind_apply, onBridge_apply]
  cases (start store clock.bridgeMs sessionId
      (parseTransportKind transportKind) claims.sub claims.tenantId
      (bridgeTtl claims clock.boundMs ttlMs) runner.bridge).1 with
  | error error => rfl
  | ok status =>
    simp only [bind_apply, onBridge_apply, recordRemoteAudit, ofExcept_apply]
    cases store ("transport:remote-audit:" ++ sessionId ++ ":" ++ clock.bridgeMs.toNat.repr) with
    | ok _ => rfl
    | error error => rfl

theorem bridge_stop (store : StoreAnswers) (nowMs : UInt64) (sessionId : String)
    (entries : BridgeEntries) :
    (stop store nowMs sessionId entries).2 =
      change sessionId
        (fun entry => { entry with running := false, stoppedAtMs := some nowMs }) entries := by
  simp only [stop, persistStatus, bind_apply, modify_apply, ofExcept_apply]
  cases store ("transport:bridge:" ++ sessionId ++ ":status") with
  | ok _ => rfl
  | error error => rfl

theorem ingest_of_idle {envelope : TransportEnvelope}
    (idle : runningUntil entries envelope.sessionId = none) :
    ∃ error, TransportBridgeRuntime.ingestEnvelope store envelope entries =
      (.error error, entries) := by
  refine ⟨"bridge session '" ++ envelope.sessionId ++ "' is not running", ?_⟩
  unfold runningUntil at idle
  cases isEntry : entries.get envelope.sessionId with
  | none =>
    simp [TransportBridgeRuntime.ingestEnvelope, TransportBridgeRuntime.status, bind_apply, isEntry]
  | some entry =>
    simp only [isEntry, ite_eq_right_iff, reduceCtorEq, imp_false] at idle
    simp [TransportBridgeRuntime.ingestEnvelope, TransportBridgeRuntime.status,
      bind_apply, isEntry, idle]

theorem ingest_of_running {envelope : TransportEnvelope}
    (running : (runningUntil entries envelope.sessionId).isSome = true) :
    ((TransportBridgeRuntime.ingestEnvelope store envelope entries).1 = .ok () ↔
        StoreTakes store envelope) ∧
      (TransportBridgeRuntime.ingestEnvelope store envelope entries).2 =
        change envelope.sessionId
          (fun entry => { entry with bufferedMessages := entry.bufferedMessages + 1 })
          entries := by
  unfold runningUntil at running
  cases isEntry : entries.get envelope.sessionId with
  | none => simp [isEntry] at running
  | some entry =>
    have runs : entry.running = true := by
      cases runs : entry.running with
      | true => rfl
      | false => simp [isEntry, runs] at running
    simp only [TransportBridgeRuntime.ingestEnvelope, TransportBridgeRuntime.status,
      bind_apply, isEntry, runs, Bool.not_true, Bool.false_eq_true, if_false,
      modify_apply, ofExcept_apply, persistStatus,
      StoreTakes]
    cases store ("transport:envelope:" ++ envelope.sessionId ++ ":" ++ envelope.messageId) with
    | ok _ => simp
    | error error => simp

section
variable (store : StoreAnswers) (envelope : TransportEnvelope) (entries : BridgeEntries)

theorem ingest_eq_ok_iff :
    (TransportBridgeRuntime.ingestEnvelope store envelope entries).1 = .ok () ↔
      (runningUntil entries envelope.sessionId).isSome = true ∧ StoreTakes store envelope := by
  cases runs : runningUntil entries envelope.sessionId with
  | none =>
    obtain ⟨error, refused⟩ := @ingest_of_idle store entries envelope runs
    simp [refused]
  | some expiresAtMs =>
    simpa using (@ingest_of_running store entries envelope (by simp [runs])).1

theorem runningUntil_ingest (other : String) :
    runningUntil (TransportBridgeRuntime.ingestEnvelope store envelope entries).2 other =
      runningUntil entries other := by
  cases runs : runningUntil entries envelope.sessionId with
  | none =>
    obtain ⟨error, refused⟩ := @ingest_of_idle store entries envelope runs
    rw [refused]
  | some expiresAtMs =>
    rw [(@ingest_of_running store entries envelope (by simp [runs])).2]
    refine runningUntil_change ?_ ?_ other
    · intro entry
      rfl
    · intro entry
      rfl

end

end Calls

/-! ## Runs -/

section Runs

variable {codec : TokenCodec} {policy : JwtPolicy}

theorem bridge_validateToken (nowMs : UInt64) (sessionId jwtToken : String)
    (runner : RemoteSessionRunner) :
    (validateToken codec policy nowMs sessionId jwtToken runner).2.bridge = runner.bridge := by
  unfold validateToken
  split
  · rfl
  · rfl

theorem bridge_issueToken (store : StoreAnswers) (nowMs : UInt64)
    (sessionId subject tenantId : String) (ttlMs : UInt64) (runner : RemoteSessionRunner) :
    (issueToken codec policy store nowMs sessionId subject tenantId ttlMs runner).2.bridge =
      runner.bridge := by
  simp only [issueToken, bind_apply, ofExcept_apply]
  cases codec.encode (issuedClaims policy nowMs sessionId subject tenantId ttlMs) with
  | error error => rfl
  | ok token =>
    simp only [modify_apply, onBridge_apply, recordRemoteAudit, ofExcept_apply]
    cases store ("transport:remote-audit:" ++ sessionId ++ ":" ++ nowMs.toNat.repr) with
    | ok _ => rfl
    | error error => rfl

/-- Every call keeps the running entries those of the last starts. -/
theorem follows_act (world : RemoteWorld) (stored : StoredCall) (follows : world.Follows) :
    (RemoteCall.act codec policy world stored).2.Follows := by
  obtain ⟨call, store⟩ := stored
  intro other
  cases call with
  | issueToken nowMs sessionId subject tenantId ttlMs =>
    simp only [RemoteCall.act, RemoteCall.perform, RemoteCall.events]
    rw [bridge_issueToken, follows other]
    split
    · rfl
    · rfl
  | validateToken nowMs sessionId jwtToken =>
    simp only [RemoteCall.act, RemoteCall.perform, RemoteCall.events]
    rw [bridge_validateToken, follows other]
    split
    · rfl
    · rfl
  | remoteStart clock sessionId transportKind jwtToken ttlMs =>
    simp only [RemoteCall.act, RemoteCall.perform, RemoteCall.events, remoteStart, bind_apply]
    cases admitted : admittedClaims codec policy world.runner clock.validateMs sessionId
        jwtToken with
    | error error =>
      simp only [validateToken_of_error admitted]
      exact follows other
    | ok claims =>
      simp only [validateToken_of_ok admitted]
      obtain ⟨entry, inserted, running, expiry⟩ :=
        bridge_startValidated store clock sessionId transportKind ttlMs claims
          { world.runner with consumedJti := claims.jti :: world.runner.consumedJti }
      rw [inserted, runningUntil_insert, running, expiry]
      simp only [if_true, List.cons_append, List.nil_append, lastStart]
      by_cases same : other = sessionId
      · rw [if_pos same, if_pos same.symm]
        rfl
      · rw [if_neg same, if_neg (Ne.symm same)]
        exact follows other
  | remoteStop nowMs sessionId =>
    simp only [RemoteCall.act, RemoteCall.perform, RemoteCall.events, remoteStop,
      bind_apply, onBridge_apply, recordRemoteAudit,
      ofExcept_apply]
    cases store ("transport:remote-audit:" ++ sessionId ++ ":" ++ nowMs.toNat.repr) with
    | error error => exact follows other
    | ok _ =>
      simp only [bridge_stop, List.cons_append, List.nil_append, lastStart]
      rw [runningUntil_stopped (fun _ => rfl)]
      by_cases same : other = sessionId
      · rw [if_pos same, if_pos same.symm]
        rfl
      · rw [if_neg same, if_neg (Ne.symm same)]
        exact follows other
  | ingestEnvelope nowMs envelope =>
    exact (runningUntil_ingest store envelope world.runner.bridge other).trans (follows other)

theorem bounded_iff_timely {world : RemoteWorld} (follows : world.Follows)
    (stored : StoredCall) : world.Bounded stored ↔ world.Timely stored := by
  obtain ⟨call, store⟩ := stored
  cases call with
  | ingestEnvelope nowMs envelope =>
    simp only [RemoteWorld.Bounded, RemoteWorld.Timely, ingest_eq_ok_iff,
      follows envelope.sessionId]
    cases lastStart world.history envelope.sessionId with
    | none => simp
    | some expiries => simp [Prod.ext_iff]
  | issueToken nowMs sessionId subject tenantId ttlMs => exact Iff.rfl
  | validateToken nowMs sessionId jwtToken => exact Iff.rfl
  | remoteStart clock sessionId transportKind jwtToken ttlMs => exact Iff.rfl
  | remoteStop nowMs sessionId => exact Iff.rfl

theorem follows_start : RemoteWorld.start.Follows := fun _ => rfl

/-- The envelopes of a run are bounded exactly when they are timely. -/
theorem bounded_exactly_when_timely (codec : TokenCodec) (policy : JwtPolicy)
    (calls : List StoredCall) :
    (remoteSessions codec policy).EachStep RemoteWorld.Bounded .start calls ↔
      (remoteSessions codec policy).EachStep RemoteWorld.Timely .start calls := by
  constructor
  · intro each
    refine each.of_invariant follows_start ?_
    intro world stored follows bounded
    exact ⟨(bounded_iff_timely follows stored).mp bounded, follows_act world stored follows⟩
  · intro each
    refine each.of_invariant follows_start ?_
    intro world stored follows timely
    exact ⟨(bounded_iff_timely follows stored).mpr timely, follows_act world stored follows⟩

end Runs

/-! ## A session past its expiries -/

namespace PastExpiry

def policy : JwtPolicy := ⟨"autoloop-bridge", "autoloop-remote", 3600000⟩

/-- The claims of a token of 30 seconds. -/
def claims : JwtSessionClaims := issuedClaims policy 2000 "session" "alice" "tenant" 30000

/-- A library that signs these claims. -/
def codec : TokenCodec where
  encode other := if other = claims then .ok "token" else .error "no key"
  decode token := if token = "token" then .ok claims else .error "InvalidToken"

theorem faithful : codec.Faithful := by
  intro token other
  simp only [codec]
  by_cases isToken : token = "token"
  · by_cases same : other = claims
    · simp [isToken, same]
    · simp [isToken, same, Ne.symm same]
  · by_cases same : other = claims
    · simp [isToken, same, Ne.symm isToken]
    · simp [isToken, same]

def taken (call : RemoteCall) : StoredCall := ⟨call, fun _ => .ok ()⟩

def startedCalls : List StoredCall :=
  [taken (.issueToken 2000 "session" "alice" "tenant" 30000),
    taken (.remoteStart ⟨2000, 2000, 2000⟩ "session" "cli" "token" 30000)]

/-- An hour later an envelope comes in. -/
def lateEnvelope : StoredCall := taken (.ingestEnvelope 3600000 ⟨"session", "message"⟩)

theorem late_envelope_taken :
    codec.Faithful ∧ ¬(remoteSessions codec policy).EachStep RemoteWorld.Bounded .start
      (startedCalls ++ [lateEnvelope]) := by
  refine ⟨faithful, ?_⟩
  intro each
  have last := (Component.eachStep_append.mp each).2.1
  have isLast : lastStart ((remoteSessions codec policy).run .start startedCalls).2.history
      "session" = some (32000, 32) := by decide +kernel
  have taken : (TransportBridgeRuntime.ingestEnvelope (fun _ => .ok ()) ⟨"session", "message"⟩
      ((remoteSessions codec policy).run .start startedCalls).2.runner.bridge).1 = .ok () := by
    refine (ingest_eq_ok_iff _ _ _).mpr ⟨by decide +kernel, rfl, rfl⟩
  obtain ⟨expiresAtMs, exp, isStart, bounded, -⟩ := last taken
  rw [isLast] at isStart
  cases isStart
  exact absurd bounded (by decide)

end PastExpiry

end AutoLoop.Transport
