import AutoLoop.Transport.RemoteRuns

/-!
# The latest token, once

The runner admits a token when it is the last one that the session was issued, it has
not expired, and it was not admitted before.  This rests on the identifier of a token
being fresh when it is issued, and on a record to compare the token with.
-/

namespace AutoLoop.Transport

open Effect Effect.Keeps

/-- A token is the last one issued for a session, unexpired and not validated since. -/
def Usable : List RemoteEvent → String → String → UInt64 → Prop
  | [], _, _, _ => False
  | .issued sessionId token exp :: earlier, session, jwtToken, nowMs =>
    if sessionId = session then jwtToken = token ∧ nowMs / 1000 < exp
    else Usable earlier session jwtToken nowMs
  | .validated token :: earlier, session, jwtToken, nowMs =>
    token ≠ jwtToken ∧ Usable earlier session jwtToken nowMs
  | .started .. :: earlier, session, jwtToken, nowMs => Usable earlier session jwtToken nowMs
  | .stopped _ :: earlier, session, jwtToken, nowMs => Usable earlier session jwtToken nowMs

instance decidableUsable : ∀ history session jwtToken nowMs,
    Decidable (Usable history session jwtToken nowMs)
  | [], _, _, _ => .isFalse id
  | .issued sessionId token exp :: earlier, session, jwtToken, nowMs =>
    have := decidableUsable earlier session jwtToken nowMs
    inferInstanceAs (Decidable (if sessionId = session then jwtToken = token ∧ nowMs / 1000 < exp
      else Usable earlier session jwtToken nowMs))
  | .validated token :: earlier, session, jwtToken, nowMs =>
    have := decidableUsable earlier session jwtToken nowMs
    inferInstanceAs (Decidable (token ≠ jwtToken ∧ Usable earlier session jwtToken nowMs))
  | .started .. :: earlier, session, jwtToken, nowMs =>
    decidableUsable earlier session jwtToken nowMs
  | .stopped _ :: earlier, session, jwtToken, nowMs =>
    decidableUsable earlier session jwtToken nowMs

namespace RemoteWorld

variable (codec : TokenCodec) (policy : JwtPolicy)

section
variable (world : RemoteWorld)

/-- `validate_token` returns the claims. -/
def Accepts (nowMs : UInt64) (sessionId jwtToken : String) : Prop :=
  ∃ claims, (RemoteSessionRunner.validateToken codec policy nowMs sessionId jwtToken
    world.runner).1 = .ok claims

def LatestOnly (stored : StoredCall) : Prop :=
  match stored.call with
  | .validateToken nowMs sessionId jwtToken =>
    world.Accepts codec policy nowMs sessionId jwtToken ↔
      Usable world.history sessionId jwtToken nowMs
  | .remoteStart clock sessionId _ jwtToken _ =>
    world.Accepts codec policy clock.validateMs sessionId jwtToken ↔
      Usable world.history sessionId jwtToken clock.validateMs
  | _ => True

/-- A session that was issued no token here is asked for with an unexpired token that was
signed for it elsewhere, under the same key and policy. -/
def SignedElsewhere (nowMs : UInt64) (sessionId jwtToken : String) : Prop :=
  world.runner.sessions.get sessionId = none ∧
    ∃ claims, codec.decode jwtToken = .ok claims ∧ claims.sessionId = sessionId ∧
      nowMs / 1000 < claims.exp ∧ claims.iss = policy.issuer ∧ claims.aud = policy.audience ∧
      claims.jti ∉ world.runner.consumedJti

/-- A token is issued under an identifier that was not consumed and with its audit record
stored, and no token is used for a session that was signed elsewhere. -/
def Orderly (stored : StoredCall) : Prop :=
  match stored.call with
  | .issueToken nowMs sessionId subject tenantId ttlMs =>
    ∀ token, codec.encode (RemoteSessionRunner.issuedClaims policy nowMs sessionId subject
        tenantId ttlMs) = .ok token →
      RemoteSessionRunner.jti sessionId nowMs ∉ world.runner.consumedJti ∧
        stored.store ("transport:remote-audit:" ++ sessionId ++ ":" ++ nowMs.toNat.repr) =
          .ok ()
  | .validateToken nowMs sessionId jwtToken =>
    ¬world.SignedElsewhere codec policy nowMs sessionId jwtToken
  | .remoteStart clock sessionId _ jwtToken _ =>
    ¬world.SignedElsewhere codec policy clock.validateMs sessionId jwtToken
  | _ => True

end

end RemoteWorld

open RemoteSessionRunner

theorem session_of_jti {sessionId other : String} {nowMs otherMs : UInt64}
    (same : jti sessionId nowMs = jti other otherMs) : sessionId = other := by
  have texts := congrArg String.toList same
  simp only [jti, String.toList_append, List.append_assoc] at texts
  have texts := List.append_cancel_left texts
  have colon (value : Nat) : ':' ∉ value.repr.toList := Text.not_mem_repr (by decide) value
  have sameMs : nowMs.toNat.repr.toList = otherMs.toNat.repr.toList :=
    @Text.after_last_separator ':' _ _ _ _ (by simpa using texts) (colon _) (colon _)
  rw [sameMs, ← List.append_assoc, ← List.append_assoc] at texts
  exact String.toList_inj.mp (List.append_cancel_right (List.append_cancel_right texts))

/-! ## What the records say of the history -/

section
variable (runner : RemoteSessionRunner) (sessionId : String) (record : RemoteSessionRecord)

def RemoteSessionRunner.withRecord : RemoteSessionRunner :=
  { runner with sessions := runner.sessions.insert sessionId record }

theorem RemoteSessionRunner.get_withRecord (other : String) :
    (runner.withRecord sessionId record).sessions.get other =
      if other = sessionId then some record else runner.sessions.get other :=
  Table.get_insert _ _ _ _

end

structure Agrees (codec : TokenCodec) (policy : JwtPolicy) (runner : RemoteSessionRunner)
    (history : List RemoteEvent) : Prop where
  unrecorded : ∀ sessionId, runner.sessions.get sessionId = none →
    ∀ jwtToken nowMs, ¬Usable history sessionId jwtToken nowMs
  signed : ∀ sessionId record, runner.sessions.get sessionId = some record →
    codec.encode record.claims = .ok record.token ∧ record.claims.sessionId = sessionId ∧
      record.claims.iss = policy.issuer ∧ record.claims.aud = policy.audience ∧
      ∃ nowMs, record.claims.jti = jti sessionId nowMs
  usable : ∀ sessionId record, runner.sessions.get sessionId = some record →
    ∀ jwtToken nowMs, Usable history sessionId jwtToken nowMs ↔
      jwtToken = record.token ∧ nowMs / 1000 < record.claims.exp ∧
        record.claims.jti ∉ runner.consumedJti

namespace Agrees

variable {codec : TokenCodec} {policy : JwtPolicy} {runner : RemoteSessionRunner}
variable {history : List RemoteEvent} {sessionId jwtToken : String} {nowMs : UInt64}

section
variable (agrees : Agrees codec policy runner history)
include agrees

theorem bridge (entries : BridgeEntries) :
    Agrees codec policy { runner with bridge := entries } history :=
  ⟨agrees.unrecorded, agrees.signed, agrees.usable⟩

theorem started (session : String) (expiresAtMs exp : UInt64) :
    Agrees codec policy runner (.started session expiresAtMs exp :: history) :=
  ⟨agrees.unrecorded, agrees.signed, agrees.usable⟩

theorem stopped (session : String) :
    Agrees codec policy runner (.stopped session :: history) :=
  ⟨agrees.unrecorded, agrees.signed, agrees.usable⟩

theorem issued {subject tenantId token : String}
    {ttlMs : UInt64} (isToken : codec.encode (issuedClaims policy nowMs sessionId subject tenantId
      ttlMs) = .ok token) (fresh : jti sessionId nowMs ∉ runner.consumedJti) :
    Agrees codec policy
      (runner.withRecord sessionId
        ⟨issuedClaims policy nowMs sessionId subject tenantId ttlMs, token⟩)
      (.issued sessionId token (issuedClaims policy nowMs sessionId subject tenantId ttlMs).exp ::
        history) where
  unrecorded other isNone jwtToken laterMs := by
    rw [get_withRecord] at isNone
    split at isNone
    · cases isNone
    · next different =>
      rw [Usable, if_neg (Ne.symm different)]
      exact agrees.unrecorded other isNone jwtToken laterMs
  signed other record isRecord := by
    rw [get_withRecord] at isRecord
    split at isRecord
    · next same =>
      cases isRecord
      exact ⟨isToken, same.symm, rfl, rfl, nowMs, by rw [same]; rfl⟩
    · exact agrees.signed other record isRecord
  usable other record isRecord jwtToken laterMs := by
    rw [get_withRecord] at isRecord
    split at isRecord
    · next same =>
      cases isRecord
      rw [Usable, if_pos same.symm]
      exact ⟨fun both => ⟨both.1, both.2, fresh⟩, fun all => ⟨all.1, all.2.1⟩⟩
    · next different =>
      rw [Usable, if_neg (Ne.symm different)]
      exact agrees.usable other record isRecord jwtToken laterMs

theorem claims_of_decode (faithful : codec.Faithful)
    {record : RemoteSessionRecord} (isRecord : runner.sessions.get sessionId = some record) :
    codec.decode record.token = .ok record.claims :=
  (faithful _ _).mpr (agrees.signed sessionId record isRecord).1

section
variable (faithful : codec.Faithful)
  (native : ¬RemoteWorld.SignedElsewhere codec policy ⟨runner, history⟩ nowMs sessionId jwtToken)
include faithful native

theorem admitted_iff :
    (∃ claims, admittedClaims codec policy runner nowMs sessionId jwtToken = .ok claims) ↔
      Usable history sessionId jwtToken nowMs := by
  simp only [admit_eq_ok]
  cases isRecord : runner.sessions.get sessionId with
  | none =>
    refine iff_of_false ?_ (agrees.unrecorded sessionId isRecord jwtToken nowMs)
    intro admitted
    obtain ⟨claims, decoded, -, iss, aud, session, exp, -, fresh⟩ := admitted
    exact native ⟨isRecord, claims, decoded, session, exp, iss, aud, fresh⟩
  | some record =>
    rw [agrees.usable sessionId record isRecord]
    have decodes := agrees.claims_of_decode faithful isRecord
    obtain ⟨-, session, iss, aud, -⟩ := agrees.signed sessionId record isRecord
    constructor
    · intro admitted
      obtain ⟨claims, decoded, -, -, -, -, exp, latest, fresh⟩ := admitted
      have isToken := latest record rfl
      rw [← isToken, decodes] at decoded
      cases decoded
      exact ⟨isToken.symm, exp, fresh⟩
    · intro usable
      obtain ⟨rfl, exp, fresh⟩ := usable
      refine ⟨record.claims, decodes, leeway_of_lt exp, iss, aud, session, exp, ?_, fresh⟩
      intro same isSame
      rw [Option.some.inj isSame]

theorem validated {claims : JwtSessionClaims}
    (admitted : admittedClaims codec policy runner nowMs sessionId jwtToken = .ok claims) :
    Agrees codec policy { runner with consumedJti := claims.jti :: runner.consumedJti }
      (.validated jwtToken :: history) where
  unrecorded other isNone token laterMs usable :=
    agrees.unrecorded other isNone token laterMs usable.2
  signed := agrees.signed
  usable other record isRecord token laterMs := by
    have usable := (agrees.admitted_iff faithful native).mp ⟨claims, admitted⟩
    rw [Usable, agrees.usable other record isRecord, List.mem_cons, not_or]
    obtain ⟨decoded, -, -, -, session, -, latest, -⟩ := admit_eq_ok.mp admitted
    have decodes := agrees.claims_of_decode faithful isRecord
    obtain ⟨-, otherSession, -, -, otherMs, otherJti⟩ := agrees.signed other record isRecord
    by_cases same : other = sessionId
    · subst same
      have isToken := latest record isRecord
      rw [← isToken, decodes] at decoded
      cases decoded
      constructor
      · intro both
        exact absurd (isToken.symm.trans both.2.1.symm) both.1
      · intro all
        exact absurd rfl all.2.2.1
    · cases isMine : runner.sessions.get sessionId with
      | none => exact absurd usable (agrees.unrecorded sessionId isMine jwtToken nowMs)
      | some mine =>
        obtain ⟨-, -, -, -, mineMs, mineJti⟩ := agrees.signed sessionId mine isMine
        have isToken := latest mine isMine
        rw [← isToken, agrees.claims_of_decode faithful isMine] at decoded
        cases decoded
        have otherJtis : record.claims.jti ≠ mine.claims.jti := by
          rw [otherJti, mineJti]
          exact fun sameJti => same (session_of_jti sameJti)
        constructor
        · intro both
          exact ⟨both.2.1, both.2.2.1, otherJtis, both.2.2.2⟩
        · intro all
          refine ⟨?_, all.1, all.2.1, all.2.2.2⟩
          intro sameToken
          rw [all.1, ← isToken] at sameToken
          have sameClaims := agrees.claims_of_decode faithful isMine
          rw [sameToken, decodes] at sameClaims
          exact otherJtis (congrArg JwtSessionClaims.jti (Except.ok.inj sameClaims))

end

end

end Agrees

/-! ## Runs -/

/-- Only the bridge differs. -/
def OnlyBridge (runner later : RemoteSessionRunner) : Prop :=
  ∃ entries, later = { runner with bridge := entries }

theorem keeps_onBridge {α : Type} (action : Effect BridgeEntries α) :
    Keeps OnlyBridge (onBridge action) :=
  fun runner => ⟨(action runner.bridge).2, rfl⟩

theorem OnlyBridge.trans (first second third : RemoteSessionRunner)
    (before : OnlyBridge first second) (after : OnlyBridge second third) :
    OnlyBridge first third := by
  obtain ⟨entries, rfl⟩ := before
  obtain ⟨later, rfl⟩ := after
  exact ⟨later, rfl⟩

theorem keeps_startValidated (store : StoreAnswers) (clock : StartClock)
    (sessionId transportKind : String) (ttlMs : UInt64) (claims : JwtSessionClaims) :
    Keeps OnlyBridge (startValidated store clock sessionId transportKind ttlMs claims) := by
  refine bind OnlyBridge.trans (keeps_onBridge _) fun status => ?_
  refine bind OnlyBridge.trans (keeps_onBridge _) fun _ => ?_
  exact pure (fun runner => ⟨runner.bridge, rfl⟩) status

theorem keeps_remoteStop (store : StoreAnswers) (nowMs : UInt64) (sessionId : String) :
    Keeps OnlyBridge (remoteStop store nowMs sessionId) :=
  bind OnlyBridge.trans (keeps_onBridge _) fun _ => keeps_onBridge _

section Calls

variable {codec : TokenCodec} {policy : JwtPolicy}

theorem Agrees.of_onlyBridge {runner later : RemoteSessionRunner} {history : List RemoteEvent}
    (agrees : Agrees codec policy runner history) (only : OnlyBridge runner later) :
    Agrees codec policy later history := by
  obtain ⟨entries, rfl⟩ := only
  exact agrees.bridge entries

theorem accepts_iff_admitted {world : RemoteWorld} {nowMs : UInt64} {sessionId jwtToken : String} :
    world.Accepts codec policy nowMs sessionId jwtToken ↔
      ∃ claims, admittedClaims codec policy world.runner nowMs sessionId jwtToken = .ok claims := by
  unfold RemoteWorld.Accepts
  cases admitted : admittedClaims codec policy world.runner nowMs sessionId jwtToken with
  | ok claims => simp [validateToken_of_ok admitted]
  | error error => simp [validateToken_of_error admitted]

def AgreesIn (codec : TokenCodec) (policy : JwtPolicy) (world : RemoteWorld) : Prop :=
  Agrees codec policy world.runner world.history

theorem agrees_start : AgreesIn codec policy .start where
  unrecorded _ _ _ _ := id
  signed _ _ isRecord := by simp [RemoteWorld.start] at isRecord
  usable _ _ isRecord := by simp [RemoteWorld.start] at isRecord

section
variable (faithful : codec.Faithful) (world : RemoteWorld) (stored : StoredCall)
  (agrees : AgreesIn codec policy world) (orderly : world.Orderly codec policy stored)
include faithful agrees orderly

/-- An orderly call keeps the records and the history in agreement. -/
theorem agrees_act :
    AgreesIn codec policy (RemoteCall.act codec policy world stored).2 := by
  unfold AgreesIn at agrees ⊢
  obtain ⟨call, store⟩ := stored
  cases call with
  | issueToken nowMs sessionId subject tenantId ttlMs =>
    simp only [RemoteCall.act, RemoteCall.perform, RemoteCall.events]
    cases isToken : codec.encode (issuedClaims policy nowMs sessionId subject tenantId ttlMs) with
    | error error =>
      have failed : issueToken codec policy store nowMs sessionId subject tenantId ttlMs
          world.runner = (.error error, world.runner) := by
        simp only [issueToken, isToken, bind_apply, ofExcept_apply]
      simpa [failed] using agrees
    | ok token =>
      obtain ⟨fresh, kept⟩ := orderly token isToken
      dsimp only at kept
      have issued : issueToken codec policy store nowMs sessionId subject tenantId ttlMs
          world.runner = (.ok token, world.runner.withRecord sessionId
            ⟨issuedClaims policy nowMs sessionId subject tenantId ttlMs, token⟩) := by
        simp only [issueToken, isToken, bind_apply, ofExcept_apply,
          modify_apply, onBridge_apply, TransportBridgeRuntime.recordRemoteAudit, kept,
          pure_apply, RemoteSessionRunner.withRecord]
      simpa [issued] using agrees.issued isToken fresh
  | validateToken nowMs sessionId jwtToken =>
    simp only [RemoteCall.act, RemoteCall.perform, RemoteCall.events]
    cases admitted : admittedClaims codec policy world.runner nowMs sessionId jwtToken with
    | error error => simpa [validateToken_of_error admitted] using agrees
    | ok claims =>
      simpa [validateToken_of_ok admitted] using agrees.validated faithful orderly admitted
  | remoteStart clock sessionId transportKind jwtToken ttlMs =>
    simp only [RemoteCall.act, RemoteCall.perform, RemoteCall.events, remoteStart, bind_apply]
    cases admitted : admittedClaims codec policy world.runner clock.validateMs sessionId
        jwtToken with
    | error error => simpa [validateToken_of_error admitted] using agrees
    | ok claims =>
      simp only [validateToken_of_ok admitted]
      have validated := agrees.validated faithful orderly admitted
      exact (validated.started _ _ _).of_onlyBridge
        (keeps_startValidated store clock sessionId transportKind ttlMs claims _)
  | remoteStop nowMs sessionId =>
    simp only [RemoteCall.act, RemoteCall.perform, RemoteCall.events]
    have only := keeps_remoteStop store nowMs sessionId world.runner
    split
    · exact (agrees.stopped sessionId).of_onlyBridge only
    · exact agrees.of_onlyBridge only
  | ingestEnvelope nowMs envelope =>
    exact agrees.of_onlyBridge (keeps_onBridge _ world.runner)

theorem latestOnly_of_orderly : world.LatestOnly codec policy stored := by
  obtain ⟨call, store⟩ := stored
  cases call with
  | validateToken nowMs sessionId jwtToken =>
    exact accepts_iff_admitted.trans (agrees.admitted_iff faithful orderly)
  | remoteStart clock sessionId transportKind jwtToken ttlMs =>
    exact accepts_iff_admitted.trans (agrees.admitted_iff faithful orderly)
  | issueToken nowMs sessionId subject tenantId ttlMs => trivial
  | remoteStop nowMs sessionId => trivial
  | ingestEnvelope nowMs envelope => trivial

end

/-- In a run of orderly calls every validation accepts exactly the token issued last for
the session, before its expiry and once. -/
theorem only_latest_token_once (faithful : codec.Faithful) {calls : List StoredCall}
    (orderly : (remoteSessions codec policy).EachStep
      (fun world stored => world.Orderly codec policy stored) .start calls) :
    (remoteSessions codec policy).EachStep
      (fun world stored => world.LatestOnly codec policy stored) .start calls := by
  refine orderly.of_invariant (agrees_start : AgreesIn codec policy .start) ?_
  intro world stored agrees meets
  exact ⟨latestOnly_of_orderly faithful world stored agrees meets,
    agrees_act faithful world stored agrees meets⟩

end Calls

/-! ## Tokens of one session in one run -/

namespace OneSession

def policy : JwtPolicy := ⟨"autoloop-bridge", "autoloop-remote", 3600000⟩

/-- The claims of a token that is issued for a subject after two seconds. -/
def claimsFor (subject : String) : JwtSessionClaims :=
  issuedClaims policy 2000 "session" subject "tenant" 60000

/-- A library that signs the claims of two subjects. -/
def codec : TokenCodec where
  encode claims :=
    if claims = claimsFor "alice" then .ok "token-alice"
    else if claims = claimsFor "bob" then .ok "token-bob"
    else .error "no key"
  decode token :=
    if token = "token-alice" then .ok (claimsFor "alice")
    else if token = "token-bob" then .ok (claimsFor "bob")
    else .error "InvalidToken"

theorem faithful : codec.Faithful := by
  intro token claims
  have differ : claimsFor "alice" ≠ claimsFor "bob" := by decide
  have texts : ("token-alice" : String) ≠ "token-bob" := by decide
  simp only [codec]
  by_cases isAlice : token = "token-alice"
  · subst isAlice
    by_cases same : claims = claimsFor "alice"
    · simp [same]
    · by_cases other : claims = claimsFor "bob"
      · simp [other, differ, differ.symm]
      · simp [same, other, Ne.symm same]
  · by_cases isBob : token = "token-bob"
    · subst isBob
      by_cases same : claims = claimsFor "alice"
      · simp [same, differ.symm]
      · by_cases other : claims = claimsFor "bob"
        · simp [other, differ.symm]
        · simp [same, other, Ne.symm other]
    · by_cases same : claims = claimsFor "alice"
      · simp [isAlice, isBob, same, Ne.symm isAlice]
      · by_cases other : claims = claimsFor "bob"
        · simp [isAlice, isBob, other, differ.symm, Ne.symm isBob]
        · simp [isAlice, isBob, same, other]

/-- A call with a store that takes everything. -/
def taken (call : RemoteCall) : StoredCall := ⟨call, fun _ => .ok ()⟩

def issueTo (subject : String) : StoredCall :=
  taken (.issueToken 2000 "session" subject "tenant" 60000)

def validate (jwtToken : String) : StoredCall :=
  taken (.validateToken 2000 "session" jwtToken)

/-- Two tokens are issued, and the later one is validated twice. -/
def orderlyCalls : List StoredCall :=
  [issueTo "alice", issueTo "bob", validate "token-alice", validate "token-bob",
    validate "token-bob"]

theorem orderly_calls_validate_latest :
    (remoteSessions codec policy).EachStep
      (fun world stored => world.LatestOnly codec policy stored) .start orderlyCalls := by
  refine only_latest_token_once faithful ⟨?_, ?_, ?_, ?_, ?_, trivial⟩
  · intro token isToken
    exact ⟨by decide, rfl⟩
  · intro token isToken
    exact ⟨by decide, rfl⟩
  · intro elsewhere
    exact absurd elsewhere.1 (by decide)
  · intro elsewhere
    exact absurd elsewhere.1 (by decide)
  · intro elsewhere
    exact absurd elsewhere.1 (by decide)

def hastyCalls : List StoredCall := [issueTo "alice", validate "token-alice", issueTo "bob"]

/-- The token issued last is usable, and refused. -/
theorem hasty_token_refused :
    codec.Faithful ∧
      ¬(remoteSessions codec policy).EachStep
        (fun world stored => world.LatestOnly codec policy stored) .start
        (hastyCalls ++ [validate "token-bob"]) := by
  refine ⟨faithful, ?_⟩
  intro each
  have last := (Component.eachStep_append.mp each).2.1
  have usable : Usable ((remoteSessions codec policy).run .start hastyCalls).2.history "session"
      "token-bob" 2000 := by decide +kernel
  have accepted := (accepts_iff_admitted.mp (last.mpr usable))
  obtain ⟨claims, admitted⟩ := accepted
  have consumed := (admit_eq_ok.mp admitted).2.2.2.2.2.2.2
  have isBob : claims = claimsFor "bob" := by
    have decoded := (admit_eq_ok.mp admitted).1
    exact (Except.ok.inj decoded).symm
  rw [isBob] at consumed
  exact consumed (by decide +kernel)

end OneSession

end AutoLoop.Transport
