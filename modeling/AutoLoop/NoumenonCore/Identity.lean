import AutoLoop.Foundation.Framing
import AutoLoop.Foundation.Hex
import AutoLoop.NoumenonCore.Authorities

/-!
# What an identity signature is bound to

An identity is signed by a message authentication code over its principal, tenant
and workspace, joined with `:`.  The code under the secret is a parameter, and so
is the hexadecimal form of its value.  A signature authenticates the identity it
was made for, and any other one that regroups the pieces between the colons.
-/

namespace AutoLoop.NoumenonCore

open Text IdentityContext

variable {Env : Type}

/-- `HmacIdentityAuthority`: the message authentication code under its secret, and
the hexadecimal form of the code's value. -/
structure HmacIdentityAuthority where
  mac : ByteArray → ByteArray
  codec : HexCodec

namespace HmacIdentityAuthority

/-- The bytes that the code is updated with, one call after the other. -/
def macInput (principal tenantId workspace : String) : ByteArray :=
  principal.toUTF8 ++ ":".toUTF8 ++ tenantId.toUTF8 ++ ":".toUTF8 ++ workspace.toUTF8

def sign (authority : HmacIdentityAuthority) (principal tenantId workspace : String) :
    String :=
  authority.codec.encode (authority.mac (macInput principal tenantId workspace))

def authenticate (authority : HmacIdentityAuthority) (identity : IdentityContext) :
    Effect Env Unit :=
  hmacIdentityAuthority authority.sign identity

end HmacIdentityAuthority

/-- What a signature is made for. -/
def IdentityContext.signedFields (identity : IdentityContext) : List String :=
  [identity.principal, identity.tenantId, identity.workspace]

namespace HmacIdentityAuthority

theorem macInput_eq (identity : IdentityContext) :
    macInput identity.principal identity.tenantId identity.workspace =
      (joinWith ':' identity.signedFields).toUTF8 := by
  simp only [macInput, signedFields, joinWith, String.toUTF8,
    String.toByteArray_append, ByteArray.append_assoc]
  rfl

theorem authenticate_ok_iff (authority : HmacIdentityAuthority) (identity : IdentityContext)
    (env : Env) :
    (authority.authenticate identity env).1 = .ok () ↔
      authority.sign identity.principal identity.tenantId identity.workspace =
        identity.signature := by
  rw [authenticate, hmacIdentityAuthority]
  split
  · next same => simp [same]
  · next different => simp [different]

theorem sign_eq_iff {authority : HmacIdentityAuthority}
    (injective : Function.Injective authority.mac) (first second : IdentityContext) :
    authority.sign first.principal first.tenantId first.workspace =
        authority.sign second.principal second.tenantId second.workspace ↔
      joinWith ':' first.signedFields = joinWith ':' second.signedFields := by
  have encodeInjective : Function.Injective authority.codec.encode := by
    intro bytes others same
    have decoded := congrArg authority.codec.decode same
    rw [authority.codec.decode_encode, authority.codec.decode_encode] at decoded
    exact Option.some.inj decoded
  rw [sign, sign, encodeInjective.eq_iff, injective.eq_iff, macInput_eq, macInput_eq]
  exact String.toByteArray_inj

/-- A signature made for one identity authenticates another one only if they agree
in principal, tenant and workspace, exactly when the fields of neither regroup the
pieces of the other's. -/
theorem signature_bound_iff (authority : HmacIdentityAuthority)
    (injective : Function.Injective authority.mac) (signer bearer : IdentityContext) (env : Env)
    (signed : bearer.signature = authority.sign signer.principal signer.tenantId signer.workspace) :
    ((authority.authenticate bearer env).1 = .ok () → bearer.signedFields = signer.signedFields) ↔
      ¬Reframed ':' bearer.signedFields signer.signedFields := by
  rw [reframed_iff (by simp [signedFields]) (by simp [signedFields]), authenticate_ok_iff, signed,
    sign_eq_iff injective, not_and, not_not]

end HmacIdentityAuthority

/-- An authority whose code is the message itself. -/
def plainAuthority : HmacIdentityAuthority where
  mac := id
  codec := .lowercase

def bearing (authority : HmacIdentityAuthority) (signer : IdentityContext)
    (principal tenantId workspace : String) : IdentityContext where
  principal := principal
  tenantId := tenantId
  workspace := workspace
  signature := authority.sign signer.principal signer.tenantId signer.workspace

def agentIdentity : IdentityContext := (readRequest "e" true).identity

/-- The signature of an agent of one tenant does not authenticate it for another. -/
theorem otherTenant_not_authenticated :
    (plainAuthority.authenticate (bearing plainAuthority agentIdentity "agent-1" "tenant-2"
      "ws-a") ()).1 ≠ .ok () := by
  intro authenticated
  have same := (plainAuthority.signature_bound_iff Function.injective_id agentIdentity
    (bearing plainAuthority agentIdentity "agent-1" "tenant-2" "ws-a") () rfl).mpr
    (by decide) authenticated
  revert same
  decide

/-- A principal with a colon bears the signature of another tenant's principal. -/
theorem colonPrincipal_authenticated :
    Function.Injective plainAuthority.mac ∧
      (plainAuthority.authenticate
        (bearing plainAuthority ⟨"agent", "1:tenant", "ws", ""⟩ "agent:1" "tenant" "ws")
          ()).1 = .ok () ∧
      (bearing plainAuthority ⟨"agent", "1:tenant", "ws", ""⟩ "agent:1" "tenant"
        "ws").signedFields ≠ (⟨"agent", "1:tenant", "ws", ""⟩ : IdentityContext).signedFields := by
  refine ⟨Function.injective_id, ?_, by decide⟩
  rw [HmacIdentityAuthority.authenticate_ok_iff]
  rfl

end AutoLoop.NoumenonCore
