import AutoLoop.Foundation.HashMap
import AutoLoop.Foundation.Word

/-!
# Requests and records of the trusted execution kernel

The data that `NoumenonCore::execute` reads and returns.  Fields that no part of
the kernel reads (the plan's identity and strategy, a step's action,
dependencies and failure policy, the intent's payload, the trace context) are
left out.
-/

namespace AutoLoop.NoumenonCore

/-- Who asks for an execution, on behalf of which tenant. -/
structure IdentityContext where
  principal : String
  tenantId : String
  workspace : String
  signature : String
  deriving DecidableEq, Repr

structure Intent where
  operation : String
  deriving DecidableEq, Repr

/-- Where the code of a step runs. -/
inductive RuntimeIsland where
  | trusted
  | wasm
  | ffi
  | plugin
  deriving DecidableEq, Repr, Inhabited

def RuntimeIsland.requiresHardening : RuntimeIsland → Bool
  | .wasm | .ffi | .plugin => true
  | .trusted => false

/-- `{:?}` of an island. -/
def RuntimeIsland.debug : RuntimeIsland → String
  | .trusted => "Trusted"
  | .wasm => "Wasm"
  | .ffi => "Ffi"
  | .plugin => "Plugin"

structure HardeningPolicy where
  hardeningProfile : Option String := none
  syscallPolicyRef : Option String := none
  syscallAllowlist : List String := []
  seccompProfileRef : Option String := none
  enforceNamespaceIsolation : Bool := false
  enforceCgroupIsolation : Bool := false
  enforceFsIsolation : Bool := false
  enforceNetworkIsolation : Bool := false
  maxRuntimeMs : Option UInt64 := none
  maxMemoryMb : Option UInt32 := none
  maxCpuUnits : Option UInt32 := none
  deriving DecidableEq, Repr

structure ExecutionStep where
  stepId : String
  capabilityRef : Option String
  runtimeIsland : RuntimeIsland := .trusted
  hardening : HardeningPolicy := {}
  input : String
  localConstraints : HashMap String String := HashMap.empty

/-- The steps of a plan live in a `Vec`, which holds at most `isize::MAX` bytes
and therefore fewer than `2 ^ 63` of them. -/
structure ExecutionPlan where
  steps : List ExecutionStep
  steps_lt : steps.length < 2 ^ 63

structure ConstraintSet where
  maxRuntimeMs : UInt64
  maxCpuUnits : UInt32
  maxMemoryMb : UInt32
  policyRefs : List String
  deriving DecidableEq, Repr

structure VerificationSpec where
  verifyEnvironment : Bool
  validateOutput : Bool
  trustLevel : String
  deriving DecidableEq, Repr

structure SupplyChainEnvelope where
  executorDigest : String
  verifierDigest : String
  policyBundleDigest : String
  capabilityPackageDigest : String
  provenanceDigest : String
  signerIdentityRef : String
  signerOidcIssuer : String
  rekorUrl : String
  rekorLogRef : String
  rekorInclusionProof : String
  provenanceType : String
  deriving DecidableEq, Repr

structure ReproducibleClosure where
  flakeLockDigest : String
  derivationDigest : String
  storePaths : List String
  runtimeClosureHash : String
  generationId : String
  profileId : String
  configDigest : String
  deriving DecidableEq, Repr

structure TrustedExecutionRequest where
  executionId : String
  identity : IdentityContext
  intent : Intent
  plan : ExecutionPlan
  constraints : ConstraintSet
  verificationSpec : VerificationSpec
  supplyChain : SupplyChainEnvelope
  closure : ReproducibleClosure

/-- What an execution records about one executed step. -/
structure StepRecord where
  stepId : String
  capabilityRef : Option String
  inputDigest : String
  outputDigest : String
  success : Bool
  error : Option String
  costUnits : UInt64
  timestampMs : U128
  deriving DecidableEq, Repr

structure FingerprintMaterial where
  flakeLockDigest : String := ""
  derivationDigest : String := ""
  canonicalStorePaths : List String := []
  storePathsDigest : String := ""
  runtimeClosureHash : String := ""
  policyBundleDigest : String := ""
  wasmPluginDigest : String := ""
  verifierDigest : String := ""
  configDigest : String := ""
  generationId : String := ""
  deriving DecidableEq, Repr

structure EvidenceBundle where
  evidenceRecordIds : List String
  executionFingerprint : String
  fingerprintMaterial : FingerprintMaterial
  mismatchExplanation : Option String
  deriving DecidableEq, Repr

structure LedgerRefs where
  budgetAccountId : String
  evidenceStreamId : String
  deriving DecidableEq, Repr

structure ExecutionRecord where
  executionId : String
  finalStatus : String
  finalOutput : Option String
  stepRecords : List StepRecord
  evidenceBundle : EvidenceBundle
  ledgerRefs : LedgerRefs
  deriving DecidableEq, Repr

end AutoLoop.NoumenonCore
