import AutoLoop.NoumenonCore.Kernel

/-!
# The stock authorities

The authorities that come with the kernel, and a kernel that is assembled from
them.  The message authentication code of the identity authority and the digest
are parameters.
-/

namespace AutoLoop.NoumenonCore

open Check

variable {Env : Type}

/-- `HmacIdentityAuthority`, over its signing function. -/
def hmacIdentityAuthority (sign : String → String → String → String)
    (identity : IdentityContext) : Effect Env Unit :=
  if sign identity.principal identity.tenantId identity.workspace = identity.signature then
    pure ()
  else
    Effect.fail "identity signature mismatch"

def staticTenantAuthority (identity : IdentityContext) (capability : String) :
    Effect Env Unit :=
  if identity.tenantId = "" ∨ capability = "" then
    Effect.fail "invalid tenant authorization input"
  else
    pure ()

def staticAttestationVerifier (trusted : Bool) : Effect Env Unit :=
  if trusted then pure () else Effect.fail "attestation verification failed"

def staticSupplyChainVerifier (request : TrustedExecutionRequest) : Effect Env Unit :=
  let sc := request.supplyChain
  let closure := request.closure
  Effect.ofExcept do
    require (sc.executorDigest ≠ "") "missing executor digest"
    require (sc.verifierDigest ≠ "") "missing verifier digest"
    require (sc.policyBundleDigest ≠ "") "missing policy bundle digest"
    require (request.constraints.policyRefs ≠ []) "missing pinned policy refs"
    require (sc.policyBundleDigest ∈ request.constraints.policyRefs)
      "policy bundle digest is not pinned in constraints"
    require (sc.capabilityPackageDigest ≠ "") "missing capability package digest"
    require (sc.provenanceDigest ≠ "") "missing provenance digest"
    require (sc.signerOidcIssuer ≠ "") "missing signer OIDC issuer"
    require (¬(sc.rekorLogRef = "" ∨ sc.rekorInclusionProof = ""))
      "missing Rekor inclusion evidence"
    require (sc.rekorUrl ≠ "") "missing Rekor URL"
    require (sc.provenanceType ≠ "") "missing provenance type"
    require (sc.signerIdentityRef ≠ "") "missing signer identity reference"
    require (closure.flakeLockDigest ≠ "") "missing flake.lock digest"
    require (closure.derivationDigest ≠ "") "missing derivation digest"
    require (closure.runtimeClosureHash ≠ "") "missing runtime closure hash"
    require (closure.storePaths ≠ []) "missing store paths"
    require (closure.configDigest ≠ "") "missing config digest"
    require (closure.generationId ≠ "") "missing generation id"

def openRolloutGate (_request : TrustedExecutionRequest) : Effect Env Unit := pure ()

def statusLearningWriteGate (record : ExecutionRecord) : Effect Env Unit :=
  if record.finalStatus = "Completed" then
    pure ()
  else
    Effect.fail "learning write denied for non-completed execution"

def noopRecoverySubsystem (_record : ExecutionRecord) : Effect Env Unit := pure ()

def defaultReplayExplainer (record : ExecutionRecord) (actualFingerprint : String) :
    String :=
  if record.stepRecords.isEmpty then
    "mismatch:no-step-records"
  else if record.evidenceBundle.executionFingerprint = "" then
    "mismatch:missing-expected-fingerprint"
  else
    "mismatch:fingerprint expected=" ++ record.evidenceBundle.executionFingerprint ++
      " actual=" ++ actualFingerprint ++ " step_count=" ++ record.stepRecords.length.repr

def echoCapability (name : String) : CapabilityAdapter Env where
  capabilityName := name
  execute input := pure ("echo:" ++ input)

def echoModelBackend (modelName : String) : LlmBackend Env where
  name := modelName
  infer input := pure ("model=" ++ modelName ++ " output=" ++ input)

/-! ## An assembled kernel -/

/-- A stand-in for the signing function. -/
def plainSign (principal tenantId workspace : String) : String :=
  Text.joinWith ':' [principal, tenantId, workspace]

/-- A kernel with the stock authorities, on a Linux machine whose clock stands
still. -/
def stockKernel (crypto : CryptoService) (resultValidator : ExecutionRecord → Effect Env Unit)
    (capabilities : CapabilityRegistry Env) : NoumenonCore Env where
  identityAuthority := hmacIdentityAuthority plainSign
  tenantAuthority := staticTenantAuthority
  attestationVerifier := staticAttestationVerifier true
  supplyChainVerifier := staticSupplyChainVerifier
  crypto := crypto
  resultValidator := resultValidator
  learningGate := statusLearningWriteGate
  recovery := noopRecoverySubsystem
  rolloutGate := openRolloutGate
  replayExplainer record actual env := (defaultReplayExplainer record actual, env)
  capabilities := capabilities
  host _ := linuxHost
  nowMs env := (0, env)

/-- A request that the stock authorities accept. -/
def stockRequest (executionId : String) (plan : ExecutionPlan) (validateOutput : Bool) :
    TrustedExecutionRequest where
  executionId := executionId
  identity :=
    { principal := "agent-1"
      tenantId := "tenant-1"
      workspace := "ws-a"
      signature := "agent-1:tenant-1:ws-a" }
  intent := { operation := "execute" }
  plan := plan
  constraints :=
    { maxRuntimeMs := 30000
      maxCpuUnits := 2
      maxMemoryMb := 256
      policyRefs := ["sha256:policy-v1"] }
  verificationSpec :=
    { verifyEnvironment := true, validateOutput := validateOutput, trustLevel := "hard" }
  supplyChain :=
    { executorDigest := "sha256:executor-a"
      verifierDigest := "sha256:verifier-a"
      policyBundleDigest := "sha256:policy-v1"
      capabilityPackageDigest := "sha256:wasm-pack-v1"
      provenanceDigest := "sha256:provenance-v1"
      signerIdentityRef := "sigstore://issuer/subject"
      signerOidcIssuer := "https://issuer.example"
      rekorUrl := "https://rekor.sigstore.dev"
      rekorLogRef := "rekor://log/entry-1"
      rekorInclusionProof := "proof-1"
      provenanceType := "slsaprovenance" }
  closure :=
    { flakeLockDigest := "sha256:flake-lock-v1"
      derivationDigest := "sha256:drv-v1"
      storePaths := ["/nix/store/aaa-kernel", "/nix/store/bbb-runtime"]
      runtimeClosureHash := "sha256:closure-v1"
      generationId := "gen-1"
      profileId := "profile-prod"
      configDigest := "sha256:cfg-v1" }

def ExecutionPlan.single (step : ExecutionStep) : ExecutionPlan where
  steps := [step]
  steps_lt := by
    rw [List.length_singleton]
    omega

def ExecutionPlan.pair (first second : ExecutionStep) : ExecutionPlan where
  steps := [first, second]
  steps_lt := by
    rw [List.length_cons, List.length_singleton]
    omega

/-- One call of the capability `read`. -/
def readRequest (executionId : String) (validateOutput : Bool) : TrustedExecutionRequest :=
  stockRequest executionId
    (.single { stepId := "s", capabilityRef := some "read", input := "a" }) validateOutput

/-- A kernel with the capability `read`. -/
def readKernel (crypto : CryptoService)
    (resultValidator : ExecutionRecord → Effect Unit Unit) : NoumenonCore Unit :=
  stockKernel crypto resultValidator
    (CapabilityRegistry.new.register (echoCapability "read"))

def freshWorld (env : Env) :
    World Env InMemoryEvidenceLedger InMemoryBudgetLedger SimpleResourceGovernor where
  runtime := { env := env }
  evidence := {}
  budget := {}
  resources := SimpleResourceGovernor.new 8 1024

end AutoLoop.NoumenonCore
