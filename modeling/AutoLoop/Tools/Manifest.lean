import AutoLoop.Contracts.Capability
import AutoLoop.Foundation.Floats
import AutoLoop.Runtime.EvidenceLedger

/-!
# Manifests of forged tools

`ForgedMcpToolManifest` with its signature, provenance and components, and what its
supply chain is checked for.
-/

namespace AutoLoop.Tools

open Contracts
open AutoLoop.Runtime (hex64)

inductive CliOutputMode where
  | human
  | json
  | both
  deriving DecidableEq, Repr

/-- `{:?}`. -/
def CliOutputMode.debug : CliOutputMode → String
  | .human => "Human"
  | .json => "Json"
  | .both => "Both"

inductive CapabilityScope where
  | session
  | taskFamily
  | global
  deriving DecidableEq, Repr

structure SbomComponent where
  name : String
  version : String
  source : String
  checksum : String
  deriving DecidableEq, Repr

structure TrustPolicy where
  requiredSigners : List String
  blockedDependencies : List String
  minProvenanceRefLen : Nat
  deriving DecidableEq, Repr

structure ForgeArgumentSpec where
  name : String
  description : String
  required : Bool
  exampleText : Option String
  deriving DecidableEq, Repr

/-- The object of `payload_template`; of an argument it has the name, whether it is
required and its example. -/
structure PayloadTemplate where
  server : String
  capabilityName : String
  command : String
  arguments : List (String × Bool × Option String)
  outputMode : CliOutputMode
  workingDirectory : Option String
  successSignal : Option String
  deriving DecidableEq, Repr

/-- A manifest; the only signature algorithm is `DeterministicV1`. -/
structure ForgedMcpToolManifest (F : Type) where
  capabilityId : String
  registeredToolName : String
  delegateToolName : String
  server : String
  capabilityName : String
  purpose : String
  executable : String
  commandTemplate : String
  payloadTemplate : PayloadTemplate
  outputMode : CliOutputMode
  workingDirectory : Option String
  successSignal : Option String
  helpText : String
  skillMarkdown : String
  examples : List String
  version : UInt32
  lineageKey : String
  status : CapabilityStatus
  approvalStatus : ApprovalStatus
  healthScore : F
  scope : CapabilityScope
  tags : List String
  risk : CapabilityRisk
  requestedBy : String
  createdAtMs : UInt64
  updatedAtMs : UInt64
  approvedAtMs : Option UInt64
  rollbackToVersion : Option UInt32
  trustStatus : TrustStatus
  trustFindings : List String
  artifact : CapabilityArtifact
  signature : Signature
  provenance : Provenance
  sbom : List SbomComponent
  trustPolicy : TrustPolicy

/-! ## Hashes -/

/-- What is written to a `DefaultHasher`. -/
inductive HashPart where
  | text (value : String)
  | word32 (value : UInt32)
  | word64 (value : UInt64)
  deriving DecidableEq, Repr

/-- `DefaultHasher` over the parts that are written to it. -/
abbrev DefaultHasher : Type := List HashPart → UInt64

def hashSeed (hash : DefaultHasher) (value : String) : UInt64 := hash [.text value]

def SbomComponent.hashParts (component : SbomComponent) : List HashPart :=
  [.text component.name, .text component.version, .text component.source, .text component.checksum]

def signatureValueFor (signer payloadHash : String) : String :=
  "sig:" ++ signer ++ ":deterministic_v1:" ++ payloadHash

/-! ## Defaults -/

def defaultSignature : Signature where
  signer := "autoloop-ci"
  signedPayloadHash := "0000000000000000"
  signature := "sig:autoloop-ci:deterministic_v1:0000000000000000"
  signedAtMs := 0

def defaultTrustPolicy : TrustPolicy where
  requiredSigners := ["autoloop-ci", "autoloop-operator"]
  blockedDependencies := ["evil-lib", "malware-kit"]
  minProvenanceRefLen := 3

/-! ## Checks -/

/-- What is wrong with a component. -/
def SbomComponent.findings (component : SbomComponent) (policy : TrustPolicy) : List String :=
  (if policy.blockedDependencies.any (Text.eqIgnoreAsciiCase component.name ·) then
    ["blocked dependency detected: " ++ component.name] else []) ++
  (if Text.trim component.checksum = "" then
    ["dependency '" ++ component.name ++ "' missing checksum"] else [])

namespace ForgedMcpToolManifest

variable {F : Type} (manifest : ForgedMcpToolManifest F)

/-- `supply_chain_payload_hash`. -/
def payloadHash (hash : DefaultHasher) : String :=
  hex64 (hash ([.text manifest.capabilityId, .text manifest.registeredToolName,
    .text manifest.delegateToolName, .text manifest.server, .text manifest.executable,
    .text manifest.commandTemplate, .word32 manifest.version, .text manifest.lineageKey,
    .text manifest.artifact.artifactId, .text manifest.artifact.digestSha256,
    .text manifest.artifact.sourceUri, .word64 manifest.artifact.buildEpoch,
    .text manifest.provenance.sourceRepo, .text manifest.provenance.sourceRef,
    .text manifest.provenance.builder] ++ manifest.sbom.flatMap (·.hashParts)))

def supplyChainFindings (hash : DefaultHasher) : List String :=
  let payloadHash := manifest.payloadHash hash
  (if manifest.signature.signedPayloadHash ≠ payloadHash then
    ["signature payload hash mismatch"] else []) ++
  (if manifest.signature.signature ≠ signatureValueFor manifest.signature.signer payloadHash then
    ["signature verification failed"] else []) ++
  (if manifest.signature.signer ∉ manifest.trustPolicy.requiredSigners then
    ["signer '" ++ manifest.signature.signer ++ "' is not allowed by trust policy"] else []) ++
  (if manifest.provenance.sourceRef.utf8ByteSize < manifest.trustPolicy.minProvenanceRefLen then
    ["provenance source_ref is too short"] else []) ++
  manifest.sbom.flatMap (·.findings manifest.trustPolicy)

def isExecutable [FloatOps F] : Bool :=
  manifest.status = .active && manifest.approvalStatus = .verified &&
    manifest.trustStatus = .trusted && (0.55 : F) ≤ manifest.healthScore

end ForgedMcpToolManifest

end AutoLoop.Tools
