import AutoLoop.Tools.Manifest

/-!
# The forge

`build_manifest`: the manifest of a forge request at some time, signed over its first
version.
-/

namespace AutoLoop.Tools

open Contracts
open AutoLoop.Runtime (hex64)

structure McpToolForgeRequest where
  server : Option String
  capabilityName : String
  purpose : String
  executable : String
  subcommands : List String
  jsonFlag : Option String
  arguments : List ForgeArgumentSpec
  outputMode : CliOutputMode
  successSignal : Option String
  workingDirectory : Option String
  examples : List String
  tags : List String
  scope : Option CapabilityScope
  requestedBy : Option String
  signer : Option String
  sourceRepo : Option String
  sourceRef : Option String
  sbomComponents : List SbomComponent
  deriving DecidableEq, Repr

/-! ## Texts -/

/-- What `sanitize_segment` pushes after some characters, of which the last was a dash or
not. -/
def sanitizeFrom : Bool → List Char → List Char
  | _, [] => []
  | previousDash, char :: rest =>
    if char.isAlphanum then char.toLower :: sanitizeFrom false rest
    else if previousDash then sanitizeFrom true rest
    else '-' :: sanitizeFrom true rest

/-- `trim_matches`. -/
def trimMatches (char : Char) (text : List Char) : List Char :=
  ((text.dropWhile (· = char)).reverse.dropWhile (· = char)).reverse

def sanitizeSegment (value : String) : String :=
  String.ofList (trimMatches '-' (sanitizeFrom false value.toList))

namespace McpToolForgeRequest

variable (request : McpToolForgeRequest)

def buildCommandTemplate : String :=
  Text.joinWith ' ' (request.executable :: request.subcommands ++ request.jsonFlag.toList ++
    request.arguments.map fun argument =>
      let name := sanitizeSegment argument.name
      "--" ++ name ++ " \x7b\x7b" ++ name ++ "\x7d\x7d")

def payloadTemplate (server : String) : PayloadTemplate where
  server
  capabilityName := request.capabilityName
  command := request.buildCommandTemplate
  arguments := request.arguments.map fun argument =>
    (argument.name, argument.required, argument.exampleText)
  outputMode := request.outputMode
  workingDirectory := request.workingDirectory
  successSignal := request.successSignal

def buildHelpText (toolName : String) : String :=
  let argList := Text.joinWith '\n' (request.arguments.map fun argument =>
    "- " ++ argument.name ++ (if argument.required then " (required)" else "") ++ ": " ++
      argument.description)
  toolName ++ "\nPurpose: " ++ request.purpose ++ "\nExecutable: " ++ request.executable ++
    "\nOutput mode: " ++ request.outputMode.debug ++ "\nArguments:\n" ++
    (if argList = "" then "- none" else argList)

def buildSkillMarkdown (toolName server : String) : String :=
  let examples :=
    if request.examples = [] then "- No examples provided yet."
    else Text.joinWith '\n' (request.examples.map ("- " ++ ·))
  "# " ++ toolName ++ "\n\nUse this forged MCP tool through `" ++ server ++ "` to satisfy: " ++
    request.purpose ++ "\n\n## Contract\n- Deterministic JSON-first CLI wrapper\n- " ++
    "Self-describing argument schema\n- Suitable for CLI agents that need reusable command " ++
    "surfaces\n\n## Examples\n" ++ examples

def inferRisk : CapabilityRisk :=
  let purpose := Text.toAsciiLowercase request.purpose
  let executable := Text.toAsciiLowercase request.executable
  if ["delete", "deploy", "network"].any (Text.contains purpose ·) ||
      ["powershell", "bash"].any (Text.contains executable ·) then .high
  else if ["write", "modify", "patch"].any (Text.contains purpose ·) then .medium
  else .low

/-! ## Manifests -/

def sbom (hash : DefaultHasher) : List SbomComponent :=
  if request.sbomComponents = [] then
    [⟨request.executable, "latest", "local", hex64 (hashSeed hash request.executable)⟩]
  else request.sbomComponents

def capabilitySlug : String := sanitizeSegment request.capabilityName

end McpToolForgeRequest

def initialHealthScore {F : Type} [FloatOps F] : CapabilityRisk → F
  | .low => 0.82
  | .medium => 0.65
  | .high => 0.45

section Build

variable {F : Type} [FloatOps F]

/-- The manifest before it is signed. -/
def unsignedManifest (hash : DefaultHasher) (toolName server : String)
    (request : McpToolForgeRequest) (nowMs : UInt64) : ForgedMcpToolManifest F :=
  let commandTemplate := request.buildCommandTemplate
  let risk := request.inferRisk
  let capabilityId := server ++ ":" ++ request.capabilitySlug
  let approvalStatus : ApprovalStatus := if risk = .low then .verified else .pending
  { capabilityId
    registeredToolName := toolName
    delegateToolName := "mcp::" ++ server ++ "::invoke"
    server
    capabilityName := request.capabilityName
    purpose := request.purpose
    executable := request.executable
    commandTemplate
    payloadTemplate := request.payloadTemplate server
    outputMode := request.outputMode
    workingDirectory := request.workingDirectory
    successSignal := request.successSignal
    helpText := request.buildHelpText toolName
    skillMarkdown := request.buildSkillMarkdown toolName server
    examples := request.examples
    version := 1
    lineageKey := capabilityId
    status := if risk = .low then .active else .pendingVerification
    approvalStatus
    healthScore := initialHealthScore risk
    scope := request.scope.getD .taskFamily
    tags := request.tags
    risk
    requestedBy := request.requestedBy.getD "cli-agent"
    createdAtMs := nowMs
    updatedAtMs := nowMs
    approvedAtMs := if approvalStatus = .verified then some nowMs else none
    rollbackToVersion := none
    trustStatus := .pending
    trustFindings := []
    artifact :=
      { artifactId := "artifact:" ++ capabilityId ++ ":" ++ nowMs.toNat.repr
        digestSha256 := hex64 (hashSeed hash
          (capabilityId ++ ":" ++ commandTemplate ++ ":" ++ nowMs.toNat.repr))
        sourceUri := "mcp://" ++ server ++ "/" ++ request.capabilitySlug
        buildEpoch := nowMs }
    signature := defaultSignature
    provenance :=
      { sourceRepo := request.sourceRepo.getD "autoloop/forged-capability"
        sourceRef := request.sourceRef.getD ("v" ++ nowMs.toNat.repr)
        builder := "autoloop-cli-forge"
        generatedBy := request.requestedBy.getD "cli-agent" }
    sbom := request.sbom hash
    trustPolicy := defaultTrustPolicy }

/-- The signature is made in the name of the signer that stood there before. -/
def ForgedMcpToolManifest.sign (manifest : ForgedMcpToolManifest F) (hash : DefaultHasher)
    (signer : String) (nowMs : UInt64) : ForgedMcpToolManifest F :=
  { manifest with
    signature :=
      { signer
        signedPayloadHash := manifest.payloadHash hash
        signature := signatureValueFor manifest.signature.signer (manifest.payloadHash hash)
        signedAtMs := nowMs } }

/-- The manifest with what is found about it: it has to be trusted to be active. -/
def ForgedMcpToolManifest.govern (manifest : ForgedMcpToolManifest F) (findings : List String) :
    ForgedMcpToolManifest F :=
  if findings = [] then { manifest with trustFindings := findings, trustStatus := .trusted }
  else
    { manifest with
      trustFindings := findings
      trustStatus := .rejected
      approvalStatus := .rejected
      status := .pendingVerification }

section
variable (hash : DefaultHasher) (toolName server : String) (request : McpToolForgeRequest)
  (nowMs : UInt64)

def signedManifest : ForgedMcpToolManifest F :=
  (unsignedManifest hash toolName server request nowMs).sign hash
    (request.signer.getD "autoloop-ci") nowMs

def buildManifest : Except String (ForgedMcpToolManifest F) :=
  if Text.trim request.executable = "" then .error "executable must not be empty"
  else
    .ok ((signedManifest hash toolName server request nowMs).govern
      ((signedManifest hash toolName server request nowMs : ForgedMcpToolManifest F
        ).supplyChainFindings hash))

end

end Build

end AutoLoop.Tools
