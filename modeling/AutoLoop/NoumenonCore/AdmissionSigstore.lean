import AutoLoop.NoumenonCore.Authorities

/-!
# Admission by signatures

The supply chain verifier that runs `cosign` for the artifacts of a request and for
its provenance.  Fields are checked to be non-empty as they are written, but looked up
in the output without the white space around them and, for an artifact, without what
stands before its digest.
-/

namespace AutoLoop.NoumenonCore

open Check

variable {World α : Type}

def defaultRekorUrl : String := "https://rekor.sigstore.dev"

def defaultProvenanceType : String := "slsaprovenance"

structure SigstoreAdmissionConfig where
  cosignPath : String := "cosign"
  requireTlogInclusion : Bool := true
  deriving DecidableEq, Repr

structure CommandOutput where
  status : Int
  stdout : String
  stderr : String
  deriving DecidableEq, Repr

abbrev CommandRunner (World : Type) := String → List String → Effect World CommandOutput

/-- The verifier, over the digest of an output. -/
structure SigstoreAdmissionVerifier (World : Type) where
  config : SigstoreAdmissionConfig
  runner : CommandRunner World
  sha256Hex : String → String

namespace SigstoreAdmissionVerifier

/-- `Result::with_context`, with the chain of causes in the text. -/
def withContext (context : String) (action : Effect World α) : Effect World α := fun world =>
  match action world with
  | (.ok value, final) => (.ok value, final)
  | (.error message, final) => (.error (context ++ ": " ++ message), final)

theorem withContext_eq_ok {context : String} {action : Effect World α} {before after : World}
    {value : α} :
    withContext context action before = (.ok value, after) ↔
      action before = (.ok value, after) := by
  rw [withContext]
  split
  · next ran => rw [ran]
  · next ran => simp [ran]

/-- What follows the last occurrence of a character, where there is one. -/
def afterLast (mark : Char) (text : String) : Option String :=
  if mark ∈ text.toList then
    some (String.ofList (text.toList.reverse.takeWhile (· ≠ mark)).reverse)
  else
    none

def digestToken (artifactRef : String) : Option String :=
  let trimmed := Text.trim artifactRef
  if trimmed = "" then
    none
  else
    match afterLast '@' trimmed with
    | some rest => some (Text.trim rest)
    | none =>
      match Text.splitOnce "sha256:" trimmed with
      | some (_, rest) => some (Text.trim ("sha256:" ++ rest))
      | none => some trimmed

/-- The token that an output is searched for. -/
def expectedToken (artifactRef : String) : String :=
  (digestToken artifactRef).getD (Text.trim artifactRef)

def verifyPolicyPin (request : TrustedExecutionRequest) : Except String Unit := do
  require (request.constraints.policyRefs ≠ []) "missing pinned policy refs"
  require (request.supplyChain.policyBundleDigest ∈ request.constraints.policyRefs)
    "policy bundle digest is not pinned in constraints"

def verifyRekorEvidenceFields (request : TrustedExecutionRequest) : Except String Unit := do
  require (request.supplyChain.rekorLogRef ≠ "") "missing Rekor log reference"
  require (request.supplyChain.rekorInclusionProof ≠ "") "missing Rekor inclusion proof"

def rekorUrl (request : TrustedExecutionRequest) : String :=
  if request.supplyChain.rekorUrl = "" then defaultRekorUrl else request.supplyChain.rekorUrl

variable (verifier : SigstoreAdmissionVerifier World) (request : TrustedExecutionRequest)

/-- The arguments that both commands end with. -/
def commonArgs : List String :=
  ["--output", "json", "--rekor-url", rekorUrl request,
    "--certificate-identity", request.supplyChain.signerIdentityRef,
    "--certificate-oidc-issuer", request.supplyChain.signerOidcIssuer] ++
  (if verifier.config.requireTlogInclusion then ["--insecure-ignore-tlog=false"] else [])

def signatureArgs (artifactRef : String) : List String :=
  ["verify", artifactRef] ++ commonArgs verifier request

def provenanceArgs : List String :=
  let provenanceType :=
    if request.supplyChain.provenanceType = "" then defaultProvenanceType
    else request.supplyChain.provenanceType
  ["verify-attestation", request.supplyChain.executorDigest, "--type", provenanceType] ++
    commonArgs verifier request

def runCosign (args : List String) : Effect World String := do
  let result ← withContext ("failed to execute cosign: " ++ String.intercalate " " args)
    (verifier.runner verifier.config.cosignPath args)
  if result.status = 0 then
    pure result.stdout
  else
    Effect.fail ("cosign exited with status " ++ toString result.status ++ ": " ++ result.stderr)

def verifySignatureOutputBinding (artifactRef stdout : String) : Except String Unit := do
  require (Text.trim stdout ≠ "") "empty signature verification output"
  require (Text.contains stdout (expectedToken artifactRef) = true)
    ("verification output does not contain artifact digest token: " ++ expectedToken artifactRef)

def verifyArtifactSignature (artifactRef label : String) : Effect World Unit := do
  Effect.ofExcept (require (artifactRef ≠ "") ("missing artifact reference for " ++ label))
  let stdout ← withContext ("signature verification failed for " ++ label)
    (verifier.runCosign (signatureArgs verifier request artifactRef))
  withContext ("signature output missing expected digest for " ++ label)
    (Effect.ofExcept (verifySignatureOutputBinding artifactRef stdout))

def NamesDigest (sha256Hex : String → String) (expected stdout : String) : Prop :=
  Text.contains stdout expected = true ∨ expected = sha256Hex stdout ∨
    expected = "sha256:" ++ sha256Hex stdout

instance (sha256Hex : String → String) (expected stdout : String) :
    Decidable (NamesDigest sha256Hex expected stdout) :=
  inferInstanceAs (Decidable (_ ∨ _ ∨ _))

def verifyProvenance : Effect World Unit := do
  let sc := request.supplyChain
  Effect.ofExcept (require (sc.provenanceDigest ≠ "") "missing provenance digest")
  let stdout ← withContext "provenance attestation verification failed"
    (verifier.runCosign (provenanceArgs verifier request))
  let expected := Text.trim sc.provenanceDigest
  Effect.ofExcept do
    require (NamesDigest verifier.sha256Hex expected stdout)
      ("provenance digest mismatch: expected=" ++ expected ++ " output_sha256=" ++
        verifier.sha256Hex stdout)
    require (¬(¬Text.contains stdout (Text.trim sc.rekorLogRef) = true ∧
        ¬Text.contains stdout (Text.trim sc.rekorInclusionProof) = true))
      ("provenance output missing Rekor binding: ref=" ++ sc.rekorLogRef ++ " proof=" ++
        sc.rekorInclusionProof)

def verifyAdmission : Effect World Unit := do
  Effect.ofExcept (verifyPolicyPin request)
  Effect.ofExcept (verifyRekorEvidenceFields request)
  verifier.verifyArtifactSignature request request.supplyChain.executorDigest "executor"
  verifier.verifyArtifactSignature request request.supplyChain.verifierDigest "verifier"
  verifier.verifyArtifactSignature request request.supplyChain.capabilityPackageDigest
    "capability package"
  verifier.verifyArtifactSignature request request.supplyChain.policyBundleDigest "policy bundle"
  verifier.verifyProvenance request

end SigstoreAdmissionVerifier

end AutoLoop.NoumenonCore

/-!
## Artifacts bound by their signatures

What an admission proves about the artifacts of a request, and the requests of which
every admission proves it: the ones whose digests and references still name something
once the white space and the text before a digest are taken away.
-/

namespace AutoLoop.NoumenonCore

open Check

namespace SigstoreAdmissionVerifier

variable {World : Type} {verifier : SigstoreAdmissionVerifier World}
variable {request : TrustedExecutionRequest}

/-- `cosign` ran and exited with status 0. -/
def Exited (verifier : SigstoreAdmissionVerifier World) (args : List String) (stdout : String)
    (before after : World) : Prop :=
  ∃ stderr, verifier.runner verifier.config.cosignPath args before =
    (.ok { status := 0, stdout := stdout, stderr := stderr }, after)

theorem runCosign_eq_ok {args : List String} {stdout : String} {before after : World} :
    verifier.runCosign args before = (.ok stdout, after) ↔
      verifier.Exited args stdout before after := by
  rw [runCosign, Effect.bind_eq_ok]
  constructor
  · rintro ⟨output, middle, ran, rest⟩
    rw [withContext_eq_ok] at ran
    split at rest
    · next isZero =>
      cases rest
      exact ⟨output.stderr, by rw [ran, ← isZero]⟩
    · cases rest
  · rintro ⟨stderr, ran⟩
    exact ⟨_, after, withContext_eq_ok.mpr ran, rfl⟩

/-- One artifact after the other was signed, with an output bound to it. -/
def Signed (verifier : SigstoreAdmissionVerifier World) (request : TrustedExecutionRequest)
    (binds : String → String → Prop) : List String → World → World → Prop
  | [], before, after => before = after
  | artifactRef :: rest, before, after =>
    ∃ stdout middle,
      verifier.Exited (signatureArgs verifier request artifactRef) stdout before middle ∧
      binds artifactRef stdout ∧ Signed verifier request binds rest middle after

theorem Signed.imp {binds others : String → String → Prop} {artifacts : List String}
    {before after : World} (signed : Signed verifier request binds artifacts before after)
    (weaker : ∀ artifactRef ∈ artifacts, ∀ stdout, binds artifactRef stdout →
      others artifactRef stdout) :
    Signed verifier request others artifacts before after := by
  induction artifacts generalizing before with
  | nil => exact signed
  | cons artifactRef rest ih =>
    obtain ⟨stdout, middle, exited, bound, later⟩ := signed
    refine ⟨stdout, middle, exited, weaker artifactRef List.mem_cons_self stdout bound, ?_⟩
    exact ih later fun other membership =>
      weaker other (List.mem_cons_of_mem artifactRef membership)

theorem Signed.forall {binds : String → String → Prop} {artifacts : List String}
    {before after : World} (signed : Signed verifier request binds artifacts before after)
    {artifactRef : String} (membership : artifactRef ∈ artifacts) :
    ∃ stdout, binds artifactRef stdout := by
  induction artifacts generalizing before with
  | nil => cases membership
  | cons first rest ih =>
    obtain ⟨stdout, middle, -, bound, later⟩ := signed
    rcases List.mem_cons.mp membership with rfl | inRest
    · exact ⟨stdout, bound⟩
    · exact ih later inRest

/-- The artifacts whose signatures an admission verifies. -/
def artifacts (request : TrustedExecutionRequest) : List String :=
  [request.supplyChain.executorDigest, request.supplyChain.verifierDigest,
    request.supplyChain.capabilityPackageDigest, request.supplyChain.policyBundleDigest]

/-- What is checked of the fields as they are written. -/
structure Written (request : TrustedExecutionRequest) : Prop where
  pinned : request.supplyChain.policyBundleDigest ∈ request.constraints.policyRefs
  rekorLogRef : request.supplyChain.rekorLogRef ≠ ""
  rekorInclusionProof : request.supplyChain.rekorInclusionProof ≠ ""
  artifacts : ∀ artifactRef ∈ artifacts request, artifactRef ≠ ""
  provenanceDigest : request.supplyChain.provenanceDigest ≠ ""

/-- Signatures bound to the artifacts, and then a provenance. -/
def Attested (verifier : SigstoreAdmissionVerifier World) (request : TrustedExecutionRequest)
    (binds : String → String → Prop) (bindsProvenance : String → Prop) (before after : World) :
    Prop :=
  ∃ middle stdout, Signed verifier request binds (artifacts request) before middle ∧
    verifier.Exited (provenanceArgs verifier request) stdout middle after ∧
    bindsProvenance stdout

/-- How the code binds an output to an artifact. -/
def bindsArtifact (artifactRef stdout : String) : Prop :=
  Text.trim stdout ≠ "" ∧ Text.contains stdout (expectedToken artifactRef) = true

/-- How the code binds an output to the provenance. -/
def bindsProvenance (sha256Hex : String → String) (request : TrustedExecutionRequest)
    (stdout : String) : Prop :=
  NamesDigest sha256Hex (Text.trim request.supplyChain.provenanceDigest) stdout ∧
    (Text.contains stdout (Text.trim request.supplyChain.rekorLogRef) = true ∨
      Text.contains stdout (Text.trim request.supplyChain.rekorInclusionProof) = true)

theorem ofExcept_eq_ok {α : Type} {result : Except String α} {value : α} {before after : World} :
    Effect.ofExcept result before = (.ok value, after) ↔ result = .ok value ∧ before = after := by
  rw [Effect.ofExcept_apply, Prod.mk.injEq]

theorem verifyArtifactSignature_eq_ok {artifactRef label : String} {before after : World} :
    verifier.verifyArtifactSignature request artifactRef label before = (.ok (), after) ↔
      artifactRef ≠ "" ∧ ∃ stdout,
        verifier.Exited (signatureArgs verifier request artifactRef) stdout before after ∧
        bindsArtifact artifactRef stdout := by
  simp only [verifyArtifactSignature, Effect.bind_eq_ok, withContext_eq_ok, ofExcept_eq_ok,
    runCosign_eq_ok, verifySignatureOutputBinding, require_eq_ok, bind_eq_ok, exists_unit,
    bindsArtifact]
  constructor
  · rintro ⟨_, ⟨written, rfl⟩, stdout, _, exited, bound, rfl⟩
    exact ⟨written, stdout, exited, bound⟩
  · rintro ⟨written, stdout, exited, bound⟩
    exact ⟨before, ⟨written, rfl⟩, stdout, after, exited, bound, rfl⟩

variable {before after : World}

theorem verifyProvenance_eq_ok :
    verifier.verifyProvenance request before = (.ok (), after) ↔
      request.supplyChain.provenanceDigest ≠ "" ∧ ∃ stdout,
        verifier.Exited (provenanceArgs verifier request) stdout before after ∧
        bindsProvenance verifier.sha256Hex request stdout := by
  simp only [verifyProvenance, Effect.bind_eq_ok, withContext_eq_ok, ofExcept_eq_ok,
    runCosign_eq_ok, require_eq_ok, bind_eq_ok, exists_unit, bindsProvenance, not_and_or, not_not]
  constructor
  · rintro ⟨_, ⟨written, rfl⟩, stdout, _, exited, bound, rfl⟩
    exact ⟨written, stdout, exited, bound⟩
  · rintro ⟨written, stdout, exited, bound⟩
    exact ⟨before, ⟨written, rfl⟩, stdout, after, exited, bound, rfl⟩

theorem verifyAdmission_eq_ok :
    verifier.verifyAdmission request before = (.ok (), after) ↔
      Written request ∧
        Attested verifier request bindsArtifact (bindsProvenance verifier.sha256Hex request)
          before after := by
  simp only [verifyAdmission, Effect.bind_eq_ok, ofExcept_eq_ok, verifyPolicyPin,
    verifyRekorEvidenceFields, require_eq_ok, bind_eq_ok, exists_unit,
    verifyArtifactSignature_eq_ok, verifyProvenance_eq_ok]
  constructor
  · rintro ⟨_, ⟨⟨_, pinned⟩, rfl⟩, _, ⟨⟨logRef, proof⟩, rfl⟩, first, ⟨executor, out1, ran1, bound1⟩,
      second, ⟨verifierRef, out2, ran2, bound2⟩, third, ⟨capability, out3, ran3, bound3⟩,
      fourth, ⟨policy, out4, ran4, bound4⟩, provenance, out5, ran5, bound5⟩
    refine ⟨⟨pinned, logRef, proof, ?_, provenance⟩, fourth, out5,
      ⟨out1, first, ran1, bound1, out2, second, ran2, bound2, out3, third, ran3, bound3,
        out4, fourth, ran4, bound4, rfl⟩, ran5, bound5⟩
    simp only [artifacts, List.forall_mem_cons]
    exact ⟨executor, verifierRef, capability, policy, by simp⟩
  · rintro ⟨⟨pinned, logRef, proof, written, provenance⟩, _, out5,
      ⟨out1, first, ran1, bound1, out2, second, ran2, bound2, out3, third, ran3, bound3,
        out4, fourth, ran4, bound4, rfl⟩, ran5, bound5⟩
    simp only [artifacts, List.forall_mem_cons] at written
    obtain ⟨executor, verifierRef, capability, policy, -⟩ := written
    exact ⟨before, ⟨⟨List.ne_nil_of_mem pinned, pinned⟩, rfl⟩, before, ⟨⟨logRef, proof⟩, rfl⟩,
      first, ⟨executor, out1, ran1, bound1⟩, second, ⟨verifierRef, out2, ran2, bound2⟩,
      third, ⟨capability, out3, ran3, bound3⟩, fourth, ⟨policy, out4, ran4, bound4⟩,
      provenance, out5, ran5, bound5⟩

/-! ## References that name something -/

/-- A text without its white space ends in something visible. -/
theorem getLast?_trim {text : String} {char : Char}
    (isLast : (Text.trim text).toList.getLast? = some char) : Text.isWhitespace char = false := by
  rw [Text.trim, String.toList_ofList, List.getLast?_reverse] at isLast
  have kept := List.head?_dropWhile_not Text.isWhitespace
    (text.toList.dropWhile Text.isWhitespace).reverse
  rw [isLast] at kept
  simpa using kept

theorem trim_afterLast {mark : Char} {text rest : String}
    (found : afterLast mark (Text.trim text) = some rest) :
    Text.trim rest = "" ↔ (Text.trim text).toList.getLast? = some mark := by
  have visible := @getLast?_trim text
  generalize Text.trim text = trimmed at found visible
  rw [afterLast] at found
  split at found
  · next marked =>
    cases found
    cases shape : trimmed.toList.reverse with
    | nil => simp [List.reverse_eq_nil_iff.mp shape] at marked
    | cons last earlier =>
      have isLast : trimmed.toList.getLast? = some last := by
        rw [← List.reverse_reverse trimmed.toList, shape, List.getLast?_reverse]
        rfl
      rw [isLast, Option.some_inj]
      by_cases isMark : last = mark
      · simp [isMark, Text.trim]
      · apply iff_of_false _ isMark
        have follows : last ∈
            (String.ofList (last :: earlier |>.takeWhile (· ≠ mark)).reverse).toList := by
          simp [isMark]
        exact Text.trim_ne_empty follows (visible isLast)
  · cases found

theorem expectedToken_ne_empty_iff {artifactRef : String} :
    expectedToken artifactRef ≠ "" ↔
      Text.trim artifactRef ≠ "" ∧ (Text.trim artifactRef).toList.getLast? ≠ some '@' := by
  rw [expectedToken, digestToken]
  by_cases blank : Text.trim artifactRef = ""
  · simp [blank]
  · simp only [blank, if_false, ne_eq, not_false_eq_true, true_and]
    cases found : afterLast '@' (Text.trim artifactRef) with
    | some rest => simp [trim_afterLast found]
    | none =>
      have unmarked : (Text.trim artifactRef).toList.getLast? ≠ some '@' := by
        intro isLast
        rw [afterLast, if_pos (List.mem_of_getLast? isLast)] at found
        cases found
      refine iff_of_true ?_ unmarked
      cases Text.splitOnce "sha256:" (Text.trim artifactRef) with
      | none => exact blank
      | some parts =>
        have starts : 's' ∈ ("sha256:" ++ parts.2).toList := by simp
        exact Text.trim_ne_empty starts (by decide)

/-! ## What an admission shows -/

/-- The artifacts are signed under tokens that name them, by a pinned policy bundle, and the
provenance names its digest and an entry of the transparency log. -/
def Bound (verifier : SigstoreAdmissionVerifier World) (request : TrustedExecutionRequest)
    (before after : World) : Prop :=
  let digest := Text.trim request.supplyChain.provenanceDigest
  let logRef := Text.trim request.supplyChain.rekorLogRef
  let proof := Text.trim request.supplyChain.rekorInclusionProof
  request.supplyChain.policyBundleDigest ∈ request.constraints.policyRefs ∧
    Attested verifier request
      (fun artifactRef stdout => expectedToken artifactRef ≠ "" ∧
        Text.contains stdout (expectedToken artifactRef) = true)
      (fun stdout => digest ≠ "" ∧ NamesDigest verifier.sha256Hex digest stdout ∧
        ((logRef ≠ "" ∧ Text.contains stdout logRef = true) ∨
          (proof ≠ "" ∧ Text.contains stdout proof = true)))
      before after

/-- What is looked up in the outputs is not blank.  Where one of the two references to the
transparency log is blank, the digest brings the other one along. -/
structure Unblank (sha256Hex : String → String) (request : TrustedExecutionRequest) : Prop where
  artifacts : ∀ artifactRef ∈ artifacts request, Text.trim artifactRef ≠ "" ∧
    (Text.trim artifactRef).toList.getLast? ≠ some '@'
  digest : Text.trim request.supplyChain.provenanceDigest ≠ ""
  rekor : Text.trim request.supplyChain.rekorLogRef ≠ "" ∨
    Text.trim request.supplyChain.rekorInclusionProof ≠ ""
  logRefAlone : Text.trim request.supplyChain.rekorInclusionProof = "" → ∀ stdout,
    NamesDigest sha256Hex (Text.trim request.supplyChain.provenanceDigest) stdout →
    Text.contains stdout (Text.trim request.supplyChain.rekorLogRef) = true
  proofAlone : Text.trim request.supplyChain.rekorLogRef = "" → ∀ stdout,
    NamesDigest sha256Hex (Text.trim request.supplyChain.provenanceDigest) stdout →
    Text.contains stdout (Text.trim request.supplyChain.rekorInclusionProof) = true

theorem bound_of_admitted (admitted : verifier.verifyAdmission request before = (.ok (), after))
    (unblank : Unblank verifier.sha256Hex request) : Bound verifier request before after := by
  obtain ⟨written, middle, stdout, signed, exited, named, logged⟩ :=
    verifyAdmission_eq_ok.mp admitted
  refine ⟨written.pinned, middle, stdout, ?_, exited, unblank.digest, named, ?_⟩
  · apply signed.imp
    intro artifactRef membership output bound
    exact ⟨expectedToken_ne_empty_iff.mpr (unblank.artifacts artifactRef membership), bound.2⟩
  · by_cases noRef : Text.trim request.supplyChain.rekorLogRef = ""
    · have proof := unblank.rekor.resolve_left (not_not_intro noRef)
      exact Or.inr ⟨proof, unblank.proofAlone noRef stdout named⟩
    · by_cases noProof : Text.trim request.supplyChain.rekorInclusionProof = ""
      · exact Or.inl ⟨noRef, unblank.logRefAlone noProof stdout named⟩
      · exact logged.imp (⟨noRef, ·⟩) (⟨noProof, ·⟩)

/-! ## A runner that shows what is looked for -/

/-- `cosign` with one output for every signature and one for the provenance. -/
def constantRunner (signature provenance : String) : CommandRunner Unit := fun _ args =>
  pure
    { status := 0
      stdout := if args.head? = some "verify" then signature else provenance
      stderr := "" }

variable {config : SigstoreAdmissionConfig} {sha256Hex : String → String}

/-- Every token that the signatures of a request are searched for. -/
def allTokens (request : TrustedExecutionRequest) : String :=
  String.join ("x" :: (artifacts request).map expectedToken)

theorem contains_append_left (first second : String) :
    Text.contains (first ++ second) first = true := by
  rw [Text.contains, decide_eq_true_eq, String.toList_append]
  exact (List.prefix_append _ _).isInfix

theorem contains_append_right (first second : String) :
    Text.contains (first ++ second) second = true := by
  rw [Text.contains, decide_eq_true_eq, String.toList_append]
  exact (List.suffix_append _ _).isInfix

theorem contains_join {pieces : List String} {piece : String} (membership : piece ∈ pieces) :
    Text.contains (String.join pieces) piece = true := by
  obtain ⟨earlier, later, rfl⟩ := List.append_of_mem membership
  rw [Text.contains, decide_eq_true_eq]
  refine ⟨(String.join earlier).toList, (String.join later).toList, ?_⟩
  simp [String.join_append, String.join_cons]

theorem admitted_of_constant (written : Written request) {provenance : String}
    (bound : bindsProvenance sha256Hex request provenance) :
    verifyAdmission ⟨config, constantRunner (allTokens request) provenance, sha256Hex⟩ request ()
      = (.ok (), ()) := by
  rw [verifyAdmission_eq_ok]
  have marked : 'x' ∈ (allTokens request).toList := by simp [allTokens, String.join_cons]
  have visible : Text.trim (allTokens request) ≠ "" := Text.trim_ne_empty marked (by decide)
  refine ⟨written, (), provenance, ?_, ⟨"", rfl⟩, bound⟩
  have signs : ∀ some : List String, (∀ artifactRef ∈ some, artifactRef ∈ artifacts request) →
      Signed ⟨config, constantRunner (allTokens request) provenance, sha256Hex⟩ request
        bindsArtifact some () () := by
    intro some among
    induction some with
    | nil => rfl
    | cons artifactRef rest ih =>
      refine ⟨allTokens request, (), ⟨"", rfl⟩, ⟨visible, ?_⟩,
        ih fun other membership => among other (List.mem_cons_of_mem artifactRef membership)⟩
      apply contains_join
      exact List.mem_cons_of_mem _ (List.mem_map_of_mem (among artifactRef List.mem_cons_self))
  exact signs (artifacts request) fun _ membership => membership

theorem exited_constant {signature provenance stdout : String} {before after : Unit}
    (exited : Exited ⟨config, constantRunner signature provenance, sha256Hex⟩
      (provenanceArgs ⟨config, constantRunner signature provenance, sha256Hex⟩ request) stdout
      before after) :
    stdout = provenance := by
  obtain ⟨stderr, ran⟩ := exited
  exact (congrArg CommandOutput.stdout (Except.ok.inj (Prod.mk.inj ran).1)).symm

/-- Every admission shows that the artifacts, the policy and the provenance are bound,
exactly for the requests that a check refuses as they are written or that name something
in every place. -/
theorem admission_binds_iff (config : SigstoreAdmissionConfig) (sha256Hex : String → String)
    (request : TrustedExecutionRequest) :
    (∀ (World : Type) (runner : CommandRunner World) (before after : World),
      verifyAdmission ⟨config, runner, sha256Hex⟩ request before = (.ok (), after) →
      Bound ⟨config, runner, sha256Hex⟩ request before after) ↔
    (Written request → Unblank sha256Hex request) := by
  constructor
  · intro binds written
    have shows : ∀ provenance, bindsProvenance sha256Hex request provenance →
        (∀ artifactRef ∈ artifacts request, expectedToken artifactRef ≠ "") ∧
        Text.trim request.supplyChain.provenanceDigest ≠ "" ∧
        ((Text.trim request.supplyChain.rekorLogRef ≠ "" ∧
            Text.contains provenance (Text.trim request.supplyChain.rekorLogRef) = true) ∨
          (Text.trim request.supplyChain.rekorInclusionProof ≠ "" ∧ Text.contains provenance
              (Text.trim request.supplyChain.rekorInclusionProof) = true)) := by
      intro provenance bound
      obtain ⟨-, middle, stdout, signed, exited, digest, -, logged⟩ :=
        binds Unit _ () () (admitted_of_constant written bound)
      cases exited_constant exited
      refine ⟨fun artifactRef membership => ?_, digest, logged⟩
      obtain ⟨-, token, -⟩ := signed.forall membership
      exact token
    have nothing : ∀ stdout, Text.contains stdout "" = true := contains_append_left ""
    obtain ⟨tokens, digest, logged⟩ := shows
      (Text.trim request.supplyChain.provenanceDigest ++ Text.trim request.supplyChain.rekorLogRef)
      ⟨Or.inl (contains_append_left _ _), Or.inl (contains_append_right _ _)⟩
    refine ⟨fun artifactRef membership => expectedToken_ne_empty_iff.mp (tokens _ membership),
      digest, logged.imp And.left And.left, ?_, ?_⟩
    · intro noProof stdout named
      obtain ⟨-, -, found⟩ := shows stdout ⟨named, Or.inr (by rw [noProof]; exact nothing stdout)⟩
      exact (found.resolve_right fun proof => proof.1 noProof).2
    · intro noRef stdout named
      obtain ⟨-, -, found⟩ := shows stdout ⟨named, Or.inl (by rw [noRef]; exact nothing stdout)⟩
      exact (found.resolve_left fun logRef => logRef.1 noRef).2
  · intro unblank World runner before after admitted
    exact bound_of_admitted admitted (unblank (verifyAdmission_eq_ok.mp admitted).1)

def cutOffRequest : TrustedExecutionRequest :=
  let stock := readRequest "e" true
  { stock with
    supplyChain := { stock.supplyChain with executorDigest := "ghcr.io/acme/executor@" } }

/-- An executor without a digest is admitted whatever `cosign` prints about it. -/
theorem cut_off_executor_admitted :
    ∃ (runner : CommandRunner Unit) (before after : Unit),
      verifyAdmission ⟨{}, runner, id⟩ cutOffRequest before = (.ok (), after) ∧
      ¬Bound ⟨{}, runner, id⟩ cutOffRequest before after := by
  refine ⟨constantRunner "sha256:verifier-a sha256:wasm-pack-v1 sha256:policy-v1"
    "sha256:provenance-v1 rekor://log/entry-1", (), (), ?_, ?_⟩
  · decide +kernel
  · rintro ⟨-, middle, stdout, signed, -⟩
    have isExecutor : "ghcr.io/acme/executor@" ∈ artifacts cutOffRequest := List.mem_cons_self
    obtain ⟨-, token, -⟩ := signed.forall isExecutor
    exact token (by decide +kernel)

end SigstoreAdmissionVerifier

end AutoLoop.NoumenonCore
