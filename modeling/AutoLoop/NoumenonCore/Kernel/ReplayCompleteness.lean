import AutoLoop.Foundation.Hex
import AutoLoop.NoumenonCore.Authorities
import AutoLoop.NoumenonCore.Kernel.EvidenceChain

/-!
# Completed executions replay

With a collision-free hexadecimal digest the evidence of a completed execution
is walked from `genesis` to its end, so the replay digests exactly the outputs
that were digested at execution time.  Later executions with other ids do not
disturb this.
-/

namespace AutoLoop.NoumenonCore

open World LinkedChain EvidenceLedger List

variable {Env Evidence Budget Governor : Type}
variable {core : NoumenonCore Env} {request : TrustedExecutionRequest}

/-- A digest without collisions, whose values are never `genesis` and contain no
field separator, like hexadecimal text. -/
structure ChainDigest (digest : CryptoService) : Prop where
  injective : Function.Injective digest
  ne_genesis : ∀ text, digest text ≠ "genesis"
  no_separator : ∀ text, ':' ∉ (digest text).toList

theorem recordHashPayload_prevHash {executionId stepId inputDigest outputDigest prevHash
      otherId otherStep otherInput otherOutput otherPrev : String}
    (same : recordHashPayload executionId stepId inputDigest outputDigest prevHash =
      recordHashPayload otherId otherStep otherInput otherOutput otherPrev)
    (plain : ':' ∉ prevHash.toList) (otherPlain : ':' ∉ otherPrev.toList) :
    prevHash = otherPrev := by
  have lists := congrArg String.toList same
  simp only [recordHashPayload, Text.joinWith, String.toList_append,
    String.toList_singleton, ← append_assoc] at lists
  exact String.toList_inj.mp (Text.after_last_separator lists plain otherPlain)

/-! ## One execution -/

namespace Completion

variable [EvidenceLedger Evidence] {before after : World Env Evidence Budget Governor}
variable {record : ExecutionRecord}

section
variable (completion : Completion core request before after record)

theorem prevHash_plain (digest : ChainDigest core.crypto) :
    ∀ event ∈ completion.chain, ':' ∉ event.prevHash.toList := by
  intro event membership
  have followed : event.prevHash ∈ links (·.recordHash) "genesis" completion.chain := by
    have mapped := mem_map_of_mem (f := (·.prevHash)) membership
    rw [follows_mem_dropLast completion.chain_linked] at mapped
    exact dropLast_subset _ mapped
  rcases mem_cons.mp followed with isGenesis | isHash
  · rw [isGenesis]
    decide
  · obtain ⟨earlier, earlierMem, sameHash⟩ := mem_map.mp isHash
    obtain ⟨-, _, _, _, hashed⟩ := completion.chain_hashed earlier earlierMem
    rw [← sameHash, hashed]
    exact digest.no_separator _

theorem readOrder_chain
    (digest : ChainDigest core.crypto) : readOrder completion.chain = completion.chain := by
  have determined : ∀ first ∈ completion.chain, ∀ second ∈ completion.chain,
      first.recordHash = second.recordHash → first.prevHash = second.prevHash := by
    intro first firstMem second secondMem sameHash
    obtain ⟨-, _, _, _, firstHash⟩ := completion.chain_hashed first firstMem
    obtain ⟨-, _, _, _, secondHash⟩ := completion.chain_hashed second secondMem
    rw [firstHash, secondHash] at sameHash
    exact recordHashPayload_prevHash (digest.injective sameHash)
      (completion.prevHash_plain digest first firstMem)
      (completion.prevHash_plain digest second secondMem)
  have neverGenesis : ∀ event ∈ completion.chain, event.recordHash ≠ "genesis" := by
    intro event membership
    obtain ⟨-, _, _, _, hashed⟩ := completion.chain_hashed event membership
    rw [hashed]
    exact digest.ne_genesis _
  have linked := completion.chain_linked
  have walked : chainWalk completion.chain = some completion.chain :=
    walk_complete linked (follows_nodup linked determined neverGenesis)
  rw [readOrder, walked, Option.getD_some]

theorem chain_own :
    ∀ event ∈ completion.chain, event.executionId = record.executionId := by
  intro event membership
  have id : record.executionId = request.executionId :=
    congrArg (·.executionId) completion.record_eq
  rw [id]
  exact (completion.chain_hashed event membership).1

end

end Completion

section Replay

variable [EvidenceLedger Evidence]

/-- The record passes the replay check: the digest rebuilt from the evidence is
the one computed at execution time, and the check returns the fingerprint. -/
def Replays (core : NoumenonCore Env) (world : World Env Evidence Budget Governor)
    (record : ExecutionRecord) : Prop :=
  outputChainDigestFromEvidence
      (byExecution record.executionId world.evidence) core.crypto =
      outputChainDigestFromStepRecords record.stepRecords core.crypto ∧
    (core.replayCheck record world).1 = .ok record.evidenceBundle.executionFingerprint

theorem replays_of_chain {before after world : World Env Evidence Budget Governor}
    {record : ExecutionRecord} (completion : Completion core request before after record)
    (digest : ChainDigest core.crypto)
    (held : byExecution record.executionId world.evidence =
      completion.chain) : Replays core world record := by
  have rebuilt : outputChainDigestFromEvidence completion.chain core.crypto =
      outputChainDigestFromStepRecords record.stepRecords core.crypto := by
    rw [outputChainDigestFromEvidence_eq, completion.readOrder_chain digest,
      completion.chain_stepPayloads, outputChainDigestFromStepRecords_eq]
  have fingerprint : computeExecutionFingerprint record.evidenceBundle.fingerprintMaterial
      (outputChainDigestFromStepRecords record.stepRecords core.crypto) core.crypto =
      record.evidenceBundle.executionFingerprint := by
    generalize shape : completion.run = run
    have recordShape := completion.record_eq
    rw [shape] at recordShape
    rw [recordShape]
    rfl
  refine ⟨by rw [held, rebuilt], ?_⟩
  rw [replayCheck, held]
  simp only [rebuilt, fingerprint, if_true]
  rfl

end Replay

/-! ## Runs -/

section Run

variable [EvidenceLedger Evidence] [BudgetLedger Budget] [ResourceGovernor Governor]

theorem run_byExecution_other [LawfulEvidenceLedger Evidence] {executionId : String}
    {initial world : World Env Evidence Budget Governor} {requests : List TrustedExecutionRequest}
    (other : executionId ∉ requests.map (·.executionId)) :
    byExecution executionId
        ((kernelComponent core initial).run world requests).2.evidence =
      byExecution executionId world.evidence := by
  induction requests generalizing world with
  | nil => rfl
  | cons request rest ih =>
    simp only [map_cons, mem_cons, not_or] at other
    rw [Component.run_cons, ih other.2]
    exact (execute_gainedOnly core request world).byExecution_other other.1

/-- Every completed record of a run of executions with distinct ids, on a ledger
that holds no evidence under these ids, replays at the end of the run. -/
theorem completed_replays [LawfulEvidenceLedger Evidence] (digest : ChainDigest core.crypto)
    {initial : World Env Evidence Budget Governor} {requests : List TrustedExecutionRequest}
    (distinct : (requests.map (·.executionId)).Nodup)
    (fresh : ∀ request ∈ requests, byExecution request.executionId initial.evidence = [])
    {record : ExecutionRecord}
    (returned : .ok record ∈ ((kernelComponent core initial).run initial requests).1)
    (completed : record.finalStatus = "Completed") :
    Replays core ((kernelComponent core initial).run initial requests).2 record := by
  -- the run may continue from any world that holds none of the ids still to come
  suffices general : ∀ world : World Env Evidence Budget Governor, (∀ request ∈ requests,
        byExecution request.executionId world.evidence = []) →
      .ok record ∈ ((kernelComponent core initial).run world requests).1 →
        Replays core ((kernelComponent core initial).run world requests).2 record from
    general initial fresh returned
  clear fresh returned
  intro world fresh returned
  induction requests generalizing world with
  | nil => cases returned
  | cons request rest ih =>
    rw [map_cons, nodup_cons] at distinct
    rw [Component.run_cons] at returned ⊢
    rcases mem_cons.mp returned with isFirst | isLater
    · obtain ⟨completion⟩ := execute_completed isFirst.symm completed
      have id : record.executionId = request.executionId :=
        congrArg (·.executionId) completion.record_eq
      apply replays_of_chain completion digest
      rw [id, run_byExecution_other distinct.1]
      have grown := completion.appended inferInstance request.executionId
      have own := ofExecution_eq_self completion.chain_own
      rw [id] at own
      rw [fresh request (by simp), nil_append] at grown
      exact grown.trans own
    · apply ih distinct.2 _ _ isLater
      intro later laterMem
      have different : later.executionId ≠ request.executionId := by
        intro same
        exact distinct.1 (same ▸ mem_map_of_mem laterMem)
      have unchanged :=
        (execute_gainedOnly core request world).byExecution_other different
      exact unchanged.trans (fresh later (by simp [laterMem]))

end Run

/-- The hexadecimal form of a text, behind a digit that keeps it non-empty. -/
def plainDigest (text : String) : String := "0" ++ HexCodec.lowercase.encode text.toUTF8

theorem plainDigest_chainDigest : ChainDigest plainDigest := by
  have digits : ∀ text, ∀ char ∈ (plainDigest text).toList, isHexDigit char = true := by
    intro text char membership
    rw [plainDigest, String.toList_append, mem_append] at membership
    rcases membership with isZero | inHex
    · rw [show "0".toList = ['0'] from rfl, mem_singleton] at isZero
      rw [isZero]
      decide
    · exact HexCodec.lowercase.encode_digits _ char inHex
  refine ⟨?injective, ?ne_genesis, ?no_separator⟩
  case injective =>
    intro first second same
    have tails := (String.append_right_inj "0").mp same
    exact HexCodec.lowercase.encode_toUTF8_injective tails
  case ne_genesis =>
    intro text same
    have isDigit := digits text 'g' (by rw [same]; decide)
    revert isDigit
    decide
  case no_separator =>
    exact fun text => not_mem_of_isHexDigit (digits text) (by decide)

def plainKernel : NoumenonCore Unit :=
  readKernel plainDigest fun _ => pure ()

/-- Of two executions the first one still replays after the second. -/
theorem readRequests_replay :
    ∃ record, (plainKernel.execute (readRequest "e1" true) (freshWorld ())).1 = .ok record ∧
      Replays plainKernel ((kernelComponent plainKernel (freshWorld ())).run (freshWorld ())
        [readRequest "e1" true, readRequest "e2" true]).2 record := by
  have status : (plainKernel.execute (readRequest "e1" true) (freshWorld ())).1.map
      (·.finalStatus) = .ok "Completed" := by
    decide +kernel
  obtain ⟨record, succeeded, completed⟩ := Check.map_eq_ok.mp status
  refine ⟨record, succeeded, completed_replays plainDigest_chainDigest ?_ ?_ ?_ completed⟩
  · decide
  · simp [freshWorld, byExecution]
  · rw [Component.run_cons]
    exact mem_cons.mpr (Or.inl succeeded.symm)

/-- Two steps, the first of which has the id of the context event. -/
def clashRequest : TrustedExecutionRequest :=
  stockRequest "e"
    (.pair { stepId := "admission-context", capabilityRef := some "read", input := "i" }
      { stepId := "a", capabilityRef := some "read", input := "j" })
    true

/-- An injective digest some of whose values contain the field separator. -/
def clashDigest (text : String) : String :=
  if text = buildExecutionContextPayload clashRequest then "b:c"
  else if text = "i" then "context"
  else if text = "echo:i" then "b"
  else if text = "e:admission-context:context:b:c:genesis" then "c:genesis"
  else "#" ++ text

/-- The text behind a value of the digest. -/
def clashText (value : String) : String :=
  if value = "b:c" then buildExecutionContextPayload clashRequest
  else if value = "context" then "i"
  else if value = "b" then "echo:i"
  else if value = "c:genesis" then "e:admission-context:context:b:c:genesis"
  else String.ofList (value.toList.drop 1)

theorem sharp_ne {text value : String} (other : value.toList.head? ≠ some '#') :
    "#" ++ text ≠ value := by
  intro same
  apply other
  rw [← same, String.toList_append]
  rfl

theorem clashText_clashDigest : Function.LeftInverse clashText clashDigest := by
  intro text
  rw [clashDigest]
  split
  · next isContext => exact isContext.symm
  split
  · next isInput => exact isInput.symm
  split
  · next isOutput => exact isOutput.symm
  split
  · next isHashed => exact isHashed.symm
  · rw [clashText, if_neg (sharp_ne (by decide)), if_neg (sharp_ne (by decide)),
      if_neg (sharp_ne (by decide)), if_neg (sharp_ne (by decide))]
    simp

theorem clashDigest_fresh (text : String) :
    clashDigest text ≠ "" ∧ clashDigest text ≠ "genesis" := by
  rw [clashDigest]
  split
  · decide
  split
  · decide
  split
  · decide
  split
  · decide
  · exact ⟨sharp_ne (by decide), sharp_ne (by decide)⟩

def clashKernel : NoumenonCore Unit :=
  readKernel clashDigest fun _ => pure ()

/-- The separator in the digests lets two events share a hash: the walk of the
replay breaks off, and its fallback reads the steps in another order. -/
theorem clashRequest_does_not_replay :
    Function.Injective clashKernel.crypto ∧
      (∀ text, clashKernel.crypto text ≠ "" ∧ clashKernel.crypto text ≠ "genesis") ∧
      ∃ record, (clashKernel.execute clashRequest (freshWorld ())).1 = .ok record ∧
        record.finalStatus = "Completed" ∧
        ¬Replays clashKernel (clashKernel.execute clashRequest (freshWorld ())).2 record := by
  refine ⟨clashText_clashDigest.injective, clashDigest_fresh, ?_⟩
  have facts : (clashKernel.execute clashRequest (freshWorld ())).1.map (fun record =>
      (record.finalStatus, (clashKernel.replayCheck record
        (clashKernel.execute clashRequest (freshWorld ())).2).1.isOk)) =
      .ok ("Completed", false) := by
    decide +kernel
  obtain ⟨record, succeeded, values⟩ := Check.map_eq_ok.mp facts
  simp only [Prod.mk.injEq] at values
  obtain ⟨completed, refused⟩ := values
  refine ⟨record, succeeded, completed, ?_⟩
  rintro ⟨-, replayed⟩
  rw [replayed] at refused
  cases refused

end AutoLoop.NoumenonCore
