import AutoLoop.Foundation.Framing
import AutoLoop.NoumenonCore.Kernel.ReplayCompleteness

/-!
# What an execution fingerprint binds

The fingerprint of an execution is the digest of eleven fields joined with `|`,
one of which is the sorted list of store paths, joined with `|` itself.  It does
not depend on the order of the store paths.  It tells two execution universes
apart unless one regroups the pieces between the separators of the second.
-/

namespace AutoLoop.NoumenonCore

open Text

/-- Everything that enters the fingerprint of an execution. -/
structure ExecutionUniverse where
  closure : ReproducibleClosure
  supplyChain : SupplyChainEnvelope
  outputChainDigest : String

namespace ExecutionUniverse

variable {crypto : CryptoService} {first second : ExecutionUniverse}

def fingerprint (crypto : CryptoService) (execution : ExecutionUniverse) : String :=
  computeExecutionFingerprint
    (buildFingerprintMaterial execution.closure execution.supplyChain crypto)
    execution.outputChainDigest crypto

/-- The store paths in the order in which they are joined. -/
def storePaths (execution : ExecutionUniverse) : List String :=
  execution.closure.storePaths.insertionSort (· ≤ ·)

section
variable (crypto : CryptoService) (execution : ExecutionUniverse)

def fields : List String :=
  [execution.closure.flakeLockDigest, execution.closure.derivationDigest,
    joinWith '|' execution.storePaths, crypto (joinWith '|' execution.storePaths),
    execution.closure.runtimeClosureHash, execution.supplyChain.policyBundleDigest,
    execution.supplyChain.capabilityPackageDigest, execution.supplyChain.verifierDigest,
    execution.closure.configDigest, execution.closure.generationId,
    execution.outputChainDigest]

theorem fingerprint_eq :
    execution.fingerprint crypto = crypto (joinWith '|' (execution.fields crypto)) := rfl

end

/-- The two universes agree in everything that a fingerprint is to bind. -/
structure Same (first second : ExecutionUniverse) : Prop where
  storePaths : first.closure.storePaths.Perm second.closure.storePaths
  flakeLockDigest : first.closure.flakeLockDigest = second.closure.flakeLockDigest
  derivationDigest : first.closure.derivationDigest = second.closure.derivationDigest
  runtimeClosureHash :
    first.closure.runtimeClosureHash = second.closure.runtimeClosureHash
  policyBundleDigest :
    first.supplyChain.policyBundleDigest = second.supplyChain.policyBundleDigest
  capabilityPackageDigest : first.supplyChain.capabilityPackageDigest =
    second.supplyChain.capabilityPackageDigest
  verifierDigest :
    first.supplyChain.verifierDigest = second.supplyChain.verifierDigest
  configDigest : first.closure.configDigest = second.closure.configDigest
  generationId : first.closure.generationId = second.closure.generationId
  outputChainDigest : first.outputChainDigest = second.outputChainDigest

/-- The fields of the two universes consist of the same pieces, but some field, or
the list of store paths, is made of them in another way. -/
def Regrouped (crypto : CryptoService) (first second : ExecutionUniverse) : Prop :=
  pieces '|' (first.fields crypto) = pieces '|' (second.fields crypto) ∧
    (framing '|' (first.fields crypto) ≠ framing '|' (second.fields crypto) ∨
      framing '|' first.storePaths ≠ framing '|' second.storePaths)

instance (crypto : CryptoService) (first second : ExecutionUniverse) :
    Decidable (Regrouped crypto first second) :=
  inferInstanceAs (Decidable (_ ∧ _))

/-! ## The order of the store paths -/

theorem storePaths_eq_iff :
    first.storePaths = second.storePaths ↔
      first.closure.storePaths.Perm second.closure.storePaths := by
  have sorted := List.pairwise_insertionSort (α := String) (· ≤ ·)
  have perm := List.perm_insertionSort (α := String) (· ≤ ·)
  constructor
  · intro same
    have middle : first.storePaths.Perm second.closure.storePaths := by
      rw [same]
      exact perm _
    exact (perm _).symm.trans middle
  · intro samePaths
    apply List.Perm.eq_of_pairwise' (sorted _) (sorted _)
    exact (perm _).trans (samePaths.trans (perm _).symm)

theorem Same.fields_eq (same : Same first second) :
    first.fields crypto = second.fields crypto := by
  have paths := storePaths_eq_iff.mpr same.storePaths
  simp only [fields, paths, same.flakeLockDigest, same.derivationDigest,
    same.runtimeClosureHash, same.policyBundleDigest, same.capabilityPackageDigest,
    same.verifierDigest, same.configDigest, same.generationId, same.outputChainDigest]

/-! ## What the fields determine -/

theorem storePaths_eq_of_framing
    (joined : joinWith '|' first.storePaths = joinWith '|' second.storePaths)
    (sameFraming : framing '|' first.storePaths = framing '|' second.storePaths) :
    first.storePaths = second.storePaths := by
  apply eq_of_pieces_of_framing ?_ sameFraming
  have lengths := congrArg List.length sameFraming
  rw [framing, framing, List.length_map, List.length_map] at lengths
  by_cases empty : first.storePaths = []
  · rw [empty, List.length_nil] at lengths
    rw [empty, List.length_eq_zero_iff.mp lengths.symm]
  · have otherNonempty : second.storePaths ≠ [] := by
      intro otherEmpty
      rw [otherEmpty, List.length_nil] at lengths
      exact empty (List.length_eq_zero_iff.mp lengths)
    exact (joinWith_eq_iff empty otherNonempty).mp joined

theorem same_of_fields_eq (sameFields : first.fields crypto = second.fields crypto)
    (sameFraming : framing '|' first.storePaths = framing '|' second.storePaths) :
    Same first second := by
  simp only [fields, List.cons.injEq, and_true] at sameFields
  obtain ⟨flakeLock, derivation, joined, -, closureHash, policyBundle, capabilityPackage,
    verifier, config, generation, outputChain⟩ := sameFields
  exact
    { storePaths := storePaths_eq_iff.mp (storePaths_eq_of_framing joined sameFraming)
      flakeLockDigest := flakeLock
      derivationDigest := derivation
      runtimeClosureHash := closureHash
      policyBundleDigest := policyBundle
      capabilityPackageDigest := capabilityPackage
      verifierDigest := verifier
      configDigest := config
      generationId := generation
      outputChainDigest := outputChain }

theorem fingerprint_eq_iff_pieces (injective : Function.Injective crypto) :
    first.fingerprint crypto = second.fingerprint crypto ↔
      pieces '|' (first.fields crypto) = pieces '|' (second.fields crypto) := by
  rw [fingerprint_eq, fingerprint_eq, injective.eq_iff,
    joinWith_eq_iff (by simp [fields]) (by simp [fields])]

/-- Two fingerprints agree exactly for the same execution universe, unless one of
the universes regroups the pieces of the second. -/
theorem fingerprint_binds_iff (injective : Function.Injective crypto)
    (first second : ExecutionUniverse) :
    (first.fingerprint crypto = second.fingerprint crypto ↔ Same first second) ↔
      ¬Regrouped crypto first second := by
  rw [fingerprint_eq_iff_pieces injective]
  constructor
  · rintro binds ⟨samePieces, otherFraming⟩
    have same := binds.mp samePieces
    rcases otherFraming with ofFields | ofPaths
    · exact ofFields (by rw [same.fields_eq])
    · exact ofPaths (by rw [storePaths_eq_iff.mpr same.storePaths])
  · intro notRegrouped
    constructor
    · intro samePieces
      have sameFramings := not_or.mp fun otherFraming =>
        notRegrouped ⟨samePieces, otherFraming⟩
      have sameFields := eq_of_pieces_of_framing samePieces
        (not_not.mp sameFramings.1)
      exact same_of_fields_eq sameFields (not_not.mp sameFramings.2)
    · intro same
      rw [same.fields_eq]

end ExecutionUniverse

def smallUniverse (storePaths : List String) : ExecutionUniverse where
  closure := { (readRequest "e" true).closure with
    storePaths := storePaths, flakeLockDigest := "f", derivationDigest := "d",
    runtimeClosureHash := "r", configDigest := "c", generationId := "g" }
  supplyChain := { (readRequest "e" true).supplyChain with
    policyBundleDigest := "p", capabilityPackageDigest := "k", verifierDigest := "v" }
  outputChainDigest := "o"

/-- The order of the store paths does not matter, and another path does. -/
theorem smallUniverse_binds :
    ((smallUniverse ["/b", "/a"]).fingerprint plainDigest =
        (smallUniverse ["/a", "/c"]).fingerprint plainDigest ↔
      ExecutionUniverse.Same (smallUniverse ["/b", "/a"]) (smallUniverse ["/a", "/c"])) := by
  apply (ExecutionUniverse.fingerprint_binds_iff plainDigest_chainDigest.injective _ _).mpr
  decide +kernel

/-- Two store paths, and the one path that their joined text is, are confused. -/
theorem joinedPath_confused :
    Function.Injective plainDigest ∧
      (smallUniverse ["/a", "/b"]).fingerprint plainDigest =
        (smallUniverse ["/a|/b"]).fingerprint plainDigest ∧
      ¬ExecutionUniverse.Same (smallUniverse ["/a", "/b"]) (smallUniverse ["/a|/b"]) := by
  refine ⟨plainDigest_chainDigest.injective, rfl, ?_⟩
  intro same
  cases same.storePaths.length_eq

end AutoLoop.NoumenonCore
