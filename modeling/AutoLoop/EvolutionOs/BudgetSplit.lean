import AutoLoop.EvolutionOs.GraphCompiler

/-!
# Splits of a budget

Every part of a budget is raised to its floor, and execution alone absorbs what is then too
much or too little.
-/

namespace AutoLoop.EvolutionOs

open StrategyProfile Table

section Split

variable (total : UInt64) (strategy : StrategyProfile) (reality : RealitySnapshot)

/-- The floor of a part; zero where there is none. -/
def RealitySnapshot.floor (part : String) : Nat :=
  ((reality.budgetProfile.get (part ++ "_floor")).getD 0).toNat

def StrategyProfile.ratioSum : Nat :=
  max (strategy.retrievalRatioBps + strategy.verificationRatioBps + strategy.executionRatioBps) 1

def raisedShare (ratioBps : Nat) (part : String) : Nat :=
  max (total.toNat * ratioBps / strategy.ratioSum) (reality.floor part)

def retrievalShare : Nat :=
  raisedShare total strategy reality strategy.retrievalRatioBps "retrieval"

def verificationShare : Nat :=
  raisedShare total strategy reality strategy.verificationRatioBps "verification"

def executionShare : Nat :=
  raisedShare total strategy reality strategy.executionRatioBps "execution"

/-- The sum that is made in between fits into its word. -/
def SumFits : Prop :=
  retrievalShare total strategy reality + verificationShare total strategy reality +
    executionShare total strategy reality < 2 ^ 64

def allocated (part : String) : Nat :=
  (((splitBudget total strategy reality).get part).getD 0).toNat

/-- The allocations add up to the total, each at its floor or above. -/
structure Conserves : Prop where
  fits : SumFits total strategy reality
  sums : allocated total strategy reality "retrieval" +
    allocated total strategy reality "verification" +
    allocated total strategy reality "execution" = total.toNat
  floors : ∀ part ∈ ["retrieval", "verification", "execution"],
    reality.floor part ≤ allocated total strategy reality part

variable {total strategy reality}

theorem toNat_budgetShare {ratioBps : Nat} (ratio : ratioBps ≤ strategy.ratioSum) (part : String) :
    (budgetShare total.toNat ratioBps strategy.ratioSum
      (reality.budgetProfile.get (part ++ "_floor"))).toNat =
        raisedShare total strategy reality ratioBps part := by
  have below : total.toNat * ratioBps / strategy.ratioSum ≤ total.toNat := by
    refine Nat.div_le_of_le_mul ?_
    rw [Nat.mul_comm strategy.ratioSum]
    exact Nat.mul_le_mul_left _ ratio
  have isShare : (UInt64.ofNat (total.toNat * ratioBps / strategy.ratioSum)).toNat =
      total.toNat * ratioBps / strategy.ratioSum := by
    rw [UInt64.toNat_ofNat', Nat.mod_eq_of_lt (below.trans_lt total.toNat_lt)]
  rw [raisedShare, RealitySnapshot.floor]
  cases reality.budgetProfile.get (part ++ "_floor") with
  | none => exact isShare.trans (Nat.max_zero _).symm
  | some value =>
    change (if UInt64.ofNat _ ≤ value then value else UInt64.ofNat _).toNat = _
    simp only [UInt64.le_iff_toNat_le, isShare, Option.getD_some]
    split
    · next under => exact (Nat.max_eq_right under).symm
    · next above => exact isShare.trans (Nat.max_eq_left (Nat.le_of_not_le above)).symm

theorem toNat_absorbed {retrieval verification execution : UInt64}
    (fits : retrieval.toNat + verification.toNat + execution.toNat < 2 ^ 64) :
    (if retrieval + verification + execution > total then
        saturatingSub execution (retrieval + verification + execution - total)
      else if retrieval + verification + execution < total then
        saturatingAdd execution (total - (retrieval + verification + execution))
      else execution).toNat = total.toNat - (retrieval.toNat + verification.toNat) := by
  have isSum : (retrieval + verification + execution).toNat =
      retrieval.toNat + verification.toNat + execution.toNat := by
    rw [UInt64.toNat_add, UInt64.toNat_add, Nat.mod_add_mod, Nat.mod_eq_of_lt fits]
  have small := total.toNat_lt
  split
  · next exceeds =>
    rw [gt_iff_lt, UInt64.lt_iff_toNat_lt] at exceeds
    rw [toNat_saturatingSub, UInt64.toNat_sub_of_le _ _ (UInt64.le_iff_toNat_le.mpr exceeds.le)]
    omega
  · next notOver =>
    rw [gt_iff_lt, UInt64.lt_iff_toNat_lt] at notOver
    split
    · next under =>
      rw [UInt64.lt_iff_toNat_lt] at under
      rw [toNat_saturatingAdd, u64Max,
        UInt64.toNat_sub_of_le _ _ (UInt64.le_iff_toNat_le.mpr under.le)]
      omega
    · next notUnder =>
      rw [UInt64.lt_iff_toNat_lt] at notUnder
      omega

theorem allocated_splitBudget (positive : 1 ≤ total) :
    allocated total strategy reality "retrieval" = retrievalShare total strategy reality ∧
    allocated total strategy reality "verification" = verificationShare total strategy reality ∧
    (SumFits total strategy reality → allocated total strategy reality "execution" = total.toNat -
        (retrievalShare total strategy reality + verificationShare total strategy reality)) := by
  have isTotal : max total 1 = total := by
    change (if total ≤ 1 then 1 else total) = total
    split
    · next small => exact UInt64.le_antisymm positive small
    · rfl
  have retrieval := @toNat_budgetShare total strategy reality strategy.retrievalRatioBps
    (by rw [ratioSum]; omega) "retrieval"
  have verification := @toNat_budgetShare total strategy reality strategy.verificationRatioBps
    (by rw [ratioSum]; omega) "verification"
  have execution := @toNat_budgetShare total strategy reality strategy.executionRatioBps
    (by rw [ratioSum]; omega) "execution"
  rw [← retrievalShare] at retrieval
  rw [← verificationShare] at verification
  rw [← executionShare] at execution
  rw [ratioSum] at retrieval verification execution
  refine ⟨?_, ?_, fun fits => ?_⟩
  · rw [allocated, splitBudget, isTotal, get_insert_of_ne _ _ (by decide),
      get_insert_of_ne _ _ (by decide), get_insert_self]
    exact retrieval
  · rw [allocated, splitBudget, isTotal, get_insert_of_ne _ _ (by decide), get_insert_self]
    exact verification
  · rw [SumFits, ← retrieval, ← verification, ← execution] at fits
    rw [← retrieval, ← verification, allocated, splitBudget, isTotal, get_insert_self]
    exact toNat_absorbed fits

/-- A budget whose floors fit is conserved exactly when the shares of retrieval and
verification, raised to their floors, leave that of execution. -/
theorem conserves_iff (positive : 1 ≤ total)
    (covered : reality.floor "retrieval" + reality.floor "verification" +
      reality.floor "execution" ≤ total.toNat) :
    Conserves total strategy reality ↔ SumFits total strategy reality ∧
      retrievalShare total strategy reality + verificationShare total strategy reality +
        reality.floor "execution" ≤ total.toNat := by
  obtain ⟨retrieval, verification, execution⟩ :=
    @allocated_splitBudget total strategy reality positive
  constructor
  · intro conserves
    have floor := conserves.floors "execution" (by simp)
    have sums := conserves.sums
    rw [retrieval, verification] at sums
    exact ⟨conserves.fits, by omega⟩
  · rintro ⟨fits, room⟩
    have rest := execution fits
    refine ⟨fits, by rw [retrieval, verification, rest]; omega, ?_⟩
    simp only [List.forall_mem_cons, List.not_mem_nil, false_imp_iff, implies_true, and_true]
    refine ⟨?_, ?_, by rw [rest]; omega⟩
    · rw [retrieval]
      exact Nat.le_max_right _ _
    · rw [verification]
      exact Nat.le_max_right _ _

end Split

def flooredSnapshot (floor : UInt64) : RealitySnapshot :=
  ⟨"", "", "", "", "", "", [], [], [], 10, 0, [], [], [],
    empty.insert "retrieval_floor" floor, "", "", "", "", "", "", "", 0⟩

def baseline : StrategyProfile := ⟨"strategy:baseline", 2500, 3000, 4500, 0, 10000⟩

theorem small_floor_conserved : Conserves 10 baseline (flooredSnapshot 2) :=
  (conserves_iff (by decide) (by decide)).mpr ⟨by unfold SumFits; decide, by decide⟩

/-- A floor below the total that takes more than the share of execution. -/
theorem large_floor_overspends :
    (flooredSnapshot 8).floor "retrieval" + (flooredSnapshot 8).floor "verification" +
      (flooredSnapshot 8).floor "execution" ≤ 10 ∧
    ¬Conserves 10 baseline (flooredSnapshot 8) := by
  refine ⟨by decide, fun conserves => ?_⟩
  exact absurd conserves.sums (by decide)

end AutoLoop.EvolutionOs
