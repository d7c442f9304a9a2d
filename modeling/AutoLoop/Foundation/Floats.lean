import AutoLoop.Foundation.JsonValue
import Mathlib.Algebra.Order.Field.Rat

/-!
# Floating-point operations

What programs use of `f32`: its arithmetic, comparisons, conversions and decimal display.
No law is assumed of any of them; for results that compare values, ordered floats are
those without an incomparable value.
-/

namespace AutoLoop

class FloatOps (F : Type) extends LT F, LE F, Add F, Sub F, Mul F, Div F, Max F, Min F,
    OfScientific F where
  decidableLT : DecidableLT F
  decidableLE : DecidableLE F
  negInfinity : F
  isFinite : F → Bool
  abs : F → F
  /-- `as f32` of an unsigned or a signed integer. -/
  ofNat : Nat → F
  ofInt : Int → F
  /-- `as_f64() as f32` of a JSON number. -/
  ofJson : JsonNumber → F
  totalCmp : F → F → Ordering
  /-- `format!` with so many places. -/
  fixed : Nat → F → String

namespace FloatOps

variable {F : Type} [FloatOps F]

instance instDecidableLT : DecidableLT F := decidableLT

instance instDecidableLE : DecidableLE F := decidableLE

def clamp (value low high : F) : F :=
  if value < low then low else if high < value then high else value

/-- `partial_cmp(..).unwrap_or(Ordering::Equal)`. -/
def partialCmp (first second : F) : Ordering :=
  if first < second then .lt else if second < first then .gt else .eq

/-- `fold(start, f32::max)`. -/
def maxFrom (start : F) (values : List F) : F := values.foldl max start

def sum (values : List F) : F := values.foldl (· + ·) 0.0

end FloatOps

/-- Floats without an incomparable value: their comparisons are those of a linear order. -/
class OrderedFloats (F : Type) extends FloatOps F, LinearOrder F

namespace OrderedFloats

variable {F : Type} [OrderedFloats F]

theorem partialCmp_eq_lt_iff {first second : F} :
    FloatOps.partialCmp first second = .lt ↔ first < second := by
  rw [FloatOps.partialCmp]
  split
  · next below => simp [below]
  · next notBelow =>
    split
    · simp [notBelow]
    · simp [notBelow]

theorem partialCmp_eq_eq_iff {first second : F} :
    FloatOps.partialCmp first second = .eq ↔ first = second := by
  rw [FloatOps.partialCmp]
  split
  · next below => simp [below.ne]
  · next notBelow =>
    split
    · next above => simp [above.ne']
    · next notAbove => simp [le_antisymm (not_lt.mp notAbove) (not_lt.mp notBelow)]

theorem maxFrom_lt_iff {start bound : F} {values : List F} :
    FloatOps.maxFrom start values < bound ↔ start < bound ∧ ∀ value ∈ values, value < bound := by
  induction values generalizing start with
  | nil => simp [FloatOps.maxFrom]
  | cons value rest ih =>
    rw [FloatOps.maxFrom, List.foldl_cons]
    refine ih.trans ?_
    rw [max_lt_iff, List.forall_mem_cons, and_assoc]

theorem maxFrom_le_iff {start bound : F} {values : List F} :
    FloatOps.maxFrom start values ≤ bound ↔ start ≤ bound ∧ ∀ value ∈ values, value ≤ bound := by
  induction values generalizing start with
  | nil => simp [FloatOps.maxFrom]
  | cons value rest ih =>
    rw [FloatOps.maxFrom, List.foldl_cons]
    refine ih.trans ?_
    rw [max_le_iff, List.forall_mem_cons, and_assoc]

theorem le_maxFrom {start value : F} {values : List F} (membership : value ∈ values) :
    value ≤ FloatOps.maxFrom start values :=
  (maxFrom_le_iff.mp le_rfl).2 value membership

end OrderedFloats

/-! ## Rational numbers

The operations without rounding; what stands for the negative infinity is below every
finite `f32`. -/

def doubleValue (bits : UInt64) : ℚ :=
  let exponent := bits.toNat / 2 ^ 52 % 2 ^ 11
  let fraction := bits.toNat % 2 ^ 52
  let magnitude : ℚ :=
    if exponent = 0 then (fraction * 2 : Nat) / (2 ^ 1075 : Nat)
    else ((2 ^ 52 + fraction) * 2 ^ exponent : Nat) / (2 ^ 1075 : Nat)
  if bits.toNat < 2 ^ 63 then magnitude else -magnitude

/-- The decimal display with so many places, ties to the even side. -/
def decimal (places : Nat) (value : ℚ) : String :=
  let scaled := |value| * (10 ^ places : Nat)
  let below := scaled.floor.toNat
  let rest := scaled - (below : ℚ)
  let units :=
    if rest < 1 / 2 ∨ (rest = 1 / 2 ∧ below % 2 = 0) then below else below + 1
  let digits := (units % 10 ^ places).repr
  (if value < 0 then "-" else "") ++ (units / 10 ^ places).repr ++ "." ++
    String.ofList (List.replicate (places - digits.length) '0') ++ digits

instance rationalOps : OrderedFloats ℚ where
  decidableLT := inferInstance
  decidableLE := inferInstance
  negInfinity := -((2 ^ 128 : Nat) : ℚ)
  isFinite _ := true
  abs value := |value|
  ofNat value := value
  ofInt value := value
  ofJson
    | .posInt value => value.toNat
    | .negInt value => value.toInt
    | .float bits => doubleValue bits
  totalCmp first second := compare first second
  fixed := decimal
  toLinearOrder := inferInstance

/-- `sort_by`, which is stable. -/
def sortBy {α : Type} (cmp : α → α → Ordering) (items : List α) : List α :=
  items.mergeSort fun first second => cmp first second != .gt

end AutoLoop
