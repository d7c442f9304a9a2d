import Mathlib.Logic.Basic

/-!
# Sequences of checks

A validation function runs checks one after the other and ends with the message
of the first check that fails.  It accepts exactly when every check accepts; the
rules below read the conjunction of the checks off such a function.
-/

namespace AutoLoop.Check

variable {α β : Type}

/-- A check that fails with its message unless the condition holds. -/
def require (condition : Prop) [Decidable condition] (message : String) :
    Except String Unit :=
  if condition then .ok () else .error message

/-- `Option::ok_or_else`: a check that yields the value it asks for. -/
def present (value : Option α) (message : String) : Except String α :=
  match value with
  | some found => .ok found
  | none => .error message

@[simp] theorem require_eq_ok {condition : Prop} [Decidable condition]
    {message : String} {result : Unit} :
    require condition message = .ok result ↔ condition := by
  by_cases holds : condition
  · simp [require, holds]
  · simp [require, holds]

@[simp] theorem present_eq_ok {value : Option α} {message : String} {found : α} :
    present value message = .ok found ↔ value = some found := by
  cases value with
  | none => simp [present]
  | some held => simp [present]

/-- A sequence accepts exactly when both of its parts do. -/
@[simp] theorem bind_eq_ok {check : Except String α} {next : α → Except String β} {result : β} :
    (check >>= next) = .ok result ↔
      ∃ value, check = .ok value ∧ next value = .ok result := by
  cases check with
  | ok value => simp [bind, Except.bind]
  | error message => simp [bind, Except.bind]

theorem map_eq_ok {check : Except String α} {observe : α → β} {seen : β} :
    check.map observe = .ok seen ↔ ∃ value, check = .ok value ∧ observe value = seen := by
  cases check with
  | ok value => simp [Except.map]
  | error message => simp [Except.map]

/-- A sequence of checks that yield nothing is a conjunction. -/
@[simp] theorem exists_unit {property : Unit → Prop} :
    (∃ value, property value) ↔ property () :=
  ⟨fun ⟨(), holds⟩ => holds, fun holds => ⟨(), holds⟩⟩

end AutoLoop.Check
