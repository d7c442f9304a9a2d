import Mathlib.Logic.Basic

/-!
# Hash maps by their lookups

A hash map is modelled by what `get` answers for each key.  Nothing here depends
on the iteration order, which the Rust type leaves unspecified.
-/

namespace AutoLoop

/-- A map given by its lookup function. -/
def HashMap (Key Value : Type) : Type := Key → Option Value

namespace HashMap

variable {Key Value : Type} [DecidableEq Key]

/-- `HashMap::new`. -/
def empty : HashMap Key Value := fun _ => none

/-- `HashMap::get`. -/
def get (map : HashMap Key Value) (key : Key) : Option Value := map key

/-- `HashMap::insert`: a later value replaces an earlier one. -/
def insert (map : HashMap Key Value) (key : Key) (value : Value) : HashMap Key Value :=
  fun other => if other = key then some value else map other

omit [DecidableEq Key] in
@[simp] theorem get_empty (key : Key) : (empty : HashMap Key Value).get key = none := rfl

theorem get_insert (map : HashMap Key Value) (key other : Key) (value : Value) :
    (map.insert key value).get other =
      if other = key then some value else map.get other := rfl

@[simp] theorem get_insert_self (map : HashMap Key Value) (key : Key) (value : Value) :
    (map.insert key value).get key = some value := by
  rw [get_insert, if_pos rfl]

end HashMap

end AutoLoop
