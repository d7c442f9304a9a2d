import AutoLoop.Foundation.FileSystem
import AutoLoop.Foundation.Framing

/-!
# Paths as text

A path is followed piece by piece from a directory: empty pieces and `.` stay, `..` goes
up.  Where a path leads can be spelled out again, and one spelling goes on after another
exactly when the one place is at or under the other.
-/

namespace AutoLoop

open Text

/-- What a directory entry can be called. -/
def IsName (name : String) : Prop := name ≠ "" ∧ '/' ∉ name.toList

/-- A directory, by the names on the way from the root. -/
structure Directory where
  path : Path
  names : ∀ name ∈ path, IsName name

def Directory.root : Directory where
  path := []
  names := by simp

namespace Path

def follow (place : Path) (piece : String) : Path :=
  if piece = "" ∨ piece = "." then place
  else if piece = ".." then place.dropLast
  else place ++ [piece]

def base (directory : Directory) (text : String) : Path :=
  if startsWith text "/" then [] else directory.path

/-- Where a path leads from a working directory. -/
def resolve (directory : Directory) (text : String) : Path :=
  (Text.split '/' text).foldl follow (base directory text)

/-- The absolute path without `.` and `..`; that of the root is empty. -/
def spell (place : Path) : String := joinWith '/' ("" :: place)

def goesOn (text start : String) : Bool :=
  text == start || startsWith text (start ++ "/")

/-! ## Names -/

theorem isName_follow {place : Path} {piece : String} (names : ∀ name ∈ place, IsName name)
    (clean : '/' ∉ piece.toList) : ∀ name ∈ follow place piece, IsName name := by
  intro name membership
  rw [follow] at membership
  split at membership
  · exact names name membership
  · next other =>
    split at membership
    · exact names name (List.mem_of_mem_dropLast membership)
    · cases List.mem_append.mp membership with
      | inl inPlace => exact names name inPlace
      | inr isPiece =>
        rw [List.mem_singleton.mp isPiece]
        exact ⟨(not_or.mp other).1, clean⟩

theorem isName_resolve (directory : Directory) (text : String) :
    ∀ name ∈ resolve directory text, IsName name := by
  have followed : ∀ (pieces : List String) (place : Path),
      (∀ piece ∈ pieces, '/' ∉ piece.toList) → (∀ name ∈ place, IsName name) →
        ∀ name ∈ pieces.foldl follow place, IsName name := by
    intro pieces
    induction pieces with
    | nil => exact fun place _ names => names
    | cons piece rest ih =>
      intro place clean names
      apply ih (follow place piece)
      · exact fun other later => clean other (List.mem_cons_of_mem piece later)
      · exact isName_follow names (clean piece List.mem_cons_self)
  apply followed
  · exact fun piece => not_mem_of_mem_split
  · rw [base]
    split
    · intro name inRoot
      cases inRoot
    · exact directory.names

/-! ## Spellings -/

theorem pieces_spell {place : Path} (names : ∀ name ∈ place, IsName name) :
    Text.pieces '/' ("" :: place) = "" :: place := by
  apply pieces_of_not_mem
  intro field membership
  cases List.mem_cons.mp membership with
  | inl isEmpty => simp [isEmpty]
  | inr inPlace => exact (names field inPlace).2

theorem goesOn_spell_iff {place above : Path} (names : ∀ name ∈ place, IsName name)
    (aboveNames : ∀ name ∈ above, IsName name) :
    goesOn (spell place) (spell above) = true ↔ above <+: place := by
  have same : spell place = spell above ↔ place = above := by
    rw [spell, spell, joinWith_eq_iff (by simp) (by simp), pieces_spell names,
      pieces_spell aboveNames, List.cons.injEq, eq_self, true_and]
  have starts : startsWith (spell place) (spell above ++ "/") = true ↔
      ∃ later, later ≠ [] ∧ place = above ++ later := by
    rw [startsWith_iff_exists]
    refine (joinWith_starts_iff (by simp) (by simp)).trans ?_
    simp only [pieces_spell names, pieces_spell aboveNames, List.cons_append, List.cons.injEq,
      true_and]
  rw [goesOn, Bool.or_eq_true, beq_iff_eq, same, starts]
  constructor
  · intro either
    cases either with
    | inl isSame => exact isSame ▸ List.prefix_rfl
    | inr below =>
      obtain ⟨later, -, shape⟩ := below
      exact ⟨later, shape.symm⟩
  · intro isPrefix
    obtain ⟨later, shape⟩ := isPrefix
    by_cases isNil : later = []
    · rw [isNil, List.append_nil] at shape
      exact Or.inl shape.symm
    · exact Or.inr ⟨later, isNil, shape.symm⟩

end Path

end AutoLoop
