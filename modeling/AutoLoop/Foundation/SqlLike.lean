import AutoLoop.Foundation.Text

/-!
# The LIKE operator of SQL

Matching with the wildcards `%` and `_` and the escape character `\`.  A pattern
made by appending `%` to a text selects what starts with the text only as far as
the text itself contains none of the three.
-/

namespace AutoLoop.Sql

/-- `text LIKE pattern` over characters.  `%` stands for any run of characters,
`_` for any one of them, and a backslash takes the next character literally.  A
pattern that ends in a lone backslash, which SQL rejects, stands for itself. -/
def matchChars : List Char → List Char → Bool
  | [], text => text.isEmpty
  | '%' :: pattern, text => text.tails.any fun rest => matchChars pattern rest
  | '_' :: pattern, text =>
    match text with
    | [] => false
    | _ :: rest => matchChars pattern rest
  | '\\' :: char :: pattern, text =>
    match text with
    | [] => false
    | first :: rest => first = char && matchChars pattern rest
  | char :: pattern, text =>
    match text with
    | [] => false
    | first :: rest => first = char && matchChars pattern rest

/-- `text LIKE pattern`. -/
def like (text pattern : String) : Bool := matchChars pattern.toList text.toList

/-- A text without wildcards and escapes. -/
def Literal (text : String) : Prop :=
  '%' ∉ text.toList ∧ '_' ∉ text.toList ∧ '\\' ∉ text.toList

instance (text : String) : Decidable (Literal text) :=
  inferInstanceAs (Decidable (_ ∧ _))

theorem matchChars_any (text : List Char) : matchChars ['%'] text = true := by
  rw [matchChars, List.any_eq_true]
  exact ⟨[], by simp, by simp [matchChars]⟩

/-- A character that is no wildcard and no escape stands for itself. -/
theorem matchChars_cons {char : Char} (notPercent : char ≠ '%') (notUnderscore : char ≠ '_')
    (notEscape : char ≠ '\\') (pattern : List Char) (first : Char) (rest : List Char) :
    matchChars (char :: pattern) (first :: rest) =
      (first = char && matchChars pattern rest) := by
  rw [matchChars]
  · simpa using notPercent
  · simpa using notUnderscore
  · intro next later isEscape
    exact absurd isEscape notEscape

theorem matchChars_cons_nil {char : Char} (notPercent : char ≠ '%')
    (pattern : List Char) : matchChars (char :: pattern) [] = false := by
  unfold matchChars
  split <;> simp_all

/-- Without wildcards and escapes, a pattern that ends in `%` selects what starts
with the rest of it. -/
theorem matchChars_literal {start : List Char} (noPercent : '%' ∉ start)
    (noUnderscore : '_' ∉ start) (noEscape : '\\' ∉ start) (text : List Char) :
    matchChars (start ++ ['%']) text = true ↔ start <+: text := by
  induction start generalizing text with
  | nil => simp [matchChars_any]
  | cons char rest ih =>
    have charPercent : char ≠ '%' := fun same => noPercent (by simp [same])
    have charUnderscore : char ≠ '_' := fun same => noUnderscore (by simp [same])
    have charEscape : char ≠ '\\' := fun same => noEscape (by simp [same])
    have restMatches := ih (fun inRest => noPercent (by simp [inRest]))
      (fun inRest => noUnderscore (by simp [inRest]))
      (fun inRest => noEscape (by simp [inRest]))
    cases text with
    | nil => simp [matchChars_cons_nil charPercent]
    | cons first later =>
      rw [List.cons_append, matchChars_cons charPercent charUnderscore charEscape,
        Bool.and_eq_true, decide_eq_true_iff, restMatches, List.cons_prefix_cons, eq_comm]

theorem isPrefix_of_matchChars {start pattern text : List Char} (noPercent : '%' ∉ start)
    (noUnderscore : '_' ∉ start) (noEscape : '\\' ∉ start)
    (matched : matchChars (start ++ pattern) text = true) : start <+: text := by
  induction start generalizing text with
  | nil => exact List.nil_prefix
  | cons char rest ih =>
    have charPercent : char ≠ '%' := fun same => noPercent (by simp [same])
    have charUnderscore : char ≠ '_' := fun same => noUnderscore (by simp [same])
    have charEscape : char ≠ '\\' := fun same => noEscape (by simp [same])
    cases text with
    | nil =>
      rw [List.cons_append, matchChars_cons_nil charPercent] at matched
      cases matched
    | cons first later =>
      rw [List.cons_append, matchChars_cons charPercent charUnderscore charEscape,
        Bool.and_eq_true, decide_eq_true_iff] at matched
      obtain ⟨rfl, restMatched⟩ := matched
      exact List.cons_prefix_cons.mpr ⟨rfl, ih (fun inRest => noPercent (by simp [inRest]))
        (fun inRest => noUnderscore (by simp [inRest]))
        (fun inRest => noEscape (by simp [inRest])) restMatched⟩

theorem like_literal {start : String} (literal : Literal start) (text : String) :
    like text (start ++ "%") = Text.startsWith text start := by
  rw [Bool.eq_iff_iff, like, String.toList_append, Text.startsWith_iff]
  exact matchChars_literal literal.1 literal.2.1 literal.2.2 text.toList

-- An underscore in the text widens the selection, a trailing backslash loses it.
example : like "axb" ("a_" ++ "%") = true := by decide
example : like "a\\b" ("a\\" ++ "%") = false := by decide

end AutoLoop.Sql
