import AutoLoop.Foundation.Text
import Mathlib.Data.List.Forall2

/-!
# Templates of command lines

Replacing a placeholder in a text, and splitting a text at whitespace outside of double
quotes.  A replacement touches one place only when the pattern starts nowhere else; words
that are read back as they were meant are read back from a whole line.
-/

namespace AutoLoop.Text

open List

/-! ## Replacing -/

/-- `str::replace` of a pattern that is not empty; so many characters are behind a match. -/
def replaceList (pattern replacement : List Char) : Nat → List Char → List Char
  | _, [] => []
  | skip + 1, _ :: rest => replaceList pattern replacement skip rest
  | 0, char :: rest =>
    if pattern <+: char :: rest then
      replacement ++ replaceList pattern replacement (pattern.length - 1) rest
    else char :: replaceList pattern replacement 0 rest

def replace (text pattern replacement : String) : String :=
  String.ofList (replaceList pattern.toList replacement.toList 0 text.toList)

/-- The pattern starts nowhere in the word, whatever it takes of the rest. -/
def Avoids (pattern word rest : List Char) : Prop :=
  ∀ before after, word = before ++ after → after ≠ [] → ¬pattern <+: after ++ rest

section Replacing

variable {pattern replacement word first second rest : List Char} {char : Char}

theorem avoids_nil : Avoids pattern [] rest := by
  intro before after shape nonempty
  exact absurd (append_eq_nil_iff.mp shape.symm).2 nonempty

theorem avoids_cons :
    Avoids pattern (char :: word) rest ↔
      ¬pattern <+: char :: (word ++ rest) ∧ Avoids pattern word rest := by
  constructor
  · intro avoids
    refine ⟨avoids [] (char :: word) rfl (cons_ne_nil _ _), ?_⟩
    intro before after shape
    exact avoids (char :: before) after (by rw [shape]; rfl)
  · rintro ⟨here, later⟩ before after shape nonempty
    cases before with
    | nil =>
      rw [nil_append] at shape
      rw [← shape]
      exact here
    | cons other before =>
      obtain ⟨-, shape⟩ := List.cons.inj shape
      exact later before after shape nonempty

theorem avoids_append :
    Avoids pattern (first ++ second) rest ↔
      Avoids pattern first (second ++ rest) ∧ Avoids pattern second rest := by
  induction first with
  | nil => simp [avoids_nil]
  | cons char first ih =>
    rw [cons_append, avoids_cons, ih, avoids_cons, append_assoc, and_assoc]

/-- A pattern does not start where its first character does not stand. -/
theorem avoids_of_not_mem {head : Char} {tail : List Char} (absent : head ∉ word) :
    Avoids (head :: tail) word rest := by
  rintro before after rfl nonempty ⟨remaining, shape⟩
  cases after with
  | nil => exact nonempty rfl
  | cons char after =>
    apply absent
    rw [(List.cons.inj shape).1]
    exact mem_append_right _ mem_cons_self

theorem avoids_of_closed {last : Char} (absent : last ∉ pattern)
    (apart : ¬pattern <:+: word ++ [last]) : Avoids pattern (word ++ [last]) rest := by
  rintro before after shape nonempty ⟨remaining, matched⟩
  obtain ⟨body, rfl⟩ : ∃ body, after = body ++ [last] := by
    rcases eq_nil_or_concat after with rfl | ⟨body, final, rfl⟩
    · exact absurd rfl nonempty
    · rw [concat_eq_append, ← append_assoc] at shape
      obtain ⟨-, same⟩ := append_inj' shape rfl
      rw [concat_eq_append, ← singleton_inj.mp same]
      exact ⟨body, rfl⟩
  rw [append_assoc, singleton_append] at matched
  rcases append_eq_append_iff.mp matched with ⟨gap, isBody, -⟩ | ⟨gap, isPattern, isRest⟩
  · apply apart
    rw [shape, isBody]
    exact ⟨before, gap ++ [last], by simp⟩
  · cases gap with
    | nil =>
      apply apart
      rw [shape, isPattern, append_nil]
      exact ⟨before, [last], by simp⟩
    | cons char gap =>
      apply absent
      rw [isPattern, (List.cons.inj isRest).1]
      exact mem_append_right _ mem_cons_self

theorem replaceList_skip (skip : Nat) (text : List Char) :
    replaceList pattern replacement skip text =
      replaceList pattern replacement 0 (text.drop skip) := by
  induction text generalizing skip with
  | nil =>
    rw [drop_nil]
    cases skip with
    | zero => rfl
    | succ skip => rfl
  | cons char rest ih =>
    cases skip with
    | zero => rfl
    | succ skip => exact ih skip

theorem replaceList_avoids (avoids : Avoids pattern word rest) :
    replaceList pattern replacement 0 (word ++ rest) =
      word ++ replaceList pattern replacement 0 rest := by
  induction word with
  | nil => rfl
  | cons char word ih =>
    obtain ⟨here, later⟩ := avoids_cons.mp avoids
    rw [cons_append, replaceList, if_neg here, ih later, cons_append]

theorem replaceList_prefix (nonempty : pattern ≠ []) :
    replaceList pattern replacement 0 (pattern ++ rest) =
      replacement ++ replaceList pattern replacement 0 rest := by
  cases pattern with
  | nil => exact absurd rfl nonempty
  | cons head tail =>
    rw [cons_append, replaceList, if_pos (by rw [← cons_append]; exact prefix_append _ _),
      replaceList_skip, length_cons, Nat.add_sub_cancel, drop_left]

theorem replaceList_once (nonempty : pattern ≠ []) (before : Avoids pattern first (pattern ++ rest))
    (after : Avoids pattern rest []) :
    replaceList pattern replacement 0 (first ++ (pattern ++ rest)) =
      first ++ (replacement ++ rest) := by
  have rests : replaceList pattern replacement 0 (rest ++ []) =
      rest ++ replaceList pattern replacement 0 [] := replaceList_avoids after
  rw [append_nil] at rests
  rw [replaceList_avoids before, replaceList_prefix nonempty, rests, replaceList, append_nil]

end Replacing

/-! ## Splitting -/

/-- `str::split_whitespace`. -/
def splitWhitespace (text : String) : List String :=
  ((text.toList.splitOnP isWhitespace).filter (· ≠ [])).map String.ofList

/-- The words of a line behind its first word. -/
def spaced (words : List (List Char)) : List Char := words.flatMap (' ' :: ·)

theorem joinWith_spaced (first : String) (words : List String) :
    (joinWith ' ' (first :: words)).toList = first.toList ++ spaced (words.map String.toList) := by
  induction words generalizing first with
  | nil => simp [joinWith, spaced]
  | cons word rest ih =>
    rw [joinWith, String.toList_append, String.toList_append, ih]
    simp [spaced]

theorem splitWhitespace_spaced {words : List (List Char)}
    (clean : ∀ word ∈ words, ∀ char ∈ word, isWhitespace char = false) (first : List Char)
    (firstClean : ∀ char ∈ first, isWhitespace char = false) :
    ((first ++ spaced words).splitOnP isWhitespace).filter (· ≠ []) =
      (first :: words).filter (· ≠ []) := by
  induction words generalizing first with
  | nil => rw [spaced, flatMap_nil, append_nil, splitOnP_eq_singleton firstClean]
  | cons word rest ih =>
    obtain ⟨wordClean, restClean⟩ := forall_mem_cons.mp clean
    have shape : first ++ spaced (word :: rest) = first ++ ' ' :: (word ++ spaced rest) := rfl
    rw [shape, splitOnP_append_cons_of_forall_mem firstClean ' ' (by decide),
      filter_cons, ih restClean word wordClean]
    conv_rhs => rw [filter_cons]

/-! ## Quoted words -/

/-- The tokens of a line: it is split at whitespace outside of double quotes, the quotes that
enclose a text are dropped, and `\"` within them is a quote. -/
def quotedTokens : Option (List Char) → Bool → List Char → List (List Char)
  | current, _, [] => current.toList
  | current, false, char :: rest =>
    if isWhitespace char then current.toList ++ quotedTokens none false rest
    else if char = '"' then quotedTokens (some (current.getD [])) true rest
    else quotedTokens (some (current.getD [] ++ [char])) false rest
  | current, true, '\\' :: '"' :: rest =>
    quotedTokens (some (current.getD [] ++ ['"'])) true rest
  | current, true, char :: rest =>
    if char = '"' then quotedTokens current false rest
    else quotedTokens (some (current.getD [] ++ [char])) true rest

def ReadsAs (shown meant : List Char) : Prop :=
  ∀ rest, quotedTokens none false (shown ++ rest) = quotedTokens (some meant) false rest

/-- `replace('"', "\\\"")`. -/
def escapeQuotes (text : List Char) : List Char :=
  text.flatMap fun char => if char = '"' then ['\\', '"'] else [char]

section Quoted

variable {rest : List Char}

theorem quotedTokens_plain (word : List Char) (current : Option (List Char))
    (clean : ∀ char ∈ word, isWhitespace char = false ∧ char ≠ '"')
    (started : current ≠ none ∨ word ≠ []) :
    quotedTokens current false (word ++ rest) =
      quotedTokens (some (current.getD [] ++ word)) false rest := by
  induction word generalizing current with
  | nil =>
    cases current with
    | none => simp at started
    | some text => simp
  | cons char word ih =>
    obtain ⟨⟨visible, unquoted⟩, wordClean⟩ := List.forall_mem_cons.mp clean
    rw [List.cons_append, quotedTokens, visible, if_neg Bool.false_ne_true, if_neg unquoted,
      ih _ wordClean (Or.inl (Option.some_ne_none _))]
    simp

theorem readsAs_plain {word : List Char} (nonempty : word ≠ [])
    (clean : ∀ char ∈ word, isWhitespace char = false ∧ char ≠ '"') : ReadsAs word word := by
  intro rest
  rw [quotedTokens_plain word none clean (Or.inr nonempty)]
  rfl

/-- Within quotes a character stands for itself, unless it escapes a quote. -/
theorem quotedTokens_inside {char : Char} (current : List Char) (unquoted : char ≠ '"')
    (literal : char = '\\' → rest.head? ≠ some '"') :
    quotedTokens (some current) true (char :: rest) =
      quotedTokens (some (current ++ [char])) true rest := by
  rw [quotedTokens.eq_def]
  split
  · contradiction
  · contradiction
  · next shape =>
    obtain ⟨rfl, rfl⟩ := List.cons.inj shape
    exact absurd rfl (literal rfl)
  · next shape =>
    obtain ⟨rfl, rfl⟩ := List.cons.inj shape
    rw [if_neg unquoted, Option.getD_some]

theorem head?_escapeQuotes {text : List Char} (nonempty : text ≠ []) (rest : List Char) :
    (escapeQuotes text ++ rest).head? ≠ some '"' := by
  cases text with
  | nil => exact absurd rfl nonempty
  | cons char text =>
    rw [escapeQuotes, List.flatMap_cons]
    split
    · simp
    · next unquoted => simpa using unquoted

theorem quotedTokens_quoted (text current : List Char) (ends : text.getLast? ≠ some '\\') :
    quotedTokens (some current) true (escapeQuotes text ++ '"' :: rest) =
      quotedTokens (some (current ++ text)) false rest := by
  induction text generalizing current with
  | nil => simp [escapeQuotes, quotedTokens]
  | cons char text ih =>
    have endsRest : text.getLast? ≠ some '\\' := by
      cases text with
      | nil => simp
      | cons next text => rwa [getLast?_cons_cons] at ends
    by_cases quote : char = '"'
    · have shape : escapeQuotes (char :: text) ++ '"' :: rest =
          '\\' :: '"' :: (escapeQuotes text ++ '"' :: rest) := by
        simp [escapeQuotes, quote]
      rw [shape, quotedTokens, Option.getD_some, ih _ endsRest, quote, append_assoc,
        singleton_append]
    · have shape : escapeQuotes (char :: text) ++ '"' :: rest =
          char :: (escapeQuotes text ++ '"' :: rest) := by
        simp [escapeQuotes, quote]
      have literal : char = '\\' → (escapeQuotes text ++ '"' :: rest).head? ≠ some '"' := by
        rintro rfl
        apply head?_escapeQuotes
        rintro rfl
        exact ends rfl
      rw [shape, quotedTokens_inside current quote literal, ih _ endsRest, append_assoc,
        singleton_append]

theorem readsAs_quoted {text : List Char} (ends : text.getLast? ≠ some '\\') :
    ReadsAs ('"' :: (escapeQuotes text ++ ['"'])) text := by
  intro rest
  have opens : isWhitespace '"' = false := by decide
  rw [cons_append, quotedTokens, opens, if_neg Bool.false_ne_true, if_pos rfl,
    append_assoc, singleton_append, Option.getD_none, quotedTokens_quoted text [] ends,
    nil_append]

theorem quotedTokens_spaced {shown meant : List (List Char)}
    (reads : List.Forall₂ ReadsAs shown meant) (current : List Char) :
    quotedTokens (some current) false (spaced shown) = current :: meant := by
  induction reads generalizing current with
  | nil => rfl
  | @cons word meaning shown meant readsWord _ ih =>
    have space : isWhitespace ' ' = true := by decide
    have shape : spaced (word :: shown) = ' ' :: (word ++ spaced shown) := rfl
    rw [shape, quotedTokens, if_pos space, readsWord, ih]
    rfl

end Quoted

end AutoLoop.Text
