import Mathlib.Data.List.Infix
import Mathlib.Data.List.TakeWhile
import Mathlib.Data.String.Basic

/-!
# Text primitives of the Rust standard library

The string operations that line-oriented formats and textual settings rest on:
splitting on a separator, the line iterator, ASCII case folding, trimming and
the decimal forms of unsigned integers.  Each definition follows the documented
behaviour of its standard-library namesake; the theorems are the round trips a
format built from them needs.
-/

namespace AutoLoop.Text

open List

/-- `str::split` on one character: always at least one piece, and empty pieces
are kept. -/
def split (separator : Char) (text : String) : List String :=
  (text.toList.splitOn separator).map String.ofList

/-- One trailing carriage return, which belongs to a `\r\n` line ending. -/
def stripCr (row : List Char) : List Char :=
  if row.getLast? = some '\r' then row.dropLast else row

/-- `str::lines`: pieces ended by a newline, whose line ending is removed,
followed by a last piece without a newline when it is not empty. -/
def lines (text : String) : List String :=
  let pieces := text.toList.splitOn '\n'
  (pieces.dropLast.map stripCr ++ pieces.getLast?.toList.filter (!·.isEmpty)).map
    String.ofList

/-- The text that `writeln!` leaves behind, one call for each row. -/
def unlines (rows : List String) : String :=
  rows.foldr (fun row rest => row ++ "\n" ++ rest) ""

/-- A row that the line iterator gives back as it was written. -/
def IsRow (row : String) : Prop :=
  '\n' ∉ row.toList ∧ row.toList.getLast? ≠ some '\r'

@[simp] theorem unlines_nil : unlines [] = "" := rfl

@[simp] theorem unlines_cons (row : String) (rows : List String) :
    unlines (row :: rows) = row ++ "\n" ++ unlines rows := rfl

variable (rows : List String)

theorem unlines_snoc (row : String) :
    unlines (rows ++ [row]) = unlines rows ++ (row ++ "\n") := by
  induction rows with
  | nil => simp
  | cons first rest ih => simp [ih, String.append_assoc]

theorem splitOn_unlines (clean : ∀ row ∈ rows, '\n' ∉ row.toList) :
    (unlines rows).toList.splitOn '\n' = rows.map String.toList ++ [[]] := by
  induction rows with
  | nil => rfl
  | cons row rest ih =>
    have rowClean := clean row (by simp)
    have restClean : ∀ other ∈ rest, '\n' ∉ other.toList := by
      intro other membership
      exact clean other (by simp [membership])
    have shape : (unlines (row :: rest)).toList =
        row.toList ++ '\n' :: (unlines rest).toList := by
      simp [String.toList_append]
    rw [shape, splitOn_append_cons_self_of_not_mem rowClean, ih restClean]
    rfl

theorem stripCr_of_isRow {row : String} (isRow : IsRow row) :
    stripCr row.toList = row.toList := by
  simp [stripCr, isRow.2]

theorem lines_unlines (areRows : ∀ row ∈ rows, IsRow row) :
    lines (unlines rows) = rows := by
  have pieces := splitOn_unlines rows fun row membership => (areRows row membership).1
  simp only [lines, pieces, dropLast_concat, getLast?_concat, Option.toList_some]
  have kept : (rows.map String.toList).map stripCr = rows.map String.toList := by
    rw [map_map]
    apply map_congr_left
    intro row membership
    exact stripCr_of_isRow (areRows row membership)
  rw [kept]
  simp [map_map, Function.comp_def]

/-- Joining fields with a separator, as a format string of the shape
`"{}|{}|…"` does. -/
def joinWith (separator : Char) : List String → String
  | [] => ""
  | [field] => field
  | field :: next :: rest =>
    field ++ String.singleton separator ++ joinWith separator (next :: rest)

theorem toList_joinWith (separator : Char) (fields : List String) :
    (joinWith separator fields).toList =
      [separator].intercalate (fields.map String.toList) := by
  induction fields with
  | nil => simp [joinWith, List.intercalate]
  | cons field rest ih =>
    cases rest with
    | nil => simp [joinWith, List.intercalate]
    | cons next rest =>
      simp only [joinWith, String.toList_append, ih]
      simp [List.intercalate]

theorem split_joinWith (separator : Char) (fields : List String) (nonempty : fields ≠ [])
    (clean : ∀ field ∈ fields, separator ∉ field.toList) :
    split separator (joinWith separator fields) = fields := by
  have separated : ∀ piece ∈ fields.map String.toList, separator ∉ piece := by
    intro piece membership
    obtain ⟨field, fieldMem, rfl⟩ := mem_map.mp membership
    exact clean field fieldMem
  rw [split, toList_joinWith,
    splitOn_intercalate separator separated (by simpa using nonempty)]
  simp [map_map, Function.comp_def]

theorem mem_joinWith {separator char : Char} {fields : List String}
    (membership : char ∈ (joinWith separator fields).toList) :
    char = separator ∨ ∃ field ∈ fields, char ∈ field.toList := by
  induction fields with
  | nil => simp [joinWith] at membership
  | cons field rest ih =>
    cases rest with
    | nil => exact Or.inr ⟨field, by simp, membership⟩
    | cons next rest =>
      simp only [joinWith, String.toList_append, mem_append,
        String.toList_singleton, mem_singleton] at membership
      rcases membership with (inField | isSeparator) | inRest
      · exact Or.inr ⟨field, by simp, inField⟩
      · exact Or.inl isSeparator
      · rcases ih inRest with isSeparator | ⟨other, otherMem, found⟩
        · exact Or.inl isSeparator
        · exact Or.inr ⟨other, by simp [otherMem], found⟩

section
variable {separator : Char} {first second last other : List Char}

theorem after_last_separator (same : first ++ [separator] ++ last = second ++ [separator] ++ other)
    (lastClean : separator ∉ last) (otherClean : separator ∉ other) : last = other := by
  simp only [append_assoc, singleton_append] at same
  rcases append_eq_append_iff.mp same with ⟨gap, -, shape⟩ | ⟨gap, -, shape⟩
  · cases gap with
    | nil => exact (List.cons.inj shape).2
    | cons char gap =>
      obtain ⟨-, rest⟩ := List.cons.inj shape
      exact absurd (by simp [rest]) lastClean
  · cases gap with
    | nil => exact (List.cons.inj shape).2.symm
    | cons char gap =>
      obtain ⟨-, rest⟩ := List.cons.inj shape
      exact absurd (by simp [rest]) otherClean

theorem before_first_separator (same : first ++ separator :: last = second ++ separator :: other)
    (firstClean : separator ∉ first) (secondClean : separator ∉ second) : first = second := by
  rcases append_eq_append_iff.mp same with ⟨gap, isSecond, shape⟩ | ⟨gap, isFirst, shape⟩
  · cases gap with
    | nil => rw [isSecond, append_nil]
    | cons char gap =>
      rw [isSecond, (List.cons.inj shape).1] at secondClean
      exact absurd (by simp) secondClean
  · cases gap with
    | nil => rw [isFirst, append_nil]
    | cons char gap =>
      rw [isFirst, (List.cons.inj shape).1] at firstClean
      exact absurd (by simp) firstClean

end

/-! ## Unsigned integers -/

/-- The digits of a number text: what follows one optional `+`. -/
def unsignedDigits : List Char → List Char
  | '+' :: rest => rest
  | all => all

/-- `str::parse` for an unsigned integer type with values below `bound`: one
optional `+`, then at least one ASCII digit, and no overflow. -/
def parseUnsigned (bound : Nat) (text : String) : Option Nat :=
  let digits := unsignedDigits text.toList
  let value := Nat.ofDigitChars 10 digits 0
  if digits ≠ [] ∧ digits.all Char.isDigit ∧ value < bound then some value else none

theorem isDigit_of_mem_repr {value : Nat} {char : Char}
    (membership : char ∈ value.repr.toList) : char.isDigit = true := by
  rw [Nat.toList_repr] at membership
  exact Nat.isDigit_of_mem_toDigits (by omega) (by omega) membership

theorem not_mem_repr {separator : Char} (notDigit : separator.isDigit = false) (value : Nat) :
    separator ∉ value.repr.toList := by
  intro membership
  rw [isDigit_of_mem_repr membership] at notDigit
  cases notDigit

theorem unsignedDigits_of_isDigit {digits : List Char}
    (allDigits : ∀ char ∈ digits, char.isDigit = true) :
    unsignedDigits digits = digits := by
  unfold unsignedDigits
  split
  · have plusDigit := allDigits '+' (by simp)
    simp at plusDigit
  · rfl

theorem parseUnsigned_repr {bound value : Nat} (inRange : value < bound) :
    parseUnsigned bound value.repr = some value := by
  have isDigits : ∀ char ∈ value.repr.toList, char.isDigit = true :=
    fun _ membership => isDigit_of_mem_repr membership
  have digits : unsignedDigits value.repr.toList = Nat.toDigits 10 value := by
    rw [unsignedDigits_of_isDigit isDigits, Nat.toList_repr]
  have allDigits : (Nat.toDigits 10 value).all Char.isDigit = true := by
    rw [Nat.toList_repr] at isDigits
    exact all_eq_true.mpr isDigits
  simp only [parseUnsigned, digits, Nat.ofDigitChars_ten_toDigits]
  exact if_pos ⟨Nat.toDigits_ne_nil, allDigits, inRange⟩

/-- The decimal display tells numbers apart. -/
theorem repr_inj {first second : Nat} : first.repr = second.repr ↔ first = second := by
  constructor
  · intro same
    have parsed := congrArg (parseUnsigned (first + second + 1)) same
    rw [parseUnsigned_repr (by omega), parseUnsigned_repr (by omega)] at parsed
    exact Option.some.inj parsed
  · exact congrArg Nat.repr

/-! ## Concatenation -/

theorem append_lt_append_iff {start first second : String} :
    start ++ first < start ++ second ↔ first < second := by
  rw [String.lt_iff_toList_lt, String.lt_iff_toList_lt, String.toList_append, String.toList_append]
  induction start.toList with
  | nil => rfl
  | cons char rest ih => simpa using ih

theorem ne_empty_of_length {size : Nat} (positive : 0 < size) {piece : String}
    (sized : piece.length = size) (rest : String) : "" ≠ piece ++ rest := by
  intro same
  have lengths := congrArg String.length same
  rw [String.length_append, sized] at lengths
  simp at lengths
  omega

theorem join_injective_of_length {size : Nat} (positive : 0 < size)
    {first second : List String} (firstSized : ∀ piece ∈ first, piece.length = size)
    (secondSized : ∀ piece ∈ second, piece.length = size)
    (same : String.join first = String.join second) : first = second := by
  induction first generalizing second with
  | nil =>
    cases second with
    | nil => rfl
    | cons piece rest =>
      rw [String.join_nil, String.join_cons] at same
      exact absurd same (ne_empty_of_length positive (secondSized piece (by simp)) _)
  | cons piece rest ih =>
    cases second with
    | nil =>
      rw [String.join_nil, String.join_cons] at same
      exact absurd same.symm (ne_empty_of_length positive (firstSized piece (by simp)) _)
    | cons other others =>
      rw [String.join_cons, String.join_cons] at same
      have pieceSized := firstSized piece (by simp)
      have otherSized := secondSized other (by simp)
      have lists := congrArg String.toList same
      rw [String.toList_append, String.toList_append] at lists
      obtain ⟨sameHead, sameTail⟩ := append_inj lists (by
        rw [String.length_toList, String.length_toList, pieceSized, otherSized])
      rw [String.toList_inj.mp sameHead]
      congr 1
      apply ih
      · exact fun later membership => firstSized later (by simp [membership])
      · exact fun later membership => secondSized later (by simp [membership])
      · exact String.toList_inj.mp sameTail

/-! ## Case folding, trimming and search -/

/-- Characters with the Unicode property `White_Space`, which `str::trim`
removes. -/
def isWhitespace (char : Char) : Bool :=
  let code := char.toNat
  (0x9 ≤ code && code ≤ 0xD) || code = 0x20 || code = 0x85 || code = 0xA0 ||
    code = 0x1680 || (0x2000 ≤ code && code ≤ 0x200A) || code = 0x2028 ||
    code = 0x2029 || code = 0x202F || code = 0x205F || code = 0x3000

/-- `str::trim`. -/
def trim (text : String) : String :=
  String.ofList
    ((text.toList.dropWhile isWhitespace).reverse.dropWhile isWhitespace).reverse

/-- `str::to_ascii_lowercase`. -/
def toAsciiLowercase (text : String) : String :=
  String.ofList (text.toList.map Char.toLower)

theorem toAsciiLowercase_append (first second : String) :
    toAsciiLowercase (first ++ second) = toAsciiLowercase first ++ toAsciiLowercase second := by
  simp [toAsciiLowercase]

theorem toLower_of_isDigit {char : Char} (isDigit : char.isDigit = true) :
    char.toLower = char := by
  have bound : char.val ≤ '9'.val := by
    simp only [Char.isDigit, Bool.and_eq_true, decide_eq_true_eq] at isDigit
    exact isDigit.2
  have below : '9'.val < 'A'.val := by decide
  apply dif_neg
  rintro ⟨isUpper, -⟩
  rw [ge_iff_le, UInt32.le_iff_toNat_le] at isUpper
  rw [UInt32.le_iff_toNat_le] at bound
  rw [UInt32.lt_iff_toNat_lt] at below
  omega

theorem toAsciiLowercase_repr (value : Nat) : toAsciiLowercase value.repr = value.repr := by
  have unchanged : value.repr.toList.map Char.toLower = value.repr.toList := by
    rw [map_congr_left fun char membership => toLower_of_isDigit (isDigit_of_mem_repr membership)]
    exact map_id _
  rw [toAsciiLowercase, unchanged, String.ofList_toList]

/-- `str::eq_ignore_ascii_case`. -/
def eqIgnoreAsciiCase (left right : String) : Bool :=
  toAsciiLowercase left == toAsciiLowercase right

/-- `str::starts_with` for a string pattern. -/
def startsWith (text pattern : String) : Bool :=
  decide (pattern.toList <+: text.toList)

@[simp] theorem startsWith_iff {text pattern : String} :
    startsWith text pattern = true ↔ pattern.toList <+: text.toList := by
  simp [startsWith]

theorem startsWith_iff_exists {text pattern : String} :
    startsWith text pattern = true ↔ ∃ rest, text = pattern ++ rest := by
  rw [startsWith_iff]
  constructor
  · rintro ⟨rest, same⟩
    exact ⟨String.ofList rest, String.toList_inj.mp (by simp [← same])⟩
  · rintro ⟨rest, rfl⟩
    exact ⟨rest.toList, (String.toList_append ..).symm⟩

/-- `str::contains` for a string pattern. -/
def contains (text pattern : String) : Bool :=
  decide (pattern.toList <:+: text.toList)

/-! ## The first occurrence of a pattern -/

/-- What stands before and after the first occurrence of a pattern. -/
def splitOnceList (pattern : List Char) : List Char → Option (List Char × List Char)
  | [] => if pattern = [] then some ([], []) else none
  | char :: rest =>
    if pattern <+: char :: rest then some ([], (char :: rest).drop pattern.length)
    else (splitOnceList pattern rest).map fun parts => (char :: parts.1, parts.2)

/-- `str::split_once` for a string pattern. -/
def splitOnce (pattern text : String) : Option (String × String) :=
  (splitOnceList pattern.toList text.toList).map fun parts =>
    (String.ofList parts.1, String.ofList parts.2)

/-- `trim_start_matches` of a class of characters. -/
def trimStartMatches (matches' : Char → Bool) (text : String) : String :=
  String.ofList (text.toList.dropWhile matches')

/-- What is trimmed away was white space. -/
theorem trim_ne_empty {text : String} {char : Char} (isChar : char ∈ text.toList)
    (visible : isWhitespace char = false) : trim text ≠ "" := by
  intro empty
  have nothing := congrArg String.toList empty
  simp only [trim, String.toList_ofList, String.toList_empty, List.reverse_eq_nil_iff,
    List.dropWhile_eq_nil_iff, List.mem_reverse] at nothing
  have kept : char ∈ text.toList.dropWhile isWhitespace := by
    have parts := List.takeWhile_append_dropWhile (p := isWhitespace) (l := text.toList)
    rw [← parts] at isChar
    cases List.mem_append.mp isChar with
    | inl isTaken =>
      have isSpace := List.mem_takeWhile_imp isTaken
      rw [visible] at isSpace
      cases isSpace
    | inr isKept => exact isKept
  have isSpace := nothing char kept
  rw [visible] at isSpace
  cases isSpace

end AutoLoop.Text
