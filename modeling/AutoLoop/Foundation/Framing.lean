import AutoLoop.Foundation.Text

/-!
# Joined fields and what can be read back

A key or a payload that joins fields with a separator determines the fields only
up to where the separators were put in: a field that contains the separator
itself counts as several.  Two lists of fields have the same joined text exactly
when they consist of the same pieces, and they are confused with each other
exactly when the pieces are grouped differently.
-/

namespace AutoLoop.Text

open List

variable {separator : Char}

/-- The pieces between the separators of a joined text. -/
def pieces (separator : Char) (fields : List String) : List String :=
  fields.flatMap (split separator)

/-- How many pieces each field contributes. -/
def framing (separator : Char) (fields : List String) : List Nat :=
  fields.map fun field => (split separator field).length

/-- The same pieces, grouped into fields in another way. -/
def Reframed (separator : Char) (fields others : List String) : Prop :=
  pieces separator fields = pieces separator others ∧
    framing separator fields ≠ framing separator others

instance (separator : Char) (fields others : List String) :
    Decidable (Reframed separator fields others) :=
  inferInstanceAs (Decidable (_ ∧ _))

@[simp] theorem pieces_nil : pieces separator [] = [] := rfl

@[simp] theorem pieces_cons (field : String) (rest : List String) :
    pieces separator (field :: rest) = split separator field ++ pieces separator rest := rfl

theorem pieces_append (fields others : List String) :
    pieces separator (fields ++ others) =
      pieces separator fields ++ pieces separator others :=
  flatMap_append

@[simp] theorem framing_cons (field : String) (rest : List String) :
    framing separator (field :: rest) =
      (split separator field).length :: framing separator rest := rfl

theorem split_ne_nil (separator : Char) (text : String) : split separator text ≠ [] := by
  rw [split, ne_eq, map_eq_nil_iff]
  exact splitOn_ne_nil _ _

theorem pieces_ne_nil {fields : List String} (nonempty : fields ≠ []) :
    pieces separator fields ≠ [] := by
  cases fields with
  | nil => exact absurd rfl nonempty
  | cons field rest =>
    rw [pieces_cons, ne_eq, append_eq_nil_iff]
    exact fun both => split_ne_nil separator field both.1

theorem split_of_not_mem {text : String} (clean : separator ∉ text.toList) :
    split separator text = [text] := by
  rw [split, splitOn_eq_singleton clean, map_singleton, String.ofList_toList]

theorem pieces_of_not_mem {fields : List String}
    (clean : ∀ field ∈ fields, separator ∉ field.toList) :
    pieces separator fields = fields := by
  induction fields with
  | nil => rfl
  | cons field rest ih =>
    rw [pieces_cons, split_of_not_mem (clean field (by simp)),
      ih fun other membership => clean other (by simp [membership])]
    rfl

theorem not_mem_of_mem_splitOn {characters piece : List Char}
    (membership : piece ∈ characters.splitOn separator) : separator ∉ piece := by
  induction characters generalizing piece with
  | nil =>
    rw [splitOn_nil, mem_singleton] at membership
    rw [membership]
    exact not_mem_nil
  | cons first rest ih =>
    rw [splitOn_cons_eq_if_modifyHead] at membership
    split at membership
    · cases mem_cons.mp membership with
      | inl isEmpty =>
        rw [isEmpty]
        exact not_mem_nil
      | inr later => exact ih later
    · next other =>
      cases shape : rest.splitOn separator with
      | nil => exact absurd shape (splitOn_ne_nil separator rest)
      | cons head tail =>
        rw [shape] at ih membership
        rw [modifyHead_cons] at membership
        cases mem_cons.mp membership with
        | inl isHead =>
          rw [isHead, mem_cons]
          intro inHead
          cases inHead with
          | inl isFirst => exact other (by simp [isFirst])
          | inr inRest => exact ih mem_cons_self inRest
        | inr later => exact ih (mem_cons_of_mem head later)

theorem not_mem_of_mem_split {text piece : String} (membership : piece ∈ split separator text) :
    separator ∉ piece.toList := by
  obtain ⟨characters, isPiece, rfl⟩ := mem_map.mp membership
  rw [String.toList_ofList]
  exact not_mem_of_mem_splitOn isPiece

theorem split_append (separator : Char) (first second : String) :
    split separator (first ++ String.singleton separator ++ second) =
      split separator first ++ split separator second := by
  rw [split, String.toList_append, String.toList_append, String.toList_singleton,
    append_assoc, singleton_append, splitOn_append_cons_self, map_append]
  rfl

theorem joinWith_cons {field : String} {rest : List String} (nonempty : rest ≠ []) :
    joinWith separator (field :: rest) =
      field ++ String.singleton separator ++ joinWith separator rest := by
  cases rest with
  | nil => exact absurd rfl nonempty
  | cons next rest => rfl

theorem joinWith_append {fields others : List String} (nonempty : fields ≠ [])
    (othersNonempty : others ≠ []) :
    joinWith separator (fields ++ others) =
      joinWith separator fields ++ String.singleton separator ++
        joinWith separator others := by
  induction fields with
  | nil => exact absurd rfl nonempty
  | cons field rest ih =>
    cases rest with
    | nil => exact joinWith_cons othersNonempty
    | cons next rest =>
      have whole : joinWith separator (field :: next :: rest) =
          field ++ String.singleton separator ++ joinWith separator (next :: rest) :=
        joinWith_cons (by simp)
      rw [cons_append, joinWith_cons (by simp), ih (by simp), whole]
      simp only [String.append_assoc]

theorem split_joinWith_eq_pieces {fields : List String} (nonempty : fields ≠ []) :
    split separator (joinWith separator fields) = pieces separator fields := by
  induction fields with
  | nil => exact absurd rfl nonempty
  | cons field rest ih =>
    cases rest with
    | nil => simp [joinWith]
    | cons next rest =>
      rw [joinWith_cons (by simp), split_append, ih (by simp)]
      rfl

theorem joinWith_split (separator : Char) (text : String) :
    joinWith separator (split separator text) = text := by
  apply String.toList_inj.mp
  rw [toList_joinWith, split, map_map]
  have identity : String.toList ∘ String.ofList = id := by
    funext characters
    exact String.toList_ofList
  rw [identity, map_id, intercalate_splitOn]

theorem joinWith_pieces {fields : List String} (nonempty : fields ≠ []) :
    joinWith separator (pieces separator fields) = joinWith separator fields := by
  rw [← split_joinWith_eq_pieces nonempty, joinWith_split]

theorem joinWith_eq_iff {fields others : List String} (nonempty : fields ≠ [])
    (othersNonempty : others ≠ []) :
    joinWith separator fields = joinWith separator others ↔
      pieces separator fields = pieces separator others := by
  constructor
  · intro same
    rw [← split_joinWith_eq_pieces nonempty, same, split_joinWith_eq_pieces othersNonempty]
  · intro same
    rw [← joinWith_pieces nonempty, same, joinWith_pieces othersNonempty]

theorem toAsciiLowercase_joinWith (caseless : separator.toLower = separator)
    (fields : List String) :
    toAsciiLowercase (joinWith separator fields) =
      joinWith separator (fields.map toAsciiLowercase) := by
  have lowered : toAsciiLowercase (String.singleton separator) = String.singleton separator := by
    simp [toAsciiLowercase, caseless]
  induction fields with
  | nil => rfl
  | cons field rest ih =>
    cases rest with
    | nil => rfl
    | cons next rest =>
      have joined : joinWith separator (field :: next :: rest) =
          field ++ String.singleton separator ++ joinWith separator (next :: rest) := rfl
      rw [joined, toAsciiLowercase_append, toAsciiLowercase_append, lowered, ih]
      rfl

section
variable {fields others : List String}

theorem eq_of_pieces_of_framing (samePieces : pieces separator fields = pieces separator others)
    (sameFraming : framing separator fields = framing separator others) :
    fields = others := by
  induction fields generalizing others with
  | nil =>
    cases others with
    | nil => rfl
    | cons other others => cases sameFraming
  | cons field rest ih =>
    cases others with
    | nil => cases sameFraming
    | cons other others =>
      rw [framing_cons, framing_cons, List.cons.injEq] at sameFraming
      rw [pieces_cons, pieces_cons] at samePieces
      obtain ⟨sameFirst, sameRest⟩ := append_inj samePieces sameFraming.1
      have sameField : field = other := by
        rw [← joinWith_split separator field, sameFirst, joinWith_split]
      rw [sameField, ih sameRest sameFraming.2]

/-- Different lists of fields are confused exactly when one regroups the pieces of
the other. -/
theorem reframed_iff (nonempty : fields ≠ []) (othersNonempty : others ≠ []) :
    Reframed separator fields others ↔
      joinWith separator fields = joinWith separator others ∧ fields ≠ others := by
  rw [Reframed, joinWith_eq_iff nonempty othersNonempty]
  constructor
  · rintro ⟨samePieces, otherFraming⟩
    exact ⟨samePieces, fun same => otherFraming (same ▸ rfl)⟩
  · rintro ⟨samePieces, different⟩
    exact ⟨samePieces, fun sameFraming =>
      different (eq_of_pieces_of_framing samePieces sameFraming)⟩

/-! ## Fields in front of further fields -/

theorem joinWith_starts_iff (nonempty : fields ≠ []) (othersNonempty : others ≠ []) :
    (∃ rest, joinWith separator others =
        joinWith separator fields ++ String.singleton separator ++ rest) ↔
      ∃ later, later ≠ [] ∧
        pieces separator others = pieces separator fields ++ later := by
  constructor
  · rintro ⟨rest, shape⟩
    refine ⟨split separator rest, split_ne_nil separator rest, ?_⟩
    rw [← split_joinWith_eq_pieces othersNonempty, shape, split_append,
      split_joinWith_eq_pieces nonempty]
  · rintro ⟨later, laterNonempty, shape⟩
    refine ⟨joinWith separator later, ?_⟩
    rw [← joinWith_pieces othersNonempty, shape,
      joinWith_append (pieces_ne_nil nonempty) laterNonempty, joinWith_pieces nonempty]

end

end AutoLoop.Text
