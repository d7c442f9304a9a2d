import AutoLoop.Security.PolicyHost.SelectorWalks

/-!
# Drops and masks

What the last segment of a selector does: a drop removes children, and a mask puts a
fixed text in their place.
-/

namespace AutoLoop.Security.PolicyHost

open JsonValue (Related)
open List JsonValue

/-! ## Drops -/

theorem zip_filter_subset (keep : String → Bool) {first second : List (String × JsonValue)}
    (sameKeys : first.map Prod.fst = second.map Prod.fst)
    {entry : (String × JsonValue) × String × JsonValue}
    (inZip : entry ∈ (first.filter (keep ·.1)).zip (second.filter (keep ·.1))) :
    entry ∈ first.zip second ∧ keep entry.1.1 = true := by
  refine ⟨?_, (mem_filter.mp (of_mem_zip inZip).1).2⟩
  induction first generalizing second with
  | nil => simp at inZip
  | cons member rest ih =>
    cases second with
    | nil => cases sameKeys
    | cons counterpart later =>
      simp only [map_cons, List.cons.injEq] at sameKeys
      obtain ⟨sameKey, sameRest⟩ := sameKeys
      simp only [filter_cons, ← sameKey] at inZip
      split at inZip
      · rw [zip_cons_cons, mem_cons] at inZip
        rcases inZip with rfl | later
        · exact mem_cons_self
        · exact mem_cons_of_mem _ (ih sameRest later)
      · exact mem_cons_of_mem _ (ih sameRest inZip)

section Removal

variable {head : String} {basePath : String} {relation : ScalarRelation}

theorem not_names_key {name : String} (notWildcard : head ≠ "*") (other : head ≠ name) :
    ¬Names head (.key name) :=
  not_or.mpr ⟨notWildcard, other⟩

theorem not_names_index {place : Nat} (notWildcard : head ≠ "*")
    (other : parseUsize head ≠ some place) : ¬Names head (.index place) :=
  not_or.mpr ⟨notWildcard, other⟩

theorem followRelation_stays {path : JsonPath} {first second : JsonScalar}
    (stays : followSelector shiftRemoved [head] path = some path)
    (holds : relation path first second) :
    followRelation shiftRemoved [head] relation path first second :=
  Or.inr ⟨path, stays, holds⟩

theorem follow_key {name : String} (notNamed : ¬Names head (.key name)) (rest : JsonPath) :
    followSelector shiftRemoved [head] (.key name :: rest) = some (.key name :: rest) :=
  if_neg notNamed

theorem follow_index {place removed : Nat} (notWildcard : head ≠ "*")
    (isIndex : parseUsize head = some removed) (other : place ≠ removed) (rest : JsonPath) :
    followSelector shiftRemoved [head] (.index place :: rest) =
      some (.index (if removed < place then place - 1 else place) :: rest) := by
  have elsewhere : parseUsize head ≠ some place := by
    rw [isIndex, ne_eq, Option.some.injEq]
    exact other.symm
  rw [followSelector, if_neg (not_names_index notWildcard elsewhere), shiftRemoved, isIndex]
  simp only
  split <;> rfl

theorem follow_index_of_none {place : Nat} (notWildcard : head ≠ "*")
    (notIndex : parseUsize head = none) (rest : JsonPath) :
    followSelector shiftRemoved [head] (.index place :: rest) = some (.index place :: rest) := by
  have nowhere : parseUsize head ≠ some place := by simp [notIndex]
  rw [followSelector, if_neg (not_names_index notWildcard nowhere), shiftRemoved, notIndex]

theorem relates_remove_members {first second : List (String × JsonValue)}
    (sameKeys : first.map Prod.fst = second.map Prod.fst)
    (related : ∀ entry ∈ first.zip second,
      Related (fun path => relation (.key entry.1.1 :: path)) entry.1.2 entry.2.2) :
    Related (followRelation shiftRemoved [head] relation)
        (removeLeaf (.object first) head basePath).value
        (removeLeaf (.object second) head basePath).value ∧
      (removeLeaf (.object first) head basePath).hits =
        (removeLeaf (.object second) head basePath).hits := by
  simp only [removeLeaf, ← sameKeys]
  split
  · refine ⟨.object rfl nofun, ?_⟩
    have paths := congrArg (List.map fun name => some (joinPath basePath name)) sameKeys
    simpa only [map_map, Function.comp_def] using paths
  · next notWildcard =>
    split
    · refine ⟨?_, rfl⟩
      apply Related.object
      · have kept := congrArg (List.filter fun name => name ≠ head) sameKeys
        simpa only [filter_map, Function.comp_def] using kept
      · intro entry inZip
        have inBoth := zip_filter_subset (fun name => name ≠ head) sameKeys inZip
        have notNamed : ¬Names head (.key entry.1.1) :=
          not_names_key notWildcard (of_decide_eq_true inBoth.2).symm
        exact (related entry inBoth.1).mono fun rest _ _ =>
          followRelation_stays (follow_key notNamed rest)
    · next notMember =>
      refine ⟨?_, rfl⟩
      apply Related.object sameKeys
      intro entry inZip
      have notNamed : ¬Names head (.key entry.1.1) := by
        apply not_names_key notWildcard
        intro isName
        exact notMember (isName ▸ mem_map_of_mem (of_mem_zip inZip).1)
      exact (related entry inZip).mono fun rest _ _ =>
        followRelation_stays (follow_key notNamed rest)

theorem relates_remove_items {first second : List JsonValue}
    (sameLength : first.length = second.length)
    (related : ∀ (place : Nat) (item other : JsonValue), first[place]? = some item →
      second[place]? = some other →
        Related (fun path => relation (.index place :: path)) item other) :
    Related (followRelation shiftRemoved [head] relation)
        (removeLeaf (.array first) head basePath).value
        (removeLeaf (.array second) head basePath).value ∧
      (removeLeaf (.array first) head basePath).hits =
        (removeLeaf (.array second) head basePath).hits := by
  simp only [removeLeaf, ← sameLength]
  split
  · exact ⟨.array rfl nofun, rfl⟩
  · next notWildcard =>
    cases isIndex : parseUsize head with
    | none =>
      refine ⟨?_, rfl⟩
      apply Related.array sameLength
      intro place item other isItem isOther
      exact (related place item other isItem isOther).mono fun rest _ _ =>
        followRelation_stays (follow_index_of_none notWildcard isIndex rest)
    | some removed =>
      simp only
      split
      · next inside =>
        refine ⟨?_, rfl⟩
        apply Related.array
        · simp [length_eraseIdx, sameLength]
        · intro place item other isItem isOther
          simp only [getElem?_eraseIdx] at isItem isOther
          by_cases before : place < removed
          · rw [if_pos before] at isItem isOther
            refine (related place item other isItem isOther).mono fun rest _ _ holds =>
              followRelation_stays ?_ holds
            rw [follow_index notWildcard isIndex (by omega), if_neg (by omega)]
          · rw [if_neg before] at isItem isOther
            refine (related (place + 1) item other isItem isOther).mono
              fun rest _ _ holds => Or.inr ⟨.index (place + 1) :: rest, ?_, holds⟩
            rw [follow_index notWildcard isIndex (by omega), if_pos (by omega)]
            rfl
      · next outside =>
        refine ⟨?_, rfl⟩
        apply Related.array sameLength
        intro place item other isItem isOther
        have inside : place < first.length := (List.getElem?_eq_some_iff.mp isItem).1
        refine (related place item other isItem isOther).mono fun rest _ _ holds =>
          followRelation_stays ?_ holds
        rw [follow_index notWildcard isIndex (by omega), if_neg (by omega)]

theorem relates_removeLeaf (head : String) : Relates (followRelation shiftRemoved [head])
    fun value path => removeLeaf value head path := by
  have both : ∀ {relation : ScalarRelation} {first second : JsonValue} (path : String),
      Related relation first second →
        Related (followRelation shiftRemoved [head] relation)
            (removeLeaf first head path).value (removeLeaf second head path).value ∧
          (removeLeaf first head path).hits = (removeLeaf second head path).hits := by
    intro relation first second path related
    cases related with
    | scalar holds => exact ⟨.scalar (Or.inr ⟨[], rfl, holds⟩), rfl⟩
    | array sameLength related => exact relates_remove_items sameLength related
    | object sameKeys related => exact relates_remove_members sameKeys related
  constructor
  · intro relation first second path related
    exact (both path related).1
  · intro relation first second path related
    exact (both path related).2

end Removal

/-! ## Masks -/

/-- A strategy that keeps nothing of the value. -/
def HidesAll (strategy : String) : Prop :=
  Text.toAsciiLowercase strategy = "full" ∨ Text.toAsciiLowercase strategy = "redact"

instance (strategy : String) : Decidable (HidesAll strategy) :=
  inferInstanceAs (Decidable (_ ∨ _))

section Masking

variable {hashText : JsonValue → String} {strategy : String}

theorem maskLeaf_of_hidesAll (hidesAll : HidesAll strategy) (value : JsonValue)
    (segment basePath : String) :
    maskLeaf hashText strategy value segment basePath =
      descendChildren value segment basePath fun _ path =>
        ⟨.string "[MASKED]", [some path]⟩ := by
  have masked : ∀ current : JsonValue,
      maskedValue hashText current strategy = some (.string "[MASKED]") :=
    fun _ => if_pos hidesAll
  simp only [maskLeaf, masked]

theorem relates_maskLeaf (hidesAll : HidesAll strategy) (head : String) :
    Relates (followRelation (fun _ step => step) [head])
      fun value path => maskLeaf hashText strategy value head path := by
  have constant : Relates (fun _ _ first second => first = second)
      fun (_ : JsonValue) path => (⟨.string "[MASKED]", [some path]⟩ : Rewritten) := by
    constructor
    · intros
      exact .scalar rfl
    · intros
      rfl
  simp only [maskLeaf_of_hidesAll hidesAll]
  constructor
  · intro relation first second path related
    refine (constant.descend related).1.mono ?_
    intro place left right walked
    cases place with
    | nil => exact Or.inr ⟨[], rfl, walked⟩
    | cons step rest =>
      rw [walkRelation] at walked
      split at walked
      · exact Or.inl walked
      · next notNamed => exact Or.inr ⟨step :: rest, if_neg notNamed, walked⟩
  · intro relation first second path related
    exact (constant.descend related).2

end Masking

/-! ## What stays -/

section Staying

variable {basePath : String}

theorem lookup_filter_of_ne {name removed : String} (other : name ≠ removed)
    (members : List (String × JsonValue)) :
    (members.filter fun member => member.1 ≠ removed).lookup name = members.lookup name := by
  rw [lookup_filter (fun key => key ≠ removed)]
  exact if_pos (decide_eq_true other)

theorem removeLeaf_object (head basePath : String) (members : List (String × JsonValue)) :
    ∃ kept, (removeLeaf (.object members) head basePath).value = .object kept ∧
      ∀ name, ¬Names head (.key name) → kept.lookup name = members.lookup name := by
  rw [removeLeaf]
  split
  · next isWildcard => exact ⟨[], rfl, fun _ notNamed => absurd (Or.inl isWildcard) notNamed⟩
  · split
    · refine ⟨_, rfl, fun name notNamed => lookup_filter_of_ne ?_ members⟩
      intro isHead
      exact notNamed (Or.inr isHead.symm)
    · exact ⟨members, rfl, fun _ _ => rfl⟩

theorem removeLeaf_array (head basePath : String) (items : List JsonValue) :
    ∃ kept, (removeLeaf (.array items) head basePath).value = .array kept ∧
      ∀ place, ¬Names head (.index place) →
        (JsonValue.array kept).child (shiftRemoved head (.index place)) = items[place]? := by
  rw [removeLeaf]
  split
  · next isWildcard => exact ⟨[], rfl, fun _ notNamed => absurd (Or.inl isWildcard) notNamed⟩
  · simp only [shiftRemoved]
    cases isIndex : parseUsize head with
    | none => exact ⟨items, rfl, fun _ _ => rfl⟩
    | some removed =>
      simp only
      split
      · refine ⟨_, rfl, fun place notNamed => ?_⟩
        have other : place ≠ removed := by
          intro same
          rw [same] at notNamed
          exact notNamed (Or.inr isIndex)
        split
        · simp only [child, getElem?_eraseIdx]
          rw [if_neg (by omega), Nat.sub_add_cancel (by omega)]
        · simp only [child, getElem?_eraseIdx]
          rw [if_pos (by omega)]
      · next outside =>
        refine ⟨items, rfl, fun place _ => ?_⟩
        split
        · simp only [child]
          rw [getElem?_eq_none (by omega), getElem?_eq_none (by omega)]
        · rfl

theorem child_removeLeaf {head : String} {step : JsonStep} (notNamed : ¬Names head step)
    (value : JsonValue) :
    (removeLeaf value head basePath).value.child (shiftRemoved head step) =
      value.child step := by
  cases value with
  | scalar scalar =>
    cases step with
    | key name => rfl
    | index place =>
      simp only [shiftRemoved]
      split
      · split <;> rfl
      · rfl
  | object members =>
    obtain ⟨kept, isKept, lookups⟩ := removeLeaf_object head basePath members
    rw [isKept]
    cases step with
    | key name => exact lookups name notNamed
    | index place =>
      simp only [shiftRemoved]
      split
      · split <;> rfl
      · rfl
  | array items =>
    obtain ⟨kept, isKept, children⟩ := removeLeaf_array head basePath items
    rw [isKept]
    cases step with
    | key name => rfl
    | index place => exact children place notNamed

theorem keeps_removeLeaf (head : String) : Keeps shiftRemoved [head]
    fun value path => removeLeaf value head path := by
  intro value basePath path after isFollowed
  cases path with
  | nil =>
    cases isFollowed
    cases value with
    | scalar _ => rfl
    | object members =>
      obtain ⟨kept, isKept, -⟩ := removeLeaf_object head basePath members
      simp only [isKept]
      rfl
    | array items =>
      obtain ⟨kept, isKept, -⟩ := removeLeaf_array head basePath items
      simp only [isKept]
      rfl
  | cons step rest =>
    rw [followSelector] at isFollowed
    split at isFollowed
    · cases isFollowed
    · next notNamed =>
      cases isFollowed
      rw [scalarAt_cons, scalarAt_cons, child_removeLeaf notNamed]

theorem keeps_maskLeaf {hashText : JsonValue → String} {strategy : String} (head : String) :
    Keeps (fun _ step => step) [head]
      fun value path => maskLeaf hashText strategy value head path := by
  intro value basePath path after isFollowed
  cases path with
  | nil =>
    cases isFollowed
    exact scalarAt_nil_descend value
  | cons step rest =>
    rw [followSelector] at isFollowed
    split at isFollowed
    · cases isFollowed
    · next notNamed =>
      cases isFollowed
      exact scalarAt_descend_of_not_names notNamed value rest

end Staying

/-! ## Leaves without hits -/

section
variable {members : List (String × JsonValue)} {name : String}

theorem lookup_isSome_of_mem
    (isMember : name ∈ members.map Prod.fst) : (members.lookup name).isSome := by
  induction members with
  | nil => cases isMember
  | cons member rest ih =>
    obtain ⟨key, value⟩ := member
    rw [lookup_cons]
    cases isKey : name == key with
    | true => rfl
    | false =>
      rcases mem_cons.mp isMember with same | later
      · exact absurd same (ne_of_beq_false isKey)
      · exact ih later

theorem mem_of_lookup {value : JsonValue} (isMember : members.lookup name = some value) :
    name ∈ members.map Prod.fst := by
  induction members with
  | nil => cases isMember
  | cons member rest ih =>
    obtain ⟨key, inner⟩ := member
    rw [lookup_cons] at isMember
    cases isKey : name == key with
    | true => exact mem_cons.mpr (Or.inl (eq_of_beq isKey))
    | false => exact mem_cons.mpr (Or.inr (ih (by simpa [isKey] using isMember)))

end

/-- A removal without a hit. -/
theorem quiet_of_not_named {value : JsonValue} {head : String} {relation : ScalarRelation}
    {other : JsonValue} (notNamed : ∀ step inner, value.child step = some inner →
      ¬Names head step) (related : Related relation value other) :
    Related (fun path first second => ¬Covers [head] path ∧ relation path first second)
      value other := by
  cases related with
  | scalar holds => exact .scalar ⟨id, holds⟩
  | array sameLength related =>
    apply Related.array sameLength
    intro place item counterpart isItem isOther
    exact (related place item counterpart isItem isOther).mono fun _ _ _ holds =>
      ⟨notNamed (.index place) item isItem, holds⟩
  | @object _ first second sameKeys related =>
    apply Related.object sameKeys
    intro entry inZip
    have isMember : entry.1.1 ∈ first.map Prod.fst :=
      mem_map_of_mem (of_mem_zip inZip).1
    obtain ⟨inner, isInner⟩ := Option.isSome_iff_exists.mp
      (lookup_isSome_of_mem isMember)
    exact (related entry inZip).mono fun _ _ _ holds =>
      ⟨notNamed (.key entry.1.1) inner isInner, holds⟩

theorem quiet_removeLeaf (head : String) : Quiet (Covers [head])
    fun value path => removeLeaf value head path := by
  intro value basePath noHits
  have noChild : (removeLeaf value head basePath).value = value ∧
      ∀ step inner, value.child step = some inner → ¬Names head step := by
    cases value with
    | scalar scalar => exact ⟨rfl, fun step inner isChild => by cases step <;> cases isChild⟩
    | array items =>
      simp only [removeLeaf] at noHits ⊢
      split at noHits
      · next isWildcard =>
        have isEmpty : items = [] := by simpa using noHits
        subst isEmpty
        rw [if_pos isWildcard]
        exact ⟨rfl, fun step inner isChild => by cases step <;> cases isChild⟩
      · next notWildcard =>
        rw [if_neg notWildcard]
        cases isIndex : parseUsize head with
        | none =>
          refine ⟨rfl, fun step inner isChild => ?_⟩
          cases step with
          | key name => cases isChild
          | index place =>
            exact not_names_index notWildcard (by simp [isIndex])
        | some removed =>
          simp only [isIndex] at noHits ⊢
          split at noHits
          · cases noHits
          · next outside =>
            rw [if_neg outside]
            refine ⟨rfl, fun step inner isChild => ?_⟩
            cases step with
            | key name => cases isChild
            | index place =>
              have inside : place < items.length :=
                (List.getElem?_eq_some_iff.mp isChild).1
              apply not_names_index notWildcard
              rw [isIndex, ne_eq, Option.some.injEq]
              omega
    | object members =>
      simp only [removeLeaf] at noHits ⊢
      split at noHits
      · next isWildcard =>
        have isEmpty : members = [] := by simpa using noHits
        subst isEmpty
        rw [if_pos isWildcard]
        exact ⟨rfl, fun step inner isChild => by cases step <;> cases isChild⟩
      · next notWildcard =>
        rw [if_neg notWildcard]
        split at noHits
        · cases noHits
        · next notMember =>
          rw [if_neg notMember]
          refine ⟨rfl, fun step inner isChild => ?_⟩
          cases step with
          | index place => cases isChild
          | key name =>
            apply not_names_key notWildcard
            intro isName
            exact notMember (isName ▸ mem_of_lookup isChild)
  exact ⟨noChild.1, quiet_of_not_named noChild.2⟩

theorem quiet_maskLeaf {hashText : JsonValue → String} {strategy : String} (head : String) :
    Quiet (Covers [head]) fun value path => maskLeaf hashText strategy value head path := by
  have isCovers : Covers [head] = WalkCovers head fun _ => True := by
    funext path
    cases path with
    | nil => rfl
    | cons step rest => exact (and_true _).symm
  rw [isCovers]
  apply Quiet.descend
  intro value path noHits
  cases isMasked : maskedValue hashText value strategy with
  | some masked => simp [isMasked] at noHits
  | none => simp [isMasked] at noHits

/-! ## Leaves without panics -/

theorem calm_removeLeaf (head : String) : Calm fun value path => removeLeaf value head path := by
  intro value basePath
  cases value with
  | scalar _ => exact not_mem_nil
  | object members =>
    simp only [removeLeaf]
    split
    · simp
    · split
      · simp
      · exact not_mem_nil
  | array items =>
    simp only [removeLeaf]
    split
    · simp
    · split
      · split
        · simp
        · exact not_mem_nil
      · exact not_mem_nil

theorem calm_maskLeaf {hashText : JsonValue → String} {strategy : String}
    (hidesAll : HidesAll strategy) (head : String) :
    Calm fun value path => maskLeaf hashText strategy value head path := by
  have masks : Calm fun (_ : JsonValue) path =>
      (⟨.string "[MASKED]", [some path]⟩ : Rewritten) := by
    intro value path
    simp
  simp only [maskLeaf_of_hidesAll hidesAll]
  exact masks.descend head

end AutoLoop.Security.PolicyHost
