import AutoLoop.Security.PolicyHost.DecisionLog

/-!
# Walks along selectors

What a rule makes of two payloads of one shape, and where the scalars stand that it does
not take.  The place of a value in an array moves when a drop removes an element before it.
-/

namespace AutoLoop.Security.PolicyHost

open JsonValue (Related)
open List JsonValue

/-! ## Selected paths -/

def Names (segment : String) : JsonStep → Prop
  | .key name => segment = "*" ∨ segment = name
  | .index place => segment = "*" ∨ parseUsize segment = some place

instance (segment : String) : DecidablePred (Names segment)
  | .key _ => inferInstanceAs (Decidable (_ ∨ _))
  | .index _ => inferInstanceAs (Decidable (_ ∨ _))

/-- A selector denotes the place of a path, or one on the way to it. -/
def Covers : List String → JsonPath → Prop
  | [], _ => False
  | _, [] => False
  | [head], step :: _ => Names head step
  | head :: next :: tail, step :: rest => Names head step ∧ Covers (next :: tail) rest

instance decidableCovers : ∀ selector path, Decidable (Covers selector path)
  | [], _ => inferInstanceAs (Decidable False)
  | [_], [] => inferInstanceAs (Decidable False)
  | _ :: _ :: _, [] => inferInstanceAs (Decidable False)
  | [head], step :: _ => inferInstanceAs (Decidable (Names head step))
  | head :: next :: tail, step :: rest =>
    have : Decidable (Covers (next :: tail) rest) := decidableCovers (next :: tail) rest
    inferInstanceAs (Decidable (Names head step ∧ Covers (next :: tail) rest))

/-- Where the scalar at a path stands after a rule, unless the rule takes it away. -/
def followSelector (shift : String → JsonStep → JsonStep) :
    List String → JsonPath → Option JsonPath
  | [], path => some path
  | _, [] => some []
  | [head], step :: rest => if Names head step then none else some (shift head step :: rest)
  | head :: next :: tail, step :: rest =>
    if Names head step then (followSelector shift (next :: tail) rest).map (step :: ·)
    else some (step :: rest)

/-- The elements behind one that is removed move up by one place. -/
def shiftRemoved (segment : String) : JsonStep → JsonStep
  | .key name => .key name
  | .index place =>
    match parseUsize segment with
    | some removed => if removed < place then .index (place - 1) else .index place
    | none => .index place

/-! ## Walks over the children -/

abbrev ScalarRelation : Type := JsonPath → JsonScalar → JsonScalar → Prop

/-- What a walk leaves of a child. -/
def visit (segment : String) (func : JsonValue → String → Rewritten) (step : JsonStep)
    (path : String) (child : JsonValue) : Rewritten :=
  if Names segment step then func child path else .unchanged child

section Walks

variable {segment basePath : String} {func : JsonValue → String → Rewritten}
variable {relation : ScalarRelation} {value other : JsonValue}

/-- The path of an element, written as in the selector. -/
def elementPath (segment basePath : String) (index : Nat) : String :=
  joinPath basePath (if segment = "*" then index.repr else segment)

theorem descend_object (members : List (String × JsonValue)) :
    descendChildren (.object members) segment basePath func =
      ⟨.object (members.map fun member => (member.1,
          (visit segment func (.key member.1) (joinPath basePath member.1) member.2).value)),
        members.flatMap fun member =>
          (visit segment func (.key member.1) (joinPath basePath member.1) member.2).hits⟩ := by
  simp only [descendChildren, map_map, flatMap_map]
  rfl

theorem descend_array (items : List JsonValue) :
    let visited := items.mapIdx fun index =>
      visit segment func (.index index) (elementPath segment basePath index)
    descendChildren (.array items) segment basePath func =
      ⟨.array (visited.map (·.value)), visited.flatMap (·.hits)⟩ := by
  have visits : (fun index item =>
      if segment = "*" then func item (joinPath basePath index.repr)
      else if parseUsize segment = some index then func item (joinPath basePath segment)
      else .unchanged item) =
        fun index => visit segment func (.index index) (elementPath segment basePath index) := by
    funext index item
    by_cases isWildcard : segment = "*" <;> simp [visit, Names, elementPath, isWildcard]
  rw [descendChildren, visits]

def walkRelation (segment : String) (change : ScalarRelation → ScalarRelation)
    (relation : ScalarRelation) : ScalarRelation
  | [] => relation []
  | step :: rest =>
    if Names segment step then change (fun path => relation (step :: path)) rest
    else relation (step :: rest)

/-- A function that relates what it makes of related children, and hits the same paths. -/
structure Relates (change : ScalarRelation → ScalarRelation)
    (func : JsonValue → String → Rewritten) : Prop where
  value : ∀ {relation first second} (path : String), Related relation first second →
    Related (change relation) (func first path).value (func second path).value
  hits : ∀ {relation first second} (path : String), Related relation first second →
    (func first path).hits = (func second path).hits

variable {change : ScalarRelation → ScalarRelation}

theorem Relates.visit (relates : Relates change func) {step : JsonStep} (path : String)
    (related : Related (fun rest => relation (step :: rest)) value other) :
    Related (fun rest => walkRelation segment change relation (step :: rest))
        (visit segment func step path value).value (visit segment func step path other).value ∧
      (PolicyHost.visit segment func step path value).hits =
        (PolicyHost.visit segment func step path other).hits := by
  simp only [walkRelation, PolicyHost.visit]
  split
  · exact ⟨relates.value path related, relates.hits path related⟩
  · exact ⟨related, rfl⟩

theorem map_eq_of_zip {α β : Type} {view : α → β} {first second : List α}
    (sameLength : first.length = second.length)
    (same : ∀ entry ∈ first.zip second, view entry.1 = view entry.2) :
    first.map view = second.map view := by
  induction first generalizing second with
  | nil => rw [length_eq_zero_iff.mp sameLength.symm]
  | cons entry rest ih =>
    cases second with
    | nil => cases sameLength
    | cons counterpart later =>
      rw [map_cons, map_cons, same (entry, counterpart) mem_cons_self,
        ih (Nat.succ.inj sameLength) fun pair inZip =>
          same pair (mem_cons_of_mem _ inZip)]

theorem Relates.descend (relates : Relates change func) (related : Related relation value other) :
    Related (walkRelation segment change relation)
        (descendChildren value segment basePath func).value
        (descendChildren other segment basePath func).value ∧
      (descendChildren value segment basePath func).hits =
        (descendChildren other segment basePath func).hits := by
  cases related with
  | scalar related => exact ⟨.scalar related, rfl⟩
  | @array _ first second sameLength related =>
    rw [descend_array, descend_array]
    have visited : ∀ (place : Nat) (item counterpart : JsonValue), first[place]? = some item →
        second[place]? = some counterpart → _ :=
      fun place item counterpart isItem isOther =>
        @Relates.visit segment _ _ _ _ _ relates _ (elementPath segment basePath place)
          (related place item counterpart isItem isOther)
    constructor
    · apply Related.array (by simp [sameLength])
      intro place item counterpart isItem isOther
      simp only [getElem?_map, getElem?_mapIdx, Option.map_map,
        Option.map_eq_some_iff] at isItem isOther
      obtain ⟨old, isOld, rfl⟩ := isItem
      obtain ⟨oldOther, isOldOther, rfl⟩ := isOther
      exact (visited place old oldOther isOld isOldOther).1
    · simp only [flatMap_def]
      congr 1
      apply ext_getElem (by simp [sameLength])
      intro place inFirst inSecond
      simp only [length_map, length_mapIdx] at inFirst inSecond
      simp only [getElem_map, getElem_mapIdx]
      exact (visited place _ _ (getElem?_eq_getElem inFirst) (getElem?_eq_getElem inSecond)).2
  | @object _ first second sameKeys related =>
    rw [descend_object, descend_object]
    have sameKey : ∀ entry ∈ first.zip second, entry.1.1 = entry.2.1 :=
      fun _ => sameKey_of_mem_zip sameKeys
    have visited : ∀ entry ∈ first.zip second, _ := fun entry inZip =>
      @Relates.visit segment _ _ _ _ _ relates _ (joinPath basePath entry.1.1)
        (related entry inZip)
    constructor
    · apply Related.object
      · simpa only [map_map, Function.comp_def] using sameKeys
      · intro entry inZip
        rw [zip_map, mem_map] at inZip
        obtain ⟨old, inOld, rfl⟩ := inZip
        simp only [Prod.map, ← sameKey old inOld]
        exact (visited old inOld).1
    · simp only [flatMap_def]
      congr 1
      apply map_eq_of_zip (by simpa using congrArg List.length sameKeys)
      intro entry inZip
      simp only [← sameKey entry inZip]
      exact (visited entry inZip).2

def followRelation (shift : String → JsonStep → JsonStep) (selector : List String)
    (relation : ScalarRelation) : ScalarRelation := fun path first second =>
  first = second ∨ ∃ before, followSelector shift selector before = some path ∧
    relation before first second

theorem followRelation_of_walk {shift : String → JsonStep → JsonStep} {head next : String}
    {tail : List String} {path : JsonPath} {first second : JsonScalar}
    (walked : walkRelation head (followRelation shift (next :: tail)) relation path first second) :
    followRelation shift (head :: next :: tail) relation path first second := by
  cases path with
  | nil => exact Or.inr ⟨[], rfl, walked⟩
  | cons step rest =>
    rw [walkRelation] at walked
    by_cases names : Names head step
    · rw [if_pos names] at walked
      rcases walked with same | ⟨before, isFollowed, related⟩
      · exact Or.inl same
      · refine Or.inr ⟨step :: before, ?_, related⟩
        rw [followSelector, if_pos names, isFollowed, Option.map_some]
    · rw [if_neg names] at walked
      exact Or.inr ⟨step :: rest, if_neg names, walked⟩

theorem relates_applyRule {leaf : JsonValue → String → String → Rewritten}
    {shift : String → JsonStep → JsonStep}
    (relatesLeaf : ∀ head, Relates (followRelation shift [head])
      fun value path => leaf value head path) (selector : List String) :
    Relates (followRelation shift selector) (applyRule leaf selector) := by
  induction selector with
  | nil =>
    constructor
    · intro relation first second path related
      exact related.mono fun path _ _ holds => Or.inr ⟨path, rfl, holds⟩
    · intros
      rfl
  | cons head rest ih =>
    cases rest with
    | nil => exact relatesLeaf head
    | cons next tail =>
      constructor
      · intro relation first second path related
        exact (ih.descend related).1.mono fun _ _ _ => followRelation_of_walk
      · intro relation first second path related
        exact (ih.descend related).2

end Walks

/-! ## What stays -/

/-- The scalars that a rule does not take stand where it leaves them. -/
def Keeps (shift : String → JsonStep → JsonStep) (selector : List String)
    (func : JsonValue → String → Rewritten) : Prop :=
  ∀ (value : JsonValue) (basePath : String) {path after : JsonPath},
    followSelector shift selector path = some after →
      (func value basePath).value.scalarAt after = value.scalarAt path

section Staying

variable {segment basePath : String} {func : JsonValue → String → Rewritten}

theorem child_descend (value : JsonValue) (step : JsonStep) :
    ∃ path, (descendChildren value segment basePath func).value.child step =
      (value.child step).map fun inner => (visit segment func step path inner).value := by
  cases value with
  | scalar _ => exact ⟨"", by cases step <;> rfl⟩
  | array items =>
    cases step with
    | key name => exact ⟨"", by rw [descend_array]; rfl⟩
    | index place =>
      refine ⟨elementPath segment basePath place, ?_⟩
      rw [descend_array]
      simp only [JsonValue.child, getElem?_map, getElem?_mapIdx, Option.map_map]
      rfl
  | object members =>
    cases step with
    | index place => exact ⟨"", by rw [descend_object]; rfl⟩
    | key name =>
      refine ⟨joinPath basePath name, ?_⟩
      rw [descend_object]
      simp only [JsonValue.child]
      exact @lookup_map_of_keys members (fun key inner =>
        (visit segment func (.key key) (joinPath basePath key) inner).value) name

theorem scalarAt_nil_descend (value : JsonValue) :
    (descendChildren value segment basePath func).value.scalarAt [] = value.scalarAt [] := by
  cases value with
  | scalar _ => rfl
  | array _ => rw [descend_array]; rfl
  | object _ => rw [descend_object]; rfl

theorem scalarAt_descend_of_not_names {step : JsonStep} (notNamed : ¬Names segment step)
    (value : JsonValue) (rest : JsonPath) :
    (descendChildren value segment basePath func).value.scalarAt (step :: rest) =
      value.scalarAt (step :: rest) := by
  obtain ⟨path, isChild⟩ := @child_descend segment basePath func value step
  simp only [scalarAt_cons, isChild, visit, if_neg notNamed, Rewritten.unchanged, Option.map_id']

theorem Keeps.descend {shift : String → JsonStep → JsonStep} {next : String}
    {tail : List String} (keeps : Keeps shift (next :: tail) func) :
    Keeps shift (segment :: next :: tail)
      fun value basePath => descendChildren value segment basePath func := by
  intro value basePath path after isFollowed
  cases path with
  | nil =>
    cases isFollowed
    exact scalarAt_nil_descend value
  | cons step rest =>
    rw [followSelector] at isFollowed
    by_cases names : Names segment step
    · rw [if_pos names, Option.map_eq_some_iff] at isFollowed
      obtain ⟨later, isLater, rfl⟩ := isFollowed
      obtain ⟨path, isChild⟩ := @child_descend segment basePath func value step
      simp only [scalarAt_cons, isChild, visit, if_pos names]
      cases value.child step with
      | none => rfl
      | some inner => exact keeps inner path isLater
    · rw [if_neg names, Option.some.injEq] at isFollowed
      subst isFollowed
      exact scalarAt_descend_of_not_names names value rest

theorem keeps_applyRule {leaf : JsonValue → String → String → Rewritten}
    {shift : String → JsonStep → JsonStep}
    (keepsLeaf : ∀ head, Keeps shift [head] fun value path => leaf value head path)
    (selector : List String) : Keeps shift selector (applyRule leaf selector) := by
  induction selector with
  | nil =>
    intro value basePath path after isFollowed
    cases isFollowed
    rfl
  | cons head rest ih =>
    cases rest with
    | nil => exact keepsLeaf head
    | cons next tail => exact ih.descend

end Staying

/-! ## Walks without hits -/

def Quiet (covered : JsonPath → Prop) (func : JsonValue → String → Rewritten) : Prop :=
  ∀ (value : JsonValue) (basePath : String), (func value basePath).hits = [] →
    (func value basePath).value = value ∧
      ∀ {relation : ScalarRelation} {other : JsonValue}, Related relation value other →
        Related (fun path first second => ¬covered path ∧ relation path first second) value other

def WalkCovers (segment : String) (covered : JsonPath → Prop) : JsonPath → Prop
  | [] => False
  | step :: rest => Names segment step ∧ covered rest

section Hits

variable {segment basePath : String} {func : JsonValue → String → Rewritten}
variable {covered : JsonPath → Prop}

theorem Quiet.visit (quiet : Quiet covered func) {step : JsonStep} {path : String}
    {value : JsonValue} (noHits : (visit segment func step path value).hits = []) :
    (PolicyHost.visit segment func step path value).value = value ∧
      ∀ {relation : ScalarRelation} {other : JsonValue},
        Related (fun rest => relation (step :: rest)) value other →
          Related (fun rest first second => ¬WalkCovers segment covered (step :: rest) ∧
            relation (step :: rest) first second) value other := by
  rw [PolicyHost.visit] at noHits ⊢
  split at noHits
  · next names =>
    rw [if_pos names]
    refine ⟨(quiet value path noHits).1, fun related => ?_⟩
    refine ((quiet value path noHits).2 related).mono fun rest _ _ holds => ?_
    exact ⟨fun covers => holds.1 covers.2, holds.2⟩
  · next notNamed =>
    rw [if_neg notNamed]
    exact ⟨rfl, fun related => related.mono fun _ _ _ holds =>
      ⟨fun covers => notNamed covers.1, holds⟩⟩

theorem Quiet.descend (quiet : Quiet covered func) :
    Quiet (WalkCovers segment covered)
      fun value basePath => descendChildren value segment basePath func := by
  intro value basePath noHits
  cases value with
  | scalar scalar =>
    refine ⟨rfl, fun related => ?_⟩
    cases related with
    | scalar holds => exact .scalar ⟨id, holds⟩
  | array items =>
    simp only [descend_array, flatMap_eq_nil_iff] at noHits ⊢
    have visited : ∀ (place : Nat) (item : JsonValue), items[place]? = some item → _ :=
      fun place item isItem => @Quiet.visit segment func covered quiet (.index place)
        (elementPath segment basePath place) item
        (noHits _ (mem_of_getElem? (by
          rw [getElem?_mapIdx, isItem]
          rfl)))
    constructor
    · congr 1
      apply ext_getElem?
      intro place
      rw [getElem?_map, getElem?_mapIdx, Option.map_map]
      cases isItem : items[place]? with
      | none => rfl
      | some item => exact congrArg some (visited place item isItem).1
    · intro relation other related
      cases related with
      | array sameLength related =>
        apply Related.array sameLength
        intro place item counterpart isItem isOther
        exact (visited place item isItem).2 (related place item counterpart isItem isOther)
  | object members =>
    simp only [descend_object, flatMap_eq_nil_iff] at noHits ⊢
    have visited : ∀ member ∈ members, _ := fun member inMembers =>
      @Quiet.visit segment func covered quiet (.key member.1)
        (joinPath basePath member.1) member.2 (noHits member inMembers)
    constructor
    · congr 1
      refine (map_congr_left fun member inMembers => ?_).trans (map_id _)
      exact Prod.ext rfl (visited member inMembers).1
    · intro relation other related
      cases related with
      | object sameKeys related =>
        apply Related.object sameKeys
        intro entry inZip
        exact (visited entry.1 (of_mem_zip inZip).1).2 (related entry inZip)

theorem quiet_applyRule {leaf : JsonValue → String → String → Rewritten}
    (quietLeaf : ∀ head, Quiet (Covers [head]) fun value path => leaf value head path)
    (selector : List String) : Quiet (Covers selector) (applyRule leaf selector) := by
  induction selector with
  | nil =>
    intro value basePath _
    exact ⟨rfl, fun related => related.mono fun _ _ _ holds => ⟨id, holds⟩⟩
  | cons head rest ih =>
    cases rest with
    | nil => exact quietLeaf head
    | cons next tail =>
      have isCovers : Covers (head :: next :: tail) =
          WalkCovers head (Covers (next :: tail)) := by
        funext path
        cases path <;> rfl
      rw [isCovers]
      exact ih.descend

end Hits

/-! ## Walks without panics -/

def Calm (func : JsonValue → String → Rewritten) : Prop :=
  ∀ (value : JsonValue) (basePath : String), none ∉ (func value basePath).hits

section
variable {func : JsonValue → String → Rewritten} (calm : Calm func) (segment : String)
include calm

theorem Calm.visit (step : JsonStep) (path : String) (child : JsonValue) :
    none ∉ (visit segment func step path child).hits := by
  rw [PolicyHost.visit]
  split
  · exact calm child path
  · exact not_mem_nil

theorem Calm.descend : Calm fun value basePath =>
      descendChildren value segment basePath func := by
  intro value basePath
  cases value with
  | scalar _ => exact not_mem_nil
  | array items =>
    simp only [descend_array, mem_flatMap, mem_mapIdx, not_exists, not_and]
    intro visited isVisit
    obtain ⟨index, inside, rfl⟩ := isVisit
    exact calm.visit segment _ _ _
  | object members =>
    simp only [descend_object, mem_flatMap, not_exists, not_and]
    intro member _
    exact calm.visit segment _ _ _

end

theorem calm_applyRule {leaf : JsonValue → String → String → Rewritten}
    (calmLeaf : ∀ head, Calm fun value path => leaf value head path)
    (selector : List String) : Calm (applyRule leaf selector) := by
  induction selector with
  | nil => exact fun _ _ => not_mem_nil
  | cons head rest ih =>
    cases rest with
    | nil => exact calmLeaf head
    | cons next tail => exact ih.descend head

end AutoLoop.Security.PolicyHost
