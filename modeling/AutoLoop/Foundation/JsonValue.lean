import Mathlib.Data.String.Basic

/-!
# JSON values

Trees of scalars, arrays and objects, the paths to their scalars, and two trees of one
shape whose scalars at each path are related.
-/

namespace AutoLoop

open List

/-- An unsigned integer, a negative one, or the bits of a finite double. -/
inductive JsonNumber where
  | posInt (value : UInt64)
  | negInt (value : Int64)
  | float (bits : UInt64)
  deriving DecidableEq, Repr

inductive JsonScalar where
  | null
  | bool (value : Bool)
  | number (value : JsonNumber)
  | string (text : String)
  deriving DecidableEq, Repr

/-- The members of an object stand in the order of their keys, each key once. -/
inductive JsonValue where
  | scalar (value : JsonScalar)
  | array (items : List JsonValue)
  | object (members : List (String × JsonValue))

namespace JsonValue

@[match_pattern] abbrev null : JsonValue := .scalar .null

@[match_pattern] abbrev bool (value : Bool) : JsonValue := .scalar (.bool value)

@[match_pattern] abbrev number (value : JsonNumber) : JsonValue := .scalar (.number value)

@[match_pattern] abbrev string (text : String) : JsonValue := .scalar (.string text)

def unsigned (value : UInt64) : JsonValue := .number (.posInt value)

def optional {α : Type} (form : α → JsonValue) : Option α → JsonValue
  | some value => form value
  | none => null

def texts (items : List String) : JsonValue := .array (items.map string)

/-- `Value::get` of a key. -/
def get (value : JsonValue) (key : String) : Option JsonValue :=
  match value with
  | .object members => members.lookup key
  | _ => none

def asBool : JsonValue → Option Bool
  | .bool value => some value
  | _ => none

def asString : JsonValue → Option String
  | .string text => some text
  | _ => none

def insertMember (key : String) (value : JsonValue) (members : List (String × JsonValue)) :
    List (String × JsonValue) :=
  members.filter (fun member => member.1 < key) ++
    (key, value) :: members.filter (fun member => key < member.1)

theorem sizeOf_item {item : JsonValue} {items : List JsonValue} (isItem : item ∈ items) :
    sizeOf item < sizeOf (JsonValue.array items) := by
  have smaller := sizeOf_lt_of_mem isItem
  simp only [JsonValue.array.sizeOf_spec]
  omega

theorem sizeOf_member {member : String × JsonValue} {members : List (String × JsonValue)}
    (isMember : member ∈ members) : sizeOf member.2 < sizeOf (JsonValue.object members) := by
  have smaller := sizeOf_lt_of_mem isMember
  have ofPair : sizeOf member.2 < sizeOf member := by
    rw [Prod.mk.sizeOf_spec]
    omega
  simp only [JsonValue.object.sizeOf_spec]
  omega

theorem induct {motive : JsonValue → Prop} (scalar : ∀ value, motive (.scalar value))
    (array : ∀ items, (∀ item ∈ items, motive item) → motive (.array items))
    (object : ∀ members, (∀ member ∈ members, motive member.2) → motive (.object members)) :
    ∀ value, motive value
  | .scalar value => scalar value
  | .array items => array items fun item _ => induct scalar array object item
  | .object members => object members fun member _ => induct scalar array object member.2
termination_by value => sizeOf value
decreasing_by
  · exact sizeOf_item ‹_›
  · exact sizeOf_member ‹_›

end JsonValue

/-! ## Paths -/

inductive JsonStep where
  | key (name : String)
  | index (place : Nat)
  deriving DecidableEq, Repr

abbrev JsonPath := List JsonStep

namespace JsonValue

def child : JsonValue → JsonStep → Option JsonValue
  | .object members, .key name => members.lookup name
  | .array items, .index place => items[place]?
  | _, _ => none

def scalarAt : JsonValue → JsonPath → Option JsonScalar
  | .scalar value, [] => some value
  | _, [] => none
  | value, step :: rest => (value.child step).bind (scalarAt · rest)

def setScalar (scalar : JsonScalar) : JsonPath → JsonValue → JsonValue
  | [], .scalar _ => .scalar scalar
  | .key name :: rest, .object members =>
    .object (members.map fun member =>
      (member.1, if member.1 = name then setScalar scalar rest member.2 else member.2))
  | .index place :: rest, .array items =>
    .array (items.mapIdx fun index item =>
      if index = place then setScalar scalar rest item else item)
  | _, value => value

/-- Two trees of one shape, with related scalars at each path. -/
inductive Related : (JsonPath → JsonScalar → JsonScalar → Prop) → JsonValue → JsonValue → Prop
  | scalar {relation : JsonPath → JsonScalar → JsonScalar → Prop} {first second : JsonScalar}
      (related : relation [] first second) :
      Related relation (.scalar first) (.scalar second)
  | array {relation : JsonPath → JsonScalar → JsonScalar → Prop} {first second : List JsonValue}
      (sameLength : first.length = second.length)
      (related : ∀ (place : Nat) (item other : JsonValue), first[place]? = some item →
        second[place]? = some other →
          Related (fun path => relation (.index place :: path)) item other) :
      Related relation (.array first) (.array second)
  | object {relation : JsonPath → JsonScalar → JsonScalar → Prop}
      {first second : List (String × JsonValue)}
      (sameKeys : first.map Prod.fst = second.map Prod.fst)
      (related : ∀ entry ∈ first.zip second,
        Related (fun path => relation (.key entry.1.1 :: path)) entry.1.2 entry.2.2) :
      Related relation (.object first) (.object second)

variable {relation weaker : JsonPath → JsonScalar → JsonScalar → Prop}
variable {value other : JsonValue}

theorem Related.mono (related : Related relation value other)
    (weaken : ∀ path first second, relation path first second → weaker path first second) :
    Related weaker value other := by
  induction related generalizing weaker with
  | scalar related => exact .scalar (weaken _ _ _ related)
  | array sameLength _ ih =>
    apply Related.array sameLength
    intro place item other isItem isOther
    exact ih place item other isItem isOther fun path => weaken (.index place :: path)
  | object sameKeys _ ih =>
    apply Related.object sameKeys
    intro entry inZip
    exact ih entry inZip fun path => weaken (.key entry.1.1 :: path)

theorem sameKey_of_mem_zip {first second : List (String × JsonValue)}
    (sameKeys : first.map Prod.fst = second.map Prod.fst)
    {entry : (String × JsonValue) × String × JsonValue} (inZip : entry ∈ first.zip second) :
    entry.1.1 = entry.2.1 := by
  obtain ⟨place, inside, isEntry⟩ := mem_iff_getElem.mp inZip
  rw [length_zip] at inside
  rw [getElem_zip] at isEntry
  have inFirst : place < first.length := by omega
  have inSecond : place < second.length := by omega
  have keys := congrArg (·[place]?) sameKeys
  rw [← isEntry]
  simpa [inFirst, inSecond] using keys

theorem Related.eq (related : Related relation value other)
    (equal : ∀ path first second, relation path first second → first = second) :
    value = other := by
  induction related with
  | scalar related => exact congrArg JsonValue.scalar (equal _ _ _ related)
  | @array relation first second sameLength _ ih =>
    congr 1
    apply ext_getElem sameLength
    intro place inFirst inSecond
    exact ih place _ _ (getElem?_eq_getElem inFirst) (getElem?_eq_getElem inSecond)
      fun path => equal (.index place :: path)
  | @object relation first second sameKeys _ ih =>
    congr 1
    apply ext_getElem (by simpa using congrArg List.length sameKeys)
    intro place inFirst inSecond
    have inZip : (first[place], second[place]) ∈ first.zip second := by
      rw [mem_iff_getElem]
      exact ⟨place, by simp [inFirst, inSecond], by simp⟩
    exact Prod.ext (sameKey_of_mem_zip sameKeys inZip) (ih _ inZip fun path => equal (.key first[place].1 :: path))

theorem eq_of_mem_zip_self {α : Type} {entries : List α} {entry : α × α}
    (inZip : entry ∈ entries.zip entries) : entry.1 = entry.2 := by
  obtain ⟨place, inside, isEntry⟩ := mem_iff_getElem.mp inZip
  rw [getElem_zip] at isEntry
  rw [← isEntry]

theorem Related.refl (same : ∀ path scalar, relation path scalar scalar) (value : JsonValue) :
    Related relation value value := by
  induction value using induct generalizing relation with
  | scalar scalar => exact .scalar (same [] scalar)
  | array items ih =>
    apply Related.array rfl
    intro place item other isItem isOther
    rw [isItem] at isOther
    cases isOther
    exact ih item (mem_of_getElem? isItem) fun path => same (.index place :: path)
  | object members ih =>
    apply Related.object rfl
    intro entry inZip
    rw [← eq_of_mem_zip_self inZip]
    exact ih entry.1 (of_mem_zip inZip).1 fun path => same (.key entry.1.1 :: path)

/-! ## Scalars -/

@[simp] theorem scalarAt_cons (value : JsonValue) (step : JsonStep) (rest : JsonPath) :
    value.scalarAt (step :: rest) = (value.child step).bind (scalarAt · rest) := by
  cases value <;> rfl

variable {members : List (String × JsonValue)}

theorem lookup_map_of_keys {change : String → JsonValue → JsonValue} (name : String) :
    (members.map fun member => (member.1, change member.1 member.2)).lookup name =
      (members.lookup name).map (change name) := by
  induction members with
  | nil => rfl
  | cons member rest ih =>
    obtain ⟨key, value⟩ := member
    simp only [map_cons, lookup_cons]
    cases isKey : name == key with
    | true => rw [Option.map_some, eq_of_beq isKey]
    | false => exact ih

theorem scalarAt_setScalar {scalar old : JsonScalar} {path : JsonPath}
    (isScalar : value.scalarAt path = some old) :
    (setScalar scalar path value).scalarAt path = some scalar := by
  induction path generalizing value with
  | nil =>
    cases value with
    | scalar _ => rfl
    | array _ => cases isScalar
    | object _ => cases isScalar
  | cons step rest ih =>
    rw [scalarAt_cons] at isScalar
    cases value with
    | scalar _ => cases isScalar
    | array items =>
      cases step with
      | key _ => cases isScalar
      | index place =>
        cases isItem : items[place]? with
        | none => simp [child, isItem] at isScalar
        | some item =>
          simp only [child, isItem, Option.bind_some] at isScalar
          simp [setScalar, child, isItem, ih isScalar]
    | object members =>
      cases step with
      | index _ => cases isScalar
      | key name =>
        cases isMember : members.lookup name with
        | none => simp [child, isMember] at isScalar
        | some member =>
          simp only [child, isMember, Option.bind_some] at isScalar
          have isChanged := @lookup_map_of_keys members (fun key value =>
            if key = name then setScalar scalar rest value else value) name
          rw [isMember, Option.map_some, if_pos rfl] at isChanged
          rw [setScalar, scalarAt_cons, child, isChanged, Option.bind_some, ih isScalar]

theorem related_setScalar {scalar : JsonScalar} {path : JsonPath}
    (same : ∀ path scalar, relation path scalar scalar)
    (changed : ∀ old, relation path old scalar) (value : JsonValue) :
    Related relation value (setScalar scalar path value) := by
  induction path generalizing value relation with
  | nil =>
    cases value with
    | scalar old => exact .scalar (changed old)
    | array _ => exact .refl same _
    | object _ => exact .refl same _
  | cons step rest ih =>
    cases value with
    | scalar _ => cases step <;> exact .refl same _
    | array items =>
      cases step with
      | key _ => exact .refl same _
      | index place =>
        apply Related.array (by simp)
        intro index item other isItem isOther
        simp only [getElem?_mapIdx, isItem, Option.map_some, Option.some.injEq] at isOther
        subst isOther
        split
        · next isPlace =>
          subst isPlace
          exact ih (fun path => same (.index index :: path)) changed item
        · exact .refl (fun path => same (.index index :: path)) item
    | object members =>
      cases step with
      | index _ => exact .refl same _
      | key name =>
        apply Related.object (by simp)
        intro entry inZip
        rw [zip_map_right, mem_map] at inZip
        obtain ⟨both, inBoth, isEntry⟩ := inZip
        have sameMember := eq_of_mem_zip_self inBoth
        subst isEntry
        simp only [Prod.map, id, ← sameMember]
        split
        · next isName =>
          rw [isName]
          exact ih (fun path => same (.key name :: path)) changed _
        · exact .refl (fun path => same (.key both.1.1 :: path)) _

theorem Related.get_eq (related : Related relation value other) {name : String}
    (equal : ∀ path first second, relation (.key name :: path) first second → first = second) :
    value.get name = other.get name := by
  cases related with
  | scalar _ => rfl
  | array _ _ => rfl
  | @object _ first second sameKeys related =>
    simp only [JsonValue.get]
    induction first generalizing second with
    | nil =>
      rw [map_eq_nil_iff.mp sameKeys.symm]
    | cons member rest ih =>
      cases second with
      | nil => cases sameKeys
      | cons counterpart later =>
        obtain ⟨key, inner⟩ := member
        obtain ⟨otherKey, otherInner⟩ := counterpart
        simp only [map_cons, List.cons.injEq] at sameKeys
        obtain ⟨rfl, sameRest⟩ := sameKeys
        have head := related ((key, inner), (key, otherInner)) mem_cons_self
        have tail := ih sameRest fun entry inZip =>
          related entry (mem_cons_of_mem _ inZip)
        simp only [lookup_cons]
        cases isKey : name == key with
        | false => exact tail
        | true =>
          obtain rfl := eq_of_beq isKey
          exact congrArg some (head.eq equal)

/-! ## Insertion -/

theorem lookup_filter (keep : String → Bool) (members : List (String × JsonValue)) (name : String) :
    (members.filter (keep ·.1)).lookup name =
      if keep name = true then members.lookup name else none := by
  induction members with
  | nil => simp
  | cons member rest ih =>
    obtain ⟨key, value⟩ := member
    rw [filter_cons, lookup_cons]
    cases isKey : name == key with
    | true =>
      obtain rfl := eq_of_beq isKey
      by_cases kept : keep name = true
      · simp [kept]
      · simp [kept, ih]
    | false =>
      split
      · rw [lookup_cons, isKey]
        exact ih
      · exact ih

theorem lookup_insertMember_of_ne {name key : String} (other : name ≠ key) (value : JsonValue)
    (members : List (String × JsonValue)) :
    (insertMember key value members).lookup name = members.lookup name := by
  rw [insertMember, lookup_append, lookup_filter (fun name => name < key),
    lookup_cons, beq_false_of_ne other, lookup_filter (fun name => key < name)]
  rcases lt_or_gt_of_ne other with before | after
  · simp [before, not_lt_of_gt before]
  · simp [after, not_lt_of_gt after]

theorem filter_eq_of_zip {keep : String → Bool} {first second : List (String × JsonValue)}
    (sameKeys : first.map Prod.fst = second.map Prod.fst)
    (equal : ∀ entry ∈ first.zip second, keep entry.1.1 = true → entry.1.2 = entry.2.2) :
    first.filter (keep ·.1) = second.filter (keep ·.1) := by
  induction first generalizing second with
  | nil => rw [map_eq_nil_iff.mp sameKeys.symm]
  | cons member rest ih =>
    cases second with
    | nil => cases sameKeys
    | cons counterpart later =>
      obtain ⟨key, value⟩ := member
      obtain ⟨otherKey, otherValue⟩ := counterpart
      simp only [map_cons, List.cons.injEq] at sameKeys
      obtain ⟨rfl, sameRest⟩ := sameKeys
      have tail := ih sameRest fun entry inZip => equal entry (mem_cons_of_mem _ inZip)
      simp only [filter_cons, tail]
      split
      · next kept =>
        have sameValue : value = otherValue :=
          equal ((key, value), (key, otherValue)) mem_cons_self kept
        rw [sameValue]
      · rfl

/-! ## Distinct keys -/

/-- No object has a key twice. -/
inductive Distinct : JsonValue → Prop
  | scalar (scalar : JsonScalar) : Distinct (.scalar scalar)
  | array {items : List JsonValue} (inner : ∀ item ∈ items, Distinct item) :
      Distinct (.array items)
  | object {members : List (String × JsonValue)} (nodup : (members.map Prod.fst).Nodup)
      (inner : ∀ member ∈ members, Distinct member.2) : Distinct (.object members)

@[simp] theorem distinct_scalar (scalar : JsonScalar) : Distinct (.scalar scalar) :=
  .scalar scalar

@[simp] theorem distinct_array {items : List JsonValue} :
    Distinct (.array items) ↔ ∀ item ∈ items, Distinct item := by
  constructor
  · intro distinct
    cases distinct with
    | array inner => exact inner
  · exact Distinct.array

@[simp] theorem distinct_object :
    Distinct (.object members) ↔
      (members.map Prod.fst).Nodup ∧ ∀ member ∈ members, Distinct member.2 := by
  constructor
  · intro distinct
    cases distinct with
    | object nodup inner => exact ⟨nodup, inner⟩
  · exact fun both => .object both.1 both.2

theorem lookup_of_mem (nodup : (members.map Prod.fst).Nodup) {member : String × JsonValue}
    (isMember : member ∈ members) : members.lookup member.1 = some member.2 := by
  induction members with
  | nil => cases isMember
  | cons first rest ih =>
    rw [map_cons, nodup_cons] at nodup
    rcases mem_cons.mp isMember with rfl | later
    · exact lookup_cons_self
    · have other : member.1 ≠ first.1 := by
        intro same
        exact nodup.1 (same ▸ mem_map_of_mem later)
      obtain ⟨key, value⟩ := first
      rw [lookup_cons, beq_false_of_ne other]
      exact ih nodup.2 later

theorem Related.located (related : Related relation value other) (distinct : value.Distinct) :
    Related (fun path first second =>
      value.scalarAt path = some first ∧ relation path first second) value other := by
  induction related with
  | scalar holds => exact .scalar ⟨rfl, holds⟩
  | array sameLength _ ih =>
    apply Related.array sameLength
    intro place item counterpart isItem isOther
    refine (ih place item counterpart isItem isOther
      (distinct_array.mp distinct item (mem_of_getElem? isItem))).mono
        fun path _ _ holds => ?_
    rw [scalarAt_cons, child, isItem]
    exact holds
  | object sameKeys _ ih =>
    obtain ⟨nodup, inner⟩ := distinct_object.mp distinct
    apply Related.object sameKeys
    intro entry inZip
    have isMember := (of_mem_zip inZip).1
    refine (ih entry inZip (inner entry.1 isMember)).mono fun path _ _ holds => ?_
    rw [scalarAt_cons, child, lookup_of_mem nodup isMember]
    exact holds

end JsonValue

end AutoLoop
