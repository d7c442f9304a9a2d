import AutoLoop.Foundation.Framing

/-!
# Confinement of patch paths

`resolve_path` for workspace roots of every kind.  The components of a path are folded into a
buffer, from which `..` takes the last name when there is one; where a relative path leads
above its start, the buffer keeps no trace of it.
-/

namespace AutoLoop.QueryEngine.Confinement

open List

/-! ## Paths -/

/-- `std::path::Component`, without the prefixes that only Windows has. -/
inductive Component where
  | rootDir
  | curDir
  | parentDir
  | normal (name : String)
  deriving DecidableEq, Repr

/-- The component of a piece between slashes that is not at the start. -/
def pieceComponent (piece : String) : Option Component :=
  if piece = "" ∨ piece = "." then none
  else if piece = ".." then some .parentDir
  else some (.normal piece)

def pieceComponents (path : String) : List Component :=
  (Text.split '/' path).filterMap pieceComponent

def isAbsolute (path : String) : Bool := Text.startsWith path "/"

/-- `Path::components`: a relative path keeps the `.` that it starts with. -/
def components (path : String) : List Component :=
  if isAbsolute path then .rootDir :: pieceComponents path
  else if (Text.split '/' path).head? = some "." then .curDir :: pieceComponents path
  else pieceComponents path

/-- `Path::join` of a path that is not absolute. -/
def join (root path : String) : String :=
  if root = "" then path
  else if root.toList.getLast? = some '/' then root ++ path
  else root ++ "/" ++ path

/-- A path that only `push` and `pop` have made. -/
structure PathBuf where
  isAbsolute : Bool
  names : List String
  deriving DecidableEq, Repr

namespace PathBuf

def new : PathBuf := ⟨false, []⟩

section
variable (path : PathBuf)

/-- `PathBuf::push` of a component; the root replaces what is there. -/
def push : Component → PathBuf
  | .rootDir => ⟨true, []⟩
  | .normal name => { path with names := path.names ++ [name] }
  | .curDir | .parentDir => path

/-- `PathBuf::pop`; nothing is taken from the root or from an empty path. -/
def pop : PathBuf := { path with names := path.names.dropLast }

/-- What a component does to the buffer of `normalize_without_resolving`. -/
def take : Component → PathBuf
  | .curDir => path
  | .parentDir => path.pop
  | .rootDir => path.push .rootDir
  | .normal name => path.push (.normal name)

def components : List Component :=
  (if path.isAbsolute then [.rootDir] else []) ++ path.names.map .normal

end

/-- `Path::starts_with`. -/
def startsWith (path base : PathBuf) : Bool := decide (base.components <+: path.components)

/-- `Path::display`. -/
def display (path : PathBuf) : String :=
  (if path.isAbsolute then "/" else "") ++ String.intercalate "/" path.names

end PathBuf

def normalizeWithoutResolving (path : String) : PathBuf :=
  (components path).foldl PathBuf.take PathBuf.new

/-- The path that an input stands for before it is normalized. -/
def joined (workspaceRoot input : String) : String :=
  if isAbsolute input then input else join workspaceRoot input

def resolvePath (workspaceRoot input : String) : Except String PathBuf :=
  let normalized := normalizeWithoutResolving (joined workspaceRoot input)
  let root := normalizeWithoutResolving workspaceRoot
  if normalized.startsWith root then .ok normalized
  else .error ("path escapes workspace root (target=" ++ normalized.display ++ ", root=" ++
    root.display ++ ")")

/-! ## Where paths lead -/

/-- Where a path leads without following links: from the root, or from so many directories
above an unknown one. -/
structure Place where
  isAbsolute : Bool
  ups : Nat
  names : List String
  deriving DecidableEq, Repr

namespace Place

def start : Place := ⟨false, 0, []⟩

/-- One step; the root is its own parent. -/
def follow (place : Place) : Component → Place
  | .rootDir => ⟨true, 0, []⟩
  | .curDir => place
  | .parentDir =>
    if place.names ≠ [] then { place with names := place.names.dropLast }
    else if place.isAbsolute then place
    else { place with ups := place.ups + 1 }
  | .normal name => { place with names := place.names ++ [name] }

def Inside (place root : Place) : Prop :=
  place.isAbsolute = root.isAbsolute ∧ place.ups = root.ups ∧ root.names <+: place.names

def IsSpelledBy (place : Place) (path : PathBuf) : Prop :=
  place.ups = 0 ∧ path = ⟨place.isAbsolute, place.names⟩

end Place

def lexical (path : String) : Place := (components path).foldl Place.follow Place.start

/-- The engine accepts an input exactly when it stays inside the workspace, with the place
it leads to, and inputs for one place are alike to it. -/
structure Confines (workspaceRoot input : String) : Prop where
  accepts : (∃ path, resolvePath workspaceRoot input = .ok path) ↔
    (lexical (joined workspaceRoot input)).Inside (lexical workspaceRoot)
  resolves : ∀ path, resolvePath workspaceRoot input = .ok path →
    (lexical (joined workspaceRoot input)).IsSpelledBy path
  /-- The key of a target in `detect_conflicts`. -/
  alike : ∀ other, lexical (joined workspaceRoot other) = lexical (joined workspaceRoot input) →
    resolvePath workspaceRoot other = resolvePath workspaceRoot input

/-- The root is absolute; or it is relative, and an absolute input finds a name left of it; or
both are relative, and the way from the start over the root never leads above the start, or the
names that are left do not begin with those of the root. -/
def StaysClear (workspaceRoot input : String) : Prop :=
  isAbsolute workspaceRoot = true ∨
    (if isAbsolute input then (lexical workspaceRoot).names ≠ []
    else (lexical (joined workspaceRoot input)).ups = 0 ∨
      ¬(lexical workspaceRoot).names <+: (lexical (joined workspaceRoot input)).names)

/-! ## Components -/

theorem startsWith_slash {path : String} :
    isAbsolute path = true ↔ path.toList.head? = some '/' := by
  rw [isAbsolute, Text.startsWith_iff]
  cases path.toList <;> simp [cons_prefix_cons, eq_comm]

theorem lexical_eq (path : String) :
    lexical path = (pieceComponents path).foldl Place.follow ⟨isAbsolute path, 0, []⟩ := by
  rw [lexical, components]
  split
  · next absolute =>
    rw [absolute]
    rfl
  · next relative =>
    rw [Bool.not_eq_true] at relative
    rw [relative]
    split <;> rfl

theorem normalizeWithoutResolving_eq (path : String) :
    normalizeWithoutResolving path = ⟨(lexical path).isAbsolute, (lexical path).names⟩ := by
  rw [normalizeWithoutResolving, lexical]
  have folds : ∀ (rest : List Component) (place : Place),
      rest.foldl PathBuf.take ⟨place.isAbsolute, place.names⟩ =
      ⟨(rest.foldl Place.follow place).isAbsolute, (rest.foldl Place.follow place).names⟩ := by
    intro rest
    induction rest with
    | nil => exact fun _ => rfl
    | cons component rest ih =>
      intro place
      rw [foldl_cons, foldl_cons, ← ih]
      congr 1
      cases component with
      | rootDir => rfl
      | curDir => rfl
      | normal name => rfl
      | parentDir =>
        change PathBuf.mk _ _ = _
        rw [Place.follow]
        split
        · rfl
        · next empty =>
          rw [not_not] at empty
          split <;> simp [empty]
  exact folds (components path) Place.start

theorem pieceComponents_slash (first second : String) :
    pieceComponents (first ++ "/" ++ second) =
      pieceComponents first ++ pieceComponents second := by
  rw [pieceComponents, show ("/" : String) = String.singleton '/' from rfl, Text.split_append,
    filterMap_append]
  rfl

theorem pieceComponents_join (root path : String) :
    pieceComponents (join root path) = pieceComponents root ++ pieceComponents path := by
  rw [join]
  split
  · next empty =>
    rw [empty]
    rfl
  · split
    · next endsSlash =>
      obtain ⟨front, shape⟩ := getLast?_eq_some_iff.mp endsSlash
      have isRoot : root = String.ofList front ++ "/" := by
        apply String.toList_inj.mp
        rw [shape, String.toList_append, String.toList_ofList]
        rfl
      have rootPieces : pieceComponents root = pieceComponents (String.ofList front) := by
        have pieces := pieceComponents_slash (String.ofList front) ""
        rw [String.append_empty, ← isRoot] at pieces
        rw [pieces]
        exact append_nil _
      rw [rootPieces, ← pieceComponents_slash, ← isRoot]
    · exact pieceComponents_slash root path

variable {workspaceRoot input : String} {root path : String}

theorem isAbsolute_join (relative : isAbsolute path = false) :
    isAbsolute (join root path) = isAbsolute root := by
  have heads : ∀ rest : String, root ≠ "" → isAbsolute (root ++ rest) = isAbsolute root := by
    intro rest nonempty
    rw [Bool.eq_iff_iff, startsWith_slash, startsWith_slash, String.toList_append]
    cases shape : root.toList with
    | nil => exact absurd (String.toList_inj.mp shape) nonempty
    | cons head tail => rfl
  rw [join]
  split
  · next empty =>
    rw [empty, relative]
    rfl
  · next nonempty =>
    split
    · exact heads _ nonempty
    · rw [String.append_assoc]
      exact heads _ nonempty

theorem lexical_join (relative : isAbsolute path = false) :
    lexical (join root path) = (pieceComponents path).foldl Place.follow (lexical root) := by
  rw [lexical_eq, isAbsolute_join relative, pieceComponents_join, foldl_append, ← lexical_eq]

/-- The pieces of a path leave it absolute or relative, never lead back down unnamed, and go
above the start of relative paths only. -/
theorem follow_pieces (pieces : List String) (place : Place) :
    let later := (pieces.filterMap pieceComponent).foldl Place.follow place
    later.isAbsolute = place.isAbsolute ∧ place.ups ≤ later.ups ∧
      (place.isAbsolute = true → later.ups = place.ups) := by
  intro later
  have steps : ∀ (rest : List Component) (place : Place), .rootDir ∉ rest →
      (rest.foldl Place.follow place).isAbsolute = place.isAbsolute ∧
        place.ups ≤ (rest.foldl Place.follow place).ups ∧
        (place.isAbsolute = true → (rest.foldl Place.follow place).ups = place.ups) := by
    intro rest
    induction rest with
    | nil => exact fun _ _ => ⟨rfl, le_rfl, fun _ => rfl⟩
    | cons component rest ih =>
      intro place noRoot
      rw [mem_cons, not_or] at noRoot
      obtain ⟨notRoot, restClean⟩ := noRoot
      obtain ⟨sameKind, noLess, sameUps⟩ := ih (place.follow component) restClean
      have step : (place.follow component).isAbsolute = place.isAbsolute ∧
          place.ups ≤ (place.follow component).ups ∧
          (place.isAbsolute = true → (place.follow component).ups = place.ups) := by
        cases component with
        | rootDir => exact absurd rfl notRoot
        | curDir => exact ⟨rfl, le_rfl, fun _ => rfl⟩
        | normal name => exact ⟨rfl, le_rfl, fun _ => rfl⟩
        | parentDir =>
          rw [Place.follow]
          split
          · exact ⟨rfl, le_rfl, fun _ => rfl⟩
          · split
            · exact ⟨rfl, le_rfl, fun _ => rfl⟩
            · next relative =>
              exact ⟨rfl, Nat.le_succ _, fun absolute => absurd absolute relative⟩
      rw [foldl_cons]
      exact ⟨sameKind.trans step.1, step.2.1.trans noLess, fun absolute =>
        (sameUps (step.1.trans absolute)).trans (step.2.2 absolute)⟩
  refine steps _ place fun isRoot => ?_
  obtain ⟨piece, -, isComponent⟩ := mem_filterMap.mp isRoot
  rw [pieceComponent] at isComponent
  split at isComponent
  · cases isComponent
  · split at isComponent <;> cases isComponent

theorem isAbsolute_lexical (path : String) : (lexical path).isAbsolute = isAbsolute path := by
  rw [lexical_eq]
  exact (follow_pieces (Text.split '/' path) ⟨isAbsolute path, 0, []⟩).1

theorem ups_of_absolute {path : String} (absolute : isAbsolute path = true) :
    (lexical path).ups = 0 := by
  rw [lexical_eq]
  exact (follow_pieces (Text.split '/' path) ⟨isAbsolute path, 0, []⟩).2.2 absolute

theorem ups_le_join (relative : isAbsolute path = false) :
    (lexical root).ups ≤ (lexical (join root path)).ups := by
  rw [lexical_join relative]
  exact (follow_pieces (Text.split '/' path) (lexical root)).2.1

/-! ## Acceptance -/

theorem components_prefix (path base : PathBuf) :
    base.components <+: path.components ↔
      (if path.isAbsolute = base.isAbsolute then base.names <+: path.names
      else base.isAbsolute = false ∧ base.names = []) := by
  have injective : Function.Injective Component.normal := fun _ _ => Component.normal.inj
  have names : base.names.map Component.normal <+: path.names.map Component.normal ↔
      base.names <+: path.names := prefix_map_iff_of_injective injective
  rw [PathBuf.components, PathBuf.components]
  cases path.isAbsolute <;> cases base.isAbsolute
  · simpa using names
  · cases shape : path.names <;> simp
  · cases shape : base.names <;> simp
  · simpa [cons_prefix_cons] using names

theorem resolvePath_ok {path : PathBuf} :
    resolvePath workspaceRoot input = .ok path ↔
      (normalizeWithoutResolving workspaceRoot).components <+:
          (normalizeWithoutResolving (joined workspaceRoot input)).components ∧
        path = normalizeWithoutResolving (joined workspaceRoot input) := by
  rw [resolvePath, PathBuf.startsWith]
  by_cases starts : (normalizeWithoutResolving workspaceRoot).components <+:
      (normalizeWithoutResolving (joined workspaceRoot input)).components
  · rw [if_pos (decide_eq_true starts)]
    exact ⟨fun same => ⟨starts, (Except.ok.inj same).symm⟩, fun same => same.2 ▸ rfl⟩
  · rw [if_neg (by simpa using starts)]
    exact ⟨nofun, fun same => absurd same.1 starts⟩

theorem accepts_iff (workspaceRoot input : String) :
    (∃ path, resolvePath workspaceRoot input = .ok path) ↔
      (if isAbsolute (joined workspaceRoot input) = isAbsolute workspaceRoot then
        (lexical workspaceRoot).names <+: (lexical (joined workspaceRoot input)).names
      else isAbsolute workspaceRoot = false ∧ (lexical workspaceRoot).names = []) := by
  have starts := components_prefix (normalizeWithoutResolving (joined workspaceRoot input))
    (normalizeWithoutResolving workspaceRoot)
  simp only [normalizeWithoutResolving_eq, isAbsolute_lexical] at starts
  rw [← starts]
  constructor
  · rintro ⟨path, resolved⟩
    simpa only [normalizeWithoutResolving_eq, isAbsolute_lexical] using
      (resolvePath_ok.mp resolved).1
  · intro isPrefix
    exact ⟨_, resolvePath_ok.mpr ⟨by
      simpa only [normalizeWithoutResolving_eq, isAbsolute_lexical] using isPrefix, rfl⟩⟩

/-- The answer depends on the place only. -/
theorem resolvePath_alike {workspaceRoot input other : String}
    (same : lexical (joined workspaceRoot other) = lexical (joined workspaceRoot input)) :
    resolvePath workspaceRoot other = resolvePath workspaceRoot input := by
  rw [resolvePath, resolvePath, normalizeWithoutResolving_eq (joined workspaceRoot other), same,
    ← normalizeWithoutResolving_eq]

theorem isAbsolute_joined (workspaceRoot input : String) :
    isAbsolute (joined workspaceRoot input) =
      (isAbsolute input || isAbsolute workspaceRoot) := by
  rw [joined]
  cases absolute : isAbsolute input with
  | true => exact absolute
  | false => exact isAbsolute_join absolute

theorem confines_of_accepted (accepted : ∃ path, resolvePath workspaceRoot input = .ok path) :
    Confines workspaceRoot input ↔
      isAbsolute (joined workspaceRoot input) = isAbsolute workspaceRoot ∧
        (lexical (joined workspaceRoot input)).ups = (lexical workspaceRoot).ups ∧
        (lexical (joined workspaceRoot input)).ups = 0 := by
  constructor
  · intro confines
    obtain ⟨sameKind, sameUps, -⟩ := confines.accepts.mp accepted
    rw [isAbsolute_lexical, isAbsolute_lexical] at sameKind
    obtain ⟨path, resolved⟩ := accepted
    exact ⟨sameKind, sameUps, (confines.resolves path resolved).1⟩
  · rintro ⟨sameKind, sameUps, neverAbove⟩
    have named := (accepts_iff workspaceRoot input).mp accepted
    rw [if_pos sameKind] at named
    refine ⟨⟨fun _ => ⟨?_, sameUps, named⟩, fun _ => accepted⟩, ?_, fun _ => resolvePath_alike⟩
    · rw [isAbsolute_lexical, isAbsolute_lexical]
      exact sameKind
    · intro path resolved
      refine ⟨neverAbove, ?_⟩
      rw [(resolvePath_ok.mp resolved).2, normalizeWithoutResolving_eq]

theorem confines_of_refused (refused : ¬∃ path, resolvePath workspaceRoot input = .ok path) :
    Confines workspaceRoot input := by
  refine ⟨⟨fun accepted => absurd accepted refused, ?_⟩,
    fun path resolved => absurd ⟨path, resolved⟩ refused, fun _ => resolvePath_alike⟩
  rintro ⟨sameKind, -, named⟩
  rw [isAbsolute_lexical, isAbsolute_lexical] at sameKind
  rw [accepts_iff, if_pos sameKind]
  exact named

/-- Patch paths are confined to the workspace exactly when they stay clear of where a relative
root starts. -/
theorem confines_iff_staysClear (workspaceRoot input : String) :
    Confines workspaceRoot input ↔ StaysClear workspaceRoot input := by
  have kind := isAbsolute_joined workspaceRoot input
  have accepts := accepts_iff workspaceRoot input
  rw [kind] at accepts
  cases rootKind : isAbsolute workspaceRoot with
  | true =>
    rw [rootKind, Bool.or_true] at kind
    refine iff_of_true ?_ (Or.inl rootKind)
    by_cases accepted : ∃ path, resolvePath workspaceRoot input = .ok path
    · refine (confines_of_accepted accepted).mpr ⟨kind.trans rootKind.symm, ?_,
        ups_of_absolute kind⟩
      rw [ups_of_absolute kind, ups_of_absolute rootKind]
    · exact confines_of_refused accepted
  | false =>
    rw [rootKind, Bool.or_false] at kind accepts
    have clear : StaysClear workspaceRoot input ↔
        (if isAbsolute input then (lexical workspaceRoot).names ≠ []
        else (lexical (joined workspaceRoot input)).ups = 0 ∨
          ¬(lexical workspaceRoot).names <+: (lexical (joined workspaceRoot input)).names) := by
      rw [StaysClear, rootKind, or_iff_right Bool.false_ne_true]
    rw [clear]
    by_cases accepted : ∃ path, resolvePath workspaceRoot input = .ok path
    · have named := accepts.mp accepted
      rw [confines_of_accepted accepted, kind, rootKind]
      cases inputKind : isAbsolute input with
      | true =>
        have empty : (lexical workspaceRoot).names = [] := by simpa [inputKind] using named
        refine iff_of_false (fun confined => Bool.noConfusion confined.1) ?_
        rw [if_pos rfl]
        exact fun nonempty => nonempty empty
      | false =>
        have isPrefix : (lexical workspaceRoot).names <+:
            (lexical (joined workspaceRoot input)).names := by
          simpa [inputKind] using named
        have shape : joined workspaceRoot input = join workspaceRoot input := by
          rw [joined, inputKind, if_neg Bool.false_ne_true]
        have above : (lexical workspaceRoot).ups ≤
            (lexical (joined workspaceRoot input)).ups := by
          rw [shape]
          exact ups_le_join inputKind
        rw [if_neg Bool.false_ne_true]
        constructor
        · exact fun confined => Or.inl confined.2.2
        · rintro (neverAbove | notPrefix)
          · exact ⟨rfl, by omega, neverAbove⟩
          · exact absurd isPrefix notPrefix
    · refine iff_of_true (confines_of_refused accepted) ?_
      cases inputKind : isAbsolute input with
      | true =>
        rw [if_pos rfl]
        intro empty
        exact accepted (accepts.mpr (by simpa [inputKind] using empty))
      | false =>
        rw [if_neg Bool.false_ne_true]
        refine Or.inr fun isPrefix => ?_
        exact accepted (accepts.mpr (by simpa [inputKind] using isPrefix))

section Example

/-- A workspace at the working directory takes in every absolute path. -/
theorem absolute_path_escapes :
    ¬∀ workspaceRoot input : String, Confines workspaceRoot input := by
  intro confines
  have accepted : ∃ path, resolvePath "." "/etc/passwd" = .ok path :=
    (accepts_iff "." "/etc/passwd").mpr (by decide +kernel)
  obtain ⟨sameKind, -⟩ := (confines_of_accepted accepted).mp (confines "." "/etc/passwd")
  exact absurd sameKind (by decide +kernel)

end Example

end AutoLoop.QueryEngine.Confinement
