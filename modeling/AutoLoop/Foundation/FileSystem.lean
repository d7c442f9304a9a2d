import Mathlib.Data.List.Infix

/-!
# File systems

Files and directories under one root, by their paths, with the calls that create,
write, remove and rename them.  A call that fails changes nothing.  What a program can
read back is the content of the files; two file systems with the same files may differ
in their directories.
-/

namespace AutoLoop

open List

/-- The names on the way from the root. -/
abbrev Path : Type := List String

inductive Entry (Bytes : Type) where
  | directory
  | file (content : Bytes)
  deriving DecidableEq, Repr

/-- Whatever has something below it is a directory; the entries are among finitely many
paths. -/
structure FileSystem (Bytes : Type) where
  entry : Path → Option (Entry Bytes)
  paths : List Path
  root : entry [] = some .directory
  nested : ∀ path below, path <+: below → path ≠ below → entry below ≠ none →
    entry path = some .directory
  covers : ∀ path, entry path ≠ none → path ∈ paths

namespace FileSystem

variable {Bytes : Type}

/-- Nothing but the root. -/
def empty : FileSystem Bytes where
  entry path := if path = [] then some .directory else none
  paths := [[]]
  root := rfl
  nested := by
    intro path below isPrefix different present
    rw [ite_ne_right_iff] at present
    rw [present.1, prefix_nil] at isPrefix
    exact absurd (isPrefix.trans present.1.symm) different
  covers := by
    intro path present
    rw [ite_ne_right_iff] at present
    exact mem_singleton.mpr present.1

variable (files : FileSystem Bytes)

/-! ## Looking -/

/-- `Path::exists`. -/
def «exists» (path : Path) : Bool := (files.entry path).isSome

def content (path : Path) : Option Bytes :=
  match files.entry path with
  | some (.file content) => some content
  | _ => none

def isDirectory (path : Path) : Bool :=
  match files.entry path with
  | some .directory => true
  | _ => false

variable {files}

theorem isDirectory_iff {path : Path} :
    files.isDirectory path = true ↔ files.entry path = some .directory := by
  rw [isDirectory]
  split
  · next isDirectory => simp [isDirectory]
  · next notDirectory =>
    constructor
    · nofun
    · exact fun isDirectory => (notDirectory isDirectory).elim

theorem content_eq_some_iff {path : Path} {bytes : Bytes} :
    files.content path = some bytes ↔ files.entry path = some (.file bytes) := by
  rw [content]
  split
  · next found => simp [found]
  · next notFile =>
    constructor
    · nofun
    · exact fun isFile => (notFile bytes isFile).elim

theorem content_of_directory {path : Path} (isDirectory : files.entry path = some .directory) :
    files.content path = none := by
  rw [content, isDirectory]

variable (files)

theorem entry_of_below {path below : Path} (isPrefix : path <+: below) (different : path ≠ below)
    {entry : Entry Bytes} (found : files.entry below = some entry) :
    files.entry path = some .directory :=
  files.nested path below isPrefix different (by rw [found]; exact Option.some_ne_none _)

theorem directory_of_above {path above : Path}
    (isDirectory : files.entry path = some .directory) (isPrefix : above <+: path) :
    files.entry above = some .directory := by
  by_cases same : above = path
  · rw [same]
    exact isDirectory
  · exact files.entry_of_below isPrefix same isDirectory

theorem isPrefix_dropLast {above path : Path} (isPrefix : above <+: path)
    (different : above ≠ path) : above <+: path.dropLast := by
  obtain ⟨rest, rfl⟩ := isPrefix
  have nonempty : rest ≠ [] := by
    rintro rfl
    exact different (append_nil above).symm
  rw [dropLast_append_of_ne_nil nonempty]
  exact prefix_append above _

/-! ## Changing -/

/-- `fs::create_dir_all`. -/
def createDirAll (path : Path) : Option (FileSystem Bytes) :=
  if ∀ above ∈ path.inits, (files.content above).isNone = true then
    some {
      entry := fun other => if other <+: path then some .directory else files.entry other
      paths := path.inits ++ files.paths
      root := if_pos nil_prefix
      nested := by
        intro above below isPrefix different present
        split
        · rfl
        · next apart =>
          rw [if_neg (fun inside => apart (isPrefix.trans inside))] at present
          exact files.nested above below isPrefix different present
      covers := by
        intro other present
        rw [mem_append, mem_inits]
        split at present
        · next inside => exact Or.inl inside
        · exact Or.inr (files.covers other present) }
  else none

/-- `fs::write`. -/
def write (path : Path) (content : Bytes) : Option (FileSystem Bytes) :=
  if writable : files.isDirectory path = false ∧ files.isDirectory path.dropLast = true then
    some {
      entry := fun other => if other = path then some (.file content) else files.entry other
      paths := path :: files.paths
      root := by
        rw [if_neg, files.root]
        rintro rfl
        rw [isDirectory_iff.mpr files.root] at writable
        cases writable.1
      nested := by
        intro above below isPrefix different present
        have strict : above ≠ path := by
          rintro rfl
          split at present
          · next same => exact different same.symm
          · rw [isDirectory_iff.mpr (files.nested above below isPrefix different present)]
              at writable
            cases writable.1
        rw [if_neg strict]
        split at present
        · next same =>
          rw [same] at isPrefix different
          exact files.directory_of_above (isDirectory_iff.mp writable.2)
            (isPrefix_dropLast isPrefix different)
        · exact files.nested above below isPrefix different present
      covers := by
        intro other present
        split at present
        · next same => exact mem_cons.mpr (Or.inl same)
        · exact mem_cons_of_mem _ (files.covers other present) }
  else none

/-- `fs::remove_file`. -/
def removeFile (path : Path) : Option (FileSystem Bytes) :=
  if isFile : (files.content path).isSome = true then
    some {
      entry := fun other => if other = path then none else files.entry other
      paths := files.paths
      root := by
        rw [if_neg, files.root]
        rintro rfl
        rw [content, files.root] at isFile
        cases isFile
      nested := by
        intro above below isPrefix different present
        split at present
        · exact absurd rfl present
        · next apart =>
          have isDirectory := files.nested above below isPrefix different present
          rw [if_neg, isDirectory]
          rintro rfl
          rw [content, isDirectory] at isFile
          cases isFile
      covers := by
        intro other present
        split at present
        · exact absurd rfl present
        · exact files.covers other present }
  else none

def isVacant (path : Path) : Bool :=
  files.paths.all fun below => decide (path <+: below → path = below) || !files.exists below

/-- What may take the place of another entry. -/
def replaces (source target : Path) : Bool :=
  if files.isDirectory source then
    (files.content target).isNone && files.isVacant target
  else !files.isDirectory target

def renamed (source target path : Path) : Option (Entry Bytes) :=
  if target <+: path then files.entry (source ++ path.drop target.length)
  else if source <+: path then none
  else files.entry path

section Renamed

variable {files} {source target : Path}

theorem renamed_append (path : Path) :
    files.renamed source target (target ++ path) = files.entry (source ++ path) := by
  rw [renamed, if_pos (prefix_append target path), drop_left]

theorem renamed_of_apart {path : Path} (apartTarget : ¬target <+: path)
    (apartSource : ¬source <+: path) : files.renamed source target path = files.entry path := by
  rw [renamed, if_neg apartTarget, if_neg apartSource]

theorem nested_renamed (outside : ¬source <+: target)
    (parent : files.entry target.dropLast = some .directory) {path below : Path}
    (isPrefix : path <+: below) (different : path ≠ below)
    (present : files.renamed source target below ≠ none) :
    files.renamed source target path = some .directory := by
  by_cases inTarget : target <+: below
  · obtain ⟨rest, rfl⟩ := inTarget
    rw [renamed_append] at present
    by_cases alsoInTarget : target <+: path
    · obtain ⟨first, rfl⟩ := alsoInTarget
      rw [renamed_append]
      apply files.nested _ (source ++ rest) _ _ present
      · rw [prefix_append_right_inj] at isPrefix ⊢
        exact isPrefix
      · intro same
        exact different (by rw [append_cancel_left same])
    · have above : path <+: target := by
        rcases prefix_or_prefix_of_prefix isPrefix (prefix_append target rest) with
          above | below
        · exact above
        · exact absurd below alsoInTarget
      have strict : path ≠ target := by
        rintro rfl
        exact alsoInTarget (prefix_refl path)
      rw [renamed_of_apart alsoInTarget fun inSource => outside (inSource.trans above)]
      exact files.directory_of_above parent (isPrefix_dropLast above strict)
  · have apartTarget : ¬target <+: path := fun inPath => inTarget (inPath.trans isPrefix)
    rw [renamed, if_neg inTarget] at present
    split at present
    · exact absurd rfl present
    · next apartSource =>
      rw [renamed_of_apart apartTarget fun inPath => apartSource (inPath.trans isPrefix)]
      exact files.nested path below isPrefix different present

theorem mem_of_renamed {path : Path} (present : files.renamed source target path ≠ none) :
    path ∈ files.paths ++ files.paths.map fun path => target ++ path.drop source.length := by
  rw [mem_append]
  by_cases inTarget : target <+: path
  · obtain ⟨rest, rfl⟩ := inTarget
    rw [renamed_append] at present
    refine Or.inr (mem_map.mpr ⟨source ++ rest, files.covers _ present, ?_⟩)
    rw [drop_left]
  · rw [renamed, if_neg inTarget] at present
    split at present
    · exact absurd rfl present
    · exact Or.inl (files.covers path present)

end Renamed

/-- `fs::rename`. -/
def rename (source target : Path) : Option (FileSystem Bytes) :=
  if source = target then
    if files.exists source then some files else none
  else if movable : files.exists source = true ∧ ¬source <+: target ∧ target ≠ [] ∧
      files.isDirectory target.dropLast = true ∧ files.replaces source target = true then
    some {
      entry := files.renamed source target
      paths := files.paths ++ files.paths.map fun path => target ++ path.drop source.length
      root := by
        rw [renamed_of_apart, files.root]
        · exact fun isRoot => movable.2.2.1 (prefix_nil.mp isRoot)
        · exact fun isRoot => movable.2.1 (by rw [prefix_nil.mp isRoot]; exact nil_prefix)
      nested := fun _ _ =>
        nested_renamed movable.2.1 (isDirectory_iff.mp movable.2.2.2.1)
      covers := fun _ => mem_of_renamed }
  else none

/-! ## What becomes of the files -/

def SameFiles (first second : FileSystem Bytes) : Prop :=
  ∀ path, first.content path = second.content path

section Contents

variable {files} {after : FileSystem Bytes} {path source target : Path} {bytes : Bytes}

@[simp] theorem sameFiles_refl (files : FileSystem Bytes) : files.SameFiles files := fun _ => rfl

theorem SameFiles.trans {first second third : FileSystem Bytes} (same : first.SameFiles second)
    (also : second.SameFiles third) : first.SameFiles third :=
  fun path => (same path).trans (also path)

theorem exists_of_content (found : files.content path = some bytes) :
    files.exists path = true := by
  rw [«exists», content_eq_some_iff.mp found]
  rfl

theorem content_of_missing (missing : files.exists path = false) : files.content path = none := by
  rw [«exists», Option.isSome_eq_false_iff, Option.isNone_iff_eq_none] at missing
  rw [content, missing]

theorem content_below_missing {below : Path} (isPrefix : path <+: below)
    (missing : files.exists path = false) : files.content below = none := by
  by_cases same : path = below
  · rw [← same]
    exact content_of_missing missing
  · by_contra present
    obtain ⟨other, isFile⟩ := Option.ne_none_iff_exists'.mp present
    rw [«exists», files.entry_of_below isPrefix same (content_eq_some_iff.mp isFile)] at missing
    cases missing

theorem sameFiles_createDirAll (created : files.createDirAll path = some after) :
    after.SameFiles files := by
  rw [createDirAll] at created
  split at created
  · next clear =>
    cases created
    intro other
    by_cases above : other <+: path
    · have isClear := clear other ((mem_inits _ _).mpr above)
      rw [Option.isNone_iff_eq_none] at isClear
      rw [isClear]
      exact content_of_directory (if_pos above)
    · simp only [content, if_neg above]
  · cases created

theorem exists_createDirAll (created : files.createDirAll path = some after) {other : Path}
    (apart : ¬other <+: path) : after.exists other = files.exists other := by
  rw [createDirAll] at created
  split at created
  · cases created
    simp only [«exists», if_neg apart]
  · cases created

theorem content_write (written : files.write path bytes = some after) (other : Path) :
    after.content other = if other = path then some bytes else files.content other := by
  rw [write] at written
  split at written
  · cases written
    simp only [content]
    by_cases same : other = path
    · rw [if_pos same, if_pos same]
    · rw [if_neg same, if_neg same]
  · cases written

theorem content_removeFile (removed : files.removeFile path = some after) (other : Path) :
    after.content other = if other = path then none else files.content other := by
  rw [removeFile] at removed
  split at removed
  · cases removed
    simp only [content]
    by_cases same : other = path
    · rw [if_pos same, if_pos same]
    · rw [if_neg same, if_neg same]
  · cases removed

theorem content_rename (different : source ≠ target)
    (renamed : files.rename source target = some after) (other : Path) :
    after.content other =
      if target <+: other then files.content (source ++ other.drop target.length)
      else if source <+: other then none
      else files.content other := by
  rw [rename, if_neg different] at renamed
  split at renamed
  · cases renamed
    simp only [content, FileSystem.renamed]
    split_ifs <;> rfl
  · cases renamed

theorem exists_of_rename (renamed : files.rename source target = some after) :
    files.exists source = true := by
  rw [rename] at renamed
  split at renamed
  · split at renamed
    · assumption
    · cases renamed
  · split at renamed
    · next movable => exact movable.1
    · cases renamed

theorem SameFiles.rename_back {current later : FileSystem Bytes} (different : source ≠ target)
    (vacant : files.exists target = false) (renamed : files.rename source target = some after)
    (same : current.SameFiles after) (back : current.rename target source = some later) :
    later.SameFiles files := by
  intro path
  rw [content_rename different.symm back]
  split
  · next inSource =>
    obtain ⟨rest, rfl⟩ := inSource
    rw [drop_left, same, content_rename different renamed,
      if_pos (prefix_append target rest), drop_left]
  · next apartSource =>
    split
    · next inTarget => exact (content_below_missing inTarget vacant).symm
    · next apartTarget =>
      rw [same, content_rename different renamed, if_neg apartTarget, if_neg apartSource]

theorem SameFiles.of_missing {current : FileSystem Bytes} (different : source ≠ target)
    (vacant : files.exists target = false) (renamed : files.rename source target = some after)
    (same : current.SameFiles after) (missing : current.exists target = false) :
    current.SameFiles files := by
  intro path
  by_cases inTarget : target <+: path
  · rw [content_below_missing inTarget vacant, content_below_missing inTarget missing]
  · have moved := content_rename different renamed path
    rw [if_neg inTarget, ← same] at moved
    rw [moved]
    split
    · next inSource =>
      obtain ⟨rest, rfl⟩ := inSource
      have nothing : current.content (target ++ rest) = none :=
        content_below_missing (prefix_append target rest) missing
      rw [same, content_rename different renamed, if_pos (prefix_append target rest),
        drop_left] at nothing
      exact nothing.symm
    · rfl

end Contents

end FileSystem

end AutoLoop
