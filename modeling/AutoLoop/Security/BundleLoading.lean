import AutoLoop.Contracts.PolicyPdp
import AutoLoop.Foundation.PathText
import AutoLoop.QueryEngine.PathConfinement

/-!
# Loading policy bundles

`LoadedPolicyBundle::load_from_archive` over a file system.  The entries of the archive are
written under a directory of their own.  The files that the manifest names are looked up from
that directory as the kernel does it, name by name, and the archive does not have to have
them.
-/

namespace AutoLoop.Security.BundleLoading

open Contracts QueryEngine
open Confinement (components pieceComponent pieceComponents isAbsolute)
open FileSystem List

variable {Bytes : Type}

/-! ## Bundles -/

structure PolicyBundleManifest where
  policyId : String
  policyVersion : PolicyVersion
  wasmEntrypoint : String
  wasmFile : String
  dataFile : String
  metadata : JsonValue

/-- A text field with a default. -/
def stringOr (default : String) : Option JsonValue → Option String
  | none => some default
  | some value => value.asString

def PolicyBundleManifest.fromValue (value : JsonValue) : Option PolicyBundleManifest :=
  match structFields ["policy_id", "policy_version", "wasm_entrypoint", "wasm_file", "data_file",
    "metadata"] value with
  | some [some policyId, some policyVersion, wasmEntrypoint, wasmFile, dataFile, metadata] =>
    return ⟨← policyId.asString, ← PolicyVersion.fromValue policyVersion,
      ← stringOr "eval" wasmEntrypoint, ← stringOr "policy.wasm" wasmFile,
      ← stringOr "data.json" dataFile, metadata.getD .null⟩
  | _ => none

/-- `base.join(file)`. -/
structure JoinedPath where
  base : Path
  file : String
  deriving DecidableEq, Repr

structure LoadedPolicyBundle where
  sourceArchive : String
  extractedDir : Path
  manifestPath : Path
  wasmPath : JoinedPath
  dataPath : JoinedPath
  manifest : PolicyBundleManifest
  data : JsonValue

structure ArchiveEntry (Bytes : Type) where
  path : String
  isDir : Bool
  contents : Bytes

/-- Where loading stops, with the path that the message names. -/
inductive BundleError where
  | emptyPath
  | parentTraversal (path : String)
  | notRelative (path : String)
  | resolvedToEmpty (path : String)
  | dotDotComponent (path : String)
  | failedToCreate (path : Path)
  | failedToWrite (path : Path)
  | missingManifest
  | failedToRead (file : String)
  | failedToParse (file : String)
  | missingWasm (file : String)
  | missingData (file : String)
  deriving DecidableEq, Repr

/-! ## Paths on the file system -/

/-- Every piece is looked up in a directory. -/
def walk (files : FileSystem Bytes) : Path → List String → Option Path
  | place, [] => some place
  | place, piece :: pieces =>
    if files.isDirectory place then walk files (place.follow piece) pieces else none

def nul : Char := Char.ofNat 0

namespace JoinedPath

variable (path : JoinedPath)

/-- A path that is absolute replaces what it is joined to. -/
def start : Path := if isAbsolute path.file then [] else path.base

def leads : Path := (Text.split '/' path.file).foldl Path.follow path.start

def resolve (files : FileSystem Bytes) : Option Path :=
  if nul ∈ path.file.toList then none
  else walk files path.start (Text.split '/' path.file)

/-- `Path::exists`. -/
def «exists» (files : FileSystem Bytes) : Bool := (path.resolve files).any files.exists

def content (files : FileSystem Bytes) : Option Bytes := (path.resolve files).bind files.content

end JoinedPath

/-! ## Extraction -/

def clean (path : String) (cleaned : Path) : Confinement.Component → Except BundleError Path
  | .normal segment => .ok (cleaned ++ [segment])
  | .curDir => .ok cleaned
  | .parentDir => .error (.parentTraversal path)
  | .rootDir => .error (.notRelative path)

def sanitizeArchivePath (path : String) : Except BundleError Path :=
  if path = "" then .error .emptyPath
  else do
    let cleaned ← (components path).foldlM (clean path) []
    if cleaned = [] then .error (.resolvedToEmpty path)
    else if ".." ∈ cleaned then .error (.dotDotComponent path)
    else .ok cleaned

def orError {α : Type} (error : BundleError) : Option α → Except BundleError α
  | some value => .ok value
  | none => .error error

def extractEntry (dir : Path) (files : FileSystem Bytes) (entry : ArchiveEntry Bytes) :
    Except BundleError (FileSystem Bytes) := do
  let safePath ← sanitizeArchivePath entry.path
  let target := dir ++ safePath
  if nul ∈ entry.path.toList then .error (.failedToCreate target)
  else if entry.isDir then orError (.failedToCreate target) (files.createDirAll target)
  else do
    let parented ← orError (.failedToCreate target.dropLast) (files.createDirAll target.dropLast)
    orError (.failedToWrite target) (parented.write target entry.contents)

/-- The directory for one call, named by the time and the process. -/
def stagingDir (stagingRoot : Path) (timeMs processId : Nat) : Path :=
  stagingRoot ++ ["bundle-" ++ timeMs.repr ++ "-" ++ processId.repr]

def extractBundleArchive (stagingRoot : Path) (timeMs processId : Nat) (files : FileSystem Bytes)
    (archive : List (ArchiveEntry Bytes)) : Except BundleError (FileSystem Bytes) := do
  let dir := stagingDir stagingRoot timeMs processId
  let rooted ← orError (.failedToCreate stagingRoot) (files.createDirAll stagingRoot)
  let staged ← orError (.failedToCreate dir) (rooted.createDirAll dir)
  archive.foldlM (extractEntry dir) staged

/-! ## Loading -/

section
variable (parse : Bytes → Option JsonValue) (sourceArchive : String)

/-- `parse` is the JSON of a file, when it is text. -/
def loadFromDir (dir : Path)
    (files : FileSystem Bytes) : Except BundleError LoadedPolicyBundle :=
  let manifestPath := dir ++ ["manifest.json"]
  if files.exists manifestPath = false then .error .missingManifest
  else do
    let manifestRaw ← orError (.failedToRead "manifest.json") (files.content manifestPath)
    let manifest ← orError (.failedToParse "manifest.json")
      ((parse manifestRaw).bind PolicyBundleManifest.fromValue)
    let wasmPath : JoinedPath := ⟨dir, manifest.wasmFile⟩
    if wasmPath.exists files = false then .error (.missingWasm manifest.wasmFile)
    else do
      let dataPath : JoinedPath := ⟨dir, manifest.dataFile⟩
      if dataPath.exists files = false then .error (.missingData manifest.dataFile)
      else do
        let dataRaw ← orError (.failedToRead manifest.dataFile) (dataPath.content files)
        let data ← orError (.failedToParse manifest.dataFile) (parse dataRaw)
        return ⟨sourceArchive, dir, manifestPath, wasmPath, dataPath, manifest, data⟩

def loadFromArchive (stagingRoot : Path)
    (timeMs processId : Nat) (files : FileSystem Bytes) (archive : List (ArchiveEntry Bytes)) :
    Except BundleError (FileSystem Bytes × LoadedPolicyBundle) := do
  let after ← extractBundleArchive stagingRoot timeMs processId files archive
  let bundle ← loadFromDir parse sourceArchive (stagingDir stagingRoot timeMs processId) after
  return (after, bundle)

end

/-! ## Names -/

theorem orError_eq_ok {α : Type} {error : BundleError} {found : Option α} {value : α} :
    orError error found = .ok value ↔ found = some value := by
  cases found with
  | none => exact iff_of_false nofun nofun
  | some other => rw [orError, Except.ok.injEq, Option.some.injEq]

theorem bind_eq_ok {α β : Type} {first : Except BundleError α} {next : α → Except BundleError β}
    {value : β} : first >>= next = .ok value ↔ ∃ one, first = .ok one ∧ next one = .ok value := by
  cases first with
  | error error => exact iff_of_false nofun fun ⟨_, impossible, _⟩ => nomatch impossible
  | ok one =>
    constructor
    · exact fun goesOn => ⟨one, rfl, goesOn⟩
    · rintro ⟨other, same, goesOn⟩
      cases same
      exact goesOn

/-- What an entry below the directory can be called. -/
def IsOwnName (name : String) : Prop := IsName name ∧ name ≠ "." ∧ name ≠ ".."

theorem isOwnName_of_pieceComponents {path name : String}
    (isNormal : Confinement.Component.normal name ∈ pieceComponents path) : IsOwnName name := by
  obtain ⟨piece, isPiece, isComponent⟩ := mem_filterMap.mp isNormal
  rw [pieceComponent] at isComponent
  split at isComponent
  · cases isComponent
  · next other =>
    split at isComponent
    · cases isComponent
    · next notParent =>
      cases isComponent
      rw [not_or] at other
      exact ⟨⟨other.1, Text.not_mem_of_mem_split isPiece⟩, other.2, notParent⟩

theorem isOwnName_of_components {path name : String}
    (isNormal : Confinement.Component.normal name ∈ components path) : IsOwnName name := by
  rw [components] at isNormal
  split at isNormal
  · exact isOwnName_of_pieceComponents ((mem_cons.mp isNormal).resolve_left (by simp))
  · split at isNormal
    · exact isOwnName_of_pieceComponents ((mem_cons.mp isNormal).resolve_left (by simp))
    · exact isOwnName_of_pieceComponents isNormal

theorem mem_of_clean {path : String} {parts : List Confinement.Component} {start cleaned : Path}
    (ran : parts.foldlM (clean path) start = .ok cleaned) {name : String}
    (isName : name ∈ cleaned) : name ∈ start ∨ Confinement.Component.normal name ∈ parts := by
  induction parts generalizing start with
  | nil =>
    cases ran
    exact Or.inl isName
  | cons part parts ih =>
    rw [foldlM_cons] at ran
    obtain ⟨next, taken, continues⟩ := bind_eq_ok.mp ran
    rcases ih continues with earlier | later
    · cases part with
      | normal segment =>
        cases taken
        rcases mem_append.mp earlier with inStart | isSegment
        · exact Or.inl inStart
        · rw [mem_singleton.mp isSegment]
          exact Or.inr mem_cons_self
      | curDir =>
        cases taken
        exact Or.inl earlier
      | parentDir => cases taken
      | rootDir => cases taken
    · exact Or.inr (mem_cons_of_mem _ later)

theorem sanitizeArchivePath_names {path : String} {names : Path}
    (safe : sanitizeArchivePath path = .ok names) :
    names ≠ [] ∧ ∀ name ∈ names, IsOwnName name := by
  rw [sanitizeArchivePath] at safe
  split at safe
  · cases safe
  · obtain ⟨cleaned, ran, checked⟩ := bind_eq_ok.mp safe
    split at checked
    · cases checked
    · next nonempty =>
      split at checked
      · cases checked
      · cases checked
        refine ⟨nonempty, fun name isName => ?_⟩
        exact isOwnName_of_components
          ((mem_of_clean ran isName).resolve_left not_mem_nil)

/-! ## What extraction writes -/

theorem entry_createDirAll {files after : FileSystem Bytes} {path : Path}
    (created : files.createDirAll path = some after) (other : Path) :
    after.entry other = if other <+: path then some .directory else files.entry other := by
  rw [createDirAll] at created
  split at created
  · cases created
    rfl
  · cases created

theorem entry_write {files after : FileSystem Bytes} {path : Path} {bytes : Bytes}
    (written : files.write path bytes = some after) (other : Path) :
    after.entry other = if other = path then some (.file bytes) else files.entry other := by
  rw [write] at written
  split at written
  · cases written
    rfl
  · cases written

/-- Outside of a directory nothing is changed, but that the way to it is there. -/
def OnlyUnder (dir : Path) (files after : FileSystem Bytes) : Prop :=
  ∀ path, ¬dir <+: path → after.entry path = files.entry path ∨
    path <+: dir ∧ after.entry path = some .directory

section
variable {dir path : Path} {files middle after : FileSystem Bytes}

theorem OnlyUnder.createDirAll
    (only : OnlyUnder dir files middle) (comparable : path <+: dir ∨ dir <+: path)
    (created : middle.createDirAll path = some after) : OnlyUnder dir files after := by
  intro other outside
  rw [entry_createDirAll created]
  split
  · next above =>
    refine Or.inr ⟨?_, rfl⟩
    rcases comparable with upper | below
    · exact above.trans upper
    · exact (List.prefix_or_prefix_of_prefix above below).resolve_right outside
  · exact only other outside

theorem OnlyUnder.write {bytes : Bytes} (only : OnlyUnder dir files middle) (below : dir <+: path)
    (written : middle.write path bytes = some after) : OnlyUnder dir files after := by
  intro other outside
  rw [entry_write written, if_neg]
  · exact only other outside
  · rintro rfl
    exact outside below

end

def IsFileAt (archive : List (ArchiveEntry Bytes)) (names : Path) (contents : Bytes) : Prop :=
  ∃ entry ∈ archive, entry.isDir = false ∧ sanitizeArchivePath entry.path = .ok names ∧
    entry.contents = contents

/-- What holds after some entries are extracted. -/
structure Extracted (dir : Path) (files : FileSystem Bytes) (archive : List (ArchiveEntry Bytes))
    (after : FileSystem Bytes) : Prop where
  only : OnlyUnder dir files after
  safe : ∀ entry ∈ archive, ∃ names, sanitizeArchivePath entry.path = .ok names
  there : ∀ names contents, IsFileAt archive names contents →
    ∃ latest, IsFileAt archive names latest ∧ after.content (dir ++ names) = some latest

variable {dir : Path} {files : FileSystem Bytes}

variable {archive : List (ArchiveEntry Bytes)}

theorem Extracted.entry {entry : ArchiveEntry Bytes}
    {middle after : FileSystem Bytes} (extracted : Extracted dir files archive middle)
    (ran : extractEntry dir middle entry = .ok after) :
    Extracted dir files (archive ++ [entry]) after := by
  rw [extractEntry] at ran
  obtain ⟨names, safe, continues⟩ := bind_eq_ok.mp ran
  have below : dir <+: dir ++ names := prefix_append dir names
  have allSafe : ∀ other ∈ archive ++ [entry], ∃ names,
      sanitizeArchivePath other.path = .ok names := by
    intro other isOther
    rcases mem_append.mp isOther with earlier | isEntry
    · exact extracted.safe other earlier
    · rw [mem_singleton.mp isEntry]
      exact ⟨names, safe⟩
  have more {other : Path} {contents : Bytes} (isFile : IsFileAt archive other contents) :
      IsFileAt (archive ++ [entry]) other contents := by
    obtain ⟨given, isGiven, rest⟩ := isFile
    exact ⟨given, mem_append_left _ isGiven, rest⟩
  split at continues
  · cases continues
  · split at continues
    · next isDir =>
      have created := orError_eq_ok.mp continues
      refine ⟨extracted.only.createDirAll (Or.inr below) created, allSafe, ?_⟩
      rintro other contents ⟨given, isGiven, isFile, isAt, -⟩
      rcases mem_append.mp isGiven with earlier | isEntry
      · obtain ⟨latest, isLatest, found⟩ := extracted.there other given.contents
          ⟨given, earlier, isFile, isAt, rfl⟩
        refine ⟨latest, more isLatest, ?_⟩
        rw [sameFiles_createDirAll created]
        exact found
      · rw [mem_singleton.mp isEntry, isDir] at isFile
        cases isFile
    · next notDir =>
      obtain ⟨parented, isParented, writes⟩ := bind_eq_ok.mp continues
      have created := orError_eq_ok.mp isParented
      have written := orError_eq_ok.mp writes
      have parent : dir <+: (dir ++ names).dropLast := by
        rw [dropLast_append_of_ne_nil (sanitizeArchivePath_names safe).1]
        exact prefix_append dir _
      refine ⟨(extracted.only.createDirAll (Or.inr parent) created).write below written,
        allSafe, ?_⟩
      rintro other contents ⟨given, isGiven, isFile, isAt, -⟩
      rw [content_write written]
      by_cases same : other = names
      · rw [same, if_pos rfl]
        exact ⟨entry.contents, ⟨entry, mem_append_right _ mem_cons_self,
          Bool.eq_false_iff.mpr notDir, safe, rfl⟩, rfl⟩
      · rw [if_neg fun sameTarget => same (append_cancel_left sameTarget),
          sameFiles_createDirAll created]
        rcases mem_append.mp isGiven with earlier | isEntry
        · obtain ⟨latest, isLatest, found⟩ := extracted.there other given.contents
            ⟨given, earlier, isFile, isAt, rfl⟩
          exact ⟨latest, more isLatest, found⟩
        · rw [mem_singleton.mp isEntry, safe] at isAt
          exact absurd (Except.ok.inj isAt).symm same

theorem Extracted.run {archive rest : List (ArchiveEntry Bytes)} {middle after : FileSystem Bytes}
    (extracted : Extracted dir files archive middle)
    (ran : rest.foldlM (extractEntry dir) middle = .ok after) :
    Extracted dir files (archive ++ rest) after := by
  induction rest generalizing archive middle with
  | nil =>
    cases ran
    rw [append_nil]
    exact extracted
  | cons entry rest ih =>
    rw [foldlM_cons] at ran
    obtain ⟨next, isNext, continues⟩ := bind_eq_ok.mp ran
    have taken := ih (extracted.entry isNext) continues
    rw [append_assoc] at taken
    exact taken

theorem extractBundleArchive_extracted {stagingRoot : Path} {timeMs processId : Nat}
    {archive : List (ArchiveEntry Bytes)} {after : FileSystem Bytes}
    (ran : extractBundleArchive stagingRoot timeMs processId files archive = .ok after) :
    Extracted (stagingDir stagingRoot timeMs processId) files archive after := by
  obtain ⟨rooted, isRooted, staging⟩ := bind_eq_ok.mp ran
  obtain ⟨staged, isStaged, extracts⟩ := bind_eq_ok.mp staging
  have untouched : OnlyUnder (stagingDir stagingRoot timeMs processId) files files :=
    fun _ _ => Or.inl rfl
  have nothing : Extracted (stagingDir stagingRoot timeMs processId) files [] staged :=
    ⟨(untouched.createDirAll (Or.inl (prefix_append _ _))
      (orError_eq_ok.mp isRooted)).createDirAll (Or.inr (prefix_refl _))
        (orError_eq_ok.mp isStaged), nofun, fun _ _ ⟨_, impossible, _⟩ => nomatch impossible⟩
  exact nothing.run extracts

/-! ## What is loaded -/

theorem walk_eq {place found : Path} {pieces : List String}
    (walked : walk files place pieces = some found) : pieces.foldl Path.follow place = found := by
  induction pieces generalizing place with
  | nil => exact Option.some.inj walked
  | cons piece pieces ih =>
    rw [walk] at walked
    split at walked
    · exact ih walked
    · cases walked

theorem JoinedPath.leads_of_resolve {path : JoinedPath} {found : Path}
    (resolved : path.resolve files = some found) : path.leads = found := by
  rw [resolve] at resolved
  split at resolved
  · cases resolved
  · exact walk_eq resolved

section
variable (dir : Path) (archive : List (ArchiveEntry Bytes))

/-- A path leads to a file that an entry of the archive left below the directory. -/
def FromArchive (after : FileSystem Bytes)
    (path : JoinedPath) : Prop :=
  ∃ names contents, IsFileAt archive names contents ∧ path.resolve after = some (dir ++ names) ∧
    after.content (dir ++ names) = some contents

def NamesFile (path : JoinedPath) : Prop :=
  ∃ entry ∈ archive, entry.isDir = false ∧ ∃ names,
    sanitizeArchivePath entry.path = .ok names ∧ path.leads = dir ++ names

end

structure Confined (dir : Path) (files : FileSystem Bytes) (archive : List (ArchiveEntry Bytes))
    (after : FileSystem Bytes) (bundle : LoadedPolicyBundle) : Prop where
  only : OnlyUnder dir files after
  own : ∀ entry ∈ archive, ∃ names, sanitizeArchivePath entry.path = .ok names ∧
    ∀ name ∈ names, IsOwnName name
  isDir : bundle.extractedDir = dir
  wasm : FromArchive dir archive after bundle.wasmPath
  data : FromArchive dir archive after bundle.dataPath

theorem fromArchive_iff {after : FileSystem Bytes} (extracted : Extracted dir files archive after)
    {path : JoinedPath} (isThere : path.exists after = true) :
    FromArchive dir archive after path ↔ NamesFile dir archive path := by
  constructor
  · rintro ⟨names, -, ⟨entry, isEntry, isFile, isAt, -⟩, resolved, -⟩
    exact ⟨entry, isEntry, isFile, names, isAt, JoinedPath.leads_of_resolve resolved⟩
  · rintro ⟨entry, isEntry, isFile, names, isAt, leads⟩
    obtain ⟨latest, isLatest, found⟩ := extracted.there names entry.contents
      ⟨entry, isEntry, isFile, isAt, rfl⟩
    refine ⟨names, latest, isLatest, ?_, found⟩
    obtain ⟨place, resolved, -⟩ := (Option.any_eq_true _ _).mp isThere
    rw [resolved, ← JoinedPath.leads_of_resolve resolved, leads]

theorem loadFromDir_paths {parse : Bytes → Option JsonValue} {sourceArchive : String}
    {bundle : LoadedPolicyBundle}
    (loaded : loadFromDir parse sourceArchive dir files = .ok bundle) :
    bundle.extractedDir = dir ∧ bundle.wasmPath = ⟨dir, bundle.manifest.wasmFile⟩ ∧
      bundle.dataPath = ⟨dir, bundle.manifest.dataFile⟩ ∧
      bundle.wasmPath.exists files = true ∧ bundle.dataPath.exists files = true := by
  rw [loadFromDir] at loaded
  split at loaded
  · cases loaded
  · obtain ⟨raw, -, parses⟩ := bind_eq_ok.mp loaded
    obtain ⟨manifest, -, checks⟩ := bind_eq_ok.mp parses
    dsimp only at checks
    split at checks
    · cases checks
    · next wasmThere =>
      split at checks
      · cases checks
      · next dataThere =>
        obtain ⟨dataRaw, -, reads⟩ := bind_eq_ok.mp checks
        obtain ⟨data, -, returns⟩ := bind_eq_ok.mp reads
        cases returns
        exact ⟨rfl, rfl, rfl, Bool.of_not_eq_false wasmThere, Bool.of_not_eq_false dataThere⟩

/-! ## Bundles that name other files -/

/-- The manifest of a bundle. -/
def manifestText (wasmFile : String) : String :=
  "\x7b\"policy_id\":\"p\",\"policy_version\":\x7b\"id\":\"v\",\"revision\":1\x7d," ++
    "\"wasm_file\":\"" ++ wasmFile ++ "\"\x7d"

/-- The JSON of the two texts of an archive. -/
def readJson (wasmFile text : String) : Option JsonValue :=
  if text = manifestText wasmFile then
    some (.object [("policy_id", .string "p"),
      ("policy_version", .object [("id", .string "v"), ("revision", .unsigned 1)]),
      ("wasm_file", .string wasmFile)])
  else if text = "\x7b\x7d" then some (.object [])
  else none

def smallArchive (wasmFile : String) : List (ArchiveEntry String) :=
  [⟨"manifest.json", false, manifestText wasmFile⟩, ⟨"./data.json", false, "\x7b\x7d"⟩,
    ⟨"policy.wasm", false, "wasm"⟩]

/-- A file that no archive brought. -/
def otherFiles : FileSystem String :=
  (empty.write ["other.wasm"] "other").getD empty

def loadSmall (wasmFile : String) :
    Except BundleError (FileSystem String × LoadedPolicyBundle) :=
  loadFromArchive (readJson wasmFile) "bundle.tar.gz" ["staging"] 0 1 otherFiles
    (smallArchive wasmFile)

theorem loadSmall_names {wasmFile : String}
    (named : ((loadSmall wasmFile).toOption.map fun loaded =>
      (loaded.2.manifest.wasmFile, loaded.2.manifest.dataFile)) = some (wasmFile, "data.json")) :
    ∃ after bundle, loadSmall wasmFile = .ok (after, bundle) ∧
      bundle.manifest.wasmFile = wasmFile ∧ bundle.manifest.dataFile = "data.json" := by
  cases outcome : loadSmall wasmFile with
  | error error =>
    rw [outcome] at named
    cases named
  | ok loaded =>
    rw [outcome] at named
    have both := Option.some.inj named
    exact ⟨loaded.1, loaded.2, rfl, congrArg Prod.fst both, congrArg Prod.snd both⟩

/-- What a manifest names is looked for outside of the directory, too. -/
theorem declared_wasm_escapes : ∃ after bundle,
    loadFromArchive (readJson "../../other.wasm") "bundle.tar.gz" ["staging"] 0 1 otherFiles
      (smallArchive "../../other.wasm") = .ok (after, bundle) ∧
    bundle.wasmPath.resolve after = some ["other.wasm"] ∧
    ¬Confined (stagingDir ["staging"] 0 1) otherFiles (smallArchive "../../other.wasm") after
      bundle := by
  have named : ((loadSmall "../../other.wasm").toOption.map fun loaded =>
      (loaded.2.manifest.wasmFile, loaded.2.manifest.dataFile)) =
      some ("../../other.wasm", "data.json") := by decide +kernel
  obtain ⟨after, bundle, loaded, wasmFile, -⟩ := loadSmall_names named
  obtain ⟨extractedFiles, extracts, loads⟩ := bind_eq_ok.mp loaded
  obtain ⟨loadedBundle, fromDir, returns⟩ := bind_eq_ok.mp loads
  cases returns
  obtain ⟨-, isWasm, -, wasmThere, -⟩ := loadFromDir_paths fromDir
  have leads : bundle.wasmPath.leads = ["other.wasm"] := by
    rw [isWasm, wasmFile]
    decide +kernel
  obtain ⟨place, resolved, -⟩ := (Option.any_eq_true _ _).mp wasmThere
  have isOther := (JoinedPath.leads_of_resolve resolved).symm.trans leads
  refine ⟨_, _, loaded, resolved.trans (congrArg some isOther), fun confined => ?_⟩
  obtain ⟨names, -, -, inside, -⟩ := confined.wasm
  have same := congrArg List.length ((JoinedPath.leads_of_resolve inside).symm.trans leads)
  rw [stagingDir, append_assoc, length_append, length_append] at same
  simp at same

/-- A bundle that is loaded is confined exactly when the manifest names files of the
archive. -/
theorem load_confined_iff {parse : Bytes → Option JsonValue} {sourceArchive : String}
    {stagingRoot : Path} {timeMs processId : Nat} {archive : List (ArchiveEntry Bytes)}
    {after : FileSystem Bytes} {bundle : LoadedPolicyBundle}
    (loaded : loadFromArchive parse sourceArchive stagingRoot timeMs processId files archive =
      .ok (after, bundle)) :
    Confined (stagingDir stagingRoot timeMs processId) files archive after bundle ↔
      NamesFile (stagingDir stagingRoot timeMs processId) archive
        ⟨stagingDir stagingRoot timeMs processId, bundle.manifest.wasmFile⟩ ∧
      NamesFile (stagingDir stagingRoot timeMs processId) archive
        ⟨stagingDir stagingRoot timeMs processId, bundle.manifest.dataFile⟩ := by
  obtain ⟨extractedFiles, extracts, loads⟩ := bind_eq_ok.mp loaded
  obtain ⟨loadedBundle, fromDir, returns⟩ := bind_eq_ok.mp loads
  cases returns
  have extracted := extractBundleArchive_extracted extracts
  obtain ⟨isDir, isWasm, isData, wasmThere, dataThere⟩ := loadFromDir_paths fromDir
  rw [← isWasm, ← isData, ← fromArchive_iff extracted wasmThere,
    ← fromArchive_iff extracted dataThere]
  constructor
  · intro confined
    exact ⟨confined.wasm, confined.data⟩
  · rintro ⟨wasm, data⟩
    refine ⟨extracted.only, fun entry isEntry => ?_, isDir, wasm, data⟩
    obtain ⟨names, safe⟩ := extracted.safe entry isEntry
    exact ⟨names, safe, (sanitizeArchivePath_names safe).2⟩

/-- A bundle whose manifest names the file beside it. -/
theorem small_bundle_confined : ∃ after bundle,
    loadFromArchive (readJson "policy.wasm") "bundle.tar.gz" ["staging"] 0 1 otherFiles
      (smallArchive "policy.wasm") = .ok (after, bundle) ∧
    Confined (stagingDir ["staging"] 0 1) otherFiles (smallArchive "policy.wasm") after
      bundle := by
  have named : ((loadSmall "policy.wasm").toOption.map fun loaded =>
      (loaded.2.manifest.wasmFile, loaded.2.manifest.dataFile)) =
      some ("policy.wasm", "data.json") := by decide +kernel
  obtain ⟨after, bundle, loaded, wasmFile, dataFile⟩ := loadSmall_names named
  refine ⟨after, bundle, loaded, (load_confined_iff loaded).mpr ⟨?_, ?_⟩⟩
  · rw [wasmFile]
    exact ⟨⟨"policy.wasm", false, "wasm"⟩, mem_cons_of_mem _ (mem_cons_of_mem _
      mem_cons_self), rfl, ["policy.wasm"], by decide +kernel, by decide +kernel⟩
  · rw [dataFile]
    exact ⟨⟨"./data.json", false, "\x7b\x7d"⟩, mem_cons_of_mem _ mem_cons_self, rfl,
      ["data.json"], by decide +kernel, by decide +kernel⟩

end AutoLoop.Security.BundleLoading
