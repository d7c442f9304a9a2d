import AutoLoop.GitmemoryCore.PatchReviewQueue
import AutoLoop.QueryEngine.DiffPatchEngine

/-!
# The canonical repository

The Markdown file that `AtomicRenderer` makes of a patch, the check of its references by
`IngestValidator`, and the write of `CanonicalRepo`.  A repository is the part of a file
system under its root.
-/

namespace AutoLoop.GitmemoryCore

open QueryEngine (Content display)
open QueryEngine.DiffPatchEngine (bytes fileCall)
open Text

/-! ## Rendering -/

/-- `sanitize_segment`, and `sanitize` of the validator. -/
def sanitizeSegment (value : String) : String :=
  String.ofList (value.toList.map fun char =>
    if char.isAlphanum || char = '-' || char = '_' then char else '_')

def PatchOpKind.label : PatchOpKind → String
  | .add => "add"
  | .update => "update"
  | .delete => "delete"
  | .none => "none"

structure AtomicRenderOutput where
  relativePath : String
  markdown : String
  opCount : Nat

def renderOp (entry : PatchOp × Nat) : String :=
  (entry.2 + 1).repr ++ ". `" ++ entry.1.kind.label ++ "` -> `" ++ entry.1.target ++ "` (" ++
    entry.1.reason ++ ")\n"

def AtomicRenderer.render (sessionId traceId : String) (plan : PatchPlan) :
    AtomicRenderOutput where
  relativePath :=
    "canonical/" ++ sanitizeSegment sessionId ++ "/" ++ sanitizeSegment traceId ++ ".md"
  markdown :=
    "---\nsession_id: " ++ sessionId ++ "\ntrace_id: " ++ traceId ++ "\nnamespace: " ++
      plan.namespaceName ++ "\nops: " ++ plan.ops.length.repr ++ "\n---\n\n# Atomic Patch\n\n" ++
      String.join (plan.ops.zipIdx.map renderOp)
  opCount := plan.ops.length

/-! ## Validation -/

inductive IngestValidationMode where
  | enforced
  | validateOnly
  deriving DecidableEq, Repr

def IngestValidationMode.name : IngestValidationMode → String
  | .enforced => "enforced"
  | .validateOnly => "validate_only"

structure IngestValidationReport where
  mode : IngestValidationMode
  relativePath : String
  checkedAtMs : UInt64
  brokenLinks : List String
  unindexed : List String
  passed : Bool

/-- What is before and what is after the first occurrence of a pattern. -/
def splitOnce (pattern : List Char) : List Char → Option (List Char × List Char)
  | [] => none
  | char :: rest =>
    if pattern <+: char :: rest then some ([], (char :: rest).drop pattern.length)
    else (splitOnce pattern rest).map fun parts => (char :: parts.1, parts.2)

/-- `trim_start_matches("./")`. -/
def dropDotSlashes : List Char → List Char
  | '.' :: '/' :: rest => dropDotSlashes rest
  | chars => chars

def endsWith (text pattern : String) : Bool := decide (pattern.toList <:+ text.toList)

def normalizeDependency (sourceFile target : String) : String :=
  if startsWith target "http://" || startsWith target "https://" then target
  else
    let name := trim ((split '#' target).headD "")
    if name = "" then sourceFile
    else
      let name := String.ofList (dropDotSlashes name.toList)
      let name :=
        if endsWith name ".md" || endsWith name ".markdown" then name else name ++ ".md"
      QueryEngine.forwardSlashes name

/-- The targets between two marks.  Each round leaves a shorter text, so that its length
is rounds enough. -/
def enclosedRefs (opening closing : List Char) (sourceFile : String) :
    Nat → List Char → List String
  | 0, _ => []
  | rounds + 1, cursor =>
    match splitOnce opening cursor with
    | none => []
    | some (_, rest) =>
      match splitOnce closing rest with
      | none => []
      | some (between, later) =>
        let target := trim (String.ofList between)
        let found := if target = "" then [] else [normalizeDependency sourceFile target]
        found ++ enclosedRefs opening closing sourceFile rounds later

def orderedSet (texts : List String) : List String := (sortByKey id texts).dedup

def extractRefs (input sourceFile : String) : List String :=
  let chars := input.toList
  orderedSet (enclosedRefs ['[', '['] [']', ']'] sourceFile chars.length chars ++
    enclosedRefs [']', '('] [')'] sourceFile chars.length chars)

section
variable (files : FileSystem Content) (root : Path)

/-- Whether `root.join(target)` exists. -/
def existsAt (target : String) : Bool :=
  let start := if startsWith target "/" then [] else root
  ((split '/' target).foldlM (fun path name =>
    if ¬files.isDirectory path then none
    else if name = "" ∨ name = "." then some path
    else if name = ".." then some path.dropLast
    else if files.exists (path ++ [name]) then some (path ++ [name])
    else none) start).isSome

def hasProjectionIndex (sourceFile : String) : Bool :=
  ["graph", "vector", "search"].all fun plane =>
    files.exists (root ++ [".gitmemory", "projections", plane,
      sanitizeSegment sourceFile ++ ".json"])

def IngestValidator.validate
    (relativePath content : String) (mode : IngestValidationMode) (now : UInt64) :
    IngestValidationReport :=
  let refs := extractRefs content relativePath
  let brokenLinks := refs.filter fun target => !existsAt files root target
  let unindexed := refs.filter fun target =>
    existsAt files root target && !hasProjectionIndex files root target
  ⟨mode, relativePath, now, brokenLinks, unindexed, brokenLinks.isEmpty && unindexed.isEmpty⟩

end

/-! ## Writing -/

structure CanonicalWriteReceipt where
  repoRoot : String
  relativePath : String
  absolutePath : String
  bytes : Nat

def componentsOf (relativePath : String) : Path := (split '/' relativePath).filter (· ≠ "")

/-- `file_stem`. -/
def fileStem (name : String) : String :=
  match (name.toList.reverse.dropWhile (· ≠ '.')).tail with
  | [] => name
  | stem => String.ofList stem.reverse

/-- `set_extension("tmp")`. -/
def temporaryOf (target : Path) : Path :=
  target.dropLast ++ [fileStem (target.getLastD "") ++ ".tmp"]

namespace CanonicalRepo

/-- Errors have the text of the operating system. -/
def ensure (osError : String) (root : Path) : Effect (FileSystem Content) Unit := do
  fileCall osError (·.createDirAll (root ++ ["canonical"]))
  fileCall osError (·.createDirAll (root ++ [".gitmemory"]))

def writeAtomic (osError : String) (root : Path) (relativePath content : String) :
    Effect (FileSystem Content) CanonicalWriteReceipt := do
  ensure osError root
  let target := root ++ componentsOf relativePath
  fileCall osError (·.createDirAll target.dropLast)
  fileCall osError (·.write (temporaryOf target) (bytes content))
  fileCall osError fun files =>
    if files.exists target then files.removeFile target else some files
  fileCall osError (·.rename (temporaryOf target) target)
  return ⟨display root, relativePath, display root ++ "/" ++ relativePath, content.utf8ByteSize⟩

end CanonicalRepo

end AutoLoop.GitmemoryCore
