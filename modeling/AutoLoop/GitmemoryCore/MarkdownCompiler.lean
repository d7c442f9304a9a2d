import AutoLoop.Foundation.Text
import Mathlib

/-!
# Compiling markdown sources

`compile_once` reads a source line by line: frontmatter, code fences, headings, list items
and paragraphs, which are flushed when the next block begins.  Previews are cut at a byte;
where this is not the end of a character the compiler panics.
-/

namespace AutoLoop.GitmemoryCore.IncrementalCompiler

open Text

inductive MarkdownBlockKind where
  | frontmatter
  | heading
  | listItem
  | paragraph
  | codeFence
  deriving DecidableEq, Repr

structure MarkdownBlock where
  blockId : String
  kind : MarkdownBlockKind
  startLine : Nat
  endLine : Nat
  textPreview : String
  references : List String
  deriving DecidableEq, Repr

inductive CompileErrorSeverity where
  | transient
  | recoverable
  | fatal
  deriving DecidableEq, Repr

structure CompileErrorRecord where
  severity : CompileErrorSeverity
  code : String
  message : String
  sourceFile : String
  line : Option Nat
  retryable : Bool
  deriving DecidableEq, Repr

def sanitize (value : String) : String :=
  String.ofList (value.toList.map fun char =>
    if char.isAlphanum || char = '-' || char = '_' then char else '_')

/-! ## Previews -/

/-- `&text[..bytes]`, which panics inside a character. -/
def sliceTo (bytes : Nat) (text : String) : Option String :=
  (text.toList.inits.map String.ofList).find? (·.utf8ByteSize = bytes)

def preview (value : String) : Option String :=
  let trimmed := trim value
  if trimmed.utf8ByteSize ≤ 120 then some trimmed
  else (sliceTo 120 trimmed).map (· ++ "...")

/-! ## References -/

/-- What stands before and after the first occurrence of a pattern. -/
def splitOnce (pattern : List Char) : List Char → Option (List Char × List Char)
  | [] => if pattern = [] then some ([], []) else none
  | char :: rest =>
    if pattern.isPrefixOf (char :: rest) then
      some ([], (char :: rest).drop pattern.length)
    else (splitOnce pattern rest).map fun parts => (char :: parts.1, parts.2)

theorem splitOnce_length {pattern text : List Char} {parts : List Char × List Char}
    (found : splitOnce pattern text = some parts) :
    parts.2.length + pattern.length ≤ text.length := by
  induction text generalizing parts with
  | nil =>
    rw [splitOnce] at found
    split at found
    · next none =>
      cases found
      rw [none]
      exact Nat.le_refl _
    · cases found
  | cons char rest ih =>
    rw [splitOnce] at found
    split at found
    · next starts =>
      cases found
      have shorter := (List.isPrefixOf_iff_prefix.mp starts).length_le
      rw [List.length_drop]
      omega
    · obtain ⟨inner, isInner, rfl⟩ := Option.map_eq_some_iff.mp found
      have shorter := ih isInner
      rw [List.length_cons]
      exact Nat.le_succ_of_le shorter

def hasSuffixText (text pattern : String) : Bool :=
  pattern.toList.reverse.isPrefixOf text.toList.reverse

/-- `trim_start_matches("./")`. -/
def trimDots : List Char → List Char
  | '.' :: '/' :: rest => trimDots rest
  | text => text

def normalizeDependency (sourceFile target : String) : String :=
  if startsWith target "http://" || startsWith target "https://" then target
  else
    let path := trim (String.ofList (target.toList.takeWhile (· ≠ '#')))
    if path = "" then sourceFile
    else
      let stripped := if startsWith path "./" then String.ofList (trimDots path.toList)
        else path
      let named := if hasSuffixText stripped ".md" || hasSuffixText stripped ".markdown" then
        stripped else stripped ++ ".md"
      String.ofList (named.toList.map fun char => if char = '\\' then '/' else char)

/-- `extract_wiki_refs` and `extract_markdown_refs`: the targets between two marks. -/
def extractBetween (opening closing : List Char) (positive : 0 < opening.length)
    (sourceFile : String) (cursor : List Char) : List String :=
  match opened : splitOnce opening cursor with
  | none => []
  | some (_, rest) =>
    match closed : splitOnce closing rest with
    | none => []
    | some (between, after) =>
      let target := trim (String.ofList between)
      (if target = "" then [] else [normalizeDependency sourceFile target]) ++
        extractBetween opening closing positive sourceFile after
termination_by cursor.length
decreasing_by
  have first := splitOnce_length opened
  have second := splitOnce_length closed
  simp only at first second
  omega

def extractRefs (input sourceFile : String) : List String :=
  (extractBetween ['[', '['] [']', ']'] (by decide) sourceFile input.toList ++
    extractBetween [']', '('] [')'] (by decide) sourceFile input.toList).toFinset.sort

/-! ## Lines -/

/-- A block whose preview is not made yet. -/
structure ScannedBlock where
  blockId : String
  kind : MarkdownBlockKind
  startLine : Nat
  endLine : Nat
  text : String
  references : List String
  deriving DecidableEq, Repr

/-- What the loop over the lines carries. -/
structure ScanState where
  inCodeFence : Bool := false
  codeStart : Nat := 0
  lastHeadingLevel : Nat := 0
  paragraphStart : Option Nat := none
  paragraphBuf : String := ""
  blocks : List ScannedBlock := []
  dependencies : Finset String := ∅
  recoverableErrors : List CompileErrorRecord := []

section Scan

variable (file : String)

def ScanState.push (state : ScanState) (block : ScannedBlock) : ScanState :=
  { state with
    blocks := state.blocks ++ [block]
    dependencies := state.dependencies ∪ block.references.toFinset }

def flushParagraph (endLine : Nat) (state : ScanState) : ScanState :=
  match state.paragraphStart with
  | none => state
  | some start =>
    let text := trim state.paragraphBuf
    if text = "" then { state with paragraphStart := none, paragraphBuf := "" }
    else
      { state.push ⟨sanitize file ++ ":p:" ++ start.repr, .paragraph, start, max endLine start,
          text, extractRefs text file⟩ with
        paragraphStart := none, paragraphBuf := "" }

def headingLevel (trimmed : String) : Nat := (trimmed.toList.takeWhile (· = '#')).length

def headingJump (last level lineNo : Nat) : List CompileErrorRecord :=
  if 0 < last ∧ last + 1 < level then
    [⟨.recoverable, "HEADING_LEVEL_JUMP",
      "heading level jumped from h" ++ last.repr ++ " to h" ++ level.repr, file, some lineNo,
      false⟩]
  else []

def IsFence (trimmed : String) : Prop := startsWith trimmed "```" = true

def IsHeading (trimmed : String) : Prop := startsWith trimmed "#" = true

def IsItem (trimmed : String) : Prop :=
  (startsWith trimmed "- " || startsWith trimmed "* " || startsWith trimmed "+ ") = true

instance (trimmed : String) : Decidable (IsFence trimmed) := inferInstanceAs (Decidable (_ = true))

instance (trimmed : String) : Decidable (IsHeading trimmed) :=
  inferInstanceAs (Decidable (_ = true))

instance (trimmed : String) : Decidable (IsItem trimmed) := inferInstanceAs (Decidable (_ = true))

/-- One round of the loop. -/
def scanLine (lineNo : Nat) (line : String) (state : ScanState) : ScanState :=
  let trimmed := trim line
  if IsFence trimmed then
    let flushed := flushParagraph file (lineNo - 1) state
    if flushed.inCodeFence then
      { flushed.push ⟨sanitize file ++ ":code:" ++ flushed.codeStart.repr, .codeFence,
          flushed.codeStart, lineNo, "code-fence", []⟩ with inCodeFence := false }
    else { flushed with inCodeFence := true, codeStart := lineNo }
  else if state.inCodeFence then state
  else if IsHeading trimmed then
    let flushed := flushParagraph file (lineNo - 1) state
    let level := headingLevel trimmed
    { flushed.push ⟨sanitize file ++ ":h:" ++ level.repr ++ ":" ++ lineNo.repr, .heading, lineNo,
        lineNo, trimmed, extractRefs trimmed file⟩ with
      lastHeadingLevel := level
      recoverableErrors := flushed.recoverableErrors ++
        headingJump file flushed.lastHeadingLevel level lineNo }
  else if IsItem trimmed then
    (flushParagraph file (lineNo - 1) state).push
      ⟨sanitize file ++ ":li:" ++ lineNo.repr, .listItem, lineNo, lineNo, trimmed,
        extractRefs trimmed file⟩
  else if trimmed = "" then flushParagraph file (lineNo - 1) state
  else
    { state with
      paragraphStart := some (state.paragraphStart.getD lineNo)
      paragraphBuf :=
        (if state.paragraphBuf = "" then "" else state.paragraphBuf ++ "\n") ++ trimmed }

def scanFrom (lineNo : Nat) (lines : List String) (state : ScanState) : ScanState :=
  match lines with
  | [] => state
  | line :: rest => scanFrom (lineNo + 1) rest (scanLine file lineNo line state)

section
variable (lines : List String)

/-- The index of the line that closes the frontmatter. -/
def frontmatterEnd : Option Nat :=
  if lines.head?.map trim = some "---" then
    ((lines.drop 1).findIdx? fun line => Text.trim line = "---").map (· + 1)
  else none

/-- `join("\n")`. -/
def joinLines : String := joinWith '\n' lines

def frontmatterText (last : Nat) : String :=
  joinLines ((lines.take last).drop 1)

def frontState : Nat × ScanState :=
  match frontmatterEnd lines with
  | none => (0, {})
  | some last =>
    (last + 1, { blocks := [⟨sanitize file ++ ":frontmatter", .frontmatter, 1, last + 1,
      frontmatterText lines last, []⟩] })

def scanAll : ScanState :=
  flushParagraph file lines.length
    (scanFrom file ((frontState file lines).1 + 1) (lines.drop (frontState file lines).1)
      (frontState file lines).2)

end

end Scan

/-! ## Compilation -/

/-- The block with its preview, unless making it panics. -/
def ScannedBlock.render (block : ScannedBlock) : Option MarkdownBlock := do
  let textPreview ← if block.kind = .codeFence then some block.text else preview block.text
  return ⟨block.blockId, block.kind, block.startLine, block.endLine, textPreview, block.references⟩

structure CompilePass where
  blocks : List MarkdownBlock
  dependencies : List String
  transientErrors : List CompileErrorRecord
  recoverableErrors : List CompileErrorRecord
  fatalErrors : List CompileErrorRecord
  deriving DecidableEq, Repr

def transientErrors (file content : String) (attempt : Nat) : List CompileErrorRecord :=
  if contains content "<!-- transient:retry -->" = true ∧ attempt < 2 then
    [⟨.transient, "TRANSIENT_INPUT_UNSTABLE", "transient marker detected; retry requested", file,
      none, true⟩]
  else []

def fatalErrors (file : String) (lines : List String) (scanned : ScanState) :
    List CompileErrorRecord :=
  (if lines.head?.map Text.trim = some "---" ∧ frontmatterEnd lines = none then
    [⟨.fatal, "FRONTMATTER_UNCLOSED", "frontmatter opened but not closed", file, some 1, false⟩]
  else []) ++
  if scanned.inCodeFence then
    [⟨.fatal, "CODE_FENCE_UNCLOSED", "code fence is not closed", file, some scanned.codeStart,
      false⟩]
  else []

/-- `none` is a panic.  Nothing else is seen of a compilation that panics, so that the previews
are made at its end here. -/
def compileOnce (file content : String) (attempt : Nat) : Option CompilePass := do
  let lines := Text.lines content
  let scanned := scanAll file lines
  let blocks ← scanned.blocks.mapM ScannedBlock.render
  return {
    blocks
    dependencies := scanned.dependencies.sort
    transientErrors := transientErrors file content attempt
    recoverableErrors := scanned.recoverableErrors
    fatalErrors := fatalErrors file lines scanned }

structure CompileOutcome where
  blocks : List MarkdownBlock
  dependencies : List String
  blockCount : Nat
  attempts : Nat
  transientErrors : List CompileErrorRecord
  recoverableErrors : List CompileErrorRecord
  fatalErrors : List CompileErrorRecord
  deriving DecidableEq, Repr

def maxRetryAttempts : Nat := 3

/-- The loop of `compile_with_retry`, with the attempts that are left after this one. -/
def retryFrom (file content : String) : Nat → List CompileErrorRecord → Option CompileOutcome
  | left, earlier => do
      let attempts := maxRetryAttempts - left
      let pass ← compileOnce file content attempts
      let transient := earlier ++ pass.transientErrors
      match left with
      | left + 1 =>
        if pass.transientErrors ≠ [] then retryFrom file content left transient
        else return ⟨pass.blocks, pass.dependencies, pass.blocks.length, attempts, transient,
          pass.recoverableErrors, pass.fatalErrors⟩
      | 0 => return ⟨pass.blocks, pass.dependencies, pass.blocks.length, attempts, transient,
          pass.recoverableErrors, pass.fatalErrors⟩

def compileWithRetry (file content : String) : Option CompileOutcome :=
  retryFrom file content (maxRetryAttempts - 1) []

end AutoLoop.GitmemoryCore.IncrementalCompiler
