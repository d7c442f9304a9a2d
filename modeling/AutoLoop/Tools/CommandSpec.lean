import AutoLoop.Foundation.Templates
import AutoLoop.Tools.Forge
import Mathlib

/-!
# Command specs

`build_command_spec`: the command that a forged tool shows is its template with the supplied
values put in; the arguments it runs are taken from the same template again.
-/

namespace AutoLoop.Tools

open Text (Avoids ReadsAs avoids_append avoids_cons avoids_of_closed
  avoids_of_not_mem isWhitespace quotedTokens replaceList spaced)
open Text List

/-- What `serde_json` does: texts to values, and numbers and objects to texts. -/
structure JsonLibrary where
  fromStr : String → Except String JsonValue
  numberText : JsonNumber → String
  objectText : List (String × JsonValue) → String

structure RenderedCommandSpec where
  executable : String
  args : List String
  displayCommand : String
  workingDirectory : Option String
  deriving DecidableEq, Repr

/-! ## Values -/

section Values

variable (library : JsonLibrary)

mutual

def renderValue : JsonValue → String
  | .scalar .null => "null"
  | .scalar (.bool value) => if value then "true" else "false"
  | .scalar (.number value) => library.numberText value
  | .scalar (.string value) => value
  | .array values => joinWith ',' (renderValues values)
  | .object members => library.objectText members

def renderValues : List JsonValue → List String
  | [] => []
  | value :: rest => renderValue value :: renderValues rest

end

end Values

/-- The characters that `shell_escape` leaves as they are. -/
def isPlain (char : Char) : Bool := char.isAlphanum || "-_./:".toList.contains char

def shellEscape (value : String) : String :=
  if value.toList.all isPlain then value
  else String.ofList ('"' :: (Text.escapeQuotes value.toList ++ ['"']))

/-- A value is given by the name of an argument, or else by its slug. -/
def suppliedValue (members : List (String × JsonValue)) (name : String) : Option JsonValue :=
  (members.lookup name).or (members.lookup (sanitizeSegment name))

def placeholder (key : String) : String := "\x7b\x7b" ++ key ++ "\x7d\x7d"

def missingArgument (name : String) : String := "missing required forged tool argument: " ++ name

/-! ## Commands -/

section Commands

variable (library : JsonLibrary)

/-- The members of the payload, none for a blank text. -/
def parseInvocation (arguments : String) : Except String (List (String × JsonValue)) :=
  if trim arguments = "" then .ok []
  else
    match library.fromStr arguments with
    | .error error => .error ("forged tool invocation must be valid JSON: " ++ error)
    | .ok (.object members) => .ok members
    | .ok _ => .error "forged tool invocation must be a JSON object"

/-- The loop of `render_command`. -/
def renderArguments (members : List (String × JsonValue)) :
    List (String × Bool × Option String) → String → Except String String
  | [], rendered => .ok rendered
  | (name, required, _) :: rest, rendered =>
    let key := sanitizeSegment name
    match suppliedValue members name with
    | some value =>
      renderArguments members rest
        (replace rendered (placeholder key) (shellEscape (renderValue library value)))
    | none =>
      if required then .error (missingArgument name)
      else renderArguments members rest
        (replace rendered (" --" ++ key ++ " " ++ placeholder key) "")

/-- The loop of `build_command_spec`. -/
def pushArguments (members : List (String × JsonValue)) :
    List (String × Bool × Option String) → Except String (List String)
  | [] => .ok []
  | (name, required, _) :: rest =>
    match suppliedValue members name with
    | some value => do
        let args ← pushArguments members rest
        .ok (("--" ++ sanitizeSegment name) :: renderValue library value :: args)
    | none => if required then .error (missingArgument name) else pushArguments members rest

/-- The loop of `subcommand_segments` over the tokens. -/
def segmentsOf (executable : String) : List String → List String
  | [] => []
  | token :: rest =>
    if token = executable || contains token "\x7b\x7b" then segmentsOf executable rest
    else
      match rest with
      | [] => [token]
      | next :: more =>
        if startsWith token "--" && Text.contains next "\x7b\x7b" then
          segmentsOf executable more
        else token :: segmentsOf executable (next :: more)

/-- `strip_prefix`, or the text itself. -/
def withoutPrefix (start text : String) : String :=
  if start.toList <+: text.toList then String.ofList (text.toList.drop start.toList.length)
  else text

variable {F : Type}

section
variable (manifest : ForgedMcpToolManifest F)

def ForgedMcpToolManifest.subcommandSegments : List String :=
  let command := Text.trim manifest.commandTemplate
  let executable := Text.trim manifest.executable
  segmentsOf executable (Text.splitWhitespace (withoutPrefix executable command))

def renderCommand (members : List (String × JsonValue)) :
    Except String String :=
  renderArguments library members manifest.payloadTemplate.arguments manifest.commandTemplate

def buildCommandSpec (arguments : String) :
    Except String RenderedCommandSpec := do
  let members ← parseInvocation library arguments
  let displayCommand ← renderCommand library manifest members
  let args ← pushArguments library members manifest.payloadTemplate.arguments
  .ok
    { executable := manifest.executable
      args := manifest.subcommandSegments ++ args
      displayCommand
      workingDirectory := manifest.workingDirectory }

end

end Commands

/-! ## The shown command -/

/-- Neither whitespace nor quotes nor braces. -/
def isBareChar (char : Char) : Bool :=
  !isWhitespace char && !(List.contains ['"', '\'', '{', '}'] char)

def IsBare (word : String) : Prop := ∀ char ∈ word.toList, isBareChar char = true

namespace McpToolForgeRequest

variable (request : McpToolForgeRequest)

/-- The words of the command before the arguments. -/
def fixedWords : List String := request.subcommands ++ request.jsonFlag.toList

def slugs : List String := request.arguments.map fun argument => sanitizeSegment argument.name

structure Displayable : Prop where
  bareExecutable : IsBare request.executable
  bareWords : ∀ word ∈ request.fixedWords, IsBare word
  named : "" ∉ request.slugs
  distinct : request.slugs.Nodup

/-- What is run for the supplied arguments, in their order. -/
def suppliedArgs (library : JsonLibrary) (members : List (String × JsonValue)) : List String :=
  request.arguments.flatMap fun argument =>
    match suppliedValue members argument.name with
    | some value => ["--" ++ sanitizeSegment argument.name, renderValue library value]
    | none => []

end McpToolForgeRequest

def RenderedCommandSpec.displayTokens (spec : RenderedCommandSpec) : List String :=
  (quotedTokens none false spec.displayCommand.toList).map String.ofList

structure DisplaysExecuted (library : JsonLibrary) (request : McpToolForgeRequest)
    (members : List (String × JsonValue)) (spec : RenderedCommandSpec) : Prop where
  shown : spec.displayTokens = spec.executable :: spec.args
  runs : spec.executable = request.executable
  args : spec.args = request.fixedWords ++ request.suppliedArgs library members

/-! ## Words and places -/

/-- What a placeholder is. -/
def slot (key : List Char) : List Char := '{' :: '{' :: (key ++ ['}', '}'])

/-- What stands in the template for an argument. -/
def optionText (key : List Char) : List Char := ' ' :: '-' :: '-' :: (key ++ ' ' :: slot key)

/-- A text ends, or its next word begins with no brace. -/
def WordEnd (rest : List Char) : Prop :=
  rest = [] ∨ ∃ char more, rest = ' ' :: char :: more ∧ char ≠ '{'

structure Harmless (target word : List Char) : Prop where
  begins : ∃ head tail, word = head :: tail ∧ head ≠ '{'
  avoids : ∀ rest, WordEnd rest → Avoids target (' ' :: word) rest

section Places

variable {key other word body target rest : List Char} {words : List (List Char)}

section
variable (harmless : ∀ word ∈ words, Harmless target word) (ends : WordEnd rest)
include harmless ends

theorem wordEnd_spaced : WordEnd (spaced words ++ rest) := by
  cases words with
  | nil => exact ends
  | cons word words =>
    obtain ⟨head, tail, rfl, unbraced⟩ := (harmless word List.mem_cons_self).begins
    exact Or.inr ⟨head, tail ++ (spaced words ++ rest), by simp [spaced], unbraced⟩

theorem avoids_spaced : Avoids target (spaced words) rest := by
  induction words with
  | nil => exact Text.avoids_nil
  | cons word words ih =>
    obtain ⟨ofWord, ofWords⟩ := List.forall_mem_cons.mp harmless
    have shape : spaced (word :: words) = (' ' :: word) ++ spaced words := rfl
    rw [shape, avoids_append]
    exact ⟨ofWord.avoids _ (wordEnd_spaced ofWords ends), ih ofWords⟩

end

theorem not_mem_of_bare {char : Char} (bare : ∀ char ∈ word, isBareChar char = true)
    (special : isBareChar char = false) : char ∉ word := by
  intro membership
  rw [bare char membership] at special
  exact Bool.noConfusion special

/-- A word without spaces is no part of a word and a braced one. -/
theorem not_prefix_of_wordEnd {start : List Char} (startWhole : ' ' ∉ start)
    (wordWhole : ' ' ∉ word) (ends : WordEnd rest) :
    ¬(start ++ ' ' :: '{' :: body) <+: word ++ rest := by
  rintro ⟨remaining, matched⟩
  rw [List.append_assoc, List.cons_append, List.cons_append] at matched
  have noBrace : ∀ more, rest ≠ ' ' :: '{' :: more := by
    rintro more rfl
    rcases ends with empty | ⟨char, after, shape, unbraced⟩
    · exact List.cons_ne_nil _ _ empty
    · exact unbraced (List.cons.inj (List.cons.inj shape).2).1.symm
  rcases List.append_eq_append_iff.mp matched with ⟨gap, isWord, isRest⟩ | ⟨gap, isStart, isRest⟩
  · cases gap with
    | nil => exact noBrace _ isRest.symm
    | cons char gap =>
      apply wordWhole
      rw [isWord, (List.cons.inj isRest).1]
      exact List.mem_append_right _ List.mem_cons_self
  · cases gap with
    | nil => exact noBrace _ isRest
    | cons char gap =>
      rcases ends with empty | ⟨next, after, shape, -⟩
      · rw [empty] at isRest
        exact List.cons_ne_nil _ _ isRest.symm
      · rw [shape] at isRest
        apply startWhole
        rw [isStart, (List.cons.inj isRest).1]
        exact List.mem_append_right _ List.mem_cons_self

theorem eq_of_separated {separator : Char} {first second : List Char}
    (notKey : separator ∉ key) (notOther : separator ∉ other)
    (matched : (key ++ separator :: first) <+: other ++ separator :: second) : key = other := by
  obtain ⟨remaining, matched⟩ := matched
  rw [List.append_assoc, List.cons_append] at matched
  exact Text.before_first_separator matched notKey notOther

section
variable (target_eq : target = slot key ∨ target = optionText key)
  (bareKey : ∀ char ∈ key, isBareChar char = true)
include target_eq bareKey

theorem harmless_bare (nonempty : word ≠ [])
    (bare : ∀ char ∈ word, isBareChar char = true) : Harmless target word := by
  have noSpace : ' ' ∉ word := not_mem_of_bare bare (by decide)
  have noBrace : '{' ∉ word := not_mem_of_bare bare (by decide)
  refine ⟨?_, fun rest ends => ?_⟩
  · cases word with
    | nil => exact absurd rfl nonempty
    | cons head tail => exact ⟨head, tail, rfl, fun same => noBrace (same ▸ List.mem_cons_self)⟩
  · rcases target_eq with rfl | rfl
    · exact avoids_of_not_mem (by simp [noBrace])
    · refine avoids_cons.mpr ⟨?_, avoids_of_not_mem noSpace⟩
      intro starts
      have noSpaceKey : ' ' ∉ '-' :: '-' :: key := by
        simp [not_mem_of_bare bareKey (show isBareChar ' ' = false by decide)]
      exact not_prefix_of_wordEnd noSpaceKey noSpace ends (List.cons_prefix_cons.mp starts).2

theorem harmless_quoted
    (apart : ¬target <:+: '"' :: (body ++ ['"'])) : Harmless target ('"' :: (body ++ ['"'])) := by
  have noQuote : '"' ∉ key := not_mem_of_bare bareKey (by decide)
  refine ⟨⟨'"', body ++ ['"'], rfl, by decide⟩, fun rest _ => avoids_cons.mpr ⟨?_, ?_⟩⟩
  · intro starts
    rcases target_eq with rfl | rfl
    · exact absurd (cons_prefix_cons.mp starts).1 (by decide)
    · have next := (cons_prefix_cons.mp starts).2
      exact absurd (cons_prefix_cons.mp next).1 (by decide)
  · rw [← cons_append] at apart ⊢
    refine avoids_of_closed ?_ apart
    rcases target_eq with rfl | rfl
    · simp [slot, noQuote]
    · simp [optionText, slot, noQuote]

/-- What stands for one argument is nothing that is replaced for another. -/
theorem avoids_optionText (bareOther : ∀ char ∈ other, isBareChar char = true)
    (nonempty : other ≠ []) (distinct : key ≠ other) : Avoids target (optionText other) rest := by
  have noSpace : ' ' ∉ other := not_mem_of_bare bareOther (by decide)
  have noBrace : '{' ∉ other := not_mem_of_bare bareOther (by decide)
  have shape : optionText other = (' ' :: '-' :: '-' :: other) ++ ' ' :: slot other := rfl
  rcases target_eq with rfl | rfl
  · rw [shape, avoids_append]
    refine ⟨avoids_of_not_mem (by simp [noBrace]), avoids_cons.mpr ⟨?_, avoids_cons.mpr ⟨?_,
      avoids_cons.mpr ⟨?_, avoids_of_not_mem (by simp [noBrace])⟩⟩⟩⟩
    · intro starts
      exact absurd (cons_prefix_cons.mp starts).1 (by decide)
    · intro starts
      have next := (cons_prefix_cons.mp starts).2
      have keys : key ++ '}' :: ['}'] <+: other ++ '}' :: ('}' :: rest) := by
        have both := (cons_prefix_cons.mp next).2
        rwa [append_eq, append_assoc] at both
      exact distinct (eq_of_separated (not_mem_of_bare bareKey (by decide))
        (not_mem_of_bare bareOther (by decide)) keys)
    · intro starts
      cases other with
      | nil => exact nonempty rfl
      | cons head tail =>
        have next := (cons_prefix_cons.mp (cons_prefix_cons.mp starts).2).1
        exact noBrace (next ▸ mem_cons_self)
  · rw [shape, avoids_append]
    refine ⟨avoids_cons.mpr ⟨?_, avoids_of_not_mem (by simp [noSpace])⟩, avoids_cons.mpr ⟨?_,
      avoids_of_not_mem (by simp [slot, noSpace])⟩⟩
    · intro starts
      have first := (cons_prefix_cons.mp starts).2
      have second := (cons_prefix_cons.mp first).2
      have keys : key ++ ' ' :: slot key <+: other ++ ' ' :: (slot other ++ rest) :=
        (cons_prefix_cons.mp second).2
      exact distinct (eq_of_separated (not_mem_of_bare bareKey (by decide)) noSpace keys)
    · intro starts
      have next := (cons_prefix_cons.mp starts).2
      exact absurd (cons_prefix_cons.mp next).1 (by decide)

end

end Places

/-! ## Putting the values in -/

section Rendering

variable {library : JsonLibrary} {members : List (String × JsonValue)}

abbrev TemplateArgument := String × Bool × Option String

def keyOf (argument : TemplateArgument) : List Char := (sanitizeSegment argument.1).toList

def pendingWords (arguments : List TemplateArgument) : List (List Char) :=
  arguments.flatMap fun argument => ['-' :: '-' :: keyOf argument, slot (keyOf argument)]

/-- What is replaced for an argument: its place, or with it its flag. -/
def replacedText (members : List (String × JsonValue)) (argument : TemplateArgument) : List Char :=
  if (suppliedValue members argument.1).isSome then slot (keyOf argument)
  else optionText (keyOf argument)

section
variable (library : JsonLibrary) (members : List (String × JsonValue)) (argument : TemplateArgument)

def shownWords : List (List Char) :=
  match suppliedValue members argument.1 with
  | some value =>
    ['-' :: '-' :: keyOf argument, (shellEscape (renderValue library value)).toList]
  | none => []

/-- What is run for an argument. -/
def argumentArgs : List String :=
  match suppliedValue members argument.1 with
  | some value => ["--" ++ sanitizeSegment argument.1, renderValue library value]
  | none => []

end

/-- A required argument is missing. -/
def Lacks (members : List (String × JsonValue)) (argument : TemplateArgument) : Prop :=
  argument.2.1 = true ∧ suppliedValue members argument.1 = none

theorem placeholder_toList (key : String) : (placeholder key).toList = slot key.toList := by
  simp [placeholder, slot]

theorem optionText_toList (key : String) :
    (" --" ++ key ++ " " ++ placeholder key).toList = optionText key.toList := by
  simp [placeholder_toList, optionText]

theorem replacedText_eq (members : List (String × JsonValue)) (argument : TemplateArgument) :
    replacedText members argument = slot (keyOf argument) ∨
      replacedText members argument = optionText (keyOf argument) := by
  rw [replacedText]
  split
  · exact Or.inl rfl
  · exact Or.inr rfl

theorem spaced_pendingWords_cons (argument : TemplateArgument) (rest : List TemplateArgument) :
    spaced (pendingWords (argument :: rest)) =
      optionText (keyOf argument) ++ spaced (pendingWords rest) := by
  simp [pendingWords, spaced, optionText]

/-- Keys are bare words that are not empty. -/
def Keyed (arguments : List TemplateArgument) : Prop :=
  ∀ argument ∈ arguments, keyOf argument ≠ [] ∧ ∀ char ∈ keyOf argument, isBareChar char = true

theorem avoids_pending {argument : TemplateArgument} {rest : List TemplateArgument}
    (bare : ∀ char ∈ keyOf argument, isBareChar char = true) (keyed : Keyed rest)
    (distinct : ∀ other ∈ rest, keyOf argument ≠ keyOf other) :
    Avoids (replacedText members argument) (spaced (pendingWords rest)) [] := by
  induction rest with
  | nil => exact avoids_nil
  | cons other rest ih =>
    obtain ⟨⟨nonempty, bareOther⟩, keyedRest⟩ := forall_mem_cons.mp keyed
    obtain ⟨differs, distinctRest⟩ := forall_mem_cons.mp distinct
    rw [spaced_pendingWords_cons, avoids_append]
    exact ⟨avoids_optionText (replacedText_eq members argument) bare bareOther nonempty differs,
      ih keyedRest distinctRest⟩

theorem toList_replace (text pattern replacement : String) :
    (replace text pattern replacement).toList =
      replaceList pattern.toList replacement.toList 0 text.toList := String.toList_ofList

/-- One argument is put in where it stands, or taken out with its flag. -/
theorem replace_argument (library : JsonLibrary) {first : List Char} {done : List (List Char)}
    {argument : TemplateArgument} {rest : List TemplateArgument} {rendered : String}
    (shape : rendered.toList = first ++ spaced (done ++ pendingWords (argument :: rest)))
    (noSpace : ' ' ∉ first) (noBrace : '{' ∉ first) (keyed : Keyed (argument :: rest))
    (distinct : ∀ other ∈ rest, keyOf argument ≠ keyOf other)
    (harmless : ∀ word ∈ done, Harmless (replacedText members argument) word) :
    (∀ value, suppliedValue members argument.1 = some value →
      (replace rendered (placeholder (sanitizeSegment argument.1))
        (shellEscape (renderValue library value))).toList =
        first ++ spaced (done ++ shownWords library members argument ++ pendingWords rest)) ∧
    (suppliedValue members argument.1 = none →
      (replace rendered (" --" ++ sanitizeSegment argument.1 ++ " " ++
        placeholder (sanitizeSegment argument.1)) "").toList =
        first ++ spaced (done ++ shownWords library members argument ++ pendingWords rest)) := by
  obtain ⟨⟨nonempty, bare⟩, keyedRest⟩ := List.forall_mem_cons.mp keyed
  have after : Avoids (replacedText members argument) (spaced (pendingWords rest)) [] :=
    avoids_pending bare keyedRest distinct
  have parts : spaced (done ++ pendingWords (argument :: rest)) =
      spaced done ++ (optionText (keyOf argument) ++ spaced (pendingWords rest)) := by
    rw [← spaced_pendingWords_cons, spaced, List.flatMap_append]
    rfl
  have ends : WordEnd (optionText (keyOf argument) ++ spaced (pendingWords rest)) :=
    Or.inr ⟨'-', _, rfl, by decide⟩
  have beforeDone : Avoids (replacedText members argument) (first ++ spaced done)
      (optionText (keyOf argument) ++ spaced (pendingWords rest)) := by
    refine avoids_append.mpr ⟨?_, avoids_spaced harmless ends⟩
    rcases replacedText_eq members argument with same | same
    · rw [same]
      exact avoids_of_not_mem noBrace
    · rw [same]
      exact avoids_of_not_mem noSpace
  rw [parts, ← List.append_assoc] at shape
  constructor
  · intro value supplied
    rw [replacedText, supplied, Option.isSome_some, if_pos rfl] at after beforeDone
    have flag : optionText (keyOf argument) =
        (' ' :: '-' :: '-' :: (keyOf argument ++ [' '])) ++ slot (keyOf argument) := by
      simp [optionText]
    have noBraceKey : '{' ∉ keyOf argument := not_mem_of_bare bare (by decide)
    have before : Avoids (slot (keyOf argument))
        (first ++ spaced done ++ ' ' :: '-' :: '-' :: (keyOf argument ++ [' ']))
        (slot (keyOf argument) ++ spaced (pendingWords rest)) := by
      refine avoids_append.mpr ⟨?_, avoids_of_not_mem (by simp [noBraceKey])⟩
      rw [flag, List.append_assoc] at beforeDone
      exact beforeDone
    have isSlot : slot (keyOf argument) ≠ [] := List.cons_ne_nil _ _
    have regroup : first ++ spaced done ++
        ((' ' :: '-' :: '-' :: (keyOf argument ++ [' '])) ++ slot (keyOf argument) ++
          spaced (pendingWords rest)) =
        (first ++ spaced done ++ ' ' :: '-' :: '-' :: (keyOf argument ++ [' '])) ++
          (slot (keyOf argument) ++ spaced (pendingWords rest)) := by
      simp only [List.append_assoc]
    rw [toList_replace, placeholder_toList, shape, flag, regroup, ← keyOf,
      Text.replaceList_once isSlot before after, shownWords, supplied]
    simp [spaced]
  · intro missing
    rw [replacedText, missing, Option.isSome_none, if_neg Bool.false_ne_true] at after beforeDone
    have isOption : optionText (keyOf argument) ≠ [] := List.cons_ne_nil _ _
    have nothing : ("" : String).toList = [] := rfl
    rw [toList_replace, optionText_toList, shape, nothing, ← keyOf,
      Text.replaceList_once isOption beforeDone after, shownWords, missing]
    simp [spaced]

theorem renderArguments_run (library : JsonLibrary) {first : List Char} (noSpace : ' ' ∉ first)
    (noBrace : '{' ∉ first) (arguments : List TemplateArgument) (keyed : Keyed arguments)
    (distinct : arguments.Pairwise fun one other => keyOf one ≠ keyOf other)
    (apart : arguments.Pairwise fun earlier later =>
      ∀ word ∈ shownWords library members earlier, Harmless (replacedText members later) word)
    (done : List (List Char))
    (harmless : ∀ argument ∈ arguments, ∀ word ∈ done,
      Harmless (replacedText members argument) word)
    (rendered : String)
    (shape : rendered.toList = first ++ spaced (done ++ pendingWords arguments)) :
    (∃ argument ∈ arguments, Lacks members argument ∧
      renderArguments library members arguments rendered =
        .error (missingArgument argument.1)) ∨
    ∃ text, renderArguments library members arguments rendered = .ok text ∧
      text.toList = first ++ spaced (done ++ arguments.flatMap (shownWords library members)) ∧
      pushArguments library members arguments =
        .ok (arguments.flatMap (argumentArgs library members)) := by
  induction arguments generalizing done rendered with
  | nil => exact Or.inr ⟨rendered, rfl, shape, rfl⟩
  | cons argument rest ih =>
    obtain ⟨distinctHead, distinctRest⟩ := List.pairwise_cons.mp distinct
    obtain ⟨apartHead, apartRest⟩ := List.pairwise_cons.mp apart
    obtain ⟨harmlessHead, harmlessRest⟩ := List.forall_mem_cons.mp harmless
    obtain ⟨whenSupplied, whenMissing⟩ := replace_argument library shape noSpace
      noBrace keyed distinctHead harmlessHead
    have harmlessNext : ∀ other ∈ rest, ∀ word ∈ done ++ shownWords library members argument,
        Harmless (replacedText members other) word := by
      intro other isOther word membership
      rcases List.mem_append.mp membership with before | here
      · exact harmlessRest other isOther word before
      · exact apartHead other isOther word here
    have next := fun text placed => ih (List.forall_mem_cons.mp keyed).2 distinctRest apartRest
      (done ++ shownWords library members argument) harmlessNext text placed
    obtain ⟨name, required, exampleText⟩ := argument
    cases supplied : suppliedValue members name with
    | some value =>
      have run : renderArguments library members ((name, required, exampleText) :: rest)
          rendered = renderArguments library members rest
            (Text.replace rendered (placeholder (sanitizeSegment name))
              (shellEscape (renderValue library value))) := by
        rw [renderArguments, supplied]
      rw [run]
      rcases next _ (whenSupplied value supplied) with
        ⟨other, isOther, lacks, fails⟩ | ⟨text, ran, shown, pushed⟩
      · exact Or.inl ⟨other, List.mem_cons_of_mem _ isOther, lacks, fails⟩
      · refine Or.inr ⟨text, ran, ?_, ?_⟩
        · rw [shown, List.append_assoc, List.flatMap_cons]
        · rw [pushArguments, supplied, pushed, List.flatMap_cons, argumentArgs, supplied]
          rfl
    | none =>
      cases required with
      | true =>
        refine Or.inl ⟨_, List.mem_cons_self, ⟨rfl, supplied⟩, ?_⟩
        rw [renderArguments, supplied]
        rfl
      | false =>
        have run : renderArguments library members ((name, false, exampleText) :: rest)
            rendered = renderArguments library members rest
              (Text.replace rendered (" --" ++ sanitizeSegment name ++ " " ++
                placeholder (sanitizeSegment name)) "") := by
          rw [renderArguments, supplied]
          rfl
        rw [run]
        rcases next _ (whenMissing supplied) with
          ⟨other, isOther, lacks, fails⟩ | ⟨text, ran, shown, pushed⟩
        · exact Or.inl ⟨other, mem_cons_of_mem _ isOther, lacks, fails⟩
        · refine Or.inr ⟨text, ran, ?_, ?_⟩
          · rw [shown, append_assoc, flatMap_cons]
          · rw [pushArguments, supplied, flatMap_cons, argumentArgs, supplied]
            exact pushed

end Rendering

/-! ## Reading the command -/

section Reading

variable {library : JsonLibrary} {members : List (String × JsonValue)}

theorem clean_of_bare {word : List Char} (bare : ∀ char ∈ word, isBareChar char = true) :
    ∀ char ∈ word, isWhitespace char = false ∧ char ≠ '"' := by
  intro char membership
  have isBare := bare char membership
  rw [isBareChar, Bool.and_eq_true, Bool.not_eq_true'] at isBare
  refine ⟨isBare.1, ?_⟩
  rintro rfl
  exact absurd isBare.2 (by decide)

theorem toNat_lt_of_isPlain {char : Char} (plain : isPlain char = true) : char.toNat < 128 := by
  rw [isPlain, Bool.or_eq_true] at plain
  rcases plain with alphanumeric | listed
  · simp only [Char.isAlphanum, Char.isAlpha, Char.isUpper, Char.isLower, Char.isDigit,
      Bool.or_eq_true, Bool.and_eq_true, decide_eq_true_eq, UInt32.le_iff_toNat_le] at alphanumeric
    change char.val.toNat < 128
    have bounds : 'Z'.val.toNat = 90 ∧ 'z'.val.toNat = 122 ∧ '9'.val.toNat = 57 := by decide
    omega
  · have cases : char ∈ ['-', '_', '.', '/', ':'] := by simpa using listed
    simp only [List.mem_cons, List.not_mem_nil, or_false] at cases
    rcases cases with rfl | rfl | rfl | rfl | rfl <;> decide

theorem of_isPlain (test : Char → Bool)
    (tested : ∀ code : Fin 128, isPlain (Char.ofNat code) = true → test (Char.ofNat code) = true)
    {char : Char} (plain : isPlain char = true) : test char = true := by
  have same : Char.ofNat char.toNat = char := Char.ofNat_toNat char
  have holds := tested ⟨char.toNat, toNat_lt_of_isPlain plain⟩
  rw [same] at holds
  exact holds plain

theorem bare_of_isPlain {char : Char} (plain : isPlain char = true) : isBareChar char = true :=
  of_isPlain isBareChar (by decide) plain

theorem isPlain_toLower {char : Char} (plain : isPlain char = true) :
    isPlain char.toLower = true :=
  of_isPlain (fun char => isPlain char.toLower) (by decide) plain

theorem isPlain_sanitizeFrom (text : List Char) (previousDash : Bool) :
    ∀ char ∈ sanitizeFrom previousDash text, isPlain char = true := by
  induction text generalizing previousDash with
  | nil => simp [sanitizeFrom]
  | cons head rest ih =>
    rw [sanitizeFrom]
    split
    · next alphanumeric =>
      exact List.forall_mem_cons.mpr
        ⟨isPlain_toLower (by rw [isPlain, alphanumeric, Bool.true_or]), ih false⟩
    · split
      · exact ih true
      · exact List.forall_mem_cons.mpr ⟨by decide, ih true⟩

theorem bare_sanitizeSegment (value : String) : IsBare (sanitizeSegment value) := by
  intro char membership
  rw [sanitizeSegment, String.toList_ofList, trimMatches, List.mem_reverse] at membership
  have kept := List.mem_reverse.mp ((List.dropWhile_sublist _).subset membership)
  exact bare_of_isPlain
    (isPlain_sanitizeFrom value.toList false char ((List.dropWhile_sublist _).subset kept))

theorem readsAs_bare {word : List Char} (nonempty : word ≠ [])
    (bare : ∀ char ∈ word, isBareChar char = true) : ReadsAs word word :=
  Text.readsAs_plain nonempty (clean_of_bare bare)

theorem readsAs_shellEscape {value : String} (nonempty : value ≠ "")
    (ends : value.toList.getLast? ≠ some '\\') :
    ReadsAs (shellEscape value).toList value.toList := by
  rw [shellEscape]
  split
  · next plain =>
    refine readsAs_bare (fun empty => nonempty (String.toList_inj.mp empty)) ?_
    intro char membership
    exact bare_of_isPlain (List.all_eq_true.mp plain char membership)
  · rw [String.toList_ofList]
    exact Text.readsAs_quoted ends

theorem bare_flag {key : List Char} (bare : ∀ char ∈ key, isBareChar char = true) :
    ∀ char ∈ '-' :: '-' :: key, isBareChar char = true :=
  List.forall_mem_cons.mpr ⟨by decide, List.forall_mem_cons.mpr ⟨by decide, bare⟩⟩

theorem reads_arguments {arguments : List TemplateArgument}
    (values : ∀ argument ∈ arguments, ∀ value, suppliedValue members argument.1 = some value →
      renderValue library value ≠ "" ∧
        (renderValue library value).toList.getLast? ≠ some '\\') :
    List.Forall₂ ReadsAs (arguments.flatMap (shownWords library members))
      ((arguments.flatMap (argumentArgs library members)).map String.toList) := by
  induction arguments with
  | nil => exact List.Forall₂.nil
  | cons argument rest ih =>
    obtain ⟨ofHead, ofRest⟩ := List.forall_mem_cons.mp values
    rw [List.flatMap_cons, List.flatMap_cons, List.map_append]
    refine List.rel_append ?_ (ih ofRest)
    rw [shownWords, argumentArgs]
    cases supplied : suppliedValue members argument.1 with
    | none => exact List.Forall₂.nil
    | some value =>
      obtain ⟨nonempty, ends⟩ := ofHead value supplied
      have flag : ("--" ++ sanitizeSegment argument.1).toList =
          '-' :: '-' :: keyOf argument := by
        simp [keyOf]
      rw [map_cons, map_cons, map_nil, flag]
      exact .cons (readsAs_bare (cons_ne_nil _ _) (bare_flag (bare_sanitizeSegment argument.1)))
        (.cons (readsAs_shellEscape nonempty ends) .nil)

end Reading

/-! ## The words before the arguments -/

section Segments

variable {executable : String}

theorem segmentsOf_skipped {token : String} {rest : List String}
    (skipped : token = executable ∨ contains token "\x7b\x7b" = true) :
    segmentsOf executable (token :: rest) = segmentsOf executable rest := by
  have holds : (token = executable || contains token "\x7b\x7b") = true := by
    rw [Bool.or_eq_true, decide_eq_true_iff]
    exact skipped
  cases rest with
  | nil => simp only [segmentsOf, holds, if_true]
  | cons next more => simp only [segmentsOf, holds, if_true]

theorem segmentsOf_flag {token next : String} {more : List String}
    (kept : ¬(token = executable ∨ contains token "\x7b\x7b" = true))
    (flag : startsWith token "--" = true) (place : Text.contains next "\x7b\x7b" = true) :
    segmentsOf executable (token :: next :: more) = segmentsOf executable more := by
  have fails : (token = executable || Text.contains token "\x7b\x7b") = false := by
    rw [← Bool.not_eq_true, Bool.or_eq_true, decide_eq_true_iff]
    exact kept
  simp only [segmentsOf, fails, flag, place, Bool.and_self, if_true, Bool.false_eq_true, if_false]

theorem segmentsOf_kept {token : String} {rest : List String}
    (kept : ¬(token = executable ∨ Text.contains token "\x7b\x7b" = true))
    (plain : ∀ next ∈ rest.head?, Text.contains next "\x7b\x7b" = false) :
    segmentsOf executable (token :: rest) = token :: segmentsOf executable rest := by
  have fails : (token = executable || Text.contains token "\x7b\x7b") = false := by
    rw [← Bool.not_eq_true, Bool.or_eq_true, decide_eq_true_iff]
    exact kept
  cases rest with
  | nil => simp only [segmentsOf, fails, Bool.false_eq_true, if_false]
  | cons next more =>
    have plainNext := plain next rfl
    rw [segmentsOf.eq_def]
    simp only [fails, plainNext, Bool.and_false, Bool.false_eq_true, if_false]

theorem contains_placeholder (key : String) :
    Text.contains (placeholder key) "\x7b\x7b" = true := by
  rw [Text.contains, decide_eq_true_iff, placeholder_toList]
  exact ⟨[], key.toList ++ ['}', '}'], rfl⟩

theorem not_contains_of_bare {word : String} (bare : IsBare word) :
    Text.contains word "\x7b\x7b" = false := by
  rw [Text.contains, decide_eq_false_iff_not]
  intro inside
  exact not_mem_of_bare bare (show isBareChar '{' = false by decide)
    (inside.subset List.mem_cons_self)

def pendingTokens (arguments : List TemplateArgument) : List String :=
  arguments.flatMap fun argument =>
    ["--" ++ sanitizeSegment argument.1, placeholder (sanitizeSegment argument.1)]

theorem bare_flagToken (name : String) : IsBare ("--" ++ sanitizeSegment name) := by
  rw [IsBare, String.toList_append]
  exact bare_flag (bare_sanitizeSegment name)

theorem segmentsOf_pendingTokens (arguments : List TemplateArgument) :
    segmentsOf executable (pendingTokens arguments) = [] := by
  induction arguments with
  | nil => rfl
  | cons argument rest ih =>
    have shape : pendingTokens (argument :: rest) = ("--" ++ sanitizeSegment argument.1) ::
        placeholder (sanitizeSegment argument.1) :: pendingTokens rest := rfl
    have holds := contains_placeholder (sanitizeSegment argument.1)
    have isFlag : startsWith ("--" ++ sanitizeSegment argument.1) "--" = true :=
      Text.startsWith_iff_exists.mpr ⟨_, rfl⟩
    rw [shape]
    by_cases skipped : ("--" ++ sanitizeSegment argument.1) = executable ∨
        contains ("--" ++ sanitizeSegment argument.1) "\x7b\x7b" = true
    · rw [segmentsOf_skipped skipped, segmentsOf_skipped (Or.inr holds), ih]
    · rw [segmentsOf_flag skipped isFlag holds, ih]

theorem segmentsOf_words {words : List String} (arguments : List TemplateArgument)
    (bare : ∀ word ∈ words, IsBare word) (others : ∀ word ∈ words, word ≠ executable) :
    segmentsOf executable (words ++ pendingTokens arguments) = words := by
  induction words with
  | nil => exact segmentsOf_pendingTokens arguments
  | cons word words ih =>
    obtain ⟨bareWord, bareWords⟩ := List.forall_mem_cons.mp bare
    obtain ⟨notExecutable, othersRest⟩ := List.forall_mem_cons.mp others
    have rests := ih bareWords othersRest
    have nextBare : ∀ next ∈ (words ++ pendingTokens arguments).head?, IsBare next := by
      intro next isNext
      cases words with
      | nil =>
        cases arguments with
        | nil => exact absurd isNext.symm (Option.some_ne_none _)
        | cons argument arguments =>
          rw [← Option.some.inj isNext]
          exact bare_flagToken argument.1
      | cons first words =>
        rw [← Option.some.inj isNext]
        exact bareWords first List.mem_cons_self
    have kept : ¬(word = executable ∨ Text.contains word "\x7b\x7b" = true) := by
      rw [not_contains_of_bare bareWord]
      simp [notExecutable]
    rw [List.cons_append, segmentsOf_kept kept
      fun next isNext => not_contains_of_bare (nextBare next isNext), rests]

end Segments

theorem map_ofList_toList (words : List String) :
    (words.map String.toList).map String.ofList = words := by
  rw [List.map_map]
  exact (List.map_congr_left fun word _ => String.ofList_toList).trans (List.map_id _)

theorem trim_of_ends {text : String} {head : Char} {tail body : List Char} {last : Char}
    (begins : text.toList = head :: tail) (ends : text.toList = body ++ [last])
    (headVisible : isWhitespace head = false) (lastVisible : isWhitespace last = false) :
    Text.trim text = text := by
  have front : text.toList.dropWhile isWhitespace = text.toList := by
    rw [begins, List.dropWhile_cons_of_neg (by simp [headVisible])]
  have back : text.toList.reverse.dropWhile isWhitespace = text.toList.reverse := by
    rw [ends, List.reverse_append, List.reverse_singleton, List.singleton_append,
      List.dropWhile_cons_of_neg (by simp [lastVisible])]
  rw [Text.trim, front, back, List.reverse_reverse, String.ofList_toList]

namespace McpToolForgeRequest

variable (request : McpToolForgeRequest)

def templateArguments : List TemplateArgument :=
  request.arguments.map fun argument => (argument.name, argument.required, argument.exampleText)

/-- The words of the template behind the executable. -/
def templateWords : List (List Char) :=
  request.fixedWords.map String.toList ++ pendingWords request.templateArguments

theorem template_toList :
    request.buildCommandTemplate.toList =
      request.executable.toList ++ spaced request.templateWords := by
  rw [buildCommandTemplate, List.cons_append, List.cons_append, Text.joinWith_spaced,
    templateWords, fixedWords, pendingWords, templateArguments]
  simp [spaced, List.flatMap_map, List.flatMap_assoc, keyOf, slot]

/-- The values are shown as they are run: no word before the arguments is lost, no value is
empty or escapes its closing quote, and none is taken for the place of a later argument. -/
structure Unambiguous (library : JsonLibrary) (members : List (String × JsonValue)) : Prop where
  words : ∀ word ∈ request.fixedWords, word ≠ "" ∧ word ≠ request.executable
  values : ∀ argument ∈ request.templateArguments, ∀ value,
    suppliedValue members argument.1 = some value →
      renderValue library value ≠ "" ∧
        (renderValue library value).toList.getLast? ≠ some '\\'
  apart : request.templateArguments.Pairwise fun earlier later => ∀ value,
    suppliedValue members earlier.1 = some value →
      ¬replacedText members later <:+: (shellEscape (renderValue library value)).toList

variable {request} {library : JsonLibrary} {members : List (String × JsonValue)}

section
variable (displayable : request.Displayable)
include displayable

theorem Displayable.keyed :
    Keyed request.templateArguments := by
  intro argument isArgument
  obtain ⟨spec, isSpec, rfl⟩ := List.mem_map.mp isArgument
  refine ⟨fun empty => displayable.named ?_, bare_sanitizeSegment spec.name⟩
  have noSlug : sanitizeSegment spec.name = "" := String.toList_inj.mp empty
  rw [← noSlug]
  exact List.mem_map_of_mem isSpec

theorem Displayable.keys :
    request.templateArguments.Pairwise fun one other => keyOf one ≠ keyOf other := by
  have distinct := displayable.distinct
  rw [slugs, List.Nodup, List.pairwise_map] at distinct
  rw [templateArguments, List.pairwise_map]
  exact distinct.imp fun differs same => differs (String.toList_inj.mp same)

theorem Displayable.words_visible (words : ∀ word ∈ request.fixedWords, word ≠ "") :
    ∀ word ∈ request.templateWords, word ≠ [] ∧ ∀ char ∈ word, isWhitespace char = false := by
  intro word isWord
  rcases List.mem_append.mp isWord with isFixed | isPending
  · obtain ⟨text, isText, rfl⟩ := List.mem_map.mp isFixed
    exact ⟨fun empty => words text isText (String.toList_inj.mp empty),
      fun char isChar => (clean_of_bare (displayable.bareWords text isText) char isChar).1⟩
  · obtain ⟨argument, isArgument, isPart⟩ := List.mem_flatMap.mp isPending
    obtain ⟨-, bare⟩ := displayable.keyed argument isArgument
    rcases List.mem_cons.mp isPart with rfl | isSlot
    · exact ⟨List.cons_ne_nil _ _,
        fun char isChar => (clean_of_bare (bare_flag bare) char isChar).1⟩
    · rw [List.mem_singleton.mp isSlot]
      refine ⟨List.cons_ne_nil _ _, fun char isChar => ?_⟩
      simp only [slot, List.mem_cons, List.mem_append, List.not_mem_nil, or_false] at isChar
      rcases isChar with rfl | rfl | isKey | rfl | rfl
      · decide
      · decide
      · exact (clean_of_bare bare char isKey).1
      · decide
      · decide

end

theorem visible_ends {word : List Char} (nonempty : word ≠ [])
    (visible : ∀ char ∈ word, isWhitespace char = false) (before : List Char) :
    ∃ body last, before ++ word = body ++ [last] ∧ isWhitespace last = false := by
  rcases List.eq_nil_or_concat word with rfl | ⟨body, last, rfl⟩
  · exact absurd rfl nonempty
  · refine ⟨before ++ body, last, by simp, visible last (by simp)⟩

theorem Displayable.segments (displayable : request.Displayable)
    (nonempty : request.executable ≠ "")
    (words : ∀ word ∈ request.fixedWords, word ≠ "" ∧ word ≠ request.executable) :
    segmentsOf (Text.trim request.executable) (Text.splitWhitespace
      (withoutPrefix (Text.trim request.executable) (Text.trim request.buildCommandTemplate))) =
        request.fixedWords := by
  have visibleWords := displayable.words_visible fun word isWord => (words word isWord).1
  have nonemptyList : request.executable.toList ≠ [] :=
    fun empty => nonempty (String.toList_inj.mp empty)
  have visible : ∀ char ∈ request.executable.toList, isWhitespace char = false :=
    fun char isChar => (clean_of_bare displayable.bareExecutable char isChar).1
  obtain ⟨head, tail, begins⟩ := List.exists_cons_of_ne_nil nonemptyList
  have headVisible : isWhitespace head = false :=
    visible head (by rw [begins]; exact List.mem_cons_self)
  obtain ⟨body, last, ends, lastVisible⟩ := visible_ends nonemptyList visible []
  have trimmed : Text.trim request.executable = request.executable :=
    trim_of_ends begins ends headVisible lastVisible
  have templateEnds : ∃ body last, request.executable.toList ++ spaced request.templateWords =
      body ++ [last] ∧ isWhitespace last = false := by
    rcases List.eq_nil_or_concat request.templateWords with empty | ⟨earlier, final, shape⟩
    · exact ⟨body, last, by rw [empty, ← ends]; simp [spaced], lastVisible⟩
    · obtain ⟨finalNonempty, finalVisible⟩ := visibleWords final (by rw [shape]; simp)
      obtain ⟨body, last, ends, lastVisible⟩ := visible_ends finalNonempty finalVisible
        (request.executable.toList ++ (spaced earlier ++ [' ']))
      exact ⟨body, last, by rw [shape, ← ends]; simp [spaced], lastVisible⟩
  obtain ⟨templateBody, templateLast, templateShape, templateVisible⟩ := templateEnds
  have trimmedTemplate : Text.trim request.buildCommandTemplate = request.buildCommandTemplate := by
    have templateBegins : request.buildCommandTemplate.toList =
        head :: (tail ++ spaced request.templateWords) := by
      rw [request.template_toList, begins, List.cons_append]
    exact trim_of_ends templateBegins (request.template_toList.trans templateShape) headVisible
      templateVisible
  have wordsSplit := Text.splitWhitespace_spaced
    (fun word (isWord : word ∈ request.templateWords) => (visibleWords word isWord).2) [] (by simp)
  have allKept : ([] :: request.templateWords).filter (· ≠ []) = request.templateWords := by
    rw [List.filter_cons_of_neg (by simp), List.filter_eq_self]
    intro word isWord
    simpa using (visibleWords word isWord).1
  have tokens : request.templateWords.map String.ofList =
      request.fixedWords ++ pendingTokens request.templateArguments := by
    rw [templateWords, List.map_append, map_ofList_toList, pendingWords, pendingTokens,
      List.map_flatMap]
    refine congrArg _ (List.flatMap_congr fun argument _ => ?_)
    have flag : String.ofList ('-' :: '-' :: keyOf argument) =
        "--" ++ sanitizeSegment argument.1 := by
      rw [← String.toList_inj]
      simp [keyOf]
    rw [map_cons, map_singleton, flag, keyOf, ← placeholder_toList, String.ofList_toList]
  rw [trimmed, trimmedTemplate, withoutPrefix, request.template_toList,
    if_pos (prefix_append _ _), drop_left, splitWhitespace, String.toList_ofList]
  rw [nil_append] at wordsSplit
  rw [wordsSplit, allKept, tokens]
  exact segmentsOf_words _ displayable.bareWords fun word isWord => (words word isWord).2

end McpToolForgeRequest

section Displayed

variable {F : Type} [FloatOps F] {hash : DefaultHasher} {toolName server : String}
  {request : McpToolForgeRequest} {nowMs : UInt64} {manifest : ForgedMcpToolManifest F}
  {library : JsonLibrary} {members : List (String × JsonValue)}

theorem built_command (built : buildManifest hash toolName server request nowMs = .ok manifest) :
    request.executable ≠ "" ∧ manifest.executable = request.executable ∧
      manifest.commandTemplate = request.buildCommandTemplate ∧
      manifest.payloadTemplate.arguments = request.templateArguments := by
  rw [buildManifest] at built
  split at built
  · exact absurd built (by simp)
  · next nonempty =>
    refine ⟨?_, ?_⟩
    · intro empty
      rw [empty] at nonempty
      exact nonempty rfl
    · rw [← Except.ok.inj built, ForgedMcpToolManifest.govern]
      split <;> exact ⟨rfl, rfl, rfl⟩

theorem harmless_shownWords {earlier later : TemplateArgument}
    (keyedEarlier : ∀ char ∈ keyOf earlier, isBareChar char = true)
    (keyedLater : ∀ char ∈ keyOf later, isBareChar char = true)
    (nonempty : ∀ value, suppliedValue members earlier.1 = some value →
      renderValue library value ≠ "")
    (apart : ∀ value, suppliedValue members earlier.1 = some value →
      ¬replacedText members later <:+: (shellEscape (renderValue library value)).toList) :
    ∀ word ∈ shownWords library members earlier, Harmless (replacedText members later) word := by
  intro word isWord
  rw [shownWords] at isWord
  cases supplied : suppliedValue members earlier.1 with
  | none =>
    rw [supplied] at isWord
    exact absurd isWord not_mem_nil
  | some value =>
    rw [supplied] at isWord
    have separate := apart value supplied
    rcases mem_cons.mp isWord with rfl | isValue
    · exact harmless_bare (replacedText_eq members later) keyedLater (cons_ne_nil _ _)
        (bare_flag keyedEarlier)
    · rw [mem_singleton.mp isValue]
      rw [shellEscape] at separate ⊢
      split at separate
      · next plain =>
        rw [if_pos plain]
        refine harmless_bare (replacedText_eq members later) keyedLater
          (fun empty => nonempty value supplied (String.toList_inj.mp empty)) ?_
        intro char membership
        exact bare_of_isPlain (all_eq_true.mp plain char membership)
      · next special =>
        rw [if_neg special, String.toList_ofList]
        rw [String.toList_ofList] at separate
        exact harmless_quoted (replacedText_eq members later) keyedLater separate

end Displayed

/-- A tool with one argument that may be left out. -/
def themeRequest : McpToolForgeRequest where
  server := none
  capabilityName := "theme"
  purpose := "Pick a theme"
  executable := "theme-cli"
  subcommands := []
  jsonFlag := none
  arguments := [⟨"theme", "Name of the theme", false, none⟩]
  outputMode := .json
  successSignal := none
  workingDirectory := none
  examples := []
  tags := []
  scope := none
  requestedBy := none
  signer := none
  sourceRepo := none
  sourceRef := some "v1.0"
  sbomComponents := []

def themeText (value : String) : String := "\x7b\"theme\":\"" ++ value ++ "\"\x7d"

/-- Two texts are read, and any other is refused. -/
def themeLibrary : JsonLibrary where
  fromStr text :=
    match (["dark", ""].map fun value => (themeText value, value)).lookup text with
    | some value => .ok (.object [("theme", .string value)])
    | none => .error "expected value at line 1 column 1"
  numberText _ := "0"
  objectText _ := "\x7b\x7d"

theorem themeRequest_displayable : themeRequest.Displayable := by
  refine ⟨?_, ?_, by decide, by decide⟩
  · have bare : "theme-cli".toList.all isBareChar = true := by decide
    exact all_eq_true.mp bare
  · exact fun word isWord => absurd isWord not_mem_nil

theorem themeRequest_built : ∃ manifest : ForgedMcpToolManifest ℚ,
    buildManifest (fun _ => 0) "mcp::local-mcp::theme" "local-mcp" themeRequest 0 =
      .ok manifest :=
  ⟨_, if_neg (by decide +kernel)⟩

end AutoLoop.Tools
