import AutoLoop.GitmemoryCore.MarkdownCompiler

/-!
# The blocks of a source

The loop over the lines leaves blocks that are told by the lines alone: each is the
frontmatter, a heading, a list item, a whole paragraph or a whole code fence, and the blocks
stand side by side with nothing but blank lines between them.
-/

namespace AutoLoop.GitmemoryCore.IncrementalCompiler

open Text ScannedBlock List ScanState

/-! ## Lines -/

section Lines

variable (lines : List String) (front : Nat)

/-- A line without surrounding whitespace, counted from one. -/
def lineText (number : Nat) : String := trim (lines.getD (number - 1) "")

def fenceOpen : Nat → Bool
  | 0 => false
  | number + 1 =>
    if number < front then false
    else if IsFence (lineText lines (number + 1)) then !fenceOpen number
    else fenceOpen number

/-- A line behind the frontmatter that is no part of a code fence. -/
structure Loose (number : Nat) : Prop where
  behind : front < number
  notFence : ¬IsFence (lineText lines number)
  outside : fenceOpen lines front (number - 1) = false

structure Heading (number : Nat) : Prop extends Loose lines front number where
  isHeading : IsHeading (lineText lines number)

structure Item (number : Nat) : Prop extends Loose lines front number where
  notHeading : ¬IsHeading (lineText lines number)
  isItem : IsItem (lineText lines number)

/-- A line of a paragraph. -/
structure Plain (number : Nat) : Prop extends Loose lines front number where
  notHeading : ¬IsHeading (lineText lines number)
  notItem : ¬IsItem (lineText lines number)
  notBlank : lineText lines number ≠ ""

/-- A whole paragraph. -/
structure Paragraph (first last : Nat) : Prop where
  order : first ≤ last
  plain : ∀ number, first ≤ number → number ≤ last → Plain lines front number
  begins : ¬Plain lines front (first - 1)
  ends : ¬Plain lines front (last + 1)

def gathered (first last : Nat) : String :=
  joinLines ((List.range' first (last + 1 - first)).map (lineText lines))

def paragraphText (first last : Nat) : String := trim (gathered lines first last)

inductive Told (file : String) : ScannedBlock → Prop
  | frontmatter (taken : front ≠ 0) : Told file ⟨sanitize file ++ ":frontmatter", .frontmatter, 1,
      front, frontmatterText lines (front - 1), []⟩
  | heading (number : Nat) (is : Heading lines front number) : Told file
      ⟨sanitize file ++ ":h:" ++ (headingLevel (lineText lines number)).repr ++ ":" ++
        number.repr, .heading, number, number, lineText lines number,
        extractRefs (lineText lines number) file⟩
  | item (number : Nat) (is : Item lines front number) : Told file
      ⟨sanitize file ++ ":li:" ++ number.repr, .listItem, number, number, lineText lines number,
        extractRefs (lineText lines number) file⟩
  | paragraph (first last : Nat) (is : Paragraph lines front first last) : Told file
      ⟨sanitize file ++ ":p:" ++ first.repr, .paragraph, first, last,
        paragraphText lines first last, extractRefs (paragraphText lines first last) file⟩
  | codeFence (first last : Nat) (behind : front < first) (order : first < last)
      (opens : IsFence (lineText lines first))
      (inside : ∀ number, first < number → number ≤ last →
        fenceOpen lines front (number - 1) = true) : Told file
      ⟨sanitize file ++ ":code:" ++ first.repr, .codeFence, first, last, "code-fence", []⟩

end Lines

/-! ## Texts that are not blank -/

theorem exists_of_trim_ne {text : String} (notBlank : trim text ≠ "") :
    ∃ char ∈ (trim text).toList, isWhitespace char = false := by
  have nonempty : ((text.toList.dropWhile isWhitespace).reverse.dropWhile isWhitespace) ≠ [] := by
    intro none
    apply notBlank
    rw [trim, none]
    rfl
  refine ⟨_, ?_, head_dropWhile_not isWhitespace nonempty⟩
  rw [trim, String.toList_ofList, mem_reverse]
  exact head_mem nonempty

theorem trim_ne_of_mem {text : String} {char : Char} (isChar : char ∈ text.toList)
    (visible : isWhitespace char = false) : trim text ≠ "" := by
  intro blank
  have letters := congrArg String.toList blank
  rw [trim, String.toList_ofList] at letters
  have none : (text.toList.dropWhile isWhitespace).reverse.dropWhile isWhitespace = [] :=
    reverse_eq_nil_iff.mp letters
  rw [dropWhile_eq_nil_iff] at none
  have kept : char ∈ text.toList.dropWhile isWhitespace := by
    have parts := takeWhile_append_dropWhile (p := isWhitespace) (l := text.toList)
    rw [← parts] at isChar
    rcases mem_append.mp isChar with dropped | kept
    · exact absurd (mem_takeWhile_imp dropped) (Bool.eq_false_iff.mp visible)
    · exact kept
  exact absurd (none char (mem_reverse.mpr kept)) (Bool.eq_false_iff.mp visible)

section Gathering

variable {lines : List String} {front : Nat}

theorem joinWith_snoc (separator : Char) {texts : List String} (someone : texts ≠ [])
    (text : String) : joinWith separator (texts ++ [text]) =
      joinWith separator texts ++ String.singleton separator ++ text := by
  induction texts with
  | nil => exact absurd rfl someone
  | cons first rest ih =>
    cases rest with
    | nil => rfl
    | cons second rest =>
      have inner := ih (cons_ne_nil _ _)
      rw [cons_append, cons_append, joinWith, ← cons_append, inner, joinWith]
      simp only [String.append_assoc]

theorem gathered_single (first : Nat) : gathered lines first first = lineText lines first := by
  rw [gathered, Nat.add_sub_cancel_left]
  rfl

section
variable {first last : Nat} (order : first ≤ last)
include order

theorem gathered_succ :
    gathered lines first (last + 1) = gathered lines first last ++ "\n" ++
      lineText lines (last + 1) := by
  have longer : last + 1 + 1 - first = last + 1 - first + 1 := by omega
  have isNext : first + (last + 1 - first) = last + 1 := by omega
  rw [gathered, longer, range'_concat, map_append, map_singleton, Nat.one_mul, isNext]
  refine joinWith_snoc '\n' ?_ _
  simp only [ne_eq, map_eq_nil_iff, range'_eq_nil_iff]
  omega

section
variable (notBlank : lineText lines first ≠ "")
include notBlank

theorem gathered_visible :
    ∃ char ∈ (gathered lines first last).toList, isWhitespace char = false := by
  obtain ⟨char, isChar, visible⟩ := exists_of_trim_ne notBlank
  refine ⟨char, ?_, visible⟩
  induction last, order using Nat.le_induction with
  | base =>
    rw [gathered_single]
    exact isChar
  | succ last order ih =>
    rw [gathered_succ order, String.toList_append, String.toList_append]
    exact mem_append_left _ (mem_append_left _ ih)

theorem gathered_ne : gathered lines first last ≠ "" := by
  intro blank
  obtain ⟨char, isChar, -⟩ := gathered_visible order notBlank
  rw [blank] at isChar
  exact absurd isChar not_mem_nil

theorem paragraphText_ne : paragraphText lines first last ≠ "" := by
  obtain ⟨char, isChar, visible⟩ := gathered_visible order notBlank
  exact trim_ne_of_mem isChar visible

end

end

end Gathering

/-! ## The loop -/

section Loop

variable {lines : List String} {front : Nat} {file : String}

/-- The blocks so far stand one behind the other and take every line before a bound that is
not blank. -/
structure Settled (lines : List String) (front : Nat) (file : String)
    (blocks : List ScannedBlock) (dependencies : Finset String) (bound : Nat) : Prop where
  told : ∀ block ∈ blocks, Told lines front file block
  starts : ∀ block ∈ blocks, 1 ≤ block.startLine ∧ block.startLine ≤ block.endLine
  ordered : blocks.Pairwise fun first second => first.endLine < second.startLine
  before : ∀ block ∈ blocks, block.endLine < bound
  covered : ∀ number, 1 ≤ number → number < bound → lineText lines number ≠ "" →
    ∃ block ∈ blocks, block.startLine ≤ number ∧ number ≤ block.endLine
  named : ∀ dependency, dependency ∈ dependencies ↔
    ∃ block ∈ blocks, dependency ∈ block.references

section
variable {blocks : List ScannedBlock} {dependencies : Finset String} {bound : Nat}
  (settled : Settled lines front file blocks dependencies bound)
include settled

theorem Settled.push {block : ScannedBlock} (told : Told lines front file block)
    (positive : 1 ≤ bound) (starts : block.startLine = bound) (order : bound ≤ block.endLine) :
    Settled lines front file (blocks ++ [block]) (dependencies ∪ block.references.toFinset)
      (block.endLine + 1) where
  told := forall_mem_append.mpr ⟨settled.told, forall_mem_singleton.mpr told⟩
  starts := forall_mem_append.mpr ⟨settled.starts, forall_mem_singleton.mpr
    ⟨starts ▸ positive, starts ▸ order⟩⟩
  ordered := by
    rw [pairwise_append]
    refine ⟨settled.ordered, pairwise_singleton _ _, ?_⟩
    intro first isFirst second isSecond
    rw [mem_singleton.mp isSecond, starts]
    exact settled.before first isFirst
  before := forall_mem_append.mpr ⟨fun earlier isEarlier =>
    (settled.before earlier isEarlier).trans_le (order.trans (Nat.le_succ _)),
    forall_mem_singleton.mpr (Nat.lt_succ_self _)⟩
  covered number isLine below notBlank := by
    by_cases earlier : number < bound
    · obtain ⟨found, isFound, within⟩ := settled.covered number isLine earlier notBlank
      exact ⟨found, mem_append_left _ isFound, within⟩
    · refine ⟨block, mem_append_right _ mem_cons_self, ?_, Nat.lt_succ_iff.mp below⟩
      rw [starts]
      exact Nat.le_of_not_lt earlier
  named dependency := by
    rw [Finset.mem_union, settled.named, mem_toFinset]
    simp only [mem_append, mem_singleton, or_and_right, exists_or, exists_eq_left]

theorem Settled.blank (isBlank : lineText lines bound = "") :
    Settled lines front file blocks dependencies (bound + 1) where
  told := settled.told
  starts := settled.starts
  ordered := settled.ordered
  before block isBlock := (settled.before block isBlock).trans (Nat.lt_succ_self _)
  covered number isLine below notBlank := by
    rcases Nat.lt_succ_iff_lt_or_eq.mp below with earlier | rfl
    · exact settled.covered number isLine earlier notBlank
    · exact absurd isBlank notBlank
  named := settled.named

end

/-- Where the block that is not finished begins, or else the next line. -/
def ScanState.pending (state : ScanState) (next : Nat) : Nat :=
  if state.inCodeFence then state.codeStart else state.paragraphStart.getD next

structure Follows (lines : List String) (front : Nat) (file : String) (number : Nat)
    (state : ScanState) : Prop where
  fence : state.inCodeFence = fenceOpen lines front number
  opened : state.inCodeFence = true → state.paragraphStart = none ∧ front < state.codeStart ∧
    state.codeStart ≤ number ∧ IsFence (lineText lines state.codeStart) ∧
    ∀ line, state.codeStart < line → line ≤ number + 1 → fenceOpen lines front (line - 1) = true
  paragraph : ∀ first, state.paragraphStart = some first → first ≤ number ∧
    (∀ line, first ≤ line → line ≤ number → Plain lines front line) ∧
    ¬Plain lines front (first - 1) ∧ state.paragraphBuf = gathered lines first number
  between : state.paragraphStart = none → state.paragraphBuf = "" ∧ ¬Plain lines front number
  settled : Settled lines front file state.blocks state.dependencies
    (state.pending (number + 1))

theorem Follows.flush {number : Nat} {state : ScanState}
    (follows : Follows lines front file number state) (finished : ¬Plain lines front (number + 1)) :
    ∃ blocks dependencies, flushParagraph file number state =
        { state with paragraphStart := none, paragraphBuf := "", blocks, dependencies } ∧
      Settled lines front file blocks dependencies
        (if state.inCodeFence then state.codeStart else number + 1) := by
  have settled := follows.settled
  rw [pending] at settled
  cases isStart : state.paragraphStart with
  | none =>
    refine ⟨state.blocks, state.dependencies, ?_, ?_⟩
    · have isBuf := (follows.between isStart).1
      have same : flushParagraph file number state = state := by
        rw [flushParagraph, isStart]
      rw [same]
      obtain ⟨_, _, _, _, _, _, _, _⟩ := state
      cases isStart
      cases isBuf
      rfl
    · rw [isStart] at settled
      exact settled
  | some first =>
    obtain ⟨order, plain, begins, isBuf⟩ := follows.paragraph first isStart
    have outside : ¬state.inCodeFence = true := by
      intro inside
      rw [(follows.opened inside).1] at isStart
      cases isStart
    have isFirst := plain first le_rfl order
    have notBlank : ¬trim state.paragraphBuf = "" := by
      rw [isBuf]
      exact paragraphText_ne order isFirst.notBlank
    rw [if_neg outside, isStart, Option.getD_some] at settled
    have pushed := settled.push (.paragraph first number ⟨order, plain, begins, finished⟩)
      (Nat.succ_le_of_lt (Nat.zero_lt_of_lt isFirst.behind)) rfl order
    let block : ScannedBlock := ⟨sanitize file ++ ":p:" ++ first.repr, .paragraph, first, number,
      paragraphText lines first number, extractRefs (paragraphText lines first number) file⟩
    refine ⟨state.blocks ++ [block], state.dependencies ∪ block.references.toFinset, ?_, ?_⟩
    · rw [flushParagraph, isStart]
      simp only
      rw [if_neg notBlank, Nat.max_eq_left order, isBuf]
      rfl
    · rw [if_neg outside]
      exact pushed

theorem Follows.scan {number : Nat} {state : ScanState} {line : String}
    (follows : Follows lines front file number state) (behind : front ≤ number)
    (isLine : trim line = lineText lines (number + 1)) :
    Follows lines front file (number + 1) (scanLine file (number + 1) line state) := by
  have afterFence (isFence : IsFence (lineText lines (number + 1))) :
      fenceOpen lines front (number + 1) = !fenceOpen lines front number := by
    rw [fenceOpen, if_neg (Nat.not_lt.mpr behind), if_pos isFence]
  rw [scanLine, isLine]
  simp only [Nat.add_sub_cancel]
  by_cases isFence : IsFence (lineText lines (number + 1))
  · have notPlain : ∀ {line}, line = number + 1 → ¬Plain lines front line := by
      rintro _ rfl plain
      exact plain.notFence isFence
    obtain ⟨blocks, dependencies, flushed, settled⟩ := follows.flush (notPlain rfl)
    rw [if_pos isFence, flushed]
    by_cases inside : state.inCodeFence = true
    · obtain ⟨-, codeBehind, order, opens, isInside⟩ := follows.opened inside
      rw [if_pos inside] at settled
      simp only [inside, if_true]
      refine ⟨?_, nofun, nofun, fun _ => ⟨rfl, notPlain rfl⟩, ?_⟩
      · change false = _
        rw [afterFence isFence, ← follows.fence, inside]
        rfl
      · exact settled.push
          (.codeFence state.codeStart (number + 1) codeBehind (Nat.lt_succ_of_le order) opens
            isInside)
          (Nat.succ_le_of_lt (Nat.zero_lt_of_lt codeBehind)) rfl (Nat.le_succ_of_le order)
    · rw [if_neg inside] at settled
      simp only [Bool.eq_false_iff.mpr inside, Bool.false_eq_true, if_false]
      have nowOpen : fenceOpen lines front (number + 1) = true := by
        rw [afterFence isFence, ← follows.fence, Bool.eq_false_iff.mpr inside]
        rfl
      refine ⟨nowOpen.symm, fun _ => ⟨rfl, Nat.lt_succ_of_le behind, le_rfl, isFence, ?_⟩, nofun,
        fun _ => ⟨rfl, notPlain rfl⟩, settled⟩
      intro line after within
      change number + 1 < line at after
      have isNext : line - 1 = number + 1 := by omega
      rw [isNext, nowOpen]
  · rw [if_neg isFence]
    have sameFence : fenceOpen lines front (number + 1) = fenceOpen lines front number := by
      rw [fenceOpen, if_neg (Nat.not_lt.mpr behind), if_neg isFence]
    by_cases inside : state.inCodeFence = true
    · rw [if_pos inside]
      obtain ⟨noStart, codeBehind, order, opens, isInside⟩ := follows.opened inside
      have nowOpen : fenceOpen lines front (number + 1) = true := by
        rw [sameFence, ← follows.fence, inside]
      refine ⟨inside.trans nowOpen.symm, fun _ => ⟨noStart, codeBehind, Nat.le_succ_of_le order,
        opens, ?_⟩, ?_, fun _ => ⟨(follows.between noStart).1, fun plain => ?_⟩, ?_⟩
      · intro line after within
        rcases Nat.lt_or_eq_of_le within with earlier | rfl
        · exact isInside line after (Nat.lt_succ_iff.mp earlier)
        · exact nowOpen
      · intro first isStart
        rw [noStart] at isStart
        cases isStart
      · have outside := plain.outside
        rw [Nat.add_sub_cancel, ← follows.fence, inside] at outside
        cases outside
      · have settled := follows.settled
        rw [pending, if_pos inside] at settled ⊢
        exact settled
    · rw [if_neg inside]
      have outside : fenceOpen lines front (number + 1 - 1) = false := by
        rw [Nat.add_sub_cancel, ← follows.fence]
        exact Bool.eq_false_iff.mpr inside
      have loose : Loose lines front (number + 1) :=
        ⟨Nat.lt_succ_of_le behind, isFence, outside⟩
      have nowFence : state.inCodeFence = fenceOpen lines front (number + 1) :=
        follows.fence.trans sameFence.symm
      by_cases isHeading : IsHeading (lineText lines (number + 1))
      · rw [if_pos isHeading]
        have notPlain : ¬Plain lines front (number + 1) := fun plain => plain.notHeading isHeading
        obtain ⟨blocks, dependencies, flushed, settled⟩ := follows.flush notPlain
        rw [flushed]
        rw [if_neg inside] at settled
        refine ⟨nowFence, fun impossible => absurd impossible inside, nofun,
          fun _ => ⟨rfl, notPlain⟩, ?_⟩
        rw [pending]
        exact (if_neg inside).symm ▸ settled.push (.heading (number + 1) ⟨loose, isHeading⟩)
          (Nat.succ_pos _) rfl le_rfl
      · rw [if_neg isHeading]
        by_cases isItem : IsItem (lineText lines (number + 1))
        · rw [if_pos isItem]
          have notPlain : ¬Plain lines front (number + 1) := fun plain => plain.notItem isItem
          obtain ⟨blocks, dependencies, flushed, settled⟩ := follows.flush notPlain
          rw [flushed]
          rw [if_neg inside] at settled
          refine ⟨nowFence, fun impossible => absurd impossible inside, nofun,
            fun _ => ⟨rfl, notPlain⟩, ?_⟩
          rw [pending]
          exact (if_neg inside).symm ▸ settled.push
            (.item (number + 1) ⟨loose, isHeading, isItem⟩) (Nat.succ_pos _) rfl le_rfl
        · rw [if_neg isItem]
          by_cases isBlank : lineText lines (number + 1) = ""
          · rw [if_pos isBlank]
            have notPlain : ¬Plain lines front (number + 1) := fun plain => plain.notBlank isBlank
            obtain ⟨blocks, dependencies, flushed, settled⟩ := follows.flush notPlain
            rw [flushed]
            rw [if_neg inside] at settled
            refine ⟨nowFence, fun impossible => absurd impossible inside, nofun,
              fun _ => ⟨rfl, notPlain⟩, ?_⟩
            rw [pending]
            exact (if_neg inside).symm ▸ settled.blank isBlank
          · rw [if_neg isBlank]
            have plain : Plain lines front (number + 1) := ⟨loose, isHeading, isItem, isBlank⟩
            have settled := follows.settled
            rw [pending, if_neg inside] at settled
            refine ⟨nowFence, fun impossible => absurd impossible inside, ?_, nofun, ?_⟩
            · intro first isFirst
              cases isStart : state.paragraphStart with
              | none =>
                obtain ⟨isBuf, notBefore⟩ := follows.between isStart
                rw [isStart] at isFirst
                obtain rfl : number + 1 = first := Option.some.inj isFirst
                refine ⟨le_rfl, ?_, notBefore, ?_⟩
                · intro line above below
                  rw [le_antisymm below above]
                  exact plain
                · rw [gathered_single, isBuf, if_pos rfl, String.empty_append]
              | some start =>
                obtain ⟨order, isPlain, begins, isBuf⟩ := follows.paragraph start isStart
                rw [isStart] at isFirst
                obtain rfl : start = first := Option.some.inj isFirst
                refine ⟨Nat.le_succ_of_le order, ?_, begins, ?_⟩
                · intro line above below
                  rcases Nat.lt_or_eq_of_le below with earlier | rfl
                  · exact isPlain line above (Nat.lt_succ_iff.mp earlier)
                  · exact plain
                · have notEmpty := gathered_ne order (isPlain start le_rfl order).notBlank
                  rw [gathered_succ order, isBuf, if_neg notEmpty]
            · rw [pending]
              refine (if_neg inside).symm ▸ ?_
              cases isStart : state.paragraphStart with
              | none =>
                rw [isStart] at settled
                exact settled
              | some start =>
                rw [isStart] at settled
                exact settled

theorem Follows.scanRest {rest : List String} {number : Nat} {state : ScanState}
    (follows : Follows lines front file number state) (behind : front ≤ number)
    (isRest : lines.drop number = rest) (within : number ≤ lines.length) :
    Follows lines front file lines.length (scanFrom file (number + 1) rest state) := by
  induction rest generalizing number state with
  | nil =>
    have last : number = lines.length :=
      le_antisymm within (drop_eq_nil_iff.mp isRest)
    rw [← last]
    exact follows
  | cons line rest ih =>
    have inside : number < lines.length := by
      by_contra outside
      rw [drop_eq_nil_of_le (Nat.le_of_not_lt outside)] at isRest
      cases isRest
    rw [drop_eq_getElem_cons inside] at isRest
    obtain ⟨isLine, isRest⟩ := List.cons.inj isRest
    have sameText : trim line = lineText lines (number + 1) := by
      rw [lineText, Nat.add_sub_cancel, getD_eq_getElem _ _ inside, isLine]
    exact ih (follows.scan behind sameText) (Nat.le_succ_of_le behind) isRest inside

end Loop

/-! ## The whole source -/

section Source

variable (lines : List String) (file : String)

/-- How many lines the frontmatter takes. -/
def frontLines : Nat := (frontState file lines).1

theorem frontLines_of_none (none : frontmatterEnd lines = none) : frontLines lines file = 0 := by
  rw [frontLines, frontState, none]

theorem frontLines_of_some {last : Nat} (closed : frontmatterEnd lines = some last) :
    frontLines lines file = last + 1 := by
  rw [frontLines, frontState, closed]

theorem frontmatterEnd_lt {last : Nat} (closed : frontmatterEnd lines = some last) :
    last < lines.length := by
  rw [frontmatterEnd] at closed
  split at closed
  · obtain ⟨index, found, rfl⟩ := Option.map_eq_some_iff.mp closed
    have within := (findIdx?_eq_some_iff_findIdx_eq.mp found).1
    rw [length_drop] at within
    omega
  · cases closed

theorem frontLines_le : frontLines lines file ≤ lines.length := by
  cases closed : frontmatterEnd lines with
  | none =>
    rw [frontLines_of_none lines file closed]
    exact Nat.zero_le _
  | some last =>
    rw [frontLines_of_some lines file closed]
    exact frontmatterEnd_lt lines closed

theorem fenceOpen_front (front : Nat) : fenceOpen lines front front = false := by
  cases front with
  | zero => rfl
  | succ number =>
    rw [fenceOpen]
    exact if_pos (Nat.lt_succ_self _)

/-- The loop begins behind the frontmatter. -/
theorem follows_front :
    Follows lines (frontLines lines file) file (frontLines lines file)
      (frontState file lines).2 := by
  have nothing : Settled lines (frontLines lines file) file [] ∅ 1 :=
    ⟨nofun, nofun, List.Pairwise.nil, nofun, fun number isLine below => by omega, by simp⟩
  have notPlain : ¬Plain lines (frontLines lines file) (frontLines lines file) :=
    fun plain => absurd plain.behind (Nat.lt_irrefl _)
  have isOpen := fenceOpen_front lines (frontLines lines file)
  cases closed : frontmatterEnd lines with
  | none =>
    have isFront := frontLines_of_none lines file closed
    rw [isFront] at nothing notPlain isOpen ⊢
    rw [frontState, closed]
    exact ⟨isOpen.symm, nofun, nofun, fun _ => ⟨rfl, notPlain⟩, nothing⟩
  | some last =>
    have isFront := frontLines_of_some lines file closed
    rw [isFront] at nothing notPlain isOpen ⊢
    have pushed := nothing.push (.frontmatter (Nat.succ_ne_zero last)) le_rfl rfl
      (Nat.succ_le_succ (Nat.zero_le _))
    rw [frontState, closed]
    exact ⟨isOpen.symm, nofun, nofun, fun _ => ⟨rfl, notPlain⟩, pushed⟩

theorem lineText_beyond {number : Nat} (beyond : lines.length < number) :
    lineText lines number = "" := by
  rw [lineText, getD_eq_default _ _ (by omega)]
  rfl

theorem scanAll_settled :
    ∃ bound, Settled lines (frontLines lines file) file (scanAll file lines).blocks
        (scanAll file lines).dependencies bound ∧
      ((scanAll file lines).inCodeFence = false → bound = lines.length + 1) ∧
      (∀ number, Loose lines (frontLines lines file) number → lineText lines number ≠ "" →
        number < bound) ∧ frontLines lines file < bound := by
  have follows := (follows_front lines file).scanRest le_rfl rfl (frontLines_le lines file)
  have finished : ¬Plain lines (frontLines lines file) (lines.length + 1) := fun plain =>
    plain.notBlank (lineText_beyond lines (Nat.lt_succ_self _))
  obtain ⟨blocks, dependencies, flushed, settled⟩ := follows.flush finished
  have isScan : scanAll file lines = flushParagraph file lines.length
    (scanFrom file (frontLines lines file + 1) (lines.drop (frontLines lines file))
      (frontState file lines).2) := rfl
  rw [isScan, flushed]
  refine ⟨_, settled, fun closed => if_neg (by simpa using closed),
    fun number loose notBlank => ?_, ?_⟩
  rotate_left
  · split
    · next inside => exact (follows.opened inside).2.1
    · exact Nat.lt_succ_of_le (frontLines_le lines file)
  have within : number ≤ lines.length := by
    by_contra beyond
    exact notBlank (lineText_beyond lines (Nat.lt_of_not_le beyond))
  split
  · next inside =>
    obtain ⟨-, -, -, opens, isInside⟩ := follows.opened inside
    by_contra late
    rcases Nat.lt_or_eq_of_le (Nat.le_of_not_lt late) with after | same
    · have isOpen := isInside number after (Nat.le_succ_of_le within)
      rw [loose.outside] at isOpen
      cases isOpen
    · rw [same] at opens
      exact loose.notFence opens
  · exact Nat.lt_succ_of_le within

end Source

/-! ## Names of blocks -/

section Names

variable {lines : List String} {front : Nat} {file : String} {block other : ScannedBlock}

def MarkdownBlockKind.letter : MarkdownBlockKind → Char
  | .frontmatter => 'f'
  | .heading => 'h'
  | .listItem => 'l'
  | .paragraph => 'p'
  | .codeFence => 'c'

theorem Told.kind_shown (told : Told lines front file block) :
    ∃ rest, block.blockId.toList = (sanitize file).toList ++ ':' :: block.kind.letter :: rest := by
  have marks : ":frontmatter".toList = ':' :: 'f' :: "rontmatter".toList ∧
      ":h:".toList = [':', 'h', ':'] ∧ ":li:".toList = [':', 'l', 'i', ':'] ∧
      ":p:".toList = [':', 'p', ':'] ∧ ":code:".toList = [':', 'c', 'o', 'd', 'e', ':'] := by
    decide
  obtain ⟨frontMark, headingMark, itemMark, paragraphMark, codeMark⟩ := marks
  cases told with
  | frontmatter taken =>
    rw [String.toList_append, frontMark]
    exact ⟨_, rfl⟩
  | heading number is =>
    simp only [String.toList_append, headingMark, append_assoc, cons_append]
    exact ⟨_, rfl⟩
  | item number is =>
    simp only [String.toList_append, itemMark, append_assoc, cons_append]
    exact ⟨_, rfl⟩
  | paragraph first last is =>
    simp only [String.toList_append, paragraphMark, append_assoc, cons_append]
    exact ⟨_, rfl⟩
  | codeFence first last behind order opens inside =>
    simp only [String.toList_append, codeMark, append_assoc, cons_append]
    exact ⟨_, rfl⟩

theorem Told.start_shown (told : Told lines front file block) :
    (block.kind = .frontmatter ∧ block.startLine = 1) ∨
      ∃ rest, block.blockId.toList = rest ++ [':'] ++ block.startLine.repr.toList := by
  have marks : ":h:".toList = [':', 'h'] ++ [':'] ∧ ":li:".toList = [':', 'l', 'i'] ++ [':'] ∧
      ":p:".toList = [':', 'p'] ++ [':'] ∧
      ":code:".toList = [':', 'c', 'o', 'd', 'e'] ++ [':'] ∧ ":".toList = [':'] := by
    decide
  obtain ⟨headingMark, itemMark, paragraphMark, codeMark, colon⟩ := marks
  cases told with
  | frontmatter taken => exact Or.inl ⟨rfl, rfl⟩
  | heading number is =>
    right
    simp only [String.toList_append, colon]
    exact ⟨_, rfl⟩
  | item number is =>
    right
    simp only [String.toList_append, itemMark, ← append_assoc]
    exact ⟨_, rfl⟩
  | paragraph first last is =>
    right
    simp only [String.toList_append, paragraphMark, ← append_assoc]
    exact ⟨_, rfl⟩
  | codeFence first last behind order opens inside =>
    right
    simp only [String.toList_append, codeMark, ← append_assoc]
    exact ⟨_, rfl⟩

theorem MarkdownBlockKind.letter_inj {first second : MarkdownBlockKind}
    (same : first.letter = second.letter) : first = second := by
  revert same
  cases first <;> cases second <;> decide

theorem Told.name_ne (told : Told lines front file block) (toldOther : Told lines front file other)
    (differ : block.startLine ≠ other.startLine) : block.blockId ≠ other.blockId := by
  intro same
  obtain ⟨rest, shown⟩ := told.kind_shown
  obtain ⟨restOther, shownOther⟩ := toldOther.kind_shown
  rw [same, shownOther] at shown
  have letters := append_cancel_left shown
  have sameKind : other.kind = block.kind :=
    MarkdownBlockKind.letter_inj (List.cons.inj (List.cons.inj letters).2).1
  rcases told.start_shown with ⟨isFront, isOne⟩ | ⟨start, ends⟩
  · rcases toldOther.start_shown with ⟨-, otherOne⟩ | ⟨startOther, endsOther⟩
    · exact differ (isOne.trans otherOne.symm)
    · cases toldOther with
      | frontmatter taken => exact differ isOne
      | heading number is => exact absurd (sameKind.trans isFront) (by simp)
      | item number is => exact absurd (sameKind.trans isFront) (by simp)
      | paragraph first last is => exact absurd (sameKind.trans isFront) (by simp)
      | codeFence first last behind order opens inside =>
        exact absurd (sameKind.trans isFront) (by simp)
  · rcases toldOther.start_shown with ⟨otherFront, otherOne⟩ | ⟨startOther, endsOther⟩
    · cases told with
      | frontmatter taken => exact differ otherOne.symm
      | heading number is => exact absurd (sameKind.symm.trans otherFront) (by simp)
      | item number is => exact absurd (sameKind.symm.trans otherFront) (by simp)
      | paragraph first last is => exact absurd (sameKind.symm.trans otherFront) (by simp)
      | codeFence first last behind order opens inside =>
        exact absurd (sameKind.symm.trans otherFront) (by simp)
    · rw [same, endsOther] at ends
      have digits := after_last_separator ends (not_mem_repr (by decide) _)
        (not_mem_repr (by decide) _)
      exact differ (repr_inj.mp (String.toList_inj.mp digits)).symm

end Names

/-! ## Compiled blocks -/

section Compiled

theorem ScannedBlock.render_eq_some {block : ScannedBlock} {rendered : MarkdownBlock}
    (renders : block.render = some rendered) :
    rendered.blockId = block.blockId ∧ rendered.kind = block.kind ∧
      rendered.startLine = block.startLine ∧ rendered.endLine = block.endLine ∧
      rendered.references = block.references := by
  rw [render] at renders
  split at renders
  · cases renders
    exact ⟨rfl, rfl, rfl, rfl, rfl⟩
  · obtain ⟨textPreview, -, isBlock⟩ := Option.bind_eq_some_iff.mp renders
    cases isBlock
    exact ⟨rfl, rfl, rfl, rfl, rfl⟩

section
variable {blocks : List ScannedBlock} {rendered : List MarkdownBlock}

theorem render_forall (ran : blocks.mapM ScannedBlock.render = some rendered) :
    List.Forall₂ (fun block shown => block.render = some shown) blocks rendered := by
  induction blocks generalizing rendered with
  | nil =>
    rw [mapM_nil] at ran
    cases ran
    exact .nil
  | cons block blocks ih =>
    rw [mapM_cons] at ran
    obtain ⟨shown, isShown, ran⟩ := Option.bind_eq_some_iff.mp ran
    obtain ⟨rest, isRest, ran⟩ := Option.bind_eq_some_iff.mp ran
    cases ran
    exact .cons isShown (ih isRest)

theorem exists_of_forall₂
    (each : List.Forall₂ (fun block shown => block.render = some shown) blocks rendered) :
    (∀ shown ∈ rendered, ∃ block ∈ blocks, block.render = some shown) ∧
      ∀ block ∈ blocks, ∃ shown ∈ rendered, block.render = some shown := by
  induction each with
  | nil => exact ⟨nofun, nofun⟩
  | cons isShown _ ih =>
    constructor
    · refine forall_mem_cons.mpr ⟨⟨_, mem_cons_self, isShown⟩, fun shown member => ?_⟩
      obtain ⟨block, isBlock, renders⟩ := ih.1 shown member
      exact ⟨block, mem_cons_of_mem _ isBlock, renders⟩
    · refine forall_mem_cons.mpr ⟨⟨_, mem_cons_self, isShown⟩, fun block member => ?_⟩
      obtain ⟨shown, isMember, renders⟩ := ih.2 block member
      exact ⟨shown, mem_cons_of_mem _ isMember, renders⟩

theorem pairwise_of_forall₂
    {before : ScannedBlock → ScannedBlock → Prop} {after : MarkdownBlock → MarkdownBlock → Prop}
    (carries : ∀ first second shown other, first.render = some shown →
      second.render = some other → before first second → after shown other)
    (each : List.Forall₂ (fun block shown => block.render = some shown) blocks rendered)
    (pairwise : blocks.Pairwise before) : rendered.Pairwise after := by
  induction each with
  | nil => exact .nil
  | cons isShown each ih =>
    obtain ⟨ahead, pairwise⟩ := pairwise_cons.mp pairwise
    refine pairwise_cons.mpr ⟨fun other isOther => ?_, ih pairwise⟩
    obtain ⟨block, isBlock, renders⟩ := (exists_of_forall₂ each).1 other isOther
    exact carries _ _ _ _ isShown renders (ahead block isBlock)

end

/-- A block that is built from lines of text. -/
def MarkdownBlockKind.OfText (kind : MarkdownBlockKind) : Prop :=
  kind = .heading ∨ kind = .listItem ∨ kind = .paragraph

/-- The blocks of a source without fatal errors partition its lines that are not blank. -/
structure BlockPartition (file : String) (lines : List String) (pass : CompilePass) : Prop where
  ordered : pass.blocks.Pairwise fun first second => first.endLine < second.startLine
  ranges : ∀ block ∈ pass.blocks, 1 ≤ block.startLine ∧ block.startLine ≤ block.endLine ∧
    block.endLine ≤ lines.length
  covers : ∀ number, 1 ≤ number → number ≤ lines.length → lineText lines number ≠ "" →
    ∃ block ∈ pass.blocks, block.startLine ≤ number ∧ number ≤ block.endLine
  visible : ∀ block ∈ pass.blocks, block.kind ≠ .frontmatter → block.kind ≠ .codeFence →
    ∀ number, block.startLine ≤ number → number ≤ block.endLine → lineText lines number ≠ ""
  named : (pass.blocks.map (·.blockId)).Nodup
  dependencies : ∀ dependency ∈ pass.dependencies, ∃ block ∈ pass.blocks, block.kind.OfText ∧
    dependency ∈ block.references ∧ ∃ text, block.references = extractRefs text file ∧
      (text = lineText lines block.startLine ∧ block.startLine = block.endLine ∨
        text = paragraphText lines block.startLine block.endLine) ∧
      ∀ fence ∈ pass.blocks, fence.kind = .codeFence → ∀ number, block.startLine ≤ number →
        number ≤ block.endLine → ¬(fence.startLine ≤ number ∧ number ≤ fence.endLine)

theorem ne_empty_of_startsWith {text mark : String} (begins : startsWith text mark = true)
    (marked : mark ≠ "") : text ≠ "" := by
  rintro rfl
  have shorter := (startsWith_iff.mp begins).length_le
  apply marked
  rw [← String.toList_inj]
  exact eq_nil_of_length_eq_zero (Nat.le_zero.mp shorter)

theorem ne_empty_of_isItem {text : String} (isItem : IsItem text) : text ≠ "" := by
  rw [IsItem, Bool.or_eq_true, Bool.or_eq_true] at isItem
  rcases isItem with (begins | begins) | begins
  · exact ne_empty_of_startsWith begins (by decide)
  · exact ne_empty_of_startsWith begins (by decide)
  · exact ne_empty_of_startsWith begins (by decide)

section
variable {lines : List String} {front : Nat} {file : String} {block : ScannedBlock}
  (told : Told lines front file block)
include told

theorem Told.visible (notFront : block.kind ≠ .frontmatter) (notCode : block.kind ≠ .codeFence) :
    block.kind.OfText ∧ (∀ number, block.startLine ≤ number → number ≤ block.endLine →
      lineText lines number ≠ "") ∧ ∃ text, block.references = extractRefs text file ∧
        (text = lineText lines block.startLine ∧ block.startLine = block.endLine ∨
          text = paragraphText lines block.startLine block.endLine) := by
  cases told with
  | frontmatter taken => exact absurd rfl notFront
  | heading number is =>
    refine ⟨Or.inl rfl, fun line above below => ?_, _, rfl, Or.inl ⟨rfl, rfl⟩⟩
    rw [le_antisymm below above]
    exact ne_empty_of_startsWith is.isHeading (by decide)
  | item number is =>
    refine ⟨Or.inr (Or.inl rfl), fun line above below => ?_, _, rfl, Or.inl ⟨rfl, rfl⟩⟩
    rw [le_antisymm below above]
    exact ne_empty_of_isItem is.isItem
  | paragraph first last is =>
    exact ⟨Or.inr (Or.inr rfl), fun line above below => (is.plain line above below).notBlank, _,
      rfl, Or.inr rfl⟩
  | codeFence first last behind order opens inside => exact absurd rfl notCode

theorem Told.references_nil
    (kind : block.kind = .frontmatter ∨ block.kind = .codeFence) : block.references = [] := by
  cases told with
  | frontmatter taken => rfl
  | heading number is => simp at kind
  | item number is => simp at kind
  | paragraph first last is => simp at kind
  | codeFence first last behind order opens inside => rfl

end

end Compiled

/-! ## Previews -/

section Previews

/-- The cut of a preview does not fall inside a character. -/
def CutsCleanly (text : String) : Prop :=
  (trim text).utf8ByteSize ≤ 120 ∨
    ∃ start, start <+: (trim text).toList ∧ (String.ofList start).utf8ByteSize = 120

/-- The texts of which previews are made: that of the frontmatter, the headings and the list
items outside code fences, and the whole paragraphs. -/
inductive Previewed (file : String) (lines : List String) : String → Prop
  | frontmatter (last : Nat) (closed : frontmatterEnd lines = some last) :
      Previewed file lines (frontmatterText lines last)
  | heading (number : Nat) (is : Heading lines (frontLines lines file) number) :
      Previewed file lines (lineText lines number)
  | item (number : Nat) (is : Item lines (frontLines lines file) number) :
      Previewed file lines (lineText lines number)
  | paragraph (first last : Nat) (is : Paragraph lines (frontLines lines file) first last) :
      Previewed file lines (paragraphText lines first last)

theorem preview_isSome_iff (text : String) : (preview text).isSome = true ↔ CutsCleanly text := by
  rw [preview, CutsCleanly]
  split
  · next short => exact iff_of_true rfl (Or.inl short)
  · next long =>
    rw [or_iff_right long, Option.isSome_map, sliceTo, find?_isSome]
    constructor
    · rintro ⟨_, isPiece, isSize⟩
      obtain ⟨start, isStart, rfl⟩ := mem_map.mp isPiece
      exact ⟨start, (mem_inits _ _).mp isStart, of_decide_eq_true isSize⟩
    · rintro ⟨start, isPrefix, isSize⟩
      exact ⟨String.ofList start, mem_map.mpr ⟨start, (mem_inits _ _).mpr isPrefix, rfl⟩,
        decide_eq_true isSize⟩

theorem mapM_render_isSome_iff (blocks : List ScannedBlock) :
    (blocks.mapM ScannedBlock.render).isSome = true ↔
      ∀ block ∈ blocks, block.kind ≠ .codeFence → CutsCleanly block.text := by
  induction blocks with
  | nil => simp
  | cons block blocks ih =>
    have rendersOne : block.render.isSome = true ↔
        (block.kind ≠ .codeFence → CutsCleanly block.text) := by
      rw [ScannedBlock.render, ← preview_isSome_iff]
      split
      · next isCode => exact iff_of_true rfl fun notCode => absurd isCode notCode
      · next notCode =>
        rw [forall_prop_of_true notCode]
        cases preview block.text <;> rfl
    rw [mapM_cons, forall_mem_cons, ← ih, ← rendersOne]
    cases block.render with
    | none => simp
    | some shown =>
      cases blocks.mapM ScannedBlock.render with
      | none => simp
      | some rest => simp

variable {file : String} {lines : List String}

theorem Told.previewed {block : ScannedBlock}
    (told : Told lines (frontLines lines file) file block) (notCode : block.kind ≠ .codeFence) :
    Previewed file lines block.text := by
  cases told with
  | frontmatter taken =>
    cases closed : frontmatterEnd lines with
    | none => exact absurd (frontLines_of_none lines file closed) taken
    | some last =>
      have isLast : frontLines lines file - 1 = last := by
        rw [frontLines_of_some lines file closed, Nat.add_sub_cancel]
      change Previewed file lines (frontmatterText lines (frontLines lines file - 1))
      rw [isLast]
      exact .frontmatter last closed
  | heading number is => exact .heading number is
  | item number is => exact .item number is
  | paragraph first last is => exact .paragraph first last is
  | codeFence first last behind order opens inside => exact absurd rfl notCode

theorem Told.of_loose {front : Nat} {block : ScannedBlock} (told : Told lines front file block)
    {number : Nat} (loose : Loose lines front number) (above : block.startLine ≤ number)
    (below : number ≤ block.endLine) :
    (Heading lines front number ∧ block.kind = .heading ∧ block.text = lineText lines number) ∨
    (Item lines front number ∧ block.kind = .listItem ∧ block.text = lineText lines number) ∨
    ∃ first last, Paragraph lines front first last ∧ first ≤ number ∧ number ≤ last ∧
      block.kind = .paragraph ∧ block.text = paragraphText lines first last := by
  cases told with
  | frontmatter taken => exact absurd loose.behind (Nat.not_lt.mpr below)
  | heading line is =>
    obtain rfl : line = number := le_antisymm above below
    exact Or.inl ⟨is, rfl, rfl⟩
  | item line is =>
    obtain rfl : line = number := le_antisymm above below
    exact Or.inr (Or.inl ⟨is, rfl, rfl⟩)
  | paragraph first last is => exact Or.inr (Or.inr ⟨first, last, is, above, below, rfl, rfl⟩)
  | codeFence first last behind order opens inside =>
    rcases Nat.lt_or_eq_of_le above with after | same
    · have isOpen := inside number after below
      rw [loose.outside] at isOpen
      cases isOpen
    · have isFirst : first = number := same
      rw [isFirst] at opens
      exact absurd opens loose.notFence

theorem Paragraph.eq_of_shared {front first last other ending number : Nat}
    (one : Paragraph lines front first last) (two : Paragraph lines front other ending)
    (above : first ≤ number) (below : number ≤ last) (otherAbove : other ≤ number)
    (otherBelow : number ≤ ending) : first = other ∧ last = ending := by
  have noEarlier : ¬first < other := fun before =>
    two.begins (one.plain (other - 1) (by omega) (by omega))
  have noLater : ¬other < first := fun before =>
    one.begins (two.plain (first - 1) (by omega) (by omega))
  have noShorter : ¬last < ending := fun before =>
    one.ends (two.plain (last + 1) (by omega) (by omega))
  have noLonger : ¬ending < last := fun before =>
    two.ends (one.plain (ending + 1) (by omega) (by omega))
  omega

theorem previewed_iff (text : String) :
    Previewed file lines text ↔
      ∃ block ∈ (scanAll file lines).blocks, block.kind ≠ .codeFence ∧ block.text = text := by
  obtain ⟨bound, settled, -, reaches, reachesFront⟩ := scanAll_settled lines file
  have blockAt {number : Nat} (loose : Loose lines (frontLines lines file) number)
      (notBlank : lineText lines number ≠ "") :
      ∃ block ∈ (scanAll file lines).blocks, block.startLine ≤ number ∧
        number ≤ block.endLine :=
    settled.covered number (Nat.succ_le_of_lt (Nat.zero_lt_of_lt loose.behind))
      (reaches number loose notBlank) notBlank
  constructor
  · intro previewed
    cases previewed with
    | frontmatter last closed =>
      have isFront := frontLines_of_some lines file closed
      have notBlank : lineText lines 1 ≠ "" := by
        rw [frontmatterEnd] at closed
        split at closed
        · next opened =>
          obtain ⟨line, isHead, isMark⟩ := Option.map_eq_some_iff.mp opened
          obtain ⟨rest, rfl⟩ := head?_eq_some_iff.mp isHead
          change trim line ≠ ""
          rw [isMark]
          decide
        · cases closed
      have reached : 1 < bound := by omega
      obtain ⟨block, isBlock, above, below⟩ := settled.covered 1 le_rfl reached notBlank
      have told := settled.told block isBlock
      cases told with
      | frontmatter taken =>
        refine ⟨_, isBlock, nofun, ?_⟩
        change frontmatterText lines (frontLines lines file - 1) = _
        rw [isFront, Nat.add_sub_cancel]
      | heading number is =>
        have behind := is.behind
        change number ≤ 1 at above
        omega
      | item number is =>
        have behind := is.behind
        change number ≤ 1 at above
        omega
      | paragraph first ending is =>
        have behind := (is.plain first le_rfl is.order).behind
        change first ≤ 1 at above
        omega
      | codeFence first ending behind order opens inside =>
        change first ≤ 1 at above
        omega
    | heading number is =>
      obtain ⟨block, isBlock, above, below⟩ :=
        blockAt is.toLoose (ne_empty_of_startsWith is.isHeading (by decide))
      rcases (settled.told block isBlock).of_loose is.toLoose above below with
        ⟨-, isKind, isText⟩ | ⟨item, -, -⟩ | ⟨first, last, paragraph, lower, upper, -, -⟩
      · exact ⟨block, isBlock, by rw [isKind]; decide, isText⟩
      · exact absurd is.isHeading item.notHeading
      · exact absurd is.isHeading (paragraph.plain number lower upper).notHeading
    | item number is =>
      have notBlank : lineText lines number ≠ "" := ne_empty_of_isItem is.isItem
      obtain ⟨block, isBlock, above, below⟩ := blockAt is.toLoose notBlank
      rcases (settled.told block isBlock).of_loose is.toLoose above below with
        ⟨heading, -, -⟩ | ⟨-, isKind, isText⟩ | ⟨first, last, paragraph, lower, upper, -, -⟩
      · exact absurd heading.isHeading is.notHeading
      · exact ⟨block, isBlock, by rw [isKind]; decide, isText⟩
      · exact absurd is.isItem (paragraph.plain number lower upper).notItem
    | paragraph first last is =>
      have plain := is.plain first le_rfl is.order
      obtain ⟨block, isBlock, above, below⟩ := blockAt plain.toLoose plain.notBlank
      rcases (settled.told block isBlock).of_loose plain.toLoose above below with
        ⟨heading, -, -⟩ | ⟨item, -, -⟩ | ⟨other, ending, paragraph, lower, upper, isKind, isText⟩
      · exact absurd heading.isHeading plain.notHeading
      · exact absurd item.isItem plain.notItem
      · obtain ⟨rfl, rfl⟩ := is.eq_of_shared paragraph le_rfl is.order lower upper
        exact ⟨block, isBlock, by rw [isKind]; decide, isText⟩
  · rintro ⟨block, isBlock, notCode, rfl⟩
    exact (settled.told block isBlock).previewed notCode

theorem compileOnce_isSome_iff (file content : String) (attempt : Nat) :
    (compileOnce file content attempt).isSome = true ↔
      ∀ text, Previewed file (Text.lines content) text → CutsCleanly text := by
  have same : (compileOnce file content attempt).isSome =
      ((scanAll file (Text.lines content)).blocks.mapM ScannedBlock.render).isSome := by
    rw [compileOnce]
    cases (scanAll file (Text.lines content)).blocks.mapM ScannedBlock.render <;> rfl
  rw [same, mapM_render_isSome_iff]
  constructor
  · intro clean text previewed
    obtain ⟨block, isBlock, notCode, rfl⟩ := (previewed_iff text).mp previewed
    exact clean block isBlock notCode
  · intro clean block isBlock notCode
    exact clean block.text ((previewed_iff _).mpr ⟨block, isBlock, notCode, rfl⟩)

theorem retryFrom_returns_iff (file content : String) (left : Nat)
    (earlier : List CompileErrorRecord) :
    (∃ outcome, retryFrom file content left earlier = some outcome) ↔
      ∀ text, Previewed file (Text.lines content) text → CutsCleanly text := by
  induction left generalizing earlier with
  | zero =>
    rw [← compileOnce_isSome_iff file content (maxRetryAttempts - 0), retryFrom]
    cases compileOnce file content (maxRetryAttempts - 0) with
    | none => simp
    | some pass => simp
  | succ left ih =>
    rw [← compileOnce_isSome_iff file content (maxRetryAttempts - (left + 1)), retryFrom]
    cases ran : compileOnce file content (maxRetryAttempts - (left + 1)) with
    | none => simp
    | some pass =>
      simp only [Option.bind_eq_bind, Option.bind_some]
      split
      · rw [ih, ← compileOnce_isSome_iff file content (maxRetryAttempts - (left + 1)), ran]
      · simp

/-- The compiler returns exactly when no preview is cut inside a character. -/
theorem compileWithRetry_returns_iff (file content : String) :
    (∃ outcome, compileWithRetry file content = some outcome) ↔
      ∀ text, Previewed file (Text.lines content) text → CutsCleanly text :=
  retryFrom_returns_iff file content _ []

/-- A heading of sixty letters of two bytes each. -/
def accentedHeading : String := String.ofList ('#' :: List.replicate 60 'é')

/-- The preview of such a heading would be cut inside a letter. -/
theorem accented_heading_panics :
    ¬∃ outcome, compileWithRetry "a.md" accentedHeading = some outcome := by
  intro returns
  have clean := (retryFrom_returns_iff "a.md" accentedHeading _ []).mp returns
  have isLines : Text.lines accentedHeading = [accentedHeading] := by decide +kernel
  have isText : lineText [accentedHeading] 1 = accentedHeading := by decide +kernel
  have isFront : frontLines [accentedHeading] "a.md" = 0 := by decide +kernel
  have heading : Heading [accentedHeading] 0 1 := by
    refine ⟨⟨Nat.one_pos, ?_, rfl⟩, ?_⟩
    · rw [isText]
      decide +kernel
    · rw [isText]
      decide +kernel
  have previewed : Previewed "a.md" [accentedHeading] (lineText [accentedHeading] 1) :=
    .heading 1 (isFront ▸ heading)
  rw [isLines] at clean
  have cut := (preview_isSome_iff _).mpr (clean _ previewed)
  rw [isText] at cut
  exact absurd cut (by decide +kernel)

end Previews

end AutoLoop.GitmemoryCore.IncrementalCompiler
