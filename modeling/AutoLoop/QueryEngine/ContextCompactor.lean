import AutoLoop.QueryEngine.QueryLoop

/-!
# Context compaction

`ContextCompactor::compact`: a micro stage, a full stage, and a throttle for contexts that
still overflow.  The stages keep the bookkeeping of their boundary; the throttle removes
messages behind it, and its clipping never reaches the budget.
-/

namespace AutoLoop.QueryEngine

open List

structure TokenBudgetFrame where
  maxInputTokens : Nat
  maxOutputTokens : Nat
  reserveTokens : Nat
  compactionTriggerTokens : Nat
  deriving DecidableEq, Repr

inductive CompactionStrategy where
  | micro
  | full
  deriving DecidableEq, Repr

def CompactionStrategy.asStr : CompactionStrategy → String
  | .micro => "micro"
  | .full => "full"

structure CompactionBoundary where
  boundaryId : String
  compressedMessages : Nat
  preservedMessages : Nat
  summary : String
  summaryDigest : String
  strategy : String
  throttleApplied : Bool
  failedAttempts : Nat
  deriving DecidableEq, Repr

structure CompactionResult where
  messages : List ChatMessage
  boundary : Option CompactionBoundary
  estimatedTokens : Nat
  strategy : Option CompactionStrategy
  throttleApplied : Bool
  failedAttempts : Nat
  deriving DecidableEq, Repr

/-! ## Estimates and summaries -/

def estimateTextTokens (text : String) : Nat := text.toList.length / 4 + 1

/-- The sum is taken without the bound of the counter. -/
def estimateMessageTokens : List ChatMessage → Nat
  | [] => 0
  | message :: rest => estimateTextTokens message.content + 4 + estimateMessageTokens rest

/-- `str::split_whitespace`. -/
def splitWhitespace (text : String) : List String :=
  ((text.toList.splitOnP Text.isWhitespace).filter (· ≠ [])).map String.ofList

def summarizeMessages (messages : List ChatMessage) (maxLines maxTerms : Nat) : String :=
  Text.joinWith '\n' ((messages.take maxLines).map fun message =>
    "- " ++ message.role ++ ": " ++
      Text.joinWith ' ' ((splitWhitespace message.content).take maxTerms))

/-- The message that stands for what a stage has compacted. -/
def CompactionBoundary.message (boundary : CompactionBoundary) : ChatMessage where
  role := "system"
  content := "[CompactionBoundary:" ++ boundary.boundaryId ++ "|" ++ boundary.strategy ++ "]\n" ++
    boundary.summary ++ "\n[Continuation] Resume from preserved recent messages."
  toolCallId := none
  toolCalls := none

structure ContextCompactor where
  preserveRecentMessages : Nat
  currentTimeMs : CompactionStrategy → Nat
  digestText : String → String

namespace ContextCompactor

variable (compactor : ContextCompactor) (messages : List ChatMessage) (budget : TokenBudgetFrame)

/-! ## Stages -/

structure Stage where
  strategy : CompactionStrategy
  preserveRecentMessages : Nat
  failedAttempts : Nat
  summaryLines : Nat
  summaryTerms : Nat

def microStage : Stage where
  strategy := .micro
  preserveRecentMessages :=
    max (compactor.preserveRecentMessages * 2) (compactor.preserveRecentMessages + 2)
  failedAttempts := 0
  summaryLines := 8
  summaryTerms := 16

def fullStage : Stage where
  strategy := .full
  preserveRecentMessages := compactor.preserveRecentMessages
  failedAttempts := 1
  summaryLines := 20
  summaryTerms := 28

section
variable (stage : Stage)

def summaryCutoff : Nat :=
  messages.length - min (max stage.preserveRecentMessages 1) (max (messages.length - 1) 1)

def stageBoundary : CompactionBoundary :=
  let cutoff := summaryCutoff messages stage
  let summary := summarizeMessages (messages.take cutoff) stage.summaryLines stage.summaryTerms
  { boundaryId := "boundary:" ++ stage.strategy.asStr ++ ":" ++
      toString (compactor.currentTimeMs stage.strategy) ++ ":" ++ compactor.digestText summary
    compressedMessages := (messages.take cutoff).length
    preservedMessages := (messages.drop cutoff).length
    summaryDigest := compactor.digestText summary
    summary
    strategy := stage.strategy.asStr
    throttleApplied := false
    failedAttempts := stage.failedAttempts }

def stageMessages : List ChatMessage :=
  (compactor.stageBoundary messages stage).message :: messages.drop (summaryCutoff messages stage)

def compactWithStage : CompactionResult where
  messages := compactor.stageMessages messages stage
  boundary := some (compactor.stageBoundary messages stage)
  estimatedTokens := estimateMessageTokens (compactor.stageMessages messages stage)
  strategy := some stage.strategy
  throttleApplied := false
  failedAttempts := stage.failedAttempts

end

/-! ## The throttle -/

/-- `u32::saturating_add` of one. -/
def countAttempt (failedAttempts : Nat) : Nat := min (failedAttempts + 1) (2 ^ 32 - 1)

def removeOverflow (first : ChatMessage) :
    List ChatMessage → Nat → List ChatMessage × Nat
  | second :: third :: rest, failedAttempts =>
    if budget.maxInputTokens < estimateMessageTokens (first :: second :: third :: rest) then
      removeOverflow first (third :: rest) (countAttempt failedAttempts)
    else (first :: second :: third :: rest, failedAttempts)
  | rest, failedAttempts => (first :: rest, failedAttempts)

def removeAllOverflow : List ChatMessage → Nat → List ChatMessage × Nat
  | [], failedAttempts => ([], failedAttempts)
  | first :: rest, failedAttempts => removeOverflow budget first rest failedAttempts

def throttleNote : String :=
  "\n[Throttle] full compaction fallback applied due to repeated budget overflow."

def clipFirst : List ChatMessage × Nat → List ChatMessage × Nat
  | (first :: rest, failedAttempts) =>
    if budget.maxInputTokens < estimateMessageTokens (first :: rest) then
      let clipped := first.content.toList.take (max (budget.maxInputTokens * 4 - 16) 64)
      ({ first with content := String.ofList clipped ++ throttleNote } :: rest,
        countAttempt failedAttempts)
    else (first :: rest, failedAttempts)
  | ([], failedAttempts) => ([], failedAttempts)

def throttleBoundary (failedAttempts : Nat) (boundary : CompactionBoundary) : CompactionBoundary :=
  let summary := boundary.summary ++
    "\n[Throttle] full compaction fallback applied after repeated budget overflow."
  { boundary with
    strategy := CompactionStrategy.full.asStr
    throttleApplied := true
    failedAttempts
    summary
    summaryDigest := compactor.digestText summary }

def applyFailureThrottle (result : CompactionResult) : CompactionResult :=
  let throttled := clipFirst budget
    (removeAllOverflow budget result.messages (max result.failedAttempts 2))
  { messages := throttled.1
    boundary := result.boundary.map (compactor.throttleBoundary throttled.2)
    estimatedTokens := estimateMessageTokens throttled.1
    strategy := some .full
    throttleApplied := true
    failedAttempts := throttled.2 }

def compact : CompactionResult :=
  if estimateMessageTokens messages ≤ budget.compactionTriggerTokens ∨
      messages.length ≤ compactor.preserveRecentMessages + 1 then
    { messages
      boundary := none
      estimatedTokens := estimateMessageTokens messages
      strategy := none
      throttleApplied := false
      failedAttempts := 0 }
  else
    let micro := compactor.compactWithStage messages compactor.microStage
    if micro.estimatedTokens ≤ budget.maxInputTokens then micro
    else
      let full := compactor.compactWithStage messages compactor.fullStage
      if full.estimatedTokens ≤ budget.maxInputTokens then full
      else compactor.applyFailureThrottle budget full

/-! ## What is asked of a boundary -/

/-- The estimate is that of the messages and within the budget.  The boundary comes first,
and a suffix of the input that ends with its last message comes behind it, as counted. -/
structure BoundaryLaw (result : CompactionResult) (boundary : CompactionBoundary) : Prop where
  estimated : result.estimatedTokens = estimateMessageTokens result.messages
  bounded : result.estimatedTokens ≤ budget.maxInputTokens
  kept : ∃ kept, result.messages = boundary.message :: kept ∧ kept <:+ messages ∧
    (∃ last, kept.getLast? = some last ∧ messages.getLast? = some last) ∧
    boundary.preservedMessages = kept.length
  counted : boundary.compressedMessages + boundary.preservedMessages = messages.length

/-- The boundary of the older messages and the recent ones are within the budget. -/
def Fits (stage : Stage) : Prop :=
  estimateTextTokens (compactor.stageBoundary messages stage).message.content + 4 +
      estimateMessageTokens (messages.drop (summaryCutoff messages stage)) ≤
    budget.maxInputTokens

def ThrottleUnreached : Prop :=
  estimateMessageTokens messages ≤ budget.compactionTriggerTokens ∨
    messages.length ≤ compactor.preserveRecentMessages + 1 ∨
    compactor.Fits messages budget compactor.microStage ∨
    compactor.Fits messages budget compactor.fullStage

/-! ## The stages keep the law -/

section Stages

variable {compactor messages budget} {stage : Stage}

theorem summaryCutoff_lt (stage : Stage) (several : 2 ≤ messages.length) :
    0 < summaryCutoff messages stage ∧ summaryCutoff messages stage < messages.length := by
  rw [summaryCutoff]
  omega

theorem boundaryLaw_stage (several : 2 ≤ messages.length)
    (fits : compactor.Fits messages budget stage) :
    BoundaryLaw messages budget (compactor.compactWithStage messages stage)
      (compactor.stageBoundary messages stage) where
  estimated := rfl
  bounded := fits
  kept := by
    have inside := (summaryCutoff_lt stage several).2
    refine ⟨messages.drop (summaryCutoff messages stage), rfl, drop_suffix _ _,
      ⟨messages.getLast (by rintro rfl; cases several), ?_, getLast?_eq_getLast_of_ne_nil _⟩,
      rfl⟩
    rw [getLast?_drop, if_neg (by omega), getLast?_eq_getLast_of_ne_nil]
  counted := by
    have inside := (summaryCutoff_lt stage several).2
    simp only [stageBoundary, length_take, length_drop]
    omega

end Stages

/-! ## The throttle breaks it -/

section Throttle

variable {budget} {first : ChatMessage} {rest : List ChatMessage}

theorem removeOverflow_cons (rest : List ChatMessage) (failedAttempts : Nat) :
    ∃ kept, (removeOverflow budget first rest failedAttempts).1 = first :: kept ∧
      kept.length ≤ rest.length := by
  induction rest generalizing failedAttempts with
  | nil => exact ⟨[], rfl, le_rfl⟩
  | cons second rest ih =>
    cases rest with
    | nil => exact ⟨[second], rfl, le_rfl⟩
    | cons third rest =>
      rw [removeOverflow]
      split
      · obtain ⟨kept, isKept, few⟩ := ih (countAttempt failedAttempts)
        exact ⟨kept, isKept, few.trans (Nat.le_succ _)⟩
      · exact ⟨_, rfl, le_rfl⟩

theorem removeOverflow_lt (failedAttempts : Nat) (several : 2 ≤ rest.length)
    (overflows : budget.maxInputTokens < estimateMessageTokens (first :: rest)) :
    ∃ kept, (removeOverflow budget first rest failedAttempts).1 = first :: kept ∧
      kept.length < rest.length := by
  cases rest with
  | nil => cases several
  | cons second rest =>
    cases rest with
    | nil => cases several with | step h => cases h
    | cons third rest =>
      rw [removeOverflow, if_pos overflows]
      obtain ⟨kept, isKept, few⟩ := removeOverflow_cons (third :: rest)
        (countAttempt failedAttempts)
      exact ⟨kept, isKept, Nat.lt_succ_of_le few⟩

theorem length_clipFirst (messages : List ChatMessage) (failedAttempts : Nat) :
    (clipFirst budget (messages, failedAttempts)).1.length = messages.length := by
  cases messages with
  | nil => rfl
  | cons first rest =>
    rw [clipFirst]
    split
    · rfl
    · rfl

theorem length_throttleNote : throttleNote.toList.length = 77 := by decide

theorem clipFirst_overflows {last : ChatMessage} (failedAttempts : Nat)
    (overflows : budget.maxInputTokens < estimateMessageTokens [first, last]) :
    budget.maxInputTokens <
      estimateMessageTokens (clipFirst budget ([first, last], failedAttempts)).1 := by
  rw [clipFirst, if_pos overflows]
  simp only [estimateMessageTokens, estimateTextTokens] at overflows ⊢
  rw [String.toList_append, String.toList_ofList, length_append, length_throttleNote, length_take]
  omega

end Throttle

section Law

variable {compactor messages budget}

theorem not_boundaryLaw_throttled (several : 2 ≤ messages.length)
    (overflows : ¬compactor.Fits messages budget compactor.fullStage) :
    ∃ boundary, (compactor.applyFailureThrottle budget
        (compactor.compactWithStage messages compactor.fullStage)).boundary = some boundary ∧
      ¬BoundaryLaw messages budget (compactor.applyFailureThrottle budget
        (compactor.compactWithStage messages compactor.fullStage)) boundary := by
  refine ⟨_, rfl, ?_⟩
  intro law
  have inside := (summaryCutoff_lt compactor.fullStage several).2
  have past : budget.maxInputTokens < estimateMessageTokens
      (compactor.stageMessages messages compactor.fullStage) := Nat.lt_of_not_le overflows
  obtain ⟨kept, isMessages, -, -, preserved⟩ := law.kept
  have counts := congrArg List.length isMessages
  have isPreserved : kept.length =
      (messages.drop (summaryCutoff messages compactor.fullStage)).length := preserved.symm
  simp only [applyFailureThrottle, compactWithStage, stageMessages, removeAllOverflow,
    length_cons] at counts
  cases isRest : messages.drop (summaryCutoff messages compactor.fullStage) with
  | nil =>
    have lengths := congrArg List.length isRest
    rw [length_drop, length_nil] at lengths
    omega
  | cons last rest =>
    cases rest with
    | nil =>
      have bounded := law.bounded
      simp only [stageMessages, isRest] at past
      simp only [applyFailureThrottle, compactWithStage, stageMessages, removeAllOverflow,
        isRest, removeOverflow] at bounded
      exact absurd bounded (Nat.not_le.mpr (clipFirst_overflows _ past))
    | cons next rest =>
      rw [stageMessages] at past
      have several : 2 ≤ (messages.drop (summaryCutoff messages compactor.fullStage)).length := by
        rw [isRest]
        exact Nat.le_add_left 2 rest.length
      obtain ⟨left, isLeft, fewer⟩ := removeOverflow_lt (max compactor.fullStage.failedAttempts 2)
        several past
      rw [length_clipFirst, isLeft, length_cons] at counts
      omega

theorem compact_throttled
    (large : ¬(estimateMessageTokens messages ≤ budget.compactionTriggerTokens ∨
      messages.length ≤ compactor.preserveRecentMessages + 1))
    (micro : ¬compactor.Fits messages budget compactor.microStage)
    (full : ¬compactor.Fits messages budget compactor.fullStage) :
    compactor.compact messages budget = compactor.applyFailureThrottle budget
      (compactor.compactWithStage messages compactor.fullStage) := by
  rw [compact, if_neg large]
  exact (if_neg micro).trans (if_neg full)

/-- Every boundary that is returned keeps the law exactly when the throttle is not
reached. -/
theorem compact_lawful_iff (compactor : ContextCompactor) (messages : List ChatMessage)
    (budget : TokenBudgetFrame) :
    (∀ boundary, (compactor.compact messages budget).boundary = some boundary →
      BoundaryLaw messages budget (compactor.compact messages budget) boundary) ↔
    compactor.ThrottleUnreached messages budget := by
  rw [compact, ThrottleUnreached]
  split
  · next small =>
    constructor
    · intro _
      rcases small with low | few
      · exact Or.inl low
      · exact Or.inr (Or.inl few)
    · rintro - boundary ⟨⟩
  · next large =>
    rw [not_or] at large
    have several : 2 ≤ messages.length := by omega
    simp only
    split
    · next fits =>
      constructor
      · intro _
        exact Or.inr (Or.inr (Or.inl fits))
      · rintro - boundary isBoundary
        cases isBoundary
        exact boundaryLaw_stage several fits
    · next micro =>
      split
      · next fits =>
        constructor
        · intro _
          exact Or.inr (Or.inr (Or.inr fits))
        · rintro - boundary isBoundary
          cases isBoundary
          exact boundaryLaw_stage several fits
      · next full =>
        constructor
        · intro lawful
          obtain ⟨boundary, isBoundary, broken⟩ := not_boundaryLaw_throttled several full
          exact absurd (lawful boundary isBoundary) broken
        · rintro (low | few | fits | fits)
          · exact absurd low large.1
          · exact absurd few large.2
          · exact absurd fits micro
          · exact absurd fits full

theorem le_estimate_of_mem {message : ChatMessage} (membership : message ∈ messages) :
    estimateTextTokens message.content ≤ estimateMessageTokens messages := by
  induction messages with
  | nil => cases membership
  | cons first rest ih =>
    rw [estimateMessageTokens]
    cases membership with
    | head => omega
    | tail _ inRest =>
      have least := ih inRest
      omega

theorem not_fits_of_last {last : ChatMessage} (stage : Stage) (several : 2 ≤ messages.length)
    (isLast : messages.getLast? = some last)
    (huge : budget.maxInputTokens < estimateTextTokens last.content) :
    ¬compactor.Fits messages budget stage := by
  intro fits
  have inside := (summaryCutoff_lt stage several).2
  have preserved : last ∈ messages.drop (summaryCutoff messages stage) := by
    apply mem_of_getLast?
    rw [getLast?_drop, if_neg (by omega), isLast]
  have least := le_estimate_of_mem preserved
  rw [Fits] at fits
  omega

def keepsOne : ContextCompactor := ⟨1, fun _ => 0, fun _ => ""⟩

def hugeMessage : ChatMessage :=
  ⟨"user", String.ofList (List.replicate 1000 'a'), none, none⟩

/-- Two short messages and a huge one. -/
def hugeLast : List ChatMessage :=
  [⟨"user", "hello", none, none⟩, ⟨"assistant", "hello", none, none⟩, hugeMessage]

def tightBudget : TokenBudgetFrame := ⟨128, 64, 16, 100⟩

theorem lt_estimateTextTokens {text : String} {bound : Nat} (long : 4 * bound ≤ text.toList.length) :
    bound < estimateTextTokens text := by
  rw [estimateTextTokens]
  omega

theorem huge_message_overflows :
    tightBudget.maxInputTokens < estimateTextTokens hugeMessage.content := by
  have length : hugeMessage.content.toList.length = 1000 := by
    simp only [hugeMessage, String.toList_ofList, length_replicate]
  have long : 4 * tightBudget.maxInputTokens ≤ 1000 := by decide
  exact lt_estimateTextTokens (long.trans_eq length.symm)

theorem hugeLast_large :
    ¬(estimateMessageTokens hugeLast ≤ tightBudget.compactionTriggerTokens ∨
      hugeLast.length ≤ keepsOne.preserveRecentMessages + 1) := by
  have membership : hugeMessage ∈ hugeLast := .tail _ (.tail _ (.head _))
  have least := le_estimate_of_mem membership
  have huge := huge_message_overflows
  have allowed : tightBudget.maxInputTokens = 128 := rfl
  have trigger : tightBudget.compactionTriggerTokens = 100 := rfl
  have three : hugeLast.length = 3 := rfl
  have one : keepsOne.preserveRecentMessages = 1 := rfl
  omega

theorem huge_last_message_overflows :
    ¬∀ (compactor : ContextCompactor) (messages : List ChatMessage) (budget : TokenBudgetFrame),
      128 ≤ budget.maxInputTokens →
      ∀ boundary, (compactor.compact messages budget).boundary = some boundary →
        BoundaryLaw messages budget (compactor.compact messages budget) boundary := by
  intro lawful
  have several : 2 ≤ hugeLast.length := Nat.le_succ 2
  have isLast : hugeLast.getLast? = some hugeMessage := rfl
  have notMicro : ¬keepsOne.Fits hugeLast tightBudget keepsOne.microStage :=
    not_fits_of_last keepsOne.microStage several isLast huge_message_overflows
  have notFull : ¬keepsOne.Fits hugeLast tightBudget keepsOne.fullStage :=
    not_fits_of_last keepsOne.fullStage several isLast huge_message_overflows
  obtain ⟨boundary, isBoundary, broken⟩ := not_boundaryLaw_throttled several notFull
  have isThrottled := compact_throttled hugeLast_large notMicro notFull
  have law := lawful keepsOne hugeLast tightBudget le_rfl boundary
  rw [isThrottled] at law
  exact broken (law isBoundary)

end Law

end ContextCompactor

end AutoLoop.QueryEngine
