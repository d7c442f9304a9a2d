import AutoLoop.QueryEngine.QueryLoop

/-!
# Provider prompts within a budget

`compact_provider_messages_for_budget` of the runtime kernel: three ways of compacting, of
which the last is not measured again.  The estimate counts bytes where the clipping counts
characters, and the first way ends with whatever message came last.
-/

namespace AutoLoop.Runtime

open QueryEngine (ChatMessage)
open List

namespace ProviderBudget

/-! ## The estimate -/

/-- The conversion of a size to `f32`: 24 significant bits, to the nearest, ties to even. -/
def roundToF32 (size : Nat) : Nat :=
  if size < 2 ^ 24 then size
  else
    let unit := 2 ^ (size.log2 - 23)
    let quotient := size / unit
    let remainder := size % unit
    if unit < 2 * remainder ∨ (unit = 2 * remainder ∧ quotient % 2 = 1) then (quotient + 1) * unit
    else quotient * unit

def totalSize : List ChatMessage → Nat
  | [] => 0
  | message :: rest => message.role.utf8ByteSize + message.content.utf8ByteSize + totalSize rest

/-- A quarter of an `f32` is exact, and the conversion to `u32` saturates. -/
def estimateTokens (messages : List ChatMessage) : Nat :=
  min ((roundToF32 (totalSize messages) + 3) / 4) (2 ^ 32 - 1)

/-! ## Compaction -/

def truncateChars (content : String) (maxChars : Nat) : String :=
  if maxChars = 0 ∨ content = "" then ""
  else if content.toList.length ≤ maxChars then content
  else String.ofList (content.toList.take maxChars)

def isSystem (message : ChatMessage) : Bool := message.role = "system"

def isUser (message : ChatMessage) : Bool := message.role = "user"

def nonSystem (messages : List ChatMessage) : List ChatMessage :=
  messages.filter (!isSystem ·)

def summaryEntry (message : ChatMessage) : String :=
  let compact := message.content.toList.map fun char => if char = '\n' then ' ' else char
  message.role ++ ": " ++ String.ofList (compact.take 96)

def summaryMessages (dropped : List ChatMessage) : List ChatMessage :=
  if dropped = [] then []
  else [⟨"assistant", "[BudgetCompactionSummary] preserved most recent messages; " ++
    "prior context summary: " ++ String.intercalate " | " ((dropped.take 8).map summaryEntry),
    none, none⟩]

section
variable (messages : List ChatMessage)

def clippedSystem (maxChars : Nat) : List ChatMessage :=
  ((messages.find? isSystem).map fun system =>
    ⟨system.role, truncateChars system.content maxChars, none, none⟩).toList

def splitAt : Nat :=
  (nonSystem messages).length - max (min (nonSystem messages).length 2) 1

def compacted (maxTokens : Nat) : List ChatMessage :=
  clippedSystem messages (maxTokens * 4 / 4) ++
    summaryMessages ((nonSystem messages).take (splitAt messages)) ++
    (nonSystem messages).drop (splitAt messages)

def latestUser? : Option ChatMessage :=
  messages.reverse.find? isUser

end

def latestUser (messages : List ChatMessage) : ChatMessage :=
  (latestUser? messages).getD ⟨"user", "budget compaction fallback request", none, none⟩

section
variable (messages : List ChatMessage)

def userPrompt (maxChars : Nat) : ChatMessage :=
  ⟨"user", truncateChars (latestUser messages).content maxChars, none, none⟩

def hardCompacted (maxTokens : Nat) : List ChatMessage :=
  clippedSystem messages (maxTokens * 4 * 20 / 100) ++
    [userPrompt messages (maxTokens * 4 * 75 / 100)]

def compactProviderMessagesForBudget (maxTokens : Nat) :
    List ChatMessage :=
  if messages = [] then []
  else if estimateTokens messages ≤ maxTokens then messages
  else if estimateTokens (compacted messages maxTokens) ≤ maxTokens then
    compacted messages maxTokens
  else if estimateTokens (hardCompacted messages maxTokens) ≤ maxTokens then
    hardCompacted messages maxTokens
  else [userPrompt messages (maxTokens * 4 * 90 / 100)]

end

/-! ## What is asked of the result -/

def EndsWithLatestUser (messages result : List ChatMessage) : Prop :=
  ∃ user last, latestUser? messages = some user ∧ result.getLast? = some last ∧
    last.role = "user" ∧ last.content.toList <+: user.content.toList

structure CompactsToBudget (messages : List ChatMessage) (maxTokens : Nat) : Prop where
  within : estimateTokens (compactProviderMessagesForBudget messages maxTokens) ≤ maxTokens
  unchanged : estimateTokens messages ≤ maxTokens →
    compactProviderMessagesForBudget messages maxTokens = messages
  ends : ¬estimateTokens messages ≤ maxTokens →
    EndsWithLatestUser messages (compactProviderMessagesForBudget messages maxTokens)

/-- The messages fit; or there is a user message, it comes last if the first compaction
fits, and if neither compaction fits its clipped text does, in bytes. -/
def Compactable (messages : List ChatMessage) (maxTokens : Nat) : Prop :=
  totalSize messages ≤ maxTokens * 4 ∨
    ∃ user, latestUser? messages = some user ∧
      if totalSize (compacted messages maxTokens) ≤ maxTokens * 4 then
        (nonSystem messages).getLast? = some user
      else totalSize (hardCompacted messages maxTokens) ≤ maxTokens * 4 ∨
        4 + (truncateChars user.content (maxTokens * 4 * 90 / 100)).utf8ByteSize ≤ maxTokens * 4

/-! ## The estimate in bytes -/

theorem roundToF32_of_large {size : Nat} (large : 2 ^ 24 ≤ size) : 2 ^ 24 ≤ roundToF32 size := by
  have nonzero : size ≠ 0 := by
    rintro rfl
    exact absurd large (by decide)
  have bits : 24 ≤ size.log2 := (Nat.le_log2 nonzero).mpr large
  have highest : 2 ^ size.log2 ≤ size := Nat.log2_self_le nonzero
  have isPower : 2 ^ size.log2 = 2 ^ 23 * 2 ^ (size.log2 - 23) := by
    rw [← Nat.pow_add]
    congr 1
    omega
  have unit : 2 ≤ 2 ^ (size.log2 - 23) := by
    calc 2 = 2 ^ 1 := rfl
      _ ≤ 2 ^ (size.log2 - 23) := Nat.pow_le_pow_right (by decide) (by omega)
  have quotient : 2 ^ 23 ≤ size / 2 ^ (size.log2 - 23) := by
    rw [Nat.le_div_iff_mul_le (by omega), ← isPower]
    exact highest
  have least : 2 ^ 24 ≤ size / 2 ^ (size.log2 - 23) * 2 ^ (size.log2 - 23) :=
    Nat.mul_le_mul quotient unit
  rw [roundToF32, if_neg (Nat.not_lt.mpr large)]
  simp only
  split
  · exact least.trans (Nat.mul_le_mul_right _ (Nat.le_succ _))
  · exact least

/-- Below `2 ^ 22` tokens the estimate is exact. -/
theorem estimateTokens_le_iff {maxTokens : Nat} (low : maxTokens < 2 ^ 22)
    (messages : List ChatMessage) :
    estimateTokens messages ≤ maxTokens ↔ totalSize messages ≤ maxTokens * 4 := by
  rw [estimateTokens]
  rcases Nat.lt_or_ge (totalSize messages) (2 ^ 24) with small | large
  · rw [roundToF32, if_pos small]
    omega
  · have rounded := roundToF32_of_large large
    omega

theorem estimate_le_of_totalSize {maxTokens : Nat} {messages : List ChatMessage}
    (small : totalSize messages < 2 ^ 24) :
    estimateTokens messages ≤ maxTokens ↔ totalSize messages ≤ maxTokens * 4 := by
  rw [estimateTokens, roundToF32, if_pos small]
  omega

/-! ## The last message -/

section Last

variable {messages : List ChatMessage} {maxTokens maxChars : Nat} {user : ChatMessage}

theorem truncateChars_prefix (content : String) (maxChars : Nat) :
    (truncateChars content maxChars).toList <+: content.toList := by
  rw [truncateChars]
  split
  · exact nil_prefix
  · split
    · exact prefix_rfl
    · rw [String.toList_ofList]
      exact take_prefix _ _

section
variable (latest : latestUser? messages = some user)
include latest

theorem isUser_of_latest : user.role = "user" := by
  have found := find?_some latest
  simpa [isUser] using found

theorem mem_nonSystem_of_latest :
    user ∈ nonSystem messages := by
  have membership := mem_reverse.mp (mem_of_find?_eq_some latest)
  rw [nonSystem, mem_filter]
  exact ⟨membership, by simp [isSystem, isUser_of_latest latest]⟩

theorem getLast?_compacted :
    (compacted messages maxTokens).getLast? = (nonSystem messages).getLast? := by
  have nonempty : (nonSystem messages).length ≠ 0 :=
    (length_pos_of_mem (mem_nonSystem_of_latest latest)).ne'
  have kept : splitAt messages < (nonSystem messages).length := by
    rw [splitAt]
    omega
  rw [compacted, getLast?_append, getLast?_drop, if_neg (by omega)]
  cases isLast : (nonSystem messages).getLast? with
  | none =>
    rw [getLast?_eq_none_iff] at isLast
    exact absurd (congrArg List.length isLast) nonempty
  | some last => rfl

end

theorem latest_of_last {last : ChatMessage} (isLast : (nonSystem messages).getLast? = some last)
    (role : last.role = "user") : latestUser? messages = some last := by
  rw [nonSystem, getLast?_eq_head?_reverse, ← filter_reverse, head?_filter] at isLast
  rw [latestUser?]
  obtain ⟨-, before, after, shape, others⟩ := find?_eq_some_iff_append.mp isLast
  rw [find?_eq_some_iff_append]
  refine ⟨by simp [isUser, role], before, after, shape, ?_⟩
  intro other membership
  have isOther := others other membership
  simp only [Bool.not_not, isSystem, decide_eq_true_eq] at isOther
  simp [isUser, isOther]

section
variable (latest : latestUser? messages = some user)
include latest

theorem ends_compacted_iff :
    EndsWithLatestUser messages (compacted messages maxTokens) ↔
      (nonSystem messages).getLast? = some user := by
  rw [EndsWithLatestUser, getLast?_compacted latest]
  constructor
  · rintro ⟨other, last, -, isLast, role, -⟩
    have same := latest_of_last isLast role
    rw [latest] at same
    rw [isLast, same]
  · intro isLast
    exact ⟨user, user, latest, isLast, isUser_of_latest latest, prefix_rfl⟩

theorem ends_userPrompt (first : List ChatMessage) :
    EndsWithLatestUser messages (first ++ [userPrompt messages maxChars]) := by
  refine ⟨user, userPrompt messages maxChars, latest, getLast?_concat, rfl, ?_⟩
  rw [userPrompt, latestUser, latest]
  exact truncateChars_prefix _ _

theorem totalSize_userPrompt :
    totalSize [userPrompt messages maxChars] =
      4 + (truncateChars user.content maxChars).utf8ByteSize := by
  rw [totalSize, userPrompt, latestUser, latest]
  rfl

end

end Last

/-- Eleven characters of four bytes each. -/
def wideMessage : ChatMessage := ⟨"user", "😀😀😀😀😀😀😀😀😀😀😀", none, none⟩

end ProviderBudget

end AutoLoop.Runtime
