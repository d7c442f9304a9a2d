import AutoLoop.Rag.Extraction

/-!
# The windows and the offsets of a chunked text

Chunks are windows of tokens that start a step apart, while their offsets advance by the
length of the chunk before them.  The two agree only where windows share no token.
-/

namespace AutoLoop.Rag

open Text List

/-- `text[start..stop]` is `piece`. -/
def IsSlice (text : String) (start stop : Nat) (piece : String) : Prop :=
  ∃ before after, text = before ++ piece ++ after ∧ before.utf8ByteSize = start ∧
    stop = start + piece.utf8ByteSize

/-- Chunks are the windows of the tokens that begin at `start`, in order, sharing `shared`
tokens each, with the offsets that they have in the normalised text. -/
structure CoversExactly (tokens : List String) (shared : Nat) (chunks : List ChunkRecord)
    (start : Nat → Nat) : Prop where
  windows : ∀ i chunk, chunks[i]? = some chunk →
    0 < chunk.tokenCount ∧ start i + chunk.tokenCount ≤ tokens.length ∧
      chunk.text = joinWith ' ' ((tokens.drop (start i)).take chunk.tokenCount)
  covered : ∀ t < tokens.length, ∃ i chunk,
    chunks[i]? = some chunk ∧ start i ≤ t ∧ t < start i + chunk.tokenCount
  advancing : ∀ i chunk later, chunks[i]? = some chunk → chunks[i + 1]? = some later →
    start i < start (i + 1) ∧ start i + chunk.tokenCount < start (i + 1) + later.tokenCount
  sharing : ∀ i chunk, chunks[i]? = some chunk → i + 2 < chunks.length →
    start (i + 1) + shared = start i + chunk.tokenCount
  slices : ∀ chunk ∈ chunks,
    IsSlice (joinWith ' ' tokens) chunk.offsetStart chunk.offsetEnd chunk.text

/-! ## Joined tokens -/

def width (tokens : List String) : Nat := (tokens.map fun token => token.utf8ByteSize + 1).sum

@[simp] theorem width_append (first second : List String) :
    width (first ++ second) = width first + width second := by
  simp [width]

theorem joinWith_append {first second : List String} (ne : first ≠ []) (more : second ≠ []) :
    joinWith ' ' (first ++ second) =
      joinWith ' ' first ++ " " ++ joinWith ' ' second := by
  rw [← String.toList_inj]
  simp only [String.toList_append, toList_joinWith, map_append]
  induction first with
  | nil => exact absurd rfl ne
  | cons token rest ih =>
    cases rest with
    | nil =>
      obtain ⟨next, others, rfl⟩ := exists_cons_of_ne_nil more
      simp [List.intercalate]
    | cons next others =>
      have tail := ih (cons_ne_nil _ _)
      simp only [map_cons, cons_append, List.intercalate,
        intersperse_cons_cons, flatten_cons, append_assoc] at tail ⊢
      rw [tail]

theorem joinWith_size {tokens : List String} (ne : tokens ≠ []) :
    (joinWith ' ' tokens).utf8ByteSize + 1 = width tokens := by
  induction tokens with
  | nil => exact absurd rfl ne
  | cons token rest ih =>
    cases rest with
    | nil => simp [joinWith, width]
    | cons next others =>
      have tail := ih (cons_ne_nil _ _)
      have spaced : (String.singleton ' ').utf8ByteSize = 1 := rfl
      simp only [width, map_cons, sum_cons] at tail ⊢
      simp only [joinWith, String.utf8ByteSize_append, spaced]
      omega

theorem isSlice_window (first window last : List String) (ne : window ≠ []) :
    IsSlice (joinWith ' ' (first ++ window ++ last)) (width first)
      (width first + (joinWith ' ' window).utf8ByteSize) (joinWith ' ' window) := by
  have ended : ∃ after, joinWith ' ' (window ++ last) =
      joinWith ' ' window ++ after := by
    by_cases empty : last = []
    · exact ⟨"", by simp [empty]⟩
    · exact ⟨" " ++ joinWith ' ' last, by
        rw [joinWith_append ne empty, String.append_assoc]⟩
  obtain ⟨after, ended⟩ := ended
  rw [append_assoc]
  by_cases empty : first = []
  · exact ⟨"", after, by simp [empty, ended], by simp [empty, width], rfl⟩
  · refine ⟨joinWith ' ' first ++ " ", after, ?_, ?_, rfl⟩
    · rw [joinWith_append empty (by simp [ne]), ended]
      simp only [String.append_assoc]
    · rw [← joinWith_size empty, String.utf8ByteSize_append]
      rfl

/-! ## The chunk at an index -/

/-- The bytes by which the cursor is past the chunks before one. -/
def cursorAt (size step : Nat) : Nat → List String → Nat
  | 0, _ => 0
  | i + 1, tokens =>
    ((joinWith ' ' (tokens.take size)).utf8ByteSize + 1) +
      cursorAt size step i (tokens.drop step)

/-- The chunk at an index, by its text and its place. -/
def chunkAt (documentId ordinal start : Nat) (window : List String) : ChunkRecord where
  id := 0
  documentId
  ordinal
  text := joinWith ' ' window
  tokenCount := window.length
  offsetStart := start
  offsetEnd := start + (joinWith ' ' window).utf8ByteSize
  previousChunkId := none
  nextChunkId := none

theorem getElem?_chunksFrom {documentId size step fuel : Nat} (positive : 0 < step)
    (ordinal cursor : Nat) (tokens : List String) (enough : tokens.length ≤ fuel) (i : Nat) :
    (chunksFrom documentId size step fuel ordinal cursor tokens)[i]? =
      if i * step < tokens.length then
        some (chunkAt documentId (ordinal + i) (cursor + cursorAt size step i tokens)
          ((tokens.drop (i * step)).take size))
      else none := by
  induction fuel generalizing ordinal cursor tokens i with
  | zero => simp [chunksFrom, length_eq_zero_iff.mp (Nat.le_zero.mp enough)]
  | succ fuel ih =>
    by_cases empty : tokens = []
    · simp [chunksFrom, empty]
    · have some_token := length_pos_iff.mpr empty
      rw [chunksFrom, if_neg empty]
      cases i with
      | zero => simp [some_token, chunkAt, cursorAt]
      | succ i =>
        have fewer : (tokens.drop step).length ≤ fuel := by
          rw [length_drop]
          omega
        have reached : i * step < (tokens.drop step).length ↔
            (i + 1) * step < tokens.length := by
          rw [length_drop, Nat.succ_mul]
          omega
        rw [getElem?_cons_succ, ih _ _ _ fewer]
        simp only [reached, drop_drop, cursorAt, Nat.succ_mul, Nat.add_comm, Nat.add_left_comm]

/-! ## The cursor and the tokens -/

theorem width_take_le {size step : Nat} (tokens : List String) (within : step ≤ size) :
    width (tokens.take step) ≤ (joinWith ' ' (tokens.take size)).utf8ByteSize + 1 ∧
      (step < size → step < tokens.length → width (tokens.take step) <
          (joinWith ' ' (tokens.take size)).utf8ByteSize + 1) := by
  by_cases empty : tokens.take size = []
  · have none_taken : tokens.take step = [] := by
      rw [← length_eq_zero_iff, length_take] at empty ⊢
      omega
    simp [none_taken, width]
  · have parts := take_add (i := step) (j := size - step) (l := tokens)
    rw [Nat.add_sub_cancel' within] at parts
    rw [joinWith_size empty, parts, width_append]
    refine ⟨Nat.le_add_right _ _, fun below more => ?_⟩
    have further : (tokens.drop step).take (size - step) ≠ [] := by
      rw [ne_eq, take_eq_nil_iff, drop_eq_nil_iff]
      omega
    rw [← joinWith_size further]
    omega

theorem width_le_cursorAt {size step : Nat} (within : step ≤ size) (i : Nat)
    (tokens : List String) :
    width (tokens.take (i * step)) ≤ cursorAt size step i tokens := by
  induction i generalizing tokens with
  | zero => simp [width]
  | succ i ih =>
    rw [Nat.succ_mul, Nat.add_comm, take_add, width_append, cursorAt]
    exact Nat.add_le_add (width_take_le tokens within).1 (ih _)

theorem width_lt_cursorAt {size step : Nat} (within : step < size) (i : Nat)
    {tokens : List String} (more : step < tokens.length) :
    width (tokens.take ((i + 1) * step)) < cursorAt size step (i + 1) tokens := by
  rw [Nat.succ_mul, Nat.add_comm, take_add, width_append, cursorAt]
  exact Nat.add_lt_add_of_lt_of_le ((width_take_le tokens within.le).2 within more)
    (width_le_cursorAt within.le i _)

theorem cursorAt_disjoint {size : Nat} (positive : 0 < size) (i : Nat) {tokens : List String}
    (before : i * size < tokens.length) :
    cursorAt size size i tokens = width (tokens.take (i * size)) := by
  induction i generalizing tokens with
  | zero => simp [cursorAt, width]
  | succ i ih =>
    rw [Nat.succ_mul] at before
    have taken : tokens.take size ≠ [] := by
      rw [ne_eq, ← length_eq_zero_iff, length_take]
      omega
    rw [Nat.succ_mul, Nat.add_comm (i * size), take_add, width_append, cursorAt,
      joinWith_size taken, ih (by rw [length_drop]; omega)]

theorem cursorAt_succ (size step i : Nat) (tokens : List String) :
    cursorAt size step (i + 1) tokens = cursorAt size step i tokens +
      ((joinWith ' ' ((tokens.drop (i * step)).take size)).utf8ByteSize + 1) := by
  induction i generalizing tokens with
  | zero => simp [cursorAt]
  | succ i ih =>
    rw [cursorAt, ih, cursorAt, drop_drop, Nat.succ_mul, Nat.add_comm step]
    omega

/-! ## When the chunks cover the text -/

section
variable {documentId size step shared : Nat} {tokens : List String}

theorem getElem?_chunks (positive : 0 < step) (i : Nat) :
    (chunksFrom documentId size step tokens.length 0 0 tokens)[i]? =
      if i * step < tokens.length then
        some (chunkAt documentId i (cursorAt size step i tokens)
          ((tokens.drop (i * step)).take size))
      else none := by
  rw [getElem?_chunksFrom positive 0 0 tokens (Nat.le_refl _) i, Nat.zero_add, Nat.zero_add]

theorem not_coversExactly (positive : 0 < step) (within : step < size)
    (more : step < tokens.length) {start : Nat → Nat} :
    ¬ CoversExactly tokens shared
      (chunksFrom documentId size step tokens.length 0 0 tokens) start := by
  intro covers
  let i := (tokens.length - 1) / step
  have split := Nat.div_add_mod' (tokens.length - 1) step
  have rest := Nat.mod_lt (tokens.length - 1) positive
  change i * step + _ = _ at split
  have found := @getElem?_chunks documentId size step tokens positive i
  rw [if_pos (by omega)] at found
  obtain ⟨before, after, joined, begins, ends⟩ :=
    covers.slices _ (mem_of_getElem? found)
  have past := width_lt_cursorAt within i more
  have whole : tokens.length ≤ (i + 1) * step := by
    rw [Nat.succ_mul]
    omega
  rw [take_of_length_le whole, cursorAt_succ,
    ← joinWith_size (ne_nil_of_length_pos (Nat.zero_lt_of_lt more)), joined] at past
  simp only [chunkAt, String.utf8ByteSize_append] at begins past
  omega

theorem coversExactly_of_disjoint (positive : 0 < step) (within : step + shared = size)
    (disjoint : shared = 0 ∨ tokens.length ≤ step) :
    CoversExactly tokens shared
      (chunksFrom documentId size step tokens.length 0 0 tokens) (· * step) := by
  have present : ∀ i chunk,
      (chunksFrom documentId size step tokens.length 0 0 tokens)[i]? = some chunk →
      i * step < tokens.length ∧ chunk = chunkAt documentId i (cursorAt size step i tokens)
        ((tokens.drop (i * step)).take size) := by
    intro i chunk found
    rw [getElem?_chunks positive] at found
    split at found
    · next reached => exact ⟨reached, (Option.some.inj found).symm⟩
    · cases found
  have later : ∀ i, (i + 1) * step < tokens.length → shared = 0 := by
    intro i reached
    rw [Nat.succ_mul] at reached
    omega
  refine ⟨?_, ?_, ?_, ?_, ?_⟩
  · intro i chunk found
    obtain ⟨reached, rfl⟩ := present i chunk found
    simp only [chunkAt, length_take, length_drop]
    refine ⟨by omega, by omega, congrArg _ ?_⟩
    rw [← length_drop, ← take_eq_take_min]
  · intro t inside
    have split := Nat.div_add_mod' t step
    have rest := Nat.mod_lt t positive
    refine ⟨t / step, _, (getElem?_chunks positive _).trans (if_pos (by omega)), by omega, ?_⟩
    simp only [chunkAt, length_take, length_drop]
    omega
  · intro i chunk next found after
    obtain ⟨reached, rfl⟩ := present i chunk found
    obtain ⟨further, rfl⟩ := present (i + 1) next after
    have apart := later i further
    simp only [chunkAt, length_take, length_drop, Nat.succ_mul] at further ⊢
    omega
  · intro i chunk found more
    obtain ⟨reached, rfl⟩ := present i chunk found
    obtain ⟨further, -⟩ := present (i + 1) _ (getElem?_eq_getElem (by omega))
    have apart := later i further
    simp only [chunkAt, length_take, length_drop, Nat.succ_mul] at further ⊢
    omega
  · intro chunk membership
    obtain ⟨i, found⟩ := getElem?_of_mem membership
    obtain ⟨reached, rfl⟩ := present i chunk found
    have window : (tokens.drop (i * step)).take size ≠ [] := by
      rw [ne_eq, take_eq_nil_iff, drop_eq_nil_iff]
      omega
    have behind : cursorAt size step i tokens = width (tokens.take (i * step)) := by
      cases i with
      | zero => simp [cursorAt, width]
      | succ i =>
        obtain rfl : step = size := by
          have apart := later i reached
          omega
        exact cursorAt_disjoint positive (i + 1) reached
    have slice := isSlice_window (tokens.take (i * step)) _
      ((tokens.drop (i * step)).drop size) window
    rw [append_assoc, take_append_drop, take_append_drop, ← behind] at slice
    exact slice

end

/-- Chunks cover their text exactly where they overlap in no token, or there is only one. -/
theorem chunkText_coversExactly_iff (documentId : Nat) (text : String) (chunkSize overlap : Nat) :
    (∃ start, CoversExactly (splitWhitespace text) (min overlap (max chunkSize 48 / 3))
      (chunkText documentId text chunkSize overlap) start) ↔
    overlap = 0 ∨ (splitWhitespace text).length ≤
      max chunkSize 48 - min overlap (max chunkSize 48 / 3) := by
  have shared_le : min overlap (max chunkSize 48 / 3) < max chunkSize 48 := by omega
  have positive : 0 < max (max chunkSize 48 - min overlap (max chunkSize 48 / 3)) 1 := by omega
  constructor
  · intro ⟨start, covers⟩
    by_contra overlapping
    exact not_coversExactly positive (by omega) (by omega) covers
  · intro disjoint
    exact ⟨_, coversExactly_of_disjoint positive (by omega) (by omega)⟩

/-- Thirty-three tokens in chunks of 48 that share 16. -/
theorem overlapping_chunks_misplaced :
    ¬ ∃ start, CoversExactly
      (splitWhitespace (String.ofList (List.replicate 33 ['a', ' ']).flatten)) 16
      (chunkText 1 (String.ofList (List.replicate 33 ['a', ' ']).flatten) 48 16) start := by
  intro ⟨start, covers⟩
  refine not_coversExactly (by decide) (by decide) ?_ covers
  decide +kernel

end AutoLoop.Rag
