import AutoLoop.Foundation.Hex
import AutoLoop.Foundation.Text
import AutoLoop.NoumenonCore.Ledger.Evidence

/-!
# The evidence ledger in a file

One record is one line of nine fields.  The text format is a faithful copy of
the records, so the file ledger answers every call as the in-memory ledger does.
-/

namespace AutoLoop.NoumenonCore

open Text

variable (codec : HexCodec)

def encodeField (value : String) : String := codec.encode value.toUTF8

def decodeField (field : String) : Option String :=
  (codec.decode field).bind String.fromUTF8?

/-- The nine fields of a record, in the order of the format string. -/
def evidenceFields (record : EvidenceRecord) : List String :=
  [encodeField codec record.recordId, encodeField codec record.streamId,
    encodeField codec record.executionId,
    encodeField codec record.stepId,
    encodeField codec record.eventType,
    encodeField codec record.payloadDigest,
    encodeField codec record.prevHash,
    encodeField codec record.recordHash,
    record.timestampMs.val.repr]

def encodeEvidence (record : EvidenceRecord) : String :=
  joinWith '|' (evidenceFields codec record)

/-- `parse::<u128>().ok()`. -/
def parseU128 (text : String) : Option U128 :=
  (parseUnsigned (2 ^ 128) text).map (Fin.ofNat (2 ^ 128))

def decodeEvidence (line : String) : Option EvidenceRecord :=
  match split '|' line with
  | [recordId, streamId, executionId, stepId, eventType, payloadDigest, prevHash,
      recordHash, timestampMs] => do
      let recordId ← decodeField codec recordId
      let streamId ← decodeField codec streamId
      let executionId ← decodeField codec executionId
      let stepId ← decodeField codec stepId
      let eventType ← decodeField codec eventType
      let payloadDigest ← decodeField codec payloadDigest
      let prevHash ← decodeField codec prevHash
      let recordHash ← decodeField codec recordHash
      let timestampMs ← parseU128 timestampMs
      return { recordId, streamId, executionId, stepId, eventType, payloadDigest,
               prevHash, recordHash, timestampMs }
  | _ => none

/-- A ledger whose records are the lines of a text file.  Appending to the file
and reading it back succeed. -/
structure FileEvidenceLedger (codec : HexCodec) where
  content : String := ""
  deriving DecidableEq, Repr

instance : EvidenceLedger (FileEvidenceLedger codec) where
  append record ledger :=
    (.ok (), ⟨ledger.content ++ (encodeEvidence codec record ++ "\n")⟩)
  byExecution executionId ledger :=
    ((lines ledger.content).filterMap (decodeEvidence codec)).filter
      (·.executionId = executionId)

/-! ## Fields -/

@[simp] theorem decodeField_encodeField (value : String) :
    decodeField codec (encodeField codec value) = some value := by
  rw [decodeField, encodeField, codec.decode_encode]
  exact fromUTF8?_toUTF8 value

/-- The text consists of hexadecimal digits, which decimal numbers also do. -/
def IsHexText (text : String) : Prop := ∀ char ∈ text.toList, isHexDigit char = true

theorem encodeField_isHexText (value : String) : IsHexText (encodeField codec value) :=
  codec.encode_digits _

theorem repr_isHexText (value : Nat) : IsHexText value.repr := by
  intro char membership
  simp [isHexDigit, isDigit_of_mem_repr membership]

theorem IsHexText.not_mem {text : String} (digits : IsHexText text) {char : Char}
    (foreign : isHexDigit char = false) : char ∉ text.toList :=
  not_mem_of_isHexDigit digits foreign

theorem split_isHexText {fields : List String} (nonempty : fields ≠ [])
    (digits : ∀ field ∈ fields, IsHexText field) :
    split '|' (joinWith '|' fields) = fields :=
  split_joinWith '|' fields nonempty fun field membership =>
    (digits field membership).not_mem (by decide)

open List

theorem isRow_of_isHexText {fields : List String} (digits : ∀ field ∈ fields, IsHexText field) :
    IsRow (joinWith '|' fields) := by
  have clean : ∀ char ∈ (joinWith '|' fields).toList, char ≠ '\n' ∧ char ≠ '\r' := by
    intro char membership
    rcases mem_joinWith membership with rfl | ⟨field, fieldMem, inField⟩
    · decide
    · have isDigit := digits field fieldMem char inField
      constructor
      · rintro rfl
        simp [isHexDigit] at isDigit
      · rintro rfl
        simp [isHexDigit] at isDigit
  constructor
  · intro membership
    exact (clean _ membership).1 rfl
  · intro last
    exact (clean _ (mem_of_getLast? last)).2 rfl

/-! ## Records -/

variable (record : EvidenceRecord)

theorem evidenceFields_isHexText :
    ∀ field ∈ evidenceFields codec record, IsHexText field := by
  have text := encodeField_isHexText codec
  simp only [evidenceFields, forall_mem_cons]
  exact ⟨text _, text _, text _, text _, text _, text _, text _, text _, repr_isHexText _, by simp⟩

theorem split_encodeEvidence :
    split '|' (encodeEvidence codec record) = evidenceFields codec record :=
  split_isHexText (by simp [evidenceFields]) (evidenceFields_isHexText codec record)

theorem encodeEvidence_isRow :
    IsRow (encodeEvidence codec record) :=
  isRow_of_isHexText (evidenceFields_isHexText codec record)

@[simp] theorem parseU128_repr (value : U128) : parseU128 value.val.repr = some value := by
  rw [parseU128, parseUnsigned_repr value.isLt]
  simp

@[simp] theorem decode_encodeEvidence :
    decodeEvidence codec (encodeEvidence codec record) = some record := by
  simp [decodeEvidence, split_encodeEvidence, evidenceFields]

/-! ## Refinement -/

def EvidenceFileHolds (file : FileEvidenceLedger codec) (memory : InMemoryEvidenceLedger) : Prop :=
  file.content = unlines (memory.records.map (encodeEvidence codec))

theorem lines_of_evidenceFileHolds {file : FileEvidenceLedger codec}
    {memory : InMemoryEvidenceLedger} (holds : EvidenceFileHolds codec file memory) :
    (lines file.content).filterMap (decodeEvidence codec) = memory.records := by
  rw [holds, lines_unlines]
  · simp [filterMap_map]
  · intro row membership
    obtain ⟨record, -, rfl⟩ := mem_map.mp membership
    exact encodeEvidence_isRow codec record

def evidenceSimulation :
    Component.Simulation (evidenceComponent (FileEvidenceLedger codec) {})
      (evidenceComponent InMemoryEvidenceLedger {}) where
  Related := EvidenceFileHolds codec
  initial := rfl
  answer := by
    intro file memory op holds
    cases op with
    | append record => rfl
    | byExecution executionId =>
      change EvidenceAnswer.records _ = EvidenceAnswer.records _
      congr 1
      change filter _ _ = filter _ _
      rw [lines_of_evidenceFileHolds codec holds]
  step := by
    intro file memory op holds
    cases op with
    | append record =>
      change file.content ++ (encodeEvidence codec record ++ "\n") =
        unlines ((memory.records ++ [record]).map (encodeEvidence codec))
      rw [holds, map_append, map_singleton, unlines_snoc]
    | byExecution executionId => exact holds

/-- The file ledger answers every sequence of calls as the in-memory ledger does:
`by_execution` gives back exactly the records appended for the execution, in
append order.  Underneath, every record is one line of nine fields that decodes
to the record it was written from. -/
theorem fileEvidence_refines_inMemory (ops : List EvidenceOp) :
    ((evidenceComponent (FileEvidenceLedger codec) {}).run {} ops).1 =
        ((evidenceComponent InMemoryEvidenceLedger {}).run {} ops).1 ∧
      (∀ executionId, EvidenceLedger.byExecution executionId
            ((evidenceComponent (FileEvidenceLedger codec) {}).run {} ops).2 =
          ofExecution executionId (appendedRecords ops)) ∧
      ∀ record, decodeEvidence codec (encodeEvidence codec record) = some record ∧
          lines (encodeEvidence codec record ++ "\n") =
            [encodeEvidence codec record] ∧
          (split '|' (encodeEvidence codec record)).length = 9 := by
  have simulated := (evidenceSimulation codec).run (evidenceSimulation codec).initial ops
  refine ⟨simulated.1, ?_, ?_⟩
  · intro executionId
    have final := inMemoryEvidence_run {} ops
    have holds : EvidenceFileHolds codec
        ((evidenceComponent (FileEvidenceLedger codec) {}).run {} ops).2
        ((evidenceComponent InMemoryEvidenceLedger {}).run {} ops).2 := simulated.2
    have read := lines_of_evidenceFileHolds codec holds
    rw [final, nil_append] at read
    exact congrArg (filter (·.executionId = executionId)) read
  · intro record
    refine ⟨decode_encodeEvidence codec record, ?_, ?_⟩
    · have rows := lines_unlines [encodeEvidence codec record] (by
        simpa using encodeEvidence_isRow codec record)
      simpa using rows
    · rw [split_encodeEvidence]
      rfl

/-! ## Files written by the ledger -/

def WrittenEvidenceFile (codec : HexCodec) : Type :=
  { file : FileEvidenceLedger codec // ∃ memory, EvidenceFileHolds codec file memory }

theorem append_written {file : FileEvidenceLedger codec}
    (written : ∃ memory, EvidenceFileHolds codec file memory) (record : EvidenceRecord) :
    ∃ memory, EvidenceFileHolds codec (EvidenceLedger.append record file).2 memory := by
  obtain ⟨memory, holds⟩ := written
  exact ⟨⟨memory.records ++ [record]⟩, (evidenceSimulation codec).step (.append record) holds⟩

instance : EvidenceLedger (WrittenEvidenceFile codec) where
  append record ledger :=
    (.ok (), ⟨(EvidenceLedger.append record ledger.val).2,
      append_written codec ledger.property record⟩)
  byExecution executionId ledger := EvidenceLedger.byExecution executionId ledger.val

instance : LawfulEvidenceLedger (WrittenEvidenceFile codec) where
  append_ok := by
    intro record before after appended
    cases appended
    intro executionId
    obtain ⟨file, memory, holds⟩ := before
    have grown := (evidenceSimulation codec).step (.append record) holds
    change filter _ _ = filter _ _ ++ filter _ _
    rw [lines_of_evidenceFileHolds codec holds, ← filter_append]
    exact congrArg _ (lines_of_evidenceFileHolds codec grown)
  append_error := by
    intro record before after message appended
    cases appended

end AutoLoop.NoumenonCore
