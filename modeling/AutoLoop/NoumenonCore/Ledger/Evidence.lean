import AutoLoop.Foundation.Component
import AutoLoop.Foundation.Effect
import AutoLoop.Foundation.Word

/-!
# Evidence ledgers

The ledger trait, its law and its in-memory implementation.  The law is what the
kernel relies on: a successful append adds its record at the end of what
`by_execution` answers for that execution, and nothing else changes an answer.
-/

namespace AutoLoop.NoumenonCore

structure EvidenceRecord where
  recordId : String
  streamId : String
  executionId : String
  stepId : String
  eventType : String
  payloadDigest : String
  prevHash : String
  recordHash : String
  timestampMs : U128
  deriving DecidableEq, Repr

/-- The trait `EvidenceLedger`, over the type of ledger states. -/
class EvidenceLedger (Ledger : Type) where
  append : EvidenceRecord → Effect Ledger Unit
  byExecution : String → Ledger → List EvidenceRecord

def ofExecution (executionId : String) (records : List EvidenceRecord) :
    List EvidenceRecord :=
  records.filter (·.executionId = executionId)

@[simp] theorem ofExecution_nil (executionId : String) :
    ofExecution executionId [] = [] := rfl

@[simp] theorem ofExecution_append (executionId : String) (first second : List EvidenceRecord) :
    ofExecution executionId (first ++ second) =
      ofExecution executionId first ++ ofExecution executionId second :=
  List.filter_append ..

section
variable {executionId : String} {records : List EvidenceRecord}

theorem ofExecution_eq_self (own : ∀ record ∈ records, record.executionId = executionId) :
    ofExecution executionId records = records := by
  apply List.filter_eq_self.mpr
  intro record membership
  exact decide_eq_true (own record membership)

theorem ofExecution_eq_nil (foreign : ∀ record ∈ records, record.executionId ≠ executionId) :
    ofExecution executionId records = [] := by
  apply List.filter_eq_nil_iff.mpr
  intro record membership
  simpa using foreign record membership

end

/-- The second ledger answers as the first one does with `records` added. -/
def Appended {Ledger : Type} [EvidenceLedger Ledger] (records : List EvidenceRecord)
    (before after : Ledger) : Prop :=
  ∀ executionId, EvidenceLedger.byExecution executionId after =
    EvidenceLedger.byExecution executionId before ++ ofExecution executionId records

/-- The law of an evidence ledger: appends add, failed appends do nothing. -/
class LawfulEvidenceLedger (Ledger : Type) [EvidenceLedger Ledger] : Prop where
  append_ok : ∀ {record : EvidenceRecord} {before after : Ledger},
    EvidenceLedger.append record before = (.ok (), after) →
      Appended [record] before after
  append_error : ∀ {record : EvidenceRecord} {before after : Ledger} {message : String},
    EvidenceLedger.append record before = (.error message, after) →
      Appended [] before after

namespace Appended

variable {Ledger : Type} [EvidenceLedger Ledger]
variable {first second : List EvidenceRecord} {before middle after : Ledger}

theorem refl (ledger : Ledger) : Appended [] ledger ledger := by
  intro executionId
  simp

theorem trans (earlier : Appended first before middle)
    (later : Appended second middle after) : Appended (first ++ second) before after := by
  intro executionId
  rw [later, earlier, ofExecution_append, List.append_assoc]

end Appended

/-! ## In memory -/

structure InMemoryEvidenceLedger where
  records : List EvidenceRecord := []
  deriving DecidableEq, Repr

instance : EvidenceLedger InMemoryEvidenceLedger where
  append record ledger := (.ok (), ⟨ledger.records ++ [record]⟩)
  byExecution executionId ledger := ofExecution executionId ledger.records

instance : LawfulEvidenceLedger InMemoryEvidenceLedger where
  append_ok := by
    intro record before after appended
    cases appended
    intro executionId
    exact ofExecution_append ..
  append_error := by
    intro record before after message appended
    cases appended

/-! ## A ledger as a component -/

/-- The calls of the trait. -/
inductive EvidenceOp where
  | append (record : EvidenceRecord)
  | byExecution (executionId : String)
  deriving DecidableEq, Repr

/-- What a call answers. -/
inductive EvidenceAnswer where
  | appended (result : Except String Unit)
  | records (found : List EvidenceRecord)

/-- A ledger that starts from a given state and is called through the trait. -/
def evidenceComponent (Ledger : Type) [EvidenceLedger Ledger] (initial : Ledger) :
    Component Ledger EvidenceOp EvidenceAnswer where
  initial := initial
  step ledger
    | .append record =>
      (.appended (EvidenceLedger.append record ledger).1, (EvidenceLedger.append record ledger).2)
    | .byExecution executionId =>
      (.records (EvidenceLedger.byExecution executionId ledger), ledger)

/-- The records appended by a sequence of calls, in order. -/
def appendedRecords (ops : List EvidenceOp) : List EvidenceRecord :=
  ops.filterMap fun
    | .append record => some record
    | .byExecution _ => none

theorem inMemoryEvidence_run (ledger : InMemoryEvidenceLedger) (ops : List EvidenceOp) :
    ((evidenceComponent InMemoryEvidenceLedger {}).run ledger ops).2 =
      ⟨ledger.records ++ appendedRecords ops⟩ := by
  induction ops generalizing ledger with
  | nil => simp [appendedRecords]
  | cons op rest ih =>
    rw [Component.run_cons, ih]
    cases op with
    | append record =>
      simp [evidenceComponent, EvidenceLedger.append, appendedRecords]
    | byExecution executionId => simp [evidenceComponent, appendedRecords]

end AutoLoop.NoumenonCore
