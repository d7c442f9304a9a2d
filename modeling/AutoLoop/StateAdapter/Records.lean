import AutoLoop.Foundation.Table
import AutoLoop.Foundation.Text
import Mathlib.Data.UInt

/-!
# Records of the state store

The records that both backends keep, and the table of knowledge records, in
which every record stands under its own key.
-/

namespace AutoLoop.StateAdapter

open List

structure KnowledgeRecord where
  id : UInt64
  key : String
  value : String
  source : String
  deriving DecidableEq, Repr

structure ScheduleEvent where
  id : UInt64
  sessionId : String
  topic : String
  toolName : String
  payload : String
  actorId : String
  status : String
  deriving DecidableEq, Repr

structure AgentState where
  id : UInt64
  sessionId : String
  lastUserMessage : String
  lastAssistantMessage : Option String
  deriving DecidableEq, Repr

inductive PermissionAction where
  | read
  | write
  | dispatch
  | admin
  deriving DecidableEq, Repr

/-- A grant with its permissions.  They are read from a hash set by one of the
backends, so their order carries no meaning. -/
structure PermissionGrant where
  actorId : String
  permissions : Multiset PermissionAction
  deriving DecidableEq

structure Knowledge where
  table : Table String KnowledgeRecord
  keyed : ∀ key record, table.get key = some record → record.key = key

namespace Knowledge

def empty : Knowledge where
  table := Table.empty
  keyed := by
    intro key record found
    cases found

instance : Inhabited Knowledge := ⟨empty⟩

def get (knowledge : Knowledge) (key : String) : Option KnowledgeRecord :=
  knowledge.table.get key

def put (knowledge : Knowledge) (record : KnowledgeRecord) : Knowledge where
  table := knowledge.table.insert record.key record
  keyed := by
    intro key held found
    rw [Table.get_insert] at found
    split at found
    · next same =>
      cases found
      exact same.symm
    · exact knowledge.keyed key held found

/-- The records whose keys satisfy a test, in key order. -/
def select (knowledge : Knowledge) (keep : String → Bool) : List KnowledgeRecord :=
  (knowledge.table.select keep).map (·.2)

variable {knowledge : Knowledge} {record : KnowledgeRecord} {keep : String → Bool}

@[simp] theorem get_empty (key : String) : empty.get key = none := rfl

@[simp] theorem select_empty (keep : String → Bool) : empty.select keep = [] := rfl

section
variable (knowledge : Knowledge) (record : KnowledgeRecord)

theorem get_put (key : String) :
    (knowledge.put record).get key =
      if key = record.key then some record else knowledge.get key :=
  Table.get_insert _ _ _ _

@[simp] theorem get_put_self :
    (knowledge.put record).get record.key = some record := by
  rw [get_put, if_pos rfl]

end

theorem get_put_of_ne {key : String} (different : key ≠ record.key) :
    (knowledge.put record).get key = knowledge.get key := by
  rw [get_put, if_neg different]

theorem key_of_get {key : String} (found : knowledge.get key = some record) :
    record.key = key :=
  knowledge.keyed key record found

theorem mem_select_iff :
    record ∈ knowledge.select keep ↔
      knowledge.get record.key = some record ∧ keep record.key = true := by
  rw [select, mem_map]
  constructor
  · rintro ⟨⟨key, held⟩, membership, rfl⟩
    obtain ⟨found, kept⟩ := Table.mem_select_iff.mp membership
    have isKey := knowledge.keyed key held found
    simp only at isKey ⊢
    rw [isKey]
    exact ⟨found, kept⟩
  · rintro ⟨found, kept⟩
    exact ⟨(record.key, record), Table.mem_select_iff.mpr ⟨found, kept⟩, rfl⟩

theorem increasing_select (knowledge : Knowledge) (keep : String → Bool) :
    (knowledge.select keep).Pairwise fun first second => first.key < second.key := by
  apply pairwise_map.mpr
  apply List.Pairwise.imp_of_mem ?_ (knowledge.table.increasing_select keep)
  rintro ⟨key, held⟩ ⟨other, later⟩ membership laterMembership below
  rw [knowledge.keyed key held (Table.mem_select_iff.mp membership).1,
    knowledge.keyed other later (Table.mem_select_iff.mp laterMembership).1]
  exact below

theorem select_congr {keep other : String → Bool}
    (same : ∀ record, knowledge.get record.key = some record → keep record.key = other record.key) :
    knowledge.select keep = knowledge.select other := by
  rw [select, select, Table.select, Table.select]
  congr 1
  apply filter_congr
  rintro ⟨key, held⟩ membership
  have found := Table.mem_rows_iff.mp membership
  have isKey := knowledge.keyed key held found
  have kept := same held (by rw [isKey]; exact found)
  rw [isKey] at kept
  exact kept

theorem nodup_select (knowledge : Knowledge) (keep : String → Bool) :
    (knowledge.select keep).Nodup := by
  apply (knowledge.increasing_select keep).imp
  rintro first second below rfl
  exact lt_irrefl _ below

theorem filter_select {key : String} (found : knowledge.get key = some record)
    (kept : keep key = true) :
    (knowledge.select keep).filter (fun other => other.key = key) = [record] := by
  have distinct := knowledge.nodup_select keep
  apply perm_singleton.mp
  apply (perm_ext_iff_of_nodup (distinct.filter _) (nodup_singleton record)).mpr
  intro other
  rw [mem_filter, mem_select_iff, decide_eq_true_iff, mem_singleton]
  constructor
  · rintro ⟨⟨stored, -⟩, rfl⟩
    rw [stored] at found
    exact Option.some.inj found
  · rintro rfl
    rw [key_of_get found]
    exact ⟨⟨found, kept⟩, rfl⟩

theorem select_eq_of_get {other : Knowledge}
    (same : ∀ key, keep key = true → other.get key = knowledge.get key) :
    other.select keep = knowledge.select keep := by
  have sameMembers : (other.select keep).Perm (knowledge.select keep) := by
    apply (perm_ext_iff_of_nodup (other.nodup_select keep) (knowledge.nodup_select keep)).mpr
    intro record
    rw [mem_select_iff, mem_select_iff]
    apply and_congr_left
    intro kept
    rw [same record.key kept]
  exact sameMembers.eq_of_pairwise
    (fun first second _ _ below above => absurd below above.asymm)
    (other.increasing_select keep) (knowledge.increasing_select keep)

/-- A record that is there in addition joins the selections it satisfies. -/
theorem select_perm_cons {other : Knowledge} (fresh : knowledge.get record.key = none)
    (stored : other.get record.key = some record) (kept : keep record.key = true)
    (same : ∀ key, keep key = true → key ≠ record.key → other.get key = knowledge.get key) :
    (other.select keep).Perm (record :: knowledge.select keep) := by
  have notBefore : record ∉ knowledge.select keep := by
    rw [mem_select_iff, fresh]
    rintro ⟨⟨⟩, -⟩
  apply (perm_ext_iff_of_nodup (other.nodup_select keep)
    (nodup_cons.mpr ⟨notBefore, knowledge.nodup_select keep⟩)).mpr
  intro item
  rw [mem_cons, mem_select_iff, mem_select_iff]
  by_cases sameKey : item.key = record.key
  · rw [sameKey, stored, fresh]
    constructor
    · rintro ⟨isRecord, -⟩
      exact Or.inl (Option.some.inj isRecord).symm
    · rintro (rfl | ⟨⟨⟩, -⟩)
      exact ⟨rfl, kept⟩
  · have different : item ≠ record := fun isRecord => sameKey (isRecord ▸ rfl)
    rw [or_iff_right different]
    apply and_congr_left
    intro itemKept
    rw [same item.key itemKept sameKey]

/-- A new record joins the selections it satisfies. -/
theorem select_put_perm (fresh : knowledge.get record.key = none) :
    ((knowledge.put record).select keep).Perm
      (if keep record.key then record :: knowledge.select keep
        else knowledge.select keep) := by
  have rows := (Table.select_insert_perm record fresh keep).map (·.2)
  by_cases kept : keep record.key
  · rw [if_pos kept] at rows ⊢
    exact rows
  · rw [if_neg kept] at rows ⊢
    exact rows

end Knowledge

end AutoLoop.StateAdapter
