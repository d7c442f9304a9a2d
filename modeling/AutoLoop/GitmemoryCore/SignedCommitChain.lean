import AutoLoop.Runtime.BudgetBooks

/-!
# The signed commit chain

`SignedCommitChain` stores each commit record under its session and its
millisecond, and finds the commit that the next one follows as the last row of a
prefix scan.
-/

namespace AutoLoop.GitmemoryCore

open StateAdapter
open AutoLoop.Runtime (still unmirroredStore)
open Text List StateStore Knowledge

structure CommitContent where
  sessionId : String
  traceId : String
  prevCommitId : Option String
  treeDigest : String
  payloadDigest : String
  signer : String
  createdAtMs : UInt64
  deriving DecidableEq, Repr

structure SignedCommitRecord extends CommitContent where
  commitId : String
  signature : String
  deriving DecidableEq, Repr

/-- The chain over a store, with the functions it is built on. -/
structure SignedCommitChain (Payload : Type) where
  store : StateStore
  form : JsonForm SignedCommitRecord
  /-- `digest_value` of a payload. -/
  digestPayload : Payload → String
  /-- `digest_value` of the JSON object of the fields. -/
  digestContent : CommitContent → String
  /-- `digest_value` of the commit id, the signer and the name of the proof. -/
  digestProof : String → String → String → String

def chainBase : String := "memory:commit-chain:"

def chainPrefix (sessionId : String) : String := chainBase ++ sessionId ++ ":"

def chainKey (sessionId : String) (createdAtMs : UInt64) : String :=
  chainPrefix sessionId ++ createdAtMs.toNat.repr

def SignedCommitRecord.key (record : SignedCommitRecord) : String :=
  chainKey record.sessionId record.createdAtMs

namespace SignedCommitChain

variable {Payload : Type} (chain : SignedCommitChain Payload)

def latestCommit (sessionId : String) : StoreCall (Option SignedCommitRecord) := do
  let records ← chain.store.listKnowledgeByPrefix (chainPrefix sessionId)
  return (sortByKey (·.key) records).getLast?.bind fun row => chain.form.decode row.value

/-- The record that an append stores. -/
def signed (content : CommitContent) : SignedCommitRecord where
  toCommitContent := content
  commitId := chain.digestContent content
  signature := chain.digestProof (chain.digestContent content) content.signer
    "canonical-memory-signature-v1"

def append (sessionId traceId treeDigest : String) (payload : Payload) (signer : String) :
    StoreCall SignedCommitRecord := do
  let prev ← chain.latestCommit sessionId
  let payloadDigest := chain.digestPayload payload
  let createdAtMs ← StateStore.nowMs
  let prevCommitId := prev.map (·.commitId)
  let record := chain.signed
    { sessionId, traceId, prevCommitId, treeDigest, payloadDigest, signer, createdAtMs }
  let _ ← chain.store.upsertJsonKnowledge (chainKey sessionId createdAtMs)
    (.ok (chain.form.encode record)) "episode-ledger"
  return record

end SignedCommitChain

/-! ## Runs -/

structure AppendOp (Payload : Type) where
  sessionId : String
  traceId : String
  treeDigest : String
  payload : Payload
  signer : String
  deriving DecidableEq, Repr

/-- The store, and the records that were appended so far. -/
structure ChainBooks where
  shared : Shared
  appended : List SignedCommitRecord

def chainRuns {Payload : Type} (chain : SignedCommitChain Payload) (host : Nat → Moment) :
    Component ChainBooks (AppendOp Payload) (Except String SignedCommitRecord) where
  initial := ⟨Shared.started host, []⟩
  step books op :=
    let ran := (chain.append op.sessionId op.traceId op.treeDigest op.payload op.signer).run
      books.shared
    (ran.1, ⟨ran.2, books.appended ++ (match ran.1 with
      | .ok record => [record]
      | .error _ => [])⟩)

/-- The first record follows none, and each other one the record before it. -/
def Linked (records : List SignedCommitRecord) : Prop :=
  ∀ earlier record later, records = earlier ++ record :: later →
    record.prevCommitId = earlier.getLast?.map (·.commitId)

namespace ChainBooks

variable {Payload : Type} (chain : SignedCommitChain Payload) (books : ChainBooks)

def ofSession (sessionId : String) : List SignedCommitRecord :=
  books.appended.filter (·.sessionId = sessionId)

def stored : List SignedCommitRecord :=
  (books.shared.repo.knowledge.select (startsWith · chainBase)).filterMap fun row =>
    chain.form.decode row.value

/-- The store holds the records that were appended for each session, and they are
linked in the order in which they were. -/
def Complete : Prop :=
  ∀ sessionId, ((books.stored chain).filter (·.sessionId = sessionId)).Perm
      (books.ofSession sessionId) ∧ Linked (books.ofSession sessionId)

def NewMoment (sessionId : String) (nowMs : UInt64) : Prop :=
  ∀ record ∈ books.ofSession sessionId, record.createdAtMs ≠ nowMs

def LastInOrder (sessionId : String) : Prop :=
  ∀ record ∈ books.appended, startsWith record.key (chainPrefix sessionId) = true →
    ∃ last ∈ (books.ofSession sessionId).getLast?, record.key ≤ last.key

/-- The clock that an append reads after it listed the rows. -/
def clock : UInt64 := (books.shared.later 1).nowMs

/-- What an append needs. -/
def Appendable (op : AppendOp Payload) : Prop :=
  books.NewMoment op.sessionId books.clock ∧ books.LastInOrder op.sessionId

instance (sessionId : String) (nowMs : UInt64) : Decidable (books.NewMoment sessionId nowMs) :=
  List.decidableBAll _ _

instance (sessionId : String) : Decidable (books.LastInOrder sessionId) :=
  List.decidableBAll _ _

instance (op : AppendOp Payload) : Decidable (books.Appendable op) :=
  inferInstanceAs (Decidable (_ ∧ _))

structure Kept : Prop where
  stored : (books.stored chain).Perm books.appended
  rows : ∀ record ∈ books.appended, ∃ row, books.shared.repo.knowledge.get record.key = some row ∧
      row.value = chain.form.encode record
  keys : ∀ key row, books.shared.repo.knowledge.get key = some row →
    startsWith key chainBase = true → ∃ record ∈ books.appended, record.key = key
  linked : ∀ sessionId, Linked (books.ofSession sessionId)

end ChainBooks

/-! ## Keys -/

theorem chainKey_inj {sessionId other : String} {atMs otherMs : UInt64}
    (same : chainKey sessionId atMs = chainKey other otherMs) :
    sessionId = other ∧ atMs = otherMs := by
  have lists := congrArg String.toList same
  simp only [chainKey, chainPrefix, String.toList_append] at lists
  have digits : atMs.toNat.repr.toList = otherMs.toNat.repr.toList :=
    after_last_separator lists (not_mem_repr (by decide) _)
      (not_mem_repr (by decide) _)
  rw [digits, append_cancel_right_eq, append_cancel_right_eq, append_cancel_left_eq] at lists
  constructor
  · exact String.toList_inj.mp lists
  · exact UInt64.toNat_inj.mp (repr_inj.mp (String.toList_inj.mp digits))

theorem startsWith_chainPrefix (sessionId : String) (atMs : UInt64) :
    startsWith (chainKey sessionId atMs) (chainPrefix sessionId) = true :=
  startsWith_iff_exists.mpr ⟨_, rfl⟩

theorem startsWith_chainBase {sessionId key : String}
    (starts : startsWith key (chainPrefix sessionId) = true) :
    startsWith key chainBase = true := by
  obtain ⟨rest, rfl⟩ := startsWith_iff_exists.mp starts
  rw [chainPrefix, String.append_assoc, String.append_assoc]
  exact startsWith_iff_exists.mpr ⟨_, rfl⟩

/-! ## Linked records -/

theorem linked_nil : Linked [] := by
  intro earlier record later isNil
  simp at isNil

theorem Linked.snoc {records : List SignedCommitRecord} {record : SignedCommitRecord}
    (linked : Linked records) (follows : record.prevCommitId = records.getLast?.map (·.commitId)) :
    Linked (records ++ [record]) := by
  intro earlier found later split
  rcases eq_nil_or_concat later with rfl | ⟨init, last, rfl⟩
  · obtain ⟨rfl, isRecord⟩ := append_inj' split rfl
    cases isRecord
    exact follows
  · rw [concat_eq_append, ← cons_append, ← append_assoc] at split
    obtain ⟨rfl, -⟩ := append_inj' split rfl
    exact linked earlier found init rfl

theorem getLast?_of_increasing {rows : List KnowledgeRecord} {row : KnowledgeRecord}
    (increasing : rows.Pairwise fun first second => first.key < second.key)
    (membership : row ∈ rows) (greatest : ∀ other ∈ rows, other.key ≤ row.key) :
    rows.getLast? = some row := by
  obtain ⟨before, after, rfl⟩ := append_of_mem membership
  cases after with
  | nil => simp
  | cons next rest =>
    have above : row.key < next.key := by
      have tail := (pairwise_append.mp increasing).2.1
      exact (pairwise_cons.mp tail).1 next (by simp)
    exact absurd (greatest next (by simp)) (not_le.mpr above)

/-! ## Appends -/

theorem isEvidence_chainKey (sessionId : String) (atMs : UInt64) :
    isEvidence (chainKey sessionId atMs) = false := by
  rw [Bool.eq_false_iff, ne_eq, isEvidence, startsWith_iff]
  intro extends'
  cases extends' with
  | intro rest same => simp [chainKey, chainPrefix, chainBase] at same

namespace SignedCommitChain

variable {Payload : Type} (chain : SignedCommitChain Payload)

def followed (knowledge : Knowledge) (sessionId : String) : Option SignedCommitRecord :=
  (knowledge.select (startsWith · (chainPrefix sessionId))).getLast?.bind fun row =>
    chain.form.decode row.value

def next (shared : Shared) (op : AppendOp Payload) : SignedCommitRecord :=
  chain.signed
    { sessionId := op.sessionId
      traceId := op.traceId
      prevCommitId := (chain.followed shared.repo.knowledge op.sessionId).map (·.commitId)
      treeDigest := op.treeDigest
      payloadDigest := chain.digestPayload op.payload
      signer := op.signer
      createdAtMs := (shared.later 1).nowMs }

end SignedCommitChain

section Appends

variable {Payload : Type} {chain : SignedCommitChain Payload}
variable (unmirrored : chain.store.mirror = none)
include unmirrored

theorem run_latestCommit (sessionId : String) (shared : Shared) :
    (chain.latestCommit sessionId).run shared =
      (.ok (chain.followed shared.repo.knowledge sessionId), shared.after 1) := by
  have sorted : sortByKey (·.key) (shared.repo.knowledge.select
      (startsWith · (chainPrefix sessionId))) =
        shared.repo.knowledge.select (startsWith · (chainPrefix sessionId)) := by
    apply List.Pairwise.insertionSort_eq
    exact (shared.repo.knowledge.increasing_select _).imp le_of_lt
  rw [SignedCommitChain.latestCommit, Future.run_bind_of_ok
    (run_listKnowledgeByPrefix_unmirrored unmirrored _ shared), sorted]
  rfl

theorem run_append (op : AppendOp Payload) (shared : Shared) :
    ∃ id later, (chain.append op.sessionId op.traceId op.treeDigest op.payload op.signer).run
        shared = (.ok (chain.next shared op), later) ∧
      later.repo.knowledge = shared.repo.knowledge.put
        ⟨id, (chain.next shared op).key, chain.form.encode (chain.next shared op),
          "episode-ledger"⟩ := by
  obtain ⟨id, nextId, ran⟩ := run_upsertKnowledge_plain unmirrored
    (isEvidence_chainKey op.sessionId (shared.later 1).nowMs)
    (chain.form.encode (chain.next shared op)) "episode-ledger" (shared.after 2)
  obtain ⟨later, wrote, ranUpsert⟩ : ∃ later : Shared,
      later.repo.knowledge = shared.repo.knowledge.put
        ⟨id, (chain.next shared op).key, chain.form.encode (chain.next shared op),
          "episode-ledger"⟩ ∧
      (chain.store.upsertJsonKnowledge (chainKey op.sessionId (shared.later 1).nowMs)
        (.ok (chain.form.encode (chain.next shared op))) "episode-ledger").run (shared.after 2) =
        (.ok ⟨id, (chain.next shared op).key, chain.form.encode (chain.next shared op),
          "episode-ledger"⟩, later) := ⟨_, rfl, ran⟩
  have ranClock : StateStore.nowMs.run (shared.after 1) =
      (.ok (shared.later 1).nowMs, shared.after 2) := rfl
  refine ⟨id, later, ?_, wrote⟩
  unfold SignedCommitChain.append
  refine (Future.run_bind_of_ok (run_latestCommit unmirrored op.sessionId shared)).trans ?_
  refine (Future.run_bind_of_ok ranClock).trans ?_
  exact Future.run_bind_of_ok ranUpsert

end Appends

/-! ## Steps -/

namespace ChainBooks

variable {Payload : Type} {chain : SignedCommitChain Payload} {books : ChainBooks}

theorem Kept.followed (kept : books.Kept chain) {sessionId : String}
    (inOrder : books.LastInOrder sessionId) :
    chain.followed books.shared.repo.knowledge sessionId =
      (books.ofSession sessionId).getLast? := by
  have seen : ∀ row ∈ books.shared.repo.knowledge.select
      (startsWith · (chainPrefix sessionId)), ∃ last ∈
        (books.ofSession sessionId).getLast?, row.key ≤ last.key := by
    intro row membership
    obtain ⟨found, starts⟩ := mem_select_iff.mp membership
    obtain ⟨record, appended, isKey⟩ := kept.keys row.key row found (startsWith_chainBase starts)
    rw [← isKey] at starts ⊢
    exact inOrder record appended starts
  cases isLast : (books.ofSession sessionId).getLast? with
  | none =>
    have noRows : books.shared.repo.knowledge.select
        (startsWith · (chainPrefix sessionId)) = [] := by
      apply eq_nil_iff_forall_not_mem.mpr
      intro row membership
      obtain ⟨last, isSome, -⟩ := seen row membership
      rw [isLast] at isSome
      cases isSome
    rw [SignedCommitChain.followed, noRows]
    rfl
  | some last =>
    have inSession : last ∈ books.ofSession sessionId := mem_of_getLast? isLast
    obtain ⟨appended, sameSession⟩ := mem_filter.mp inSession
    obtain ⟨row, found, isValue⟩ := kept.rows last appended
    have rowKey := books.shared.repo.knowledge.key_of_get found
    have starts : startsWith row.key (chainPrefix sessionId) = true := by
      rw [rowKey, ← of_decide_eq_true sameSession]
      exact startsWith_chainPrefix _ _
    have membership : row ∈ books.shared.repo.knowledge.select
        (startsWith · (chainPrefix sessionId)) :=
      mem_select_iff.mpr ⟨rowKey.symm ▸ found, starts⟩
    have lastRow := getLast?_of_increasing (books.shared.repo.knowledge.increasing_select _)
      membership (by
        intro other otherMember
        obtain ⟨held, isSome, below⟩ := seen other otherMember
        rw [isLast, Option.mem_some_iff] at isSome
        rwa [rowKey, isSome])
    rw [SignedCommitChain.followed, lastRow]
    exact (congrArg chain.form.decode isValue).trans (chain.form.decode_encode last)

theorem Kept.fresh (kept : books.Kept chain) {sessionId : String} {nowMs : UInt64}
    (isNew : books.NewMoment sessionId nowMs) :
    books.shared.repo.knowledge.get (chainKey sessionId nowMs) = none := by
  by_contra taken
  obtain ⟨row, found⟩ := Option.ne_none_iff_exists'.mp taken
  obtain ⟨record, appended, isKey⟩ := kept.keys _ row found
    (startsWith_chainBase (startsWith_chainPrefix sessionId nowMs))
  obtain ⟨sameSession, sameMs⟩ := chainKey_inj isKey
  exact isNew record (mem_filter.mpr ⟨appended, decide_eq_true sameSession⟩) sameMs

theorem Kept.complete (kept : books.Kept chain) : books.Complete chain := by
  intro sessionId
  constructor
  · exact kept.stored.filter _
  · exact kept.linked sessionId

end ChainBooks

section Steps

variable {Payload : Type} {chain : SignedCommitChain Payload}
variable (unmirrored : chain.store.mirror = none) (host : Nat → Moment)
include unmirrored

theorem kept_step (books : ChainBooks) (op : AppendOp Payload) (kept : books.Kept chain)
    (appendable : books.Appendable op) :
    ((chainRuns chain host).step books op).2.Kept chain := by
  obtain ⟨id, later, ran, wrote⟩ := run_append unmirrored op books.shared
  obtain ⟨isNew, inOrder⟩ := appendable
  have stepped : ((chainRuns chain host).step books op).2 =
      ⟨later, books.appended ++ [chain.next books.shared op]⟩ := by
    simp only [chainRuns, ran]
  have follows := kept.followed inOrder
  let record := chain.next books.shared op
  let row : KnowledgeRecord := ⟨id, record.key, chain.form.encode record, "episode-ledger"⟩
  have fresh : books.shared.repo.knowledge.get row.key = none := kept.fresh isNew
  have underBase : startsWith row.key chainBase = true :=
    startsWith_chainBase (startsWith_chainPrefix op.sessionId _)
  have put : later.repo.knowledge = books.shared.repo.knowledge.put row := wrote
  rw [stepped]
  constructor
  · have joined : ((books.shared.repo.knowledge.put row).select
        (startsWith · chainBase)).Perm (if startsWith row.key chainBase then
          row :: books.shared.repo.knowledge.select (startsWith · chainBase)
        else books.shared.repo.knowledge.select (startsWith · chainBase)) :=
      select_put_perm fresh
    rw [if_pos underBase, ← put] at joined
    have decoded := joined.filterMap fun row => chain.form.decode row.value
    rw [filterMap_cons, chain.form.decode_encode] at decoded
    exact decoded.trans ((kept.stored.cons record).trans
      (perm_append_singleton record books.appended).symm)
  · intro other appended
    rw [put]
    rcases mem_append.mp appended with earlier | isNow
    · obtain ⟨held, found, isValue⟩ := kept.rows other earlier
      refine ⟨held, ?_, isValue⟩
      rw [get_put_of_ne, found]
      intro sameKey
      rw [sameKey, fresh] at found
      cases found
    · cases mem_singleton.mp isNow
      exact ⟨row, get_put_self _ row, rfl⟩
  · intro key held found starts
    rw [put, get_put] at found
    split at found
    · next same => exact ⟨record, by simp [record], same.symm⟩
    · obtain ⟨other, appended, isKey⟩ := kept.keys key held found starts
      exact ⟨other, mem_append_left _ appended, isKey⟩
  · intro sessionId
    rw [ChainBooks.ofSession, filter_append]
    by_cases same : op.sessionId = sessionId
    · subst same
      have joins : [record].filter (·.sessionId = op.sessionId) = [record] := by
        simp [record, SignedCommitChain.next, SignedCommitChain.signed]
      rw [joins]
      refine (kept.linked op.sessionId).snoc ?_
      exact congrArg (Option.map (·.commitId)) follows
    · have stays : [record].filter (·.sessionId = sessionId) = [] := by
        simp [record, SignedCommitChain.next, SignedCommitChain.signed, same]
      rw [stays, append_nil]
      exact kept.linked sessionId

end Steps

/-! ## Two sessions -/

/-- A form with the law of the real one. -/
def commitForm : JsonForm SignedCommitRecord :=
  .ofFields
    (fun record => (record.sessionId, record.traceId, record.prevCommitId.toList,
      record.treeDigest, record.payloadDigest, record.signer, record.createdAtMs,
      record.commitId, record.signature))
    (fun (sessionId, traceId, prevCommitId, treeDigest, payloadDigest, signer, createdAtMs,
        commitId, signature) =>
      ⟨⟨sessionId, traceId, prevCommitId.head?, treeDigest, payloadDigest, signer,
        createdAtMs⟩, commitId, signature⟩)
    fun record => by simp

def plainChain : SignedCommitChain String where
  store := unmirroredStore
  form := commitForm
  digestPayload payload := payload
  digestContent content := content.sessionId ++ "@" ++ content.createdAtMs.toNat.repr
  digestProof commitId signer _ := commitId ++ signer

/-- A host whose clock goes on at each access. -/
def ticking (tick : Nat) : Moment := ⟨UInt64.ofNat tick, none, none, none, .completed⟩

def commitOf (sessionId : String) : AppendOp String := ⟨sessionId, "t", "d", "p", "me"⟩

end AutoLoop.GitmemoryCore
