import AutoLoop.Foundation.JsonValue
import AutoLoop.Foundation.Numbering
import AutoLoop.GitmemoryCore.CanonicalRepo
import AutoLoop.GitmemoryCore.PatchReviews

/-!
# Approved heal proposals

`GitmemoryCoreKernel::execute_approved_heal_proposal`: the review is looked up in the
queue, and its patch is rendered, validated and written to the canonical repository, then
committed and recorded.
-/

namespace AutoLoop.GitmemoryCore

open JsonValue (bool string texts unsigned optional)
open QueryEngine (Content PatchWorld onFiles onStore inspect)
open StateAdapter

/-! ## JSON values -/

def PatchOp.toValue (op : PatchOp) : JsonValue :=
  .object [("kind", string op.kind.label), ("reason", string op.reason),
    ("target", string op.target)]

def PatchPlan.toValue (plan : PatchPlan) : JsonValue :=
  .object [("namespace", string plan.namespaceName), ("ops", .array (plan.ops.map PatchOp.toValue))]

def IngestValidationReport.toValue (report : IngestValidationReport) : JsonValue :=
  .object [("broken_links", texts report.brokenLinks),
    ("checked_at_ms", unsigned report.checkedAtMs), ("mode", string report.mode.name),
    ("passed", bool report.passed), ("relative_path", string report.relativePath),
    ("unindexed", texts report.unindexed)]

def CanonicalWriteReceipt.toValue (receipt : CanonicalWriteReceipt) : JsonValue :=
  .object [("absolute_path", string receipt.absolutePath),
    ("bytes", unsigned (UInt64.ofNat receipt.bytes)),
    ("relative_path", string receipt.relativePath), ("repo_root", string receipt.repoRoot)]

def CommitContent.toValue (content : CommitContent) : JsonValue :=
  .object [("created_at_ms", unsigned content.createdAtMs),
    ("payload_digest", string content.payloadDigest),
    ("prev_commit_id", optional string content.prevCommitId),
    ("session_id", string content.sessionId), ("signer", string content.signer),
    ("trace_id", string content.traceId), ("tree_digest", string content.treeDigest)]

/-! ## Episodes -/

inductive EpisodeStage where
  | gateway
  | recall
  | patch
  | compiler
  | hotIndex
  | view
  | governance
  | mirrorExport
  | provenance
  deriving DecidableEq, Repr

/-- `{:?}`. -/
def EpisodeStage.debug : EpisodeStage → String
  | .gateway => "Gateway"
  | .recall => "Recall"
  | .patch => "Patch"
  | .compiler => "Compiler"
  | .hotIndex => "HotIndex"
  | .view => "View"
  | .governance => "Governance"
  | .mirrorExport => "MirrorExport"
  | .provenance => "Provenance"

structure EpisodeRecord where
  sessionId : String
  traceId : String
  stage : EpisodeStage
  payload : JsonValue
  createdAtMs : UInt64

/-! ## The kernel -/

/-- The queue with its store, and the functions that an execution is built on. -/
structure GitmemoryCoreKernel where
  queue : PatchReviewQueue
  commitForm : JsonForm SignedCommitRecord
  digestValue : JsonValue → String
  episodeText : EpisodeRecord → String
  /-- The text of an error of the file system. -/
  osError : String

structure DayHealCommitRun where
  traceId : String
  reviewId : String
  ingestValidation : IngestValidationReport
  canonicalWrite : CanonicalWriteReceipt
  commitId : String
  commitSignature : String
  commitChainRef : String
  ledgerRefs : List String

namespace GitmemoryCoreKernel

variable (kernel : GitmemoryCoreKernel)

def chain : SignedCommitChain JsonValue where
  store := kernel.queue.store
  form := kernel.commitForm
  digestPayload := kernel.digestValue
  digestContent := fun content => kernel.digestValue content.toValue
  digestProof := fun commitId signer proof =>
    kernel.digestValue (.object [("commit_id", string commitId), ("proof", string proof),
      ("signer", string signer)])

/-- `EpisodeLedger::append`. -/
def appendEpisode (sessionId traceId : String) (stage : EpisodeStage) (payload : JsonValue) :
    StoreCall String := do
  let createdAtMs ← StateStore.nowMs
  let key := Text.toAsciiLowercase ("memory:episode:" ++ sessionId ++ ":" ++ traceId ++ ":" ++
    createdAtMs.toNat.repr ++ ":" ++ stage.debug)
  let _ ← kernel.queue.store.upsertJsonKnowledge key
    (.ok (kernel.episodeText ⟨sessionId, traceId, stage, payload, createdAtMs⟩)) "episode-ledger"
  return key

def approvedReview (sessionId reviewId : String) : StoreCall PatchReviewItem := do
  match (← kernel.queue.list sessionId).find? (·.reviewId = reviewId) with
  | none => Future.fail ("heal review not found: " ++ reviewId)
  | some review =>
    if review.reviewKind ≠ "heal_proposal" then
      Future.fail ("review is not a heal proposal: " ++ reviewId)
    else if review.status ≠ .approved then
      Future.fail ("heal proposal not approved yet: " ++ reviewId)
    else
      return review

def writeRendered (root : Path) (rendered : AtomicRenderOutput) :
    Effect PatchWorld (IngestValidationReport × CanonicalWriteReceipt) := do
  let now ← onStore StateStore.nowMs
  let report ← inspect fun files => .ok (IngestValidator.validate files root
    rendered.relativePath rendered.markdown .enforced now)
  if report.passed = false then
    Effect.fail ("ingest validation failed: broken_links=" ++ report.brokenLinks.length.repr ++
      " unindexed=" ++ report.unindexed.length.repr)
  else do
    let write ← onFiles (CanonicalRepo.writeAtomic kernel.osError root rendered.relativePath
      rendered.markdown)
    return (report, write)

def recordWrite (sessionId traceId reviewId signer : String) (review : PatchReviewItem)
    (report : IngestValidationReport) (write : CanonicalWriteReceipt) :
    StoreCall DayHealCommitRun := do
  let treeDigest := kernel.digestValue (.object [("bytes", unsigned (UInt64.ofNat write.bytes)),
    ("relative_path", string write.relativePath), ("review_id", string reviewId)])
  let commit ← kernel.chain.append sessionId traceId treeDigest
    (.object [("heal_review_id", string reviewId), ("patch", review.patch.toValue),
      ("rendered_path", string write.relativePath)]) signer
  let commitChainRef := chainKey sessionId commit.createdAtMs
  let ledgerRef ← kernel.appendEpisode sessionId traceId .patch
    (.object [("canonical_write", write.toValue), ("commit_chain_ref", string commitChainRef),
      ("commit_id", string commit.commitId), ("heal_review_id", string reviewId),
      ("ingest_validation", report.toValue), ("signature", string commit.signature)])
  return ⟨traceId, reviewId, report, write, commit.commitId, commit.signature, commitChainRef,
    [ledgerRef]⟩

def executeApprovedHealProposal (root : Path) (sessionId traceId reviewId signer : String) :
    Effect PatchWorld DayHealCommitRun := do
  let review ← onStore (kernel.approvedReview sessionId reviewId)
  let (report, write) ← kernel.writeRendered root
    (AtomicRenderer.render sessionId traceId review.patch)
  onStore (kernel.recordWrite sessionId traceId reviewId signer review report write)

end GitmemoryCoreKernel

end AutoLoop.GitmemoryCore

/-!
## Reviewed writes

An execution writes to the canonical repository only what the queue lists as an approved
heal proposal.  In an undisturbed run the list shows the log, so that the last decision
on the proposal was an approval.
-/

namespace AutoLoop.GitmemoryCore

open QueryEngine (Content PatchWorld)
open StateAdapter
open AutoLoop.Runtime (still unmirroredStore)

/-! ## Executions -/

section Executions

variable {kernel : GitmemoryCoreKernel} (unmirrored : kernel.queue.store.mirror = none)
include unmirrored

theorem approved_of_run {sessionId reviewId : String} {shared after : Shared}
    {review : PatchReviewItem}
    (ran : (kernel.approvedReview sessionId reviewId).run shared = (.ok review, after)) :
    (kernel.queue.listed shared sessionId).find? (·.reviewId = reviewId) = some review ∧
      review.reviewKind = "heal_proposal" ∧ review.status = .approved := by
  rw [GitmemoryCoreKernel.approvedReview, Future.run_bind_of_ok
    (PatchReviewQueue.run_list unmirrored sessionId shared)] at ran
  cases found : (kernel.queue.listed shared sessionId).find? (·.reviewId = reviewId) with
  | none =>
    rw [found] at ran
    cases ran
  | some item =>
    rw [found] at ran
    by_cases isHeal : item.reviewKind = "heal_proposal"
    · by_cases isApproved : item.status = .approved
      · simp only [isHeal, isApproved, ne_eq, not_true_eq_false, if_false] at ran
        cases ran
        exact ⟨rfl, isHeal, isApproved⟩
      · simp only [isHeal, isApproved, ne_eq, not_true_eq_false, not_false_eq_true, if_false,
          if_true] at ran
        cases ran
    · simp only [isHeal, ne_eq, not_false_eq_true, if_true] at ran
      cases ran

theorem approved_of_files_ne {root : Path} {sessionId traceId reviewId signer : String}
    {world : PatchWorld}
    (wrote : (kernel.executeApprovedHealProposal root sessionId traceId reviewId signer
      world).2.files ≠ world.files) :
    ∃ review, (kernel.queue.listed world.shared sessionId).find? (·.reviewId = reviewId) =
        some review ∧
      review.reviewKind = "heal_proposal" ∧ review.status = .approved := by
  cases ran : (kernel.approvedReview sessionId reviewId).run world.shared with
  | mk answer after =>
    cases answer with
    | ok review => exact ⟨review, approved_of_run unmirrored ran⟩
    | error message =>
      exfalso
      apply wrote
      rw [GitmemoryCoreKernel.executeApprovedHealProposal, Effect.bind_apply,
        QueryEngine.onStore_apply, ran]

end Executions

/-! ## Runs -/

namespace ReviewBooks

variable {queue : PatchReviewQueue} {sessionId : String} {books : ReviewBooks}

def WritesApproved (queue : PatchReviewQueue) (sessionId : String) (books : ReviewBooks) : Prop :=
  ∀ (kernel : GitmemoryCoreKernel) (files : FileSystem Content) (root : Path)
    (traceId reviewId signer : String), kernel.queue = queue →
      (kernel.executeApprovedHealProposal root sessionId traceId reviewId signer
        ⟨files, books.shared⟩).2.files ≠ files →
        ∃ review ∈ books.ofSession sessionId, review.item.reviewId = reviewId ∧
          review.item.reviewKind = "heal_proposal" ∧
          review.decision.map (·.status) = some .approved

theorem Kept.writesApproved (unmirrored : queue.store.mirror = none)
    (kept : books.Kept queue sessionId) : books.WritesApproved queue sessionId := by
  intro kernel files root traceId reviewId signer same wrote
  subst same
  obtain ⟨item, found, isHeal, isApproved⟩ := approved_of_files_ne unmirrored wrote
  obtain ⟨review, inSession, rfl, isId⟩ := Holds.found_iff kept found
  rw [review.current_reviewKind] at isHeal
  refine ⟨review, inSession, isId, isHeal, ?_⟩
  have queued := (kept.formed review inSession).1.queued isHeal
  rw [Review.current] at isApproved
  cases isDecision : review.decision with
  | none =>
    rw [isDecision] at isApproved
    simp only [queued] at isApproved
    cases isApproved
  | some decision =>
    rw [isDecision] at isApproved
    exact congrArg some isApproved

end ReviewBooks

deriving instance Encodable for PatchOpKind, PatchReviewStatus

section Forms

/-- A value by its number. -/
@[reducible] def numberedForm {α : Type} [Encodable α] : FieldForm α :=
  .ofText numberText ofNumberText ofNumberText_numberText

local instance : FieldForm Nat := numberedForm

local instance : FieldForm Bool := numberedForm

local instance : FieldForm PatchOpKind := numberedForm

local instance : FieldForm PatchReviewStatus := numberedForm

/-- A form with the law of the real one. -/
def reviewForm : JsonForm PatchReviewItem :=
  .ofFields
    (fun item => (item.reviewId, item.sessionId, item.traceId, item.status,
      item.decision.riskScore, item.decision.approvalRequired, item.decision.reason,
      item.patch.namespaceName, item.patch.ops.map fun op => (op.kind, op.target, op.reason),
      item.reviewer.toList, item.createdAtMs, item.updatedAtMs, item.reviewKind,
      item.proposalRef.toList))
    (fun (reviewId, sessionId, traceId, status, riskScore, approvalRequired, reason,
        namespaceName, ops, reviewer, createdAtMs, updatedAtMs, reviewKind, proposalRef) =>
      ⟨reviewId, sessionId, traceId, status, ⟨riskScore, approvalRequired, reason⟩,
        ⟨namespaceName, ops.map fun (kind, target, reason) => ⟨kind, target, reason⟩⟩,
        reviewer.head?, createdAtMs, updatedAtMs, reviewKind, proposalRef.head?⟩)
    fun item => by simp [Function.comp_def]

end Forms

def plainQueue : PatchReviewQueue := ⟨unmirroredStore, reviewForm⟩

/-- A host whose clock goes on for a while. -/
def slowing (tick : Nat) : Moment :=
  ⟨UInt64.ofNat (min tick 100), none, none, none, .completed⟩

theorem monotone_slowing : Monotone fun tick => (slowing tick).nowMs.toNat := by
  have isMin : (fun tick => (slowing tick).nowMs.toNat) = fun tick => min tick 100 := by
    funext tick
    apply UInt64.toNat_ofNat_of_lt'
    exact (min_le_right tick 100).trans_lt (by decide)
  rw [isMin]
  intro first second below
  exact min_le_min_right 100 below

def notePatch : PatchPlan := ⟨"tenant", [⟨.update, "canonical/a.md", "heal"⟩]⟩

end AutoLoop.GitmemoryCore
