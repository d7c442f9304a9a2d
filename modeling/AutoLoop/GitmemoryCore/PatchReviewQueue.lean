import AutoLoop.Foundation.Newest
import AutoLoop.StateAdapter.TypedTables

/-!
# The patch review queue

`PatchReviewQueue` stores a full copy of a review item at each call, under its session
and its millisecond and once more as the latest one of the session, and lists the newest
copy of each review.
-/

namespace AutoLoop.GitmemoryCore

open StateAdapter

/-! ## Patches -/

inductive PatchOpKind where
  | add
  | update
  | delete
  | none
  deriving DecidableEq, Repr

structure PatchOp where
  kind : PatchOpKind
  target : String
  reason : String
  deriving DecidableEq, Repr

structure PatchPlan where
  namespaceName : String
  ops : List PatchOp
  deriving DecidableEq, Repr

/-! ## Risk scores

A positive `f32` from `2⁻⁴` on is a multiple of `2⁻²⁷`. -/

/-- To 24 significant bits, a tie to the even side. -/
def roundF32 (units : Nat) : Nat :=
  let unit := 2 ^ (units.log2 - 23)
  let quotient := units / unit
  let rest := 2 * (units % unit)
  if rest < unit ∨ (rest = unit ∧ quotient % 2 = 0) then quotient * unit else (quotient + 1) * unit

/-- `0.15`, `0.25`, `0.45` and `0.0`. -/
def PatchOpKind.weight : PatchOpKind → Nat
  | .add => 20132660
  | .update => 33554432
  | .delete => 60397976
  | .none => 0

def riskOf (ops : List PatchOp) : Nat :=
  -- from 0.1
  ops.foldl (fun score op => roundF32 (score + op.kind.weight)) 13421773

structure PatchPolicyDecision where
  riskScore : Nat
  approvalRequired : Bool
  reason : String
  deriving DecidableEq, Repr

namespace PatchPolicyEngine

def evaluate (patch : PatchPlan) : PatchPolicyDecision :=
  let score := riskOf patch.ops
  -- 0.7 is 93952408 units, and 1.0 is 2²⁷
  let approvalRequired := 93952408 ≤ score || patch.ops.any (·.kind = .delete)
  ⟨min score (2 ^ 27), approvalRequired,
    if approvalRequired then "high-risk patch requires review"
    else "low-risk patch auto-approved"⟩

end PatchPolicyEngine

/-! ## Items -/

inductive PatchReviewStatus where
  | queued
  | approved
  | rejected
  deriving DecidableEq, Repr

structure PatchReviewItem where
  reviewId : String
  sessionId : String
  traceId : String
  status : PatchReviewStatus
  decision : PatchPolicyDecision
  patch : PatchPlan
  reviewer : Option String
  createdAtMs : UInt64
  updatedAtMs : UInt64
  reviewKind : String
  proposalRef : Option String
  deriving DecidableEq, Repr

def reviewIdOf (sessionId traceId : String) (nowMs : UInt64) : String :=
  "patch-review:" ++ sessionId ++ ":" ++ traceId ++ ":" ++ nowMs.toNat.repr

def mustManualReview (reviewKind : String) : Bool :=
  Text.eqIgnoreAsciiCase reviewKind "heal_proposal" ||
    Text.eqIgnoreAsciiCase reviewKind "relation_repair"

/-- The item that is enqueued at a time. -/
def newItem (sessionId traceId : String) (patch : PatchPlan) (reviewKind : String)
    (proposalRef : Option String) (now : UInt64) : PatchReviewItem :=
  let evaluated := PatchPolicyEngine.evaluate patch
  let manual := mustManualReview reviewKind
  { reviewId := reviewIdOf sessionId traceId now
    sessionId
    traceId
    status := if manual || evaluated.approvalRequired then .queued else .approved
    decision :=
      if manual then
        { evaluated with
          approvalRequired := true
          reason := reviewKind ++ " requires manual approval" }
      else evaluated
    patch
    reviewer := if manual || evaluated.approvalRequired then none else some "system:auto-approve"
    createdAtMs := now
    updatedAtMs := now
    reviewKind
    proposalRef }

/-- An item with a decision on it. -/
def PatchReviewItem.decided (item : PatchReviewItem) (status : PatchReviewStatus)
    (reviewer reason : String) (now : UInt64) : PatchReviewItem :=
  { item with
    status
    reviewer := some reviewer
    updatedAtMs := now
    decision := { item.decision with reason } }

/-! ## The queue -/

def reviewBase : String := "memory:patch:review:"

def reviewPrefix (sessionId : String) : String := reviewBase ++ sessionId ++ ":"

def reviewKey (sessionId : String) (nowMs : UInt64) : String :=
  reviewPrefix sessionId ++ nowMs.toNat.repr

def latestKey (sessionId : String) : String := reviewPrefix sessionId ++ "latest"

structure PatchReviewQueue where
  store : StateStore
  form : JsonForm PatchReviewItem

namespace PatchReviewQueue

variable (queue : PatchReviewQueue)

/-- The two rows that a call writes. -/
def persist (sessionId : String) (now : UInt64) (item : PatchReviewItem) :
    StoreCall PatchReviewItem := do
  let _ ← queue.store.upsertJsonKnowledge (reviewKey sessionId now) (.ok (queue.form.encode item))
    "patch-review-queue"
  let _ ← queue.store.upsertJsonKnowledge (latestKey sessionId) (.ok (queue.form.encode item))
    "patch-review-queue"
  return item

section
variable (sessionId traceId : String) (patch : PatchPlan)

def enqueueInternal (reviewKind : String)
    (proposalRef : Option String) : StoreCall PatchReviewItem := do
  let now ← StateStore.nowMs
  queue.persist sessionId now (newItem sessionId traceId patch reviewKind proposalRef now)

def enqueue : StoreCall PatchReviewItem :=
  queue.enqueueInternal sessionId traceId patch "patch" none

def enqueueHealProposal (proposalRef : String) :
    StoreCall PatchReviewItem :=
  queue.enqueueInternal sessionId traceId patch "heal_proposal" (some proposalRef)

def enqueueRelationRepairProposal (proposalRef : String) : StoreCall PatchReviewItem :=
  queue.enqueueInternal sessionId traceId patch "relation_repair" (some proposalRef)

end

def copies (rows : List KnowledgeRecord) : List PatchReviewItem :=
  rows.filterMap fun row => queue.form.decode row.value

def list (sessionId : String) : StoreCall (List PatchReviewItem) := do
  let records ← queue.store.listKnowledgeByPrefix (reviewPrefix sessionId)
  return (Table.newest (·.reviewId) (·.updatedAtMs.toNat) (queue.copies records)).values

def decideReview (sessionId reviewId : String) (status : PatchReviewStatus)
    (reviewer reason : String) : StoreCall PatchReviewItem := do
  match (← queue.list sessionId).find? (·.reviewId = reviewId) with
  | none => Future.fail ("review item not found: " ++ reviewId)
  | some item =>
    let now ← StateStore.nowMs
    queue.persist sessionId now (item.decided status reviewer reason now)

def approve (sessionId reviewId reviewer reason : String) : StoreCall PatchReviewItem :=
  queue.decideReview sessionId reviewId .approved reviewer reason

def reject (sessionId reviewId reviewer reason : String) : StoreCall PatchReviewItem :=
  queue.decideReview sessionId reviewId .rejected reviewer reason

end PatchReviewQueue

end AutoLoop.GitmemoryCore
