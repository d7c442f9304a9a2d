import AutoLoop.OrgKernel.E2r
import Mathlib.Data.List.Nodup
import Mathlib.Data.List.Perm.Basic

/-!
# The commit law

A node is committed exactly when it satisfies the gate at its turn and its dependencies
inside the tree have been committed.  The pass therefore settles every node once, and the
committed list grows by justified nodes only.
-/

namespace AutoLoop.OrgKernel.E2rController

open List

variable (fromStr : String → Option JsonValue) (call : E2rCall)

structure Satisfies (node : ProjectTaskNode) : Prop where
  reported : ∃ report, reportOf call node.nodeId = some report ∧
    executionPass report = true ∧ reviewPass call node report = true ∧
    globalGateProofPresent fromStr report = true
  belowHardLimit : hardLimitExceeded call = false
  belowNodeLimit : nodeLimitReached call node = false

def DependenciesIn (node : ProjectTaskNode) (committed : List String) : Prop :=
  ∀ dep ∈ node.deps, dep ∈ call.tree.ids → dep ∈ committed

def DependenciesFirst (tree : TaskTree) : Prop :=
  ∀ before node after, tree.nodes = before ++ node :: after →
    ∀ dep ∈ node.deps, dep ∈ tree.ids → dep ∈ before.map (·.nodeId)

variable {fromStr call} {pass : E2rPass} {node : ProjectTaskNode} {nodes : List ProjectTaskNode}

theorem any_missing_iff {committed : List String} :
    (dependsOnKnownNodes call node).any (· ∉ committed) = false ↔
      DependenciesIn call node committed := by
  simp [dependsOnKnownNodes, DependenciesIn]

/-! ## One node -/

section
variable (fromStr : String → Option JsonValue) (call : E2rCall) (pass : E2rPass)
  (node : ProjectTaskNode)

theorem gateNode_cases :
    (Satisfies fromStr call node ∧ DependenciesIn call node pass.committedTaskIds ∧
        gateNode fromStr call pass node = commit call pass node) ∨
      (¬(Satisfies fromStr call node ∧ DependenciesIn call node pass.committedTaskIds) ∧
        (gateNode fromStr call pass node = defer pass node ∨
          ∃ decisions, gateNode fromStr call pass node = iterate pass node.nodeId decisions)) := by
  unfold gateNode
  cases reported : reportOf call node.nodeId with
  | none =>
    refine Or.inr ⟨?_, Or.inr ⟨_, rfl⟩⟩
    intro both
    obtain ⟨report, isReport, -⟩ := both.1.reported
    simp [reported] at isReport
  | some report =>
    by_cases hard : hardLimitExceeded call = true
    · refine Or.inr ⟨?_, Or.inr ⟨_, if_pos hard⟩⟩
      intro both
      simp [both.1.belowHardLimit] at hard
    simp only [if_neg hard]
    by_cases limit : nodeLimitReached call node = true
    · refine Or.inr ⟨?_, Or.inr ⟨_, if_pos limit⟩⟩
      intro both
      simp [both.1.belowNodeLimit] at limit
    simp only [if_neg limit]
    by_cases missing : (dependsOnKnownNodes call node).any (· ∉ pass.committedTaskIds) = true
    · refine Or.inr ⟨?_, Or.inl (if_pos missing)⟩
      intro both
      exact absurd (any_missing_iff.mpr both.2) (ne_of_eq_of_ne missing (by decide))
    simp only [if_neg missing]
    have known := any_missing_iff.mp (Bool.not_eq_true _ ▸ missing)
    by_cases passed : (executionPass report && reviewPass call node report &&
        globalGateProofPresent fromStr report) = true
    · simp only [Bool.and_eq_true] at passed
      refine Or.inl ⟨⟨⟨report, reported, passed.1.1, passed.1.2, passed.2⟩,
        Bool.not_eq_true _ ▸ hard, Bool.not_eq_true _ ▸ limit⟩, known, ?_⟩
      simp [passed]
    · refine Or.inr ⟨?_, Or.inr ⟨_, if_neg passed⟩⟩
      intro both
      obtain ⟨same, isReport, execution, review, proof⟩ := both.1.reported
      have sameReport : report = same := Option.some.inj (reported.symm.trans isReport)
      simp [sameReport, execution, review, proof] at passed

theorem committed_gateNode :
    (gateNode fromStr call pass node).committedTaskIds = pass.committedTaskIds ∨
      (gateNode fromStr call pass node).committedTaskIds =
        pass.committedTaskIds ++ [node.nodeId] := by
  cases gateNode_cases fromStr call pass node with
  | inl isCommitted => exact Or.inr (by rw [isCommitted.2.2]; rfl)
  | inr stays =>
    cases stays.2 with
    | inl isDeferred => exact Or.inl (by rw [isDeferred]; rfl)
    | inr isIterated =>
      obtain ⟨decisions, isIterated⟩ := isIterated
      exact Or.inl (by rw [isIterated]; rfl)

end

theorem committed_foldl (nodes : List ProjectTaskNode) (pass : E2rPass) :
    ∃ later, (∀ id ∈ later, id ∈ nodes.map (·.nodeId)) ∧
      (nodes.foldl (gateNode fromStr call) pass).committedTaskIds =
        pass.committedTaskIds ++ later := by
  induction nodes generalizing pass with
  | nil => exact ⟨[], by simp, by simp⟩
  | cons node rest ih =>
    obtain ⟨later, among, grown⟩ := ih (gateNode fromStr call pass node)
    cases committed_gateNode fromStr call pass node with
    | inl stays =>
      refine ⟨later, ?_, by rw [foldl_cons, grown, stays]⟩
      intro id isLater
      exact mem_cons_of_mem _ (among id isLater)
    | inr grows =>
      refine ⟨node.nodeId :: later, ?_, by rw [foldl_cons, grown, grows]; simp⟩
      intro id isLater
      cases mem_cons.mp isLater with
      | inl isNode => simp [isNode]
      | inr isLater => exact mem_cons_of_mem _ (among id isLater)

/-! ## Every node is settled once -/

structure Settled (pass : E2rPass) (seen : List String) : Prop where
  accepted : pass.acceptedTaskIds = pass.committedTaskIds
  rejected : pass.rejectedCount = pass.iterateTaskIds.length
  settled : (pass.committedTaskIds ++ (pass.iterateTaskIds ++ pass.deferredNodes)).Perm seen

section
variable {seen : List String} (settled : Settled pass seen)
include settled

theorem Settled.commit (node : ProjectTaskNode) :
    Settled (E2rController.commit call pass node) (seen ++ [node.nodeId]) where
  accepted := by simp [E2rController.commit, settled.accepted]
  rejected := settled.rejected
  settled := by
    refine List.Perm.trans ?_ (settled.settled.append_right _)
    simp only [E2rController.commit, append_assoc]
    exact perm_append_comm.append_left _ |>.trans (by simp)

theorem Settled.iterate (nodeId : String) (decisions : List E2rTaskDecision) :
    Settled (E2rController.iterate pass nodeId decisions) (seen ++ [nodeId]) where
  accepted := settled.accepted
  rejected := by simp [E2rController.iterate, settled.rejected]
  settled := by
    refine List.Perm.trans ?_ (settled.settled.append_right _)
    simp only [E2rController.iterate, append_assoc]
    exact (perm_append_comm.append_left _).append_left _

theorem Settled.defer (node : ProjectTaskNode) :
    Settled (E2rController.defer pass node) (seen ++ [node.nodeId]) where
  accepted := settled.accepted
  rejected := settled.rejected
  settled := by
    refine List.Perm.trans ?_ (settled.settled.append_right _)
    simp [E2rController.defer, append_assoc]

theorem Settled.gateNode (node : ProjectTaskNode) :
    Settled (E2rController.gateNode fromStr call pass node) (seen ++ [node.nodeId]) := by
  cases gateNode_cases fromStr call pass node with
  | inl isCommitted =>
    rw [isCommitted.2.2]
    exact settled.commit node
  | inr stays =>
    cases stays.2 with
    | inl isDeferred =>
      rw [isDeferred]
      exact settled.defer node
    | inr isIterated =>
      obtain ⟨decisions, isIterated⟩ := isIterated
      rw [isIterated]
      exact settled.iterate node.nodeId decisions

end

theorem settled_foldl (nodes : List ProjectTaskNode) {pass : E2rPass} {seen : List String}
    (settled : Settled pass seen) :
    Settled (nodes.foldl (gateNode fromStr call) pass) (seen ++ nodes.map (·.nodeId)) := by
  induction nodes generalizing pass seen with
  | nil => simpa using settled
  | cons node rest ih => simpa using ih (settled.gateNode node)

theorem settled_passOver (fromStr : String → Option JsonValue) (call : E2rCall) :
    Settled (passOver fromStr call) call.tree.ids :=
  @settled_foldl fromStr call call.tree.nodes start [] ⟨rfl, rfl, List.Perm.refl _⟩

theorem joinDeferred_foldl (deferred : List String) (pass : E2rPass) :
    (deferred.foldl (joinDeferred call) pass).acceptedTaskIds = pass.acceptedTaskIds ∧
      (deferred.foldl (joinDeferred call) pass).committedTaskIds = pass.committedTaskIds ∧
      (deferred.foldl (joinDeferred call) pass).iterateTaskIds =
        pass.iterateTaskIds ++ deferred ∧
      (deferred.foldl (joinDeferred call) pass).rejectedCount =
        pass.rejectedCount + deferred.length := by
  induction deferred generalizing pass with
  | nil => simp
  | cons nodeId rest ih =>
    obtain ⟨accepted, committed, iterated, rejected⟩ := ih (joinDeferred call pass nodeId)
    refine ⟨accepted, committed, ?_, ?_⟩
    · rw [foldl_cons, iterated]
      simp [joinDeferred, iterate]
    · rw [foldl_cons, rejected]
      simp only [joinDeferred, iterate, length_cons]
      omega

@[simp] theorem committed_enforce :
    (enforce fromStr call).committedTaskIds = (passOver fromStr call).committedTaskIds :=
  (joinDeferred_foldl _ _).2.1

/-! ## What is committed is justified -/

inductive Justified (fromStr : String → Option JsonValue) (call : E2rCall) : List String → Prop
  | nil : Justified fromStr call []
  | snoc {committed : List String} {node : ProjectTaskNode} :
      Justified fromStr call committed → node ∈ call.tree.nodes →
      Satisfies fromStr call node → DependenciesIn call node committed →
      Justified fromStr call (committed ++ [node.nodeId])

theorem justified_foldl {nodes : List ProjectTaskNode} {pass : E2rPass}
    (among : ∀ node ∈ nodes, node ∈ call.tree.nodes)
    (justified : Justified fromStr call pass.committedTaskIds) :
    Justified fromStr call (nodes.foldl (gateNode fromStr call) pass).committedTaskIds := by
  induction nodes generalizing pass with
  | nil => exact justified
  | cons node rest ih =>
    refine ih (fun later isLater => among later (mem_cons_of_mem _ isLater)) ?_
    cases gateNode_cases fromStr call pass node with
    | inl isCommitted =>
      rw [isCommitted.2.2]
      exact justified.snoc (among node mem_cons_self) isCommitted.1 isCommitted.2.1
    | inr stays =>
      cases stays.2 with
      | inl isDeferred => rw [isDeferred]; exact justified
      | inr isIterated =>
        obtain ⟨decisions, isIterated⟩ := isIterated
        rw [isIterated]
        exact justified

theorem Justified.at_place {committed : List String} (justified : Justified fromStr call committed)
    {id : String} (isCommitted : id ∈ committed) :
    ∃ node ∈ call.tree.nodes, node.nodeId = id ∧ Satisfies fromStr call node ∧
      ∃ before after, committed = before ++ id :: after ∧ DependenciesIn call node before := by
  induction justified with
  | nil => simp at isCommitted
  | snoc earlier isNode satisfied known ih =>
    cases mem_append.mp isCommitted with
    | inl isEarlier =>
      obtain ⟨node, isNode, sameId, satisfied, before, after, split, known⟩ := ih isEarlier
      exact ⟨node, isNode, sameId, satisfied, before, after ++ [_],
        by rw [split, append_assoc, cons_append], known⟩
    | inr isLast =>
      rw [mem_singleton] at isLast
      exact ⟨_, isNode, isLast.symm, satisfied, _, [], by rw [isLast], known⟩

theorem node_eq_of_id {nodes : List ProjectTaskNode} (distinct : (nodes.map (·.nodeId)).Nodup)
    {first second : ProjectTaskNode} (isFirst : first ∈ nodes) (isSecond : second ∈ nodes)
    (sameId : first.nodeId = second.nodeId) : first = second :=
  inj_on_of_nodup_map distinct isFirst isSecond sameId

/-! ## Listed with dependencies first -/

theorem committed_before {before after : List ProjectTaskNode} {node : ProjectTaskNode}
    (split : call.tree.nodes = before ++ node :: after) (distinct : call.tree.ids.Nodup)
    {dep : String} (isBefore : dep ∈ before.map (·.nodeId))
    (isCommitted : dep ∈ (passOver fromStr call).committedTaskIds) :
    dep ∈ (before.foldl (gateNode fromStr call) start).committedTaskIds := by
  obtain ⟨later, among, grown⟩ :=
    @committed_foldl fromStr call (node :: after)
      (before.foldl (gateNode fromStr call) start)
  rw [passOver, split, foldl_append, grown] at isCommitted
  cases mem_append.mp isCommitted with
  | inl isEarlier => exact isEarlier
  | inr isLater =>
    rw [TaskTree.ids, split, map_append] at distinct
    exact absurd rfl (nodup_append.mp distinct |>.2.2 dep isBefore dep (among dep isLater))

theorem committed_of_satisfies (distinct : call.tree.ids.Nodup)
    (ordered : DependenciesFirst call.tree) (isNode : node ∈ call.tree.nodes)
    (satisfied : Satisfies fromStr call node)
    (known : DependenciesIn call node (passOver fromStr call).committedTaskIds) :
    node.nodeId ∈ (passOver fromStr call).committedTaskIds := by
  obtain ⟨before, after, split⟩ := append_of_mem isNode
  have inTurn : DependenciesIn call node
      (before.foldl (gateNode fromStr call) start).committedTaskIds := by
    intro dep isDep isKnown
    exact committed_before split distinct (ordered before node after split dep isDep isKnown)
      (known dep isDep isKnown)
  obtain ⟨later, -, grown⟩ := @committed_foldl fromStr call after
    (gateNode fromStr call (before.foldl (gateNode fromStr call) start) node)
  rw [passOver, split, foldl_append, foldl_cons, grown]
  refine mem_append_left _ ?_
  cases gateNode_cases fromStr call (before.foldl (gateNode fromStr call) start) node with
  | inl isCommitted => rw [isCommitted.2.2]; simp [commit]
  | inr stays => exact absurd ⟨satisfied, inTurn⟩ stays.1

/-! ## The law -/

/-- What the gate promises about its outcome. -/
structure CommitLaw (fromStr : String → Option JsonValue) (call : E2rCall)
    (outcome : E2rGateOutcome) : Prop where
  /-- Every node is committed or iterated, and none is both or twice. -/
  once : (outcome.committedTaskIds ++ outcome.iterateTaskIds).Perm call.tree.ids
  exclusive : ∀ id ∈ call.tree.ids, (id ∈ outcome.committedTaskIds ∧ id ∉ outcome.iterateTaskIds) ∨
      (id ∉ outcome.committedTaskIds ∧ id ∈ outcome.iterateTaskIds)
  counted : outcome.committedCount + outcome.rejectedCount = call.tree.nodes.length
  accepted : outcome.acceptedTaskIds = outcome.committedTaskIds ∧
    outcome.acceptedCount = outcome.committedCount
  sound : ∀ node ∈ call.tree.nodes, node.nodeId ∈ outcome.committedTaskIds →
    Satisfies fromStr call node ∧
      ∃ before after, outcome.committedTaskIds = before ++ node.nodeId :: after ∧
        DependenciesIn call node before
  complete : DependenciesFirst call.tree → ∀ node ∈ call.tree.nodes,
    Satisfies fromStr call node → DependenciesIn call node outcome.committedTaskIds →
      node.nodeId ∈ outcome.committedTaskIds

/-- For distinct nodes, the gate keeps its law. -/
theorem commit_law (fromStr : String → Option JsonValue) (call : E2rCall)
    (distinct : call.tree.ids.Nodup) : CommitLaw fromStr call (enforce fromStr call) := by
  have settled := settled_passOver fromStr call
  obtain ⟨accepted, committed, iterated, rejected⟩ :=
    @joinDeferred_foldl call (passOver fromStr call).deferredNodes (passOver fromStr call)
  have once : ((enforce fromStr call).committedTaskIds ++
      (enforce fromStr call).iterateTaskIds).Perm call.tree.ids := by
    simp only [enforce, outcomeOf, committed, iterated]
    exact settled.settled
  refine ⟨once, ?_, ?_, ?_, ?_, ?_⟩
  · intro id isNode
    have apart := nodup_append.mp (once.symm.nodup distinct) |>.2.2
    cases mem_append.mp (once.symm.subset isNode) with
    | inl isCommitted =>
      exact Or.inl ⟨isCommitted, fun isIterated => apart id isCommitted id isIterated rfl⟩
    | inr isIterated =>
      exact Or.inr ⟨fun isCommitted => apart id isCommitted id isIterated rfl, isIterated⟩
  · have total := settled.settled.length_eq
    simp only [TaskTree.ids, length_append, length_map] at total
    simp only [enforce, outcomeOf, committed, rejected, settled.rejected]
    omega
  · simp [enforce, outcomeOf, accepted, committed, settled.accepted]
  · intro node isNode isCommitted
    rw [committed_enforce] at isCommitted ⊢
    have justified : Justified fromStr call (passOver fromStr call).committedTaskIds :=
      justified_foldl (fun _ isNode => isNode) .nil
    obtain ⟨same, isSame, sameId, satisfied, before, after, split, known⟩ :=
      justified.at_place isCommitted
    rw [node_eq_of_id distinct isNode isSame sameId.symm]
    exact ⟨satisfied, before, after, by rw [split, sameId], known⟩
  · intro ordered node isNode satisfied known
    rw [committed_enforce] at known ⊢
    exact committed_of_satisfies distinct ordered isNode satisfied known

/-! ## A listed tree -/

def listedOutput : JsonValue :=
  .object [("evidence_ref", .string "evidence:task"),
    ("relation_write_proof_ref", .string "relation:write_proof:task:1")]

def listedParse (text : String) : Option JsonValue :=
  if text = "\x7b\"evidence_ref\":\"evidence:task\"," ++
      "\"relation_write_proof_ref\":\"relation:write_proof:task:1\"\x7d" then
    some listedOutput
  else none

def listedReport (taskId : String) : ExecutionReport where
  taskId
  output := "\x7b\"evidence_ref\":\"evidence:task\"," ++
    "\"relation_write_proof_ref\":\"relation:write_proof:task:1\"\x7d"
  outcomeScore := 5
  guardDecision := "Allow"

def listedCall : E2rCall where
  sessionId := "session"
  tree := ⟨"tree", [⟨"child", [], 0, 0⟩, ⟨"parent", ["child"], 0, 0⟩]⟩
  reviewGraph := ⟨"graph", [⟨"child", true⟩, ⟨"parent", true⟩]⟩
  executionReports := [listedReport "parent", listedReport "child"]
  limits := ⟨3, 3, 0, 0⟩
  observedCostMicros := 10000
  observedTimeMs := 50
  nowMs := 100

theorem listed_committed :
    (enforce listedParse listedCall).committedTaskIds = ["child", "parent"] ∧
      CommitLaw listedParse listedCall (enforce listedParse listedCall) :=
  ⟨by decide +kernel, commit_law listedParse listedCall (by decide)⟩

end AutoLoop.OrgKernel.E2rController
