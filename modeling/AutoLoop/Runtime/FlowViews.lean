import AutoLoop.Runtime.FlowStateEngine

/-!
# The flow map and its views

The map has one node for each task id.  The views of two nodes are under the same keys when
their ids are sanitised alike, so the views agree with the map exactly as long as no two
task ids are.
-/

namespace AutoLoop.Runtime

open StateAdapter List Text

/-- A call of the engine. -/
inductive FlowCall where
  | applyRuntimeUpdate (update : FlowRuntimeUpdate)
  | setBudgetState (sessionId traceId taskId capabilityId budgetState reason : String)

def FlowCall.update : FlowCall → FlowRuntimeUpdate
  | .applyRuntimeUpdate update => update
  | .setBudgetState sessionId traceId taskId capabilityId budgetState reason =>
    FlowStateEngine.budgetUpdate sessionId traceId taskId capabilityId budgetState reason

/-- The backends, and the task ids used so far. -/
structure FlowRun where
  shared : Shared
  used : List String

def FlowRun.texts (run : FlowRun) : Table String String := run.shared.repo.knowledge.texts

def StoredMap (forms : FlowForms) (texts : Table String String) (sessionId : String)
    (found : Option FlowMapSnapshot) : Prop :=
  (texts.get (flowMapKey sessionId)).map forms.map.decode = found.map some

/-- The nodes of a map, or of the one a session starts with. -/
def nodesOf (found : Option FlowMapSnapshot) : List FlowNodeRecord :=
  (found.map FlowMapSnapshot.nodes).getD []

def HoldsAt {Record : Type} (form : JsonForm Record) (texts : Table String String)
    (key : String) (describes : Record → Prop) : Prop :=
  ∃ text value, texts.get key = some text ∧ form.decode text = some value ∧ describes value

def NodeStateView.Describes (view : NodeStateView) (node : FlowNodeRecord) : Prop :=
  view.nodeId = node.nodeId ∧ view.taskId = node.taskId ∧
    view.capabilityId = node.capabilityId ∧
    view.state = toAsciiLowercase node.state.debug ∧
    view.startedAtMs = node.startedAtMs ∧ view.endedAtMs = node.endedAtMs

structure ViewsHold (forms : FlowForms) (texts : Table String String) (sessionId : String)
    (node : FlowNodeRecord) : Prop where
  state : HoldsAt forms.state texts (nodeStateKey sessionId node.nodeId) (·.Describes node)
  sideEffect : HoldsAt forms.flag texts (sideEffectKey sessionId node.nodeId)
    (·.value = node.flags.sideEffectState)
  budget : HoldsAt forms.flag texts (budgetStateKey sessionId node.nodeId)
    (·.value = node.flags.budgetState)
  trigger : HoldsAt forms.flag texts (triggerStateKey sessionId node.nodeId)
    (·.value = node.flags.triggerState)

def FlowRun.Agrees (forms : FlowForms) (sessionId : String) (run : FlowRun) : Prop :=
  ∃ found, StoredMap forms run.texts sessionId found ∧
    ((nodesOf found).map FlowNodeRecord.nodeId).Nodup ∧
    (∀ taskId, taskId ∈ run.used ↔ taskId ∈ (nodesOf found).map FlowNodeRecord.nodeId) ∧
    ∀ node ∈ nodesOf found, ViewsHold forms run.texts sessionId node

/-! ## Keys -/

/-- The keys of a view are equal exactly for ids that are sanitised alike, and those of
different views never are. -/
theorem nodeViewKey_inj {view otherView sessionId nodeId other : String}
    (clean : ':' ∉ view.toList) (otherClean : ':' ∉ otherView.toList) :
    nodeViewKey view sessionId nodeId = nodeViewKey otherView sessionId other ↔
      view = otherView ∧ sanitizeKeyPart nodeId = sanitizeKeyPart other := by
  constructor
  · intro same
    have spelled := congrArg String.toList same
    simp only [nodeViewKey, String.toList_append, append_cancel_left_eq] at spelled
    have colon : ":".toList = [':'] := rfl
    rw [colon] at spelled
    have sameView : view.toList = otherView.toList :=
      after_last_separator spelled clean otherClean
    rw [sameView, append_left_inj, append_left_inj, append_right_inj] at spelled
    exact ⟨String.toList_inj.mp sameView, String.toList_inj.mp spelled⟩
  · rintro ⟨rfl, alike⟩
    rw [nodeViewKey, nodeViewKey, alike]

theorem nodeViewKey_ne_flowMapKey (view sessionId nodeId other : String) :
    nodeViewKey view sessionId nodeId ≠ flowMapKey other :=
  append_ne_append (by decide) _ _

theorem nodeViewKey_ne_flowIndexKey (view sessionId nodeId flowId : String) :
    nodeViewKey view sessionId nodeId ≠ flowIndexKey flowId :=
  append_ne_append (by decide) _ _

theorem nodeViewKey_ne_flowPatchKey (view sessionId nodeId other flowId otherId : String)
    (atMs : UInt64) :
    nodeViewKey view sessionId nodeId ≠ flowPatchKey other flowId otherId atMs :=
  append_ne_append (by decide) _ _

theorem flowMapKey_ne_flowIndexKey (sessionId flowId : String) :
    flowMapKey sessionId ≠ flowIndexKey flowId :=
  append_ne_append (by decide) _ _

theorem flowMapKey_ne_flowPatchKey (sessionId other flowId nodeId : String) (atMs : UInt64) :
    flowMapKey sessionId ≠ flowPatchKey other flowId nodeId atMs :=
  append_ne_append (by decide) _ _

/-! ## Rows -/

section
variable (forms : FlowForms) (snapshot : FlowMapSnapshot)

def nodeRows (node : FlowNodeRecord) :
    List (String × String) :=
  [(nodeStateKey snapshot.sessionId node.nodeId, forms.state.encode (nodeStateView snapshot node)),
    (sideEffectKey snapshot.sessionId node.nodeId,
      forms.flag.encode ⟨node.flags.sideEffectState, snapshot.updatedAtMs⟩),
    (budgetStateKey snapshot.sessionId node.nodeId,
      forms.flag.encode ⟨node.flags.budgetState, snapshot.updatedAtMs⟩),
    (triggerStateKey snapshot.sessionId node.nodeId,
      forms.flag.encode ⟨node.flags.triggerState, snapshot.updatedAtMs⟩)]

def mapRows : List (String × String) :=
  (flowMapKey snapshot.sessionId, forms.map.encode snapshot) ::
    (flowIndexKey snapshot.flowId, snapshot.sessionId) ::
      snapshot.nodes.flatMap (nodeRows forms snapshot)

end

def patchRows (forms : FlowForms) (sessionId : String) (patch : FlowStatePatch)
    (snapshot : FlowMapSnapshot) : List (String × String) :=
  mapRows forms snapshot ++
    [(flowPatchKey sessionId patch.flowId patch.nodeId patch.updatedAtMs, forms.patch.encode patch)]

section Rows

variable {forms : FlowForms} {snapshot : FlowMapSnapshot} {node other : FlowNodeRecord}

theorem exists_view_of_mem_nodeRows {row : String × String}
    (membership : row ∈ nodeRows forms snapshot node) :
    ∃ view, ':' ∉ view.toList ∧ row.1 = nodeViewKey view snapshot.sessionId node.nodeId := by
  simp only [nodeRows, mem_cons, not_mem_nil, or_false] at membership
  rcases membership with rfl | rfl | rfl | rfl
  · exact ⟨"state", by decide, rfl⟩
  · exact ⟨"side_effect_state", by decide, rfl⟩
  · exact ⟨"budget_state", by decide, rfl⟩
  · exact ⟨"trigger_state", by decide, rfl⟩

theorem eq_of_mem_nodeRows {row otherRow : String × String}
    (membership : row ∈ nodeRows forms snapshot node)
    (otherMembership : otherRow ∈ nodeRows forms snapshot node) (sameKey : row.1 = otherRow.1) :
    row = otherRow := by
  have apart : ∀ {view otherView : String}, ':' ∉ view.toList → ':' ∉ otherView.toList →
      nodeViewKey view snapshot.sessionId node.nodeId =
        nodeViewKey otherView snapshot.sessionId node.nodeId → view = otherView :=
    fun clean otherClean same => ((nodeViewKey_inj clean otherClean).mp same).1
  simp only [nodeRows, mem_cons, not_mem_nil, or_false] at membership otherMembership
  rcases membership with rfl | rfl | rfl | rfl <;>
    rcases otherMembership with rfl | rfl | rfl | rfl <;>
    first
      | rfl
      | exact absurd (apart (by decide) (by decide) sameKey) (by decide)

theorem get_patchRows_of_node (texts : Table String String) {sessionId : String}
    {patch : FlowStatePatch}
    (apart : ∀ node ∈ snapshot.nodes, ∀ other ∈ snapshot.nodes,
      sanitizeKeyPart node.nodeId = sanitizeKeyPart other.nodeId → node = other)
    (isNode : node ∈ snapshot.nodes) {row : String × String}
    (isRow : row ∈ nodeRows forms snapshot node) :
    (texts.insertAll (patchRows forms sessionId patch snapshot)).get row.1 = some row.2 := by
  obtain ⟨view, clean, isKey⟩ := exists_view_of_mem_nodeRows isRow
  apply Table.get_insertAll_of_unique
  · apply mem_append_left
    exact mem_cons_of_mem _ (mem_cons_of_mem _ (mem_flatMap.mpr ⟨node, isNode, isRow⟩))
  · intro otherRow membership sameKey
    rw [isKey] at sameKey
    rcases mem_append.mp membership with inMap | isPatch
    · simp only [mapRows, mem_cons] at inMap
      rcases inMap with rfl | rfl | inViews
      · exact absurd sameKey.symm (nodeViewKey_ne_flowMapKey _ _ _ _)
      · exact absurd sameKey.symm (nodeViewKey_ne_flowIndexKey _ _ _ _)
      · obtain ⟨other, isOther, isOtherRow⟩ := mem_flatMap.mp inViews
        obtain ⟨otherView, otherClean, isOtherKey⟩ := exists_view_of_mem_nodeRows isOtherRow
        rw [isOtherKey] at sameKey
        have alike := ((nodeViewKey_inj otherClean clean).mp sameKey).2
        have same := apart other isOther node isNode alike
        subst same
        rw [eq_of_mem_nodeRows isOtherRow isRow (by rw [isOtherKey, isKey, sameKey])]
    · rw [mem_singleton.mp isPatch] at sameKey
      exact absurd sameKey.symm (nodeViewKey_ne_flowPatchKey _ _ _ _ _ _ _)

theorem get_patchRows_map (texts : Table String String) (sessionId : String)
    (patch : FlowStatePatch) :
    (texts.insertAll (patchRows forms sessionId patch snapshot)).get
      (flowMapKey snapshot.sessionId) = some (forms.map.encode snapshot) := by
  apply Table.get_insertAll_of_unique
  · exact mem_cons_self
  · intro row membership sameKey
    rcases mem_append.mp membership with inMap | isPatch
    · simp only [mapRows, mem_cons] at inMap
      rcases inMap with rfl | rfl | inViews
      · rfl
      · exact absurd sameKey.symm (flowMapKey_ne_flowIndexKey _ _)
      · obtain ⟨node, -, isRow⟩ := mem_flatMap.mp inViews
        obtain ⟨view, -, isKey⟩ := exists_view_of_mem_nodeRows isRow
        exact absurd (isKey.symm.trans sameKey) (nodeViewKey_ne_flowMapKey _ _ _ _)
    · rw [mem_singleton.mp isPatch] at sameKey
      exact absurd sameKey.symm (flowMapKey_ne_flowPatchKey _ _ _ _ _)

theorem HoldsAt.of_get {Record : Type} {form : JsonForm Record} {texts : Table String String}
    {key : String} {describes : Record → Prop} {value : Record}
    (found : texts.get key = some (form.encode value)) (described : describes value) :
    HoldsAt form texts key describes :=
  ⟨form.encode value, value, found, form.decode_encode value, described⟩

theorem ViewsHold.of_rows {texts : Table String String}
    (stored : ∀ row ∈ nodeRows forms snapshot node, texts.get row.1 = some row.2) :
    ViewsHold forms texts snapshot.sessionId node := by
  simp only [nodeRows, forall_mem_cons] at stored
  obtain ⟨state, sideEffect, budget, trigger, -⟩ := stored
  exact {
    state := HoldsAt.of_get state ⟨rfl, rfl, rfl, rfl, rfl, rfl⟩
    sideEffect := HoldsAt.of_get sideEffect rfl
    budget := HoldsAt.of_get budget rfl
    trigger := HoldsAt.of_get trigger rfl }

theorem ViewsHold.nodeId_eq {texts : Table String String} {sessionId : String}
    (holds : ViewsHold forms texts sessionId node)
    (otherHolds : ViewsHold forms texts sessionId other)
    (alike : sanitizeKeyPart node.nodeId = sanitizeKeyPart other.nodeId) :
    node.nodeId = other.nodeId := by
  obtain ⟨text, view, found, decoded, describes⟩ := holds.state
  obtain ⟨otherText, otherView, otherFound, otherDecoded, otherDescribes⟩ := otherHolds.state
  have sameKey : nodeStateKey sessionId node.nodeId = nodeStateKey sessionId other.nodeId := by
    rw [nodeStateKey, nodeStateKey, nodeViewKey, nodeViewKey, alike]
  rw [sameKey, otherFound, Option.some.injEq] at found
  rw [← found, otherDecoded, Option.some.injEq] at decoded
  rw [← describes.1, ← otherDescribes.1, decoded]

end Rows

/-! ## Nodes -/

theorem map_nodeId_patchedNodes (patch : FlowStatePatch) (nodes : List FlowNodeRecord) :
    (patchedNodes patch nodes).map FlowNodeRecord.nodeId =
      if patch.nodeId ∈ nodes.map FlowNodeRecord.nodeId then nodes.map FlowNodeRecord.nodeId
      else nodes.map FlowNodeRecord.nodeId ++ [patch.nodeId] := by
  have kept : ∀ (nodes : List FlowNodeRecord) (index : Nat),
      (nodes.modify index (patchedNode patch)).map FlowNodeRecord.nodeId =
        nodes.map FlowNodeRecord.nodeId := by
    intro nodes index
    apply ext_getElem?
    intro position
    rw [getElem?_map, getElem?_map, getElem?_modify]
    split <;> cases nodes[position]? <;> rfl
  rw [patchedNodes, kept]
  by_cases known : patch.nodeId ∈ nodes.map FlowNodeRecord.nodeId
  · have found : nodes.any (·.nodeId = patch.nodeId) = true := by
      obtain ⟨node, isNode, isId⟩ := mem_map.mp known
      exact any_eq_true.mpr ⟨node, isNode, decide_eq_true isId⟩
    rw [if_pos found, if_pos known]
  · have missing : ¬nodes.any (·.nodeId = patch.nodeId) = true := by
      intro found
      obtain ⟨node, isNode, isId⟩ := any_eq_true.mp found
      exact known (mem_map.mpr ⟨node, isNode, of_decide_eq_true isId⟩)
    rw [if_neg missing, if_neg known, map_append]
    rfl

section
variable {patch : FlowStatePatch} {nodes : List FlowNodeRecord}

theorem mem_nodeId_patchedNodes {nodeId : String} :
    nodeId ∈ (patchedNodes patch nodes).map FlowNodeRecord.nodeId ↔
      nodeId = patch.nodeId ∨ nodeId ∈ nodes.map FlowNodeRecord.nodeId := by
  rw [map_nodeId_patchedNodes]
  split
  · next known =>
    constructor
    · exact Or.inr
    · rintro (rfl | isKnown)
      · exact known
      · exact isKnown
  · rw [mem_append, mem_singleton, or_comm]

theorem nodup_nodeId_patchedNodes (nodup : (nodes.map FlowNodeRecord.nodeId).Nodup) :
    ((patchedNodes patch nodes).map FlowNodeRecord.nodeId).Nodup := by
  rw [map_nodeId_patchedNodes]
  split
  · exact nodup
  · next unknown =>
    apply nodup.append (nodup_singleton _)
    intro nodeId isKnown isNew
    exact unknown (mem_singleton.mp isNew ▸ isKnown)

end

end AutoLoop.Runtime
