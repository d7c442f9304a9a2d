import AutoLoop.Plugins.PlainForms
import AutoLoop.Runtime.FlowViews
import AutoLoop.StateAdapter.UnmirroredStore

/-!
# When the flow map and its views agree

Every call leaves a map with one node for each task id used so far.  Its views agree with it
throughout the calls on a session exactly when no two of their task ids are sanitised alike.
-/

namespace AutoLoop.Runtime

open StateAdapter List Writes FlowRun

namespace FlowStateEngine

variable {db : StateStore} {forms : FlowForms}

def perform (db : StateStore) (forms : FlowForms) : FlowCall → StoreCall Unit
  | .applyRuntimeUpdate update => applyRuntimeUpdate db forms update
  | .setBudgetState sessionId traceId taskId capabilityId budgetState reason =>
    setBudgetState db forms sessionId traceId taskId capabilityId budgetState reason

def engine (db : StateStore) (forms : FlowForms) (start : Shared) :
    Component FlowRun FlowCall (Except String Unit) where
  initial := ⟨start, []⟩
  step := fun run call =>
    let ran := (perform db forms call).run run.shared
    (ran.1, ⟨ran.2, call.update.taskId :: run.used⟩)

theorem perform_eq (call : FlowCall) :
    perform db forms call = applyRuntimeUpdate db forms call.update := by
  cases call <;> rfl

/-! ## What a call writes -/

section Unmirrored

variable (unmirrored : db.mirror = none)
include unmirrored

section
variable (snapshot : FlowMapSnapshot)

theorem writes_persistNodeViews (node : FlowNodeRecord) :
    Writes (persistNodeViews db forms snapshot node) (nodeRows forms snapshot node) := by
  have plain : ∀ view, StateStore.isEvidence
      (nodeViewKey view snapshot.sessionId node.nodeId) = false :=
    fun view => isEvidence_append (by decide) _
  exact (upsertJsonKnowledge unmirrored (plain _) _ _).bind fun _ =>
    (upsertJsonKnowledge unmirrored (plain _) _ _).bind fun _ =>
      (upsertJsonKnowledge unmirrored (plain _) _ _).bind fun _ =>
        (upsertJsonKnowledge unmirrored (plain _) _ _).bind fun _ => done ()

theorem writes_persistAllViews (nodes : List FlowNodeRecord) :
    Writes (persistAllViews db forms snapshot nodes)
      (nodes.flatMap (nodeRows forms snapshot)) := by
  induction nodes with
  | nil => exact done ()
  | cons node rest ih =>
    rw [flatMap_cons]
    exact (writes_persistNodeViews unmirrored snapshot node).bind fun _ => ih

theorem writes_upsertFlowMapInternal :
    Writes (upsertFlowMapInternal db forms snapshot) (mapRows forms snapshot) :=
  (upsertJsonKnowledge unmirrored (isEvidence_append (by decide) _) _ _).bind fun _ =>
    (upsertKnowledge unmirrored (isEvidence_append (by decide) _) _ _).bind fun _ =>
      writes_persistAllViews unmirrored snapshot snapshot.nodes

end

theorem run_currentFlowMap {sessionId : String} {shared : Shared} {found : Option FlowMapSnapshot}
    (stored : StoredMap forms shared.repo.knowledge.texts sessionId found) :
    ∃ nowMs later, (currentFlowMap db forms sessionId).run shared =
        (.ok (found.getD (defaultFlowMap sessionId nowMs)), later) ∧
      later.repo = shared.repo := by
  rw [StoredMap, Knowledge.get_texts] at stored
  have fetched := StateStore.run_getKnowledge_unmirrored unmirrored (flowMapKey sessionId) shared
  simp only [currentFlowMap, fetchFlowMapInternal, Future.run_bind, Effect.bind_apply, fetched]
  cases held : shared.repo.knowledge.get (flowMapKey sessionId) with
  | none =>
    rw [held] at stored
    cases found with
    | some snapshot => cases stored
    | none => exact ⟨_, _, rfl, rfl⟩
  | some record =>
    rw [held] at stored
    cases found with
    | none => cases stored
    | some snapshot =>
      have decoded : forms.map.decode record.value = some snapshot :=
        Option.some.inj stored
      simp only [decoded]
      exact ⟨0, _, rfl, rfl⟩

omit unmirrored in
theorem get_session_patchMetadata (update : FlowRuntimeUpdate) :
    update.patchMetadata.get "session_id" = some update.sessionId := by
  rw [FlowRuntimeUpdate.patchMetadata]
  cases update.sideEffectState <;> cases update.budgetState <;> cases update.triggerState <;>
    simp [Table.get_insert]

theorem run_applyRuntimeUpdate {update : FlowRuntimeUpdate} {shared : Shared}
    {found : Option FlowMapSnapshot}
    (stored : StoredMap forms shared.repo.knowledge.texts update.sessionId found) :
    ∃ patch nowMs later, patch.nodeId = update.taskId ∧
      (applyRuntimeUpdate db forms update).run shared = (.ok (), later) ∧
      later.repo.knowledge.texts = shared.repo.knowledge.texts.insertAll
        (patchRows forms update.sessionId patch (patchedMap update.sessionId patch
          (found.getD (defaultFlowMap update.sessionId nowMs)))) := by
  obtain ⟨planMs, planned, ranPlan, keptPlan⟩ := run_currentFlowMap unmirrored stored
  let clocked : Shared := { planned with tick := planned.tick + 1 }
  let patch := update.patch (found.getD (defaultFlowMap update.sessionId planMs))
    planned.moment.nowMs
  have ranClock : StateStore.nowMs.run planned = (.ok planned.moment.nowMs, clocked) := rfl
  have session : patch.metadata.get "session_id" = some update.sessionId :=
    get_session_patchMetadata update
  have storedAgain : StoredMap forms clocked.repo.knowledge.texts update.sessionId found := by
    show StoredMap forms planned.repo.knowledge.texts update.sessionId found
    rw [keptPlan]
    exact stored
  obtain ⟨nowMs, fetched, ranFetch, keptFetch⟩ := run_currentFlowMap unmirrored storedAgain
  have writes := (@writes_upsertFlowMapInternal db forms unmirrored (patchedMap
    update.sessionId patch (found.getD (defaultFlowMap update.sessionId nowMs)))).bind fun _ =>
      (upsertJsonKnowledge unmirrored (isEvidence_append (by decide) _)
        (forms.patch.encode patch) flowScope :
        Writes (db.upsertJsonKnowledge (flowPatchKey update.sessionId patch.flowId patch.nodeId
          patch.updatedAtMs) (.ok (forms.patch.encode patch)) flowScope) _).bind fun _ =>
        done ()
  obtain ⟨_, later, ran, put⟩ := writes fetched
  refine ⟨patch, nowMs, later, rfl, ?_, ?_⟩
  · rw [applyRuntimeUpdate, Future.run_bind_of_ok ranPlan, Future.run_bind_of_ok ranClock]
    show (applyPatchInternal db forms patch).run clocked = (.ok (), later)
    have ranSession : (sessionOfPatch db patch).run clocked =
        (.ok update.sessionId, clocked) := by
      rw [sessionOfPatch, session]
      rfl
    rw [applyPatchInternal, Future.run_bind_of_ok ranSession, Future.run_bind_of_ok ranFetch]
    exact ran
  · rw [put, keptFetch]
    show (planned.repo.knowledge.texts).insertAll _ = _
    rw [keptPlan]
    rfl

end Unmirrored

/-! ## Runs -/

/-- The map of a session is its own and has exactly one node for each task id used so
far. -/
def Counted (forms : FlowForms) (sessionId : String) (run : FlowRun)
    (found : Option FlowMapSnapshot) : Prop :=
  StoredMap forms run.texts sessionId found ∧
    (∀ snapshot ∈ found, snapshot.sessionId = sessionId) ∧
    ((nodesOf found).map FlowNodeRecord.nodeId).Nodup ∧
    ∀ taskId, taskId ∈ run.used ↔ taskId ∈ (nodesOf found).map FlowNodeRecord.nodeId

/-- Task ids that are sanitised alike are equal. -/
def Apart (taskIds : List String) : Prop :=
  ∀ taskId ∈ taskIds, ∀ other ∈ taskIds,
    sanitizeKeyPart taskId = sanitizeKeyPart other → taskId = other

theorem apart_of_agrees {sessionId : String} {run : FlowRun}
    (agrees : run.Agrees forms sessionId) : Apart run.used := by
  obtain ⟨found, -, -, used, views⟩ := agrees
  intro taskId isUsed other otherUsed alike
  obtain ⟨node, isNode, rfl⟩ := mem_map.mp ((used taskId).mp isUsed)
  obtain ⟨otherNode, isOther, rfl⟩ := mem_map.mp ((used other).mp otherUsed)
  exact (views node isNode).nodeId_eq (views otherNode isOther) alike

theorem counted_step (unmirrored : db.mirror = none) {start : Shared} {sessionId : String}
    {run : FlowRun} {found : Option FlowMapSnapshot} {call : FlowCall}
    (counted : Counted forms sessionId run found) (ofSession : call.update.sessionId = sessionId) :
    ∃ next, Counted forms sessionId ((engine db forms start).step run call).2 next ∧
      (Apart (call.update.taskId :: run.used) → ∀ node ∈ nodesOf next,
        ViewsHold forms ((engine db forms start).step run call).2.texts sessionId node) := by
  obtain ⟨stored, session, nodup, used⟩ := counted
  subst ofSession
  obtain ⟨patch, nowMs, later, isTask, ran, put⟩ := run_applyRuntimeUpdate unmirrored stored
  have nodes : (found.getD (defaultFlowMap call.update.sessionId nowMs)).nodes =
      nodesOf found := by
    cases found <;> rfl
  have ofSession : (found.getD (defaultFlowMap call.update.sessionId nowMs)).sessionId =
      call.update.sessionId := by
    cases found with
    | none => rfl
    | some snapshot => exact session snapshot rfl
  generalize found.getD (defaultFlowMap call.update.sessionId nowMs) = current at *
  have stepped : ((engine db forms start).step run call).2 =
      ⟨later, call.update.taskId :: run.used⟩ := by
    simp only [engine, perform_eq, ran]
  have ids : ∀ taskId, taskId ∈ call.update.taskId :: run.used ↔
      taskId ∈ (patchedNodes patch current.nodes).map FlowNodeRecord.nodeId := by
    intro taskId
    rw [mem_nodeId_patchedNodes, mem_cons, used, nodes, isTask]
  have nodupNext : ((patchedNodes patch current.nodes).map FlowNodeRecord.nodeId).Nodup :=
    nodup_nodeId_patchedNodes (nodes ▸ nodup)
  rw [stepped]
  refine ⟨some (patchedMap call.update.sessionId patch current), ⟨?_, ?_, nodupNext, ids⟩, ?_⟩
  · have isStored := @get_patchRows_map forms
      (patchedMap call.update.sessionId patch current) run.texts call.update.sessionId patch
    show (later.repo.knowledge.texts.get _).map _ = _
    rw [put]
    rw [patchedMap, ofSession] at isStored
    rw [patchedMap, ofSession]
    exact (congrArg _ isStored).trans (congrArg some (forms.map.decode_encode _))
  · rintro snapshot ⟨rfl⟩
    exact ofSession
  · intro apart node isNode
    have distinct : ∀ node ∈ patchedNodes patch current.nodes,
        ∀ other ∈ patchedNodes patch current.nodes,
          sanitizeKeyPart node.nodeId = sanitizeKeyPart other.nodeId → node = other := by
      intro node isNode other isOther alike
      have sameId := apart node.nodeId ((ids _).mpr (mem_map_of_mem isNode)) other.nodeId
        ((ids _).mpr (mem_map_of_mem isOther)) alike
      exact inj_on_of_nodup_map nodupNext isNode isOther sameId
    have rows : ∀ row ∈ nodeRows forms (patchedMap call.update.sessionId patch current) node,
        (run.texts.insertAll (patchRows forms call.update.sessionId patch
          (patchedMap call.update.sessionId patch current))).get row.1 = some row.2 :=
      fun row isRow => get_patchRows_of_node run.texts distinct isNode isRow
    have holds := ViewsHold.of_rows rows
    show ViewsHold forms later.repo.knowledge.texts call.update.sessionId node
    rw [put, ← ofSession]
    rw [← ofSession] at holds
    exact holds

theorem counted_start {start : Shared} {sessionId : String}
    (unused : start.repo.knowledge.get (flowMapKey sessionId) = none) :
    Counted forms sessionId ⟨start, []⟩ none := by
  refine ⟨?_, fun _ isFound => (nomatch isFound), nodup_nil, fun _ => Iff.rfl⟩
  show (start.repo.knowledge.texts.get _).map _ = _
  rw [Knowledge.get_texts, unused]
  rfl

section
variable (unmirrored : db.mirror = none) {start : Shared} {sessionId : String} {run : FlowRun}
  {calls : List FlowCall} {found : Option FlowMapSnapshot}
  (counted : Counted forms sessionId run found)
include unmirrored counted

theorem always_counted (ofSession : ∀ call ∈ calls, call.update.sessionId = sessionId) :
    (engine db forms start).Always (fun run => ∃ found, Counted forms sessionId run found)
      run calls := by
  induction calls generalizing run found with
  | nil => exact ⟨found, counted⟩
  | cons call rest ih =>
    obtain ⟨first, later⟩ := forall_mem_cons.mp ofSession
    obtain ⟨next, countedNext, -⟩ := @counted_step db forms unmirrored start sessionId run found call counted first
    exact ⟨⟨found, counted⟩, ih countedNext later⟩

theorem always_agrees (views : ∀ node ∈ nodesOf found, ViewsHold forms run.texts sessionId node)
    (ofSession : ∀ call ∈ calls, call.update.sessionId = sessionId)
    (apart : Apart (run.used ++ calls.map (·.update.taskId))) :
    (engine db forms start).Always (Agrees forms sessionId) run calls := by
  have agrees : run.Agrees forms sessionId :=
    ⟨found, counted.1, counted.2.2.1, counted.2.2.2, views⟩
  induction calls generalizing run found with
  | nil => exact agrees
  | cons call rest ih =>
    obtain ⟨first, later⟩ := forall_mem_cons.mp ofSession
    obtain ⟨next, countedNext, viewsNext⟩ :=
      @counted_step db forms unmirrored start sessionId run found call counted first
    have within : ∀ taskId ∈ call.update.taskId :: run.used,
        taskId ∈ run.used ++ (call :: rest).map (·.update.taskId) := by
      intro taskId membership
      rcases mem_cons.mp membership with rfl | isUsed
      · exact mem_append_right _ mem_cons_self
      · exact mem_append_left _ isUsed
    have inside : ∀ taskId ∈ (call.update.taskId :: run.used) ++ rest.map (·.update.taskId),
        taskId ∈ run.used ++ (call :: rest).map (·.update.taskId) := by
      intro taskId membership
      rcases mem_append.mp membership with isEarlier | isLater
      · exact within taskId isEarlier
      · exact mem_append_right _ (mem_cons_of_mem _ isLater)
    have holds := viewsNext fun taskId isTask other isOther =>
      apart taskId (within taskId isTask) other (within other isOther)
    refine ⟨agrees, ih countedNext holds later ?_ ?_⟩
    · exact fun taskId isTask other isOther =>
        apart taskId (inside taskId isTask) other (inside other isOther)
    · exact ⟨next, countedNext.1, countedNext.2.2.1, countedNext.2.2.2, holds⟩

end

theorem used_run {start : Shared} (run : FlowRun) (calls : List FlowCall) {taskId : String} :
    taskId ∈ ((engine db forms start).run run calls).2.used ↔
      taskId ∈ calls.map (·.update.taskId) ∨ taskId ∈ run.used := by
  induction calls generalizing run with
  | nil => simp
  | cons call rest ih =>
    have used : ((engine db forms start).step run call).2.used =
        call.update.taskId :: run.used := rfl
    rw [Component.run_cons, ih, used, map_cons, mem_cons, mem_cons]
    tauto

theorem always_agrees_iff (unmirrored : db.mirror = none) {start : Shared} {sessionId : String}
    (unused : start.repo.knowledge.get (flowMapKey sessionId) = none) {calls : List FlowCall}
    (ofSession : ∀ call ∈ calls, call.update.sessionId = sessionId) :
    (engine db forms start).Always (Agrees forms sessionId) ⟨start, []⟩ calls ↔
      Apart (calls.map (·.update.taskId)) := by
  constructor
  · intro always
    have apart := apart_of_agrees always.run
    intro taskId isTask other isOther
    exact apart taskId ((used_run _ _).mpr (Or.inl isTask)) other
      ((used_run _ _).mpr (Or.inl isOther))
  · intro apart
    exact always_agrees unmirrored (counted_start unused) (fun _ isNode => nomatch isNode)
      ofSession apart

instance stateForm : FieldForm FlowNodeState :=
  .ofText FlowNodeState.debug
    (fun
      | "Pending" => some .pending
      | "Ready" => some .ready
      | "Running" => some .running
      | "Succeeded" => some .succeeded
      | "Failed" => some .failed
      | "Blocked" => some .blocked
      | "Skipped" => some .skipped
      | "Degraded" => some .degraded
      | "Replayed" => some .replayed
      | _ => none)
    fun value => by cases value <;> rfl

/-- Forms that list the fields of a record one after another. -/
def plainForms : FlowForms where
  map := .ofFields
    (fun snapshot => (snapshot.flowId, snapshot.sessionId, snapshot.planId, snapshot.runId,
      snapshot.updatedAtMs, snapshot.nodes.map fun node =>
        ((node.nodeId, node.taskId, node.capabilityId, node.state, node.dependsOn),
          (node.startedAtMs, node.endedAtMs),
          (node.flags.sideEffectState, node.flags.budgetState, node.flags.triggerState),
          node.metadata)))
    (fun (flowId, sessionId, planId, runId, updatedAtMs, nodes) =>
      { flowId, sessionId, planId, runId, updatedAtMs
        nodes := nodes.map fun
          ((nodeId, taskId, capabilityId, state, dependsOn), (startedAtMs, endedAtMs),
            (sideEffectState, budgetState, triggerState), metadata) =>
          { nodeId, taskId, capabilityId, state, dependsOn, startedAtMs, endedAtMs, metadata
            flags := ⟨sideEffectState, budgetState, triggerState⟩ } })
    fun snapshot => by
      simp only [map_map]
      exact congrArg (fun nodes => { snapshot with nodes }) (map_id snapshot.nodes)
  patch := .ofFields
    (fun patch => ((patch.flowId, patch.nodeId, patch.fromState, patch.toState),
      (patch.reason, patch.traceId, patch.updatedAtMs), patch.metadata))
    (fun ((flowId, nodeId, fromState, toState), (reason, traceId, updatedAtMs), metadata) =>
      { flowId, nodeId, fromState, toState, reason, traceId, updatedAtMs, metadata })
    fun _ => rfl
  state := .ofFields
    (fun view => ((view.sessionId, view.flowId, view.planId, view.runId), (view.nodeId,
      view.taskId, view.capabilityId, view.state), (view.startedAtMs, view.endedAtMs,
      view.updatedAtMs)))
    (fun ((sessionId, flowId, planId, runId), (nodeId, taskId, capabilityId, state),
        (startedAtMs, endedAtMs, updatedAtMs)) =>
      ⟨sessionId, flowId, planId, runId, nodeId, taskId, capabilityId, state, startedAtMs,
        endedAtMs, updatedAtMs⟩)
    fun _ => rfl
  flag := .ofFields (fun view => (view.value, view.updatedAtMs))
    (fun (value, updatedAtMs) => ⟨value, updatedAtMs⟩) fun _ => rfl

/-- A store that is not mirrored. -/
def plainStore : StateStore := ⟨none, fun _ => 0⟩

/-- The start of a task in the session `s`. -/
def taskStarted (taskId : String) : FlowCall :=
  .applyRuntimeUpdate ⟨"s", "trace", taskId, "tool", some .running, "start", none, none, none,
    Table.empty⟩

end FlowStateEngine

end AutoLoop.Runtime
