import AutoLoop.Runtime.Execute

/-!
# The reservation of a call

A call of `execute` ends the reservation it has made on all paths but those on which a
hook of the provider path denies it, and on which it finds the parallel window full.
What happens elsewhere leaves the reservation alone.
-/

namespace AutoLoop.Runtime

open StateAdapter

variable {Messages : Type} {reservation : BudgetReservation}

/-! ## What steps do to a reservation -/

namespace ExecuteWorld

section
variable (world : ExecuteWorld) (reservation : BudgetReservation)

def endings :
    List (BudgetOp × BudgetAnswer) :=
  world.made.filter (·.1.ended = some reservation)

def held : Nat :=
  world.books.live.count reservation

end

/-- The store has refused no budget operation. -/
def Unrefused (world : ExecuteWorld) : Prop :=
  ∀ entry ∈ world.made, ∀ message, entry.2 ≠ .refused message

end ExecuteWorld

/-- The host never ends or makes the reservation. -/
def ExecuteHost.Leaves (host : ExecuteHost Messages) (reservation : BudgetReservation) : Prop :=
  ∀ sideCall books, (host.during sideCall books).live.count reservation =
    books.live.count reservation

/-- No budget operation was made, and the reservation is live as often as before. -/
structure Untouched (reservation : BudgetReservation) (before after : ExecuteWorld) : Prop where
  made : after.made = before.made
  held : after.held reservation = before.held reservation

/-- Unless the store has refused an operation, the reservation was ended once. -/
structure EndedOnce (reservation : BudgetReservation) (before after : ExecuteWorld) : Prop where
  ended : after.Unrefused →
    (after.endings reservation).length = (before.endings reservation).length + 1
  held : after.Unrefused → after.held reservation = before.held reservation - 1

theorem Untouched.refl (world : ExecuteWorld) : Untouched reservation world world := ⟨rfl, rfl⟩

theorem Untouched.trans {before middle after : ExecuteWorld}
    (first : Untouched reservation before middle) (second : Untouched reservation middle after) :
    Untouched reservation before after :=
  ⟨second.made.trans first.made, second.held.trans first.held⟩

section
variable {before after : ExecuteWorld} (untouched : Untouched reservation before after)
include untouched

theorem Untouched.endings :
    after.endings reservation = before.endings reservation := by
  rw [ExecuteWorld.endings, untouched.made]
  rfl

theorem Untouched.unrefused : after.Unrefused ↔ before.Unrefused := by
  rw [ExecuteWorld.Unrefused, untouched.made]
  rfl

end

/-- A relation that does not see steps that leave the reservation alone. -/
def Absorbs (reservation : BudgetReservation) (relation : ExecuteWorld → ExecuteWorld → Prop) :
    Prop :=
  ∀ before middle after, Untouched reservation before middle → relation middle after →
    relation before after

theorem Untouched.absorbs : Absorbs reservation (Untouched reservation) :=
  fun _ _ _ => Untouched.trans

theorem EndedOnce.absorbs : Absorbs reservation (EndedOnce reservation) := by
  intro before middle after untouched later
  constructor
  · intro unrefused
    rw [later.ended unrefused, untouched.endings]
  · intro unrefused
    rw [later.held unrefused, untouched.held]

theorem EndedOnce.then {before middle after : ExecuteWorld}
    (ended : EndedOnce reservation before middle) (later : Untouched reservation middle after) :
    EndedOnce reservation before after := by
  constructor
  · intro unrefused
    rw [later.endings, ended.ended (later.unrefused.mp unrefused)]
  · intro unrefused
    rw [later.held, ended.held (later.unrefused.mp unrefused)]

/-- The computation gives the value and leaves the reservation alone. -/
structure Yields {α : Type} (reservation : BudgetReservation) (action : Effect ExecuteWorld α)
    (value : α) : Prop where
  run : ∀ world, (action world).1 = .ok value ∧ Untouched reservation world (action world).2

structure Decides {α : Type} (reservation : BudgetReservation) (condition : Prop)
    (action : Effect ExecuteWorld α) : Prop where
  ends : condition → Effect.Keeps (EndedOnce reservation) action
  leaves : ¬condition → Effect.Keeps (Untouched reservation) action

section Yields

variable {α β : Type} {action other : Effect ExecuteWorld α} {next : α → Effect ExecuteWorld β}
variable {value : α} {relation : ExecuteWorld → ExecuteWorld → Prop} {condition test : Prop}

theorem Yields.pure (value : α) : Yields reservation (Pure.pure value) value :=
  ⟨fun world => ⟨rfl, Untouched.refl world⟩⟩

theorem Yields.exists_run (yields : Yields reservation action value) (world : ExecuteWorld) :
    ∃ later, action world = (.ok value, later) ∧ Untouched reservation world later := by
  obtain ⟨answered, untouched⟩ := yields.run world
  obtain ⟨later, ran⟩ := Effect.exists_run answered
  rw [ran] at untouched
  exact ⟨later, ran, untouched⟩

theorem Yields.keeps (yields : Yields reservation action value) :
    Effect.Keeps (Untouched reservation) action :=
  fun world => (yields.run world).2

theorem Yields.bind {final : β} (yields : Yields reservation action value)
    (later : Yields reservation (next value) final) :
    Yields reservation (action >>= next) final := by
  constructor
  intro world
  obtain ⟨middle, ran, untouched⟩ := yields.exists_run world
  obtain ⟨answered, rest⟩ := later.run middle
  rw [Effect.bind_of_ok ran]
  exact ⟨answered, untouched.trans rest⟩

section
variable (yields : Yields reservation action value)
include yields

/-- What follows a step that leaves the reservation alone decides. -/
theorem Yields.keeps_bind
    (absorbs : Absorbs reservation relation) (later : Effect.Keeps relation (next value)) :
    Effect.Keeps relation (action >>= next) := by
  intro world
  obtain ⟨middle, ran, untouched⟩ := yields.exists_run world
  rw [Effect.bind_of_ok ran]
  exact absorbs world middle _ untouched (later middle)

theorem Yields.ends_bind (later : Effect.Keeps (EndedOnce reservation) (next value)) :
    Effect.Keeps (EndedOnce reservation) (action >>= next) :=
  yields.keeps_bind EndedOnce.absorbs later

theorem Yields.leaves_bind (later : Effect.Keeps (Untouched reservation) (next value)) :
    Effect.Keeps (Untouched reservation) (action >>= next) :=
  yields.keeps_bind Untouched.absorbs later

theorem Yields.decides_bind (later : Decides reservation condition (next value)) :
    Decides reservation condition (action >>= next) where
  ends holds := yields.ends_bind (later.ends holds)
  leaves fails := yields.leaves_bind (later.leaves fails)

end

theorem Yields.ite [Decidable test] (here : Yields reservation action value)
    (elsewhere : Yields reservation other value) :
    Yields reservation (if test then action else other) value := by
  split
  · exact here
  · exact elsewhere

theorem EndedOnce.keeps_bind (ends : Effect.Keeps (EndedOnce reservation) action)
    (later : ∀ value, Effect.Keeps (Untouched reservation) (next value)) :
    Effect.Keeps (EndedOnce reservation) (action >>= next) := by
  intro world
  have ended := ends world
  rw [Effect.bind_apply]
  split
  · next value middle ran =>
    rw [ran] at ended
    exact ended.then (later value middle)
  · next message middle ran =>
    rw [ran] at ended
    exact ended

theorem Decides.of_ends (holds : condition) (ends : Effect.Keeps (EndedOnce reservation) action) :
    Decides reservation condition action :=
  ⟨fun _ => ends, fun fails => absurd holds fails⟩

theorem Decides.of_leaves (fails : ¬condition)
    (leaves : Effect.Keeps (Untouched reservation) action) :
    Decides reservation condition action :=
  ⟨fun holds => absurd holds fails, fun _ => leaves⟩

theorem Decides.congr (same : condition ↔ test) (decides : Decides reservation test action) :
    Decides reservation condition action :=
  ⟨fun holds => decides.ends (same.mp holds), fun fails => decides.leaves (mt same.mpr fails)⟩

end Yields

open EndedOnce

open Decides

open List

namespace Execution

variable (call : Execution Messages)

/-! ## Steps -/

theorem endedOnce_budget {op : BudgetOp} (ends : op.ended = some reservation) :
    Effect.Keeps (EndedOnce reservation) (call.budget op) := by
  intro world
  constructor
  · intro _
    change (filter _ (_ :: world.made)).length = _
    simp only [filter_cons, ends, decide_true, if_true, length_cons]
    rfl
  · intro unrefused
    have answered := unrefused _ mem_cons_self
    cases op with
    | precharge envelope estimatedTokens => cases ends
    | settle envelope other providerTokens toolInvocations durationMs =>
      cases ends
      simp only [budget, budgetRuns, ExecuteWorld.held] at answered ⊢
      split
      · exact count_erase_self
      · next message ran =>
        rw [ran] at answered
        exact absurd rfl (answered message)
    | rollback envelope other reason =>
      cases ends
      simp only [budget, budgetRuns, ExecuteWorld.held] at answered ⊢
      split
      · exact count_erase_self
      · next message ran =>
        rw [ran] at answered
        exact absurd rfl (answered message)

theorem held_of_precharged {envelope : TaskEnvelope} {estimatedTokens : UInt32}
    {world later : ExecuteWorld}
    (ran : call.budget (.precharge envelope estimatedTokens) world =
      (.ok (.precharged (some reservation)), later)) :
    later.held reservation = world.held reservation + 1 ∧
      later.endings reservation = world.endings reservation := by
  rw [budget] at ran
  obtain ⟨answered, rfl⟩ := Prod.mk.inj ran
  constructor
  · simp only [budgetRuns, ExecuteWorld.held] at answered ⊢
    split at answered
    · cases answered
    · split at answered
      · next made ran =>
        cases Except.ok.inj answered
        exact count_cons_self
      · cases answered
      · cases answered
  · simp only [ExecuteWorld.endings, filter_cons]
    rfl

theorem endedOnce_rollbackBudget (reason : String) :
    Effect.Keeps (EndedOnce reservation) (call.rollbackBudget (some reservation) reason) :=
  keeps_bind (call.endedOnce_budget rfl) fun _ => (Yields.pure ()).keeps

theorem endedOnce_settleBudget (providerTokens toolInvocations : UInt32) :
    Effect.Keeps (EndedOnce reservation)
      (call.settleBudget (some reservation) providerTokens toolInvocations) :=
  keeps_bind (call.endedOnce_budget rfl) fun _ => (Yields.pure ()).keeps

theorem endedOnce_concludeBudget (decision : GuardDecision) :
    Effect.Keeps (EndedOnce reservation) (call.concludeBudget (some reservation) decision) := by
  cases decision with
  | allow => exact call.endedOnce_settleBudget 0 1
  | blocked => exact call.endedOnce_rollbackBudget _
  | requiresApproval => exact call.endedOnce_rollbackBudget _

section Leaving

variable (leaves : call.host.Leaves reservation)
include leaves

theorem yields_side (sideCall : SideCall) : Yields reservation (call.side sideCall) () :=
  ⟨fun world => ⟨rfl, rfl, leaves sideCall world.books⟩⟩

theorem yields_applyHook (phase : HookPhase) (channel : HookChannel) (arguments : String)
    (output error : Option String) :
    Yields reservation (call.applyHook phase channel arguments output error)
      (call.hookOutcome phase channel arguments output error) :=
  (call.yields_side leaves _).bind (Yields.pure _)

theorem yields_noteTimeout (channel : HookChannel) (arguments text : String) :
    Yields reservation (call.noteTimeout channel arguments text) () :=
  ((call.yields_applyHook leaves ..).bind (Yields.pure ())).ite (Yields.pure ())

theorem yields_noteCompaction (messages : Messages) :
    Yields reservation (call.noteCompaction messages) () :=
  (call.yields_side leaves _).ite (Yields.pure ())

theorem yields_noteRejection (guard : RuntimeGuardReport) :
    Yields reservation (call.noteRejection guard) () :=
  (call.yields_side leaves _).ite (Yields.pure ())

/-! ## The provider path -/

theorem untouched_blockedByHook (title fallback reason arguments : String)
    (outcome : HookOutcome) (response : Option LlmResponse) (tokens : Option UInt32) :
    Effect.Keeps (Untouched reservation)
      (call.blockedByHook title fallback reason arguments outcome response tokens) :=
  ((call.yields_applyHook leaves ..).bind (Yields.pure _)).keeps

theorem endedOnce_providerFailed (messages : Messages) (arguments error : String) :
    Effect.Keeps (EndedOnce reservation)
      (call.providerFailed (some reservation) messages arguments error) := by
  unfold providerFailed
  apply (call.yields_applyHook leaves ..).ends_bind
  apply (call.yields_noteTimeout leaves ..).ends_bind
  apply (call.yields_side leaves _).ends_bind
  apply (call.yields_side leaves _).ends_bind
  apply keeps_bind (call.endedOnce_rollbackBudget _)
  intro _
  exact ((call.yields_applyHook leaves ..).bind (Yields.pure _)).keeps

end Leaving

/-- No rule denies a phase of the provider path. -/
def Permitted (phase : HookPhase) : Prop :=
  (call.host.rulesAt phase).Permits phase .prompt call.capabilityId

instance (phase : HookPhase) : Decidable (call.Permitted phase) :=
  inferInstanceAs (Decidable (HookRuntime.Permits ..))

theorem allowed_iff_permitted {phase : HookPhase} (arguments : String)
    (output error : Option String) :
    (!(call.hookOutcome phase .prompt arguments output error).allowed) = true ↔
      ¬call.Permitted phase := by
  rw [Bool.not_eq_true', ← Bool.not_eq_true, not_iff_not]
  exact HookRuntime.allowed_iff_permits ..

/-- What the stream hook makes of an answer. -/
def streamedContent (arguments : String) (response : LlmResponse) : String :=
  (call.hookOutcome .stream .prompt arguments (some (response.content.getD "")) none).output.getD
    (response.content.getD "")

/-- No rule denies the answer of the provider. -/
def AnswerPermitted (arguments : String) (response : LlmResponse) : Prop :=
  call.Permitted .stream ∧
    (isTimeoutSignal (call.streamedContent arguments response) = true → call.Permitted .timeout) ∧
      call.Permitted .return

theorem decides_hook {phase : HookPhase} {arguments : String} {output error : Option String}
    {Result : Type} {condition : Prop} {denied allowed : Effect ExecuteWorld Result}
    (blocks : Effect.Keeps (Untouched reservation) denied)
    (goesOn : Decides reservation condition allowed) :
    Decides reservation (call.Permitted phase ∧ condition)
      (if !(call.hookOutcome phase .prompt arguments output error).allowed then denied
        else allowed) := by
  by_cases permitted : call.Permitted phase
  · rw [if_neg ((call.allowed_iff_permitted ..).not.mpr (not_not.mpr permitted))]
    exact goesOn.congr (and_iff_right permitted)
  · rw [if_pos ((call.allowed_iff_permitted ..).mpr permitted)]
    exact of_leaves (fun holds => permitted holds.1) blocks

section Leaving

variable (leaves : call.host.Leaves reservation)
include leaves

theorem decides_providerReturned (tokens : UInt32) (response : LlmResponse)
    (arguments content : String) :
    Decides reservation (call.Permitted .return)
      (call.providerReturned (some reservation) tokens response arguments content) := by
  unfold providerReturned
  apply (call.yields_applyHook leaves ..).decides_bind
  apply Decides.congr (and_iff_left trivial).symm
  apply call.decides_hook (call.untouched_blockedByHook leaves _ _ _ _ _ _ _)
  apply of_ends trivial
  apply keeps_bind (call.endedOnce_settleBudget _ _)
  intro _
  apply (call.yields_side leaves _).leaves_bind
  apply (call.yields_side leaves _).leaves_bind
  exact (Yields.pure _).keeps

theorem decides_providerAnswered (tokens : UInt32) (response : LlmResponse) (arguments : String) :
    Decides reservation (call.AnswerPermitted arguments response)
      (call.providerAnswered (some reservation) tokens response arguments) := by
  unfold providerAnswered
  apply (call.yields_applyHook leaves ..).decides_bind
  apply call.decides_hook (call.untouched_blockedByHook leaves _ _ _ _ _ _ _)
  change Decides reservation _ (if isTimeoutSignal (call.streamedContent arguments response) then
    _ else _)
  have returned := call.decides_providerReturned leaves tokens response arguments
    (call.streamedContent arguments response)
  split
  · next signals =>
    apply Decides.congr (and_congr_left' (forall_prop_of_true signals))
    apply (call.yields_applyHook leaves ..).decides_bind
    exact call.decides_hook (call.untouched_blockedByHook leaves _ _ _ _ _ _ _) returned
  · next silent =>
    exact returned.congr (and_iff_right fun signals => absurd signals silent)

end Leaving

/-- The arguments of the provider path after its first two phases. -/
def promptArguments : String :=
  (call.hookOutcome .step .prompt
    (call.hookOutcome .before .prompt (call.form.json call.messages) none none).arguments
    none none).arguments

/-- The messages that the provider path would send. -/
def prompt : Messages := call.fitMessages (call.form.parse call.promptArguments call.messages)

/-- The messages pass the token budget, the provider fails, or no rule denies its
answer. -/
def SendPermitted (messages : Messages) (arguments : String) : Prop :=
  call.form.estimateTokens messages ≤ call.envelope.constraints.maxTokens →
    ∀ response, call.host.chat messages = .ok response → call.AnswerPermitted arguments response

/-- No rule denies the call on the provider path. -/
def ProviderClear : Prop :=
  call.Permitted .before ∧ call.Permitted .step ∧
    call.SendPermitted call.prompt call.promptArguments

def ToolClear : Prop :=
  call.activeWithThis ≤ call.kernel.maxParallelToolWindow call.maxParallelAgents

instance : Decidable call.ToolClear := inferInstanceAs (Decidable (_ ≤ _))

/-- The call takes a path that ends its reservation. -/
def Clear : Prop := if call.envelope.isProvider then call.ProviderClear else call.ToolClear

section Leaving

variable (leaves : call.host.Leaves reservation)
include leaves

theorem decides_sendMessages (messages : Messages) (arguments : String) :
    Decides reservation (call.SendPermitted messages arguments)
      (call.sendMessages (some reservation) messages arguments) := by
  unfold sendMessages
  change Decides reservation _
    (if call.envelope.constraints.maxTokens < call.form.estimateTokens messages then _ else _)
  split
  · next exceeds =>
    apply of_ends fun fits => absurd exceeds (UInt32.not_lt.mpr fits)
    apply keeps_bind (call.endedOnce_rollbackBudget _)
    intro _
    apply (call.yields_side leaves _).leaves_bind
    exact Effect.Keeps.fail Untouched.refl _
  · next fits =>
    apply (call.yields_side leaves _).decides_bind
    cases answered : call.host.chat messages with
    | error error =>
      apply of_ends
      · intro _ response isResponse
        rw [answered] at isResponse
        cases isResponse
      · exact call.endedOnce_providerFailed leaves messages arguments error
    | ok response =>
      apply (call.decides_providerAnswered leaves _ response arguments).congr
      constructor
      · exact fun permitted => permitted (UInt32.not_lt.mp fits) response answered
      · intro permitted _ other isOther
        rw [answered] at isOther
        cases isOther
        exact permitted

theorem decides_executeProvider :
    Decides reservation call.ProviderClear (call.executeProvider (some reservation)) := by
  unfold executeProvider
  apply (call.yields_applyHook leaves _ _ _ _ _).decides_bind
  apply call.decides_hook (call.untouched_blockedByHook leaves _ _ _ _ _ _ _)
  apply (call.yields_applyHook leaves _ _ _ _ _).decides_bind
  apply call.decides_hook (call.untouched_blockedByHook leaves _ _ _ _ _ _ _)
  apply (call.yields_noteCompaction leaves _).decides_bind
  exact call.decides_sendMessages leaves _ _

/-! ## The tool path -/

section
variable (channel : HookChannel)

variable (arguments : String)

theorem exists_runClassified (guard : RuntimeGuardReport) :
    ∃ ended, Yields reservation (call.runClassified channel arguments guard) ended := by
  unfold runClassified
  suffices later : ∃ ended, Yields reservation _ ended from
    later.imp fun _ yields => (call.yields_applyHook leaves _ _ _ _ _).bind yields
  split
  · exact ⟨_, Yields.pure _⟩
  · suffices later : ∃ ended, Yields reservation _ ended from
      later.imp fun _ yields => (call.yields_side leaves _).bind yields
    dsimp only
    split
    · exact ⟨_, Yields.pure _⟩
    · suffices later : ∃ ended, Yields reservation _ ended from
        later.imp fun _ yields => (call.yields_applyHook leaves _ _ _ _ _).bind yields
      split
      · exact ⟨_, (call.yields_applyHook leaves _ _ _ _ _).bind (Yields.pure _)⟩
      · exact ⟨_, Yields.pure _⟩

theorem exists_runTool (guard : RuntimeGuardReport) :
    ∃ ended, Yields reservation (call.runTool channel arguments guard) ended := by
  unfold runTool
  split
  · exact ⟨_, (call.yields_applyHook leaves _ _ _ _ _).bind (Yields.pure _)⟩
  · exact ⟨_, Yields.pure _⟩
  · split
    · suffices later : ∃ ended, Yields reservation _ ended from
        later.imp fun _ yields => (call.yields_side leaves _).bind yields
      split
      · exact ⟨_, Yields.pure _⟩
      · exact call.exists_runClassified leaves channel arguments guard
    · exact call.exists_runClassified leaves channel arguments guard

theorem exists_checkTimeout (arguments content : String) (guard : RuntimeGuardReport) :
    ∃ answered, Yields reservation (call.checkTimeout channel arguments content guard) answered := by
  unfold checkTimeout
  split
  · suffices later : ∃ answered, Yields reservation _ answered from
      later.imp fun _ yields => (call.yields_applyHook leaves _ _ _ _ _).bind yields
    split
    · exact ⟨_, (call.yields_applyHook leaves _ _ _ _ _).bind (Yields.pure _)⟩
    · exact ⟨_, Yields.pure _⟩
  · exact ⟨_, Yields.pure _⟩

theorem exists_checkReturn (answered : RuntimeGuardReport × String) :
    ∃ checked, Yields reservation (call.checkReturn channel arguments answered) checked := by
  unfold checkReturn
  suffices later : ∃ checked, Yields reservation _ checked from
    later.imp fun _ yields => (call.yields_applyHook leaves _ _ _ _ _).bind yields
  split
  · exact ⟨_, (call.yields_applyHook leaves _ _ _ _ _).bind (Yields.pure _)⟩
  · exact ⟨_, Yields.pure _⟩

theorem endedOnce_toolFailed (arguments error : String) :
    Effect.Keeps (EndedOnce reservation)
      (call.toolFailed (some reservation) channel arguments error) := by
  unfold toolFailed
  apply (call.yields_applyHook leaves _ _ _ _ _).ends_bind
  apply (call.yields_noteTimeout leaves _ _ _).ends_bind
  split
  · apply (call.yields_side leaves _).ends_bind
    apply (call.yields_side leaves _).ends_bind
    apply keeps_bind (call.endedOnce_rollbackBudget _)
    intro _
    exact ((call.yields_applyHook leaves _ _ _ _ _).bind (Yields.pure _)).keeps
  · apply keeps_bind (call.endedOnce_rollbackBudget _)
    intro _
    apply (call.yields_applyHook leaves _ _ _ _ _).leaves_bind
    exact Effect.Keeps.fail Untouched.refl _

theorem endedOnce_toolReturned (arguments content : String) (guard : RuntimeGuardReport) :
    Effect.Keeps (EndedOnce reservation)
      (call.toolReturned (some reservation) channel arguments content guard) := by
  unfold toolReturned
  obtain ⟨answered, timed⟩ := call.exists_checkTimeout leaves channel arguments content guard
  obtain ⟨checked, returned⟩ := call.exists_checkReturn leaves channel arguments answered
  apply timed.ends_bind
  apply returned.ends_bind
  apply keeps_bind (call.endedOnce_concludeBudget _)
  intro _
  apply (call.yields_side leaves _).leaves_bind
  apply (call.yields_side leaves _).leaves_bind
  exact (Yields.pure _).keeps

end

section
variable {guard : RuntimeGuardReport} (guarded : call.host.guardToolExecution = .ok guard)
include guarded

theorem endedOnce_guardAndRun (arguments : String) :
    Effect.Keeps (EndedOnce reservation) (call.guardAndRun (some reservation) arguments) := by
  unfold guardAndRun
  have reported : Yields reservation
      (Effect.ofExcept call.host.guardToolExecution : Effect ExecuteWorld RuntimeGuardReport)
      guard := by
    rw [guarded]
    exact Yields.pure guard
  apply (call.yields_applyHook leaves _ _ _ _ _).ends_bind
  apply (call.yields_side leaves _).ends_bind
  apply reported.ends_bind
  apply (call.yields_noteRejection leaves _).ends_bind
  obtain ⟨ended, ran⟩ := call.exists_runTool leaves (call.inferHookChannel arguments)
    (call.hookOutcome .before (call.inferHookChannel arguments) arguments none none).arguments
    (call.shadowGuard (call.demandGuard
      (call.hookOutcome .before (call.inferHookChannel arguments) arguments none none) guard))
  apply ran.ends_bind
  split
  · exact call.endedOnce_toolFailed leaves _ _ _
  · exact call.endedOnce_toolReturned leaves _ _ _ _

theorem decides_executeTool :
    Decides reservation call.ToolClear (call.executeTool (some reservation)) := by
  obtain ⟨arguments, extracted⟩ : ∃ arguments,
      extractToolArguments call.payload = .ok arguments := by
    cases call.payload <;> exact ⟨_, rfl⟩
  have read : Yields reservation
      (Effect.ofExcept (extractToolArguments call.payload) : Effect ExecuteWorld String)
      arguments := by
    rw [extracted]
    exact Yields.pure arguments
  unfold executeTool
  by_cases full : call.kernel.maxParallelToolWindow call.maxParallelAgents < call.activeWithThis
  · rw [tryEnterParallelToolWindow, if_pos full]
    apply of_leaves (UInt64.not_le.mpr full)
    apply (call.yields_side leaves _).leaves_bind
    exact (Yields.pure _).keeps
  · rw [tryEnterParallelToolWindow, if_neg full]
    apply of_ends (UInt64.not_lt.mp full)
    apply read.ends_bind
    exact call.endedOnce_guardAndRun leaves guarded arguments

theorem decides_perform :
    Decides reservation call.Clear (call.perform (some reservation)) := by
  unfold perform Clear
  split
  · exact call.decides_executeProvider leaves
  · exact call.decides_executeTool leaves guarded

end

/-! ## The precharge -/

/-- A precharge that succeeds makes the reservation live once more. -/
theorem charged {world later : ExecuteWorld}
    (ran : call.charge world = (.ok (.inr (some reservation)), later)) :
    later.held reservation = world.held reservation + 1 ∧
      later.endings reservation = world.endings reservation := by
  obtain ⟨waited, sided, untouched⟩ := (call.yields_side leaves .admission).exists_run world
  rw [charge, Effect.bind_of_ok sided] at ran
  obtain ⟨admitted, middle, isAdmitted, ran⟩ := Effect.bind_eq_ok.mp ran
  obtain ⟨-, rfl⟩ := Prod.mk.inj isAdmitted
  cases admitted with
  | some result => cases ran
  | none =>
    obtain ⟨answer, after, isCharged, ran⟩ := Effect.bind_eq_ok.mp ran
    cases answer with
    | precharged made =>
      obtain ⟨same, rfl⟩ := Prod.mk.inj ran
      cases same
      rw [← untouched.held, ← untouched.endings]
      exact call.held_of_precharged isCharged
    | settled cost => cases ran
    | rolledBack => cases ran
    | refused message => cases ran

end Leaving

end Execution

/-- The call has ended its reservation once, and it is live as often as before. -/
structure Released (reservation : BudgetReservation) (books : BudgetBooks)
    (world : ExecuteWorld) : Prop where
  ended : (world.endings reservation).length = 1
  held : world.held reservation = books.live.count reservation

open Execution

/-- A call whose precharge succeeds ends its reservation exactly once, while the store
does not fail, exactly when it takes a clear path: on the provider path no rule denies
a phase that the call comes to, and on the tool path there is room in the parallel
window. -/
theorem reservation_released_iff (call : Execution Messages) (reservation : BudgetReservation)
    (leaves : call.host.Leaves reservation) (books : BudgetBooks)
    (precharged : (call.charge (.start books)).1 = .ok (.inr (some reservation)))
    (guarded : call.host.guardToolExecution.toBool = true)
    (unrefused : (call.execute (.start books)).2.Unrefused) :
    Released reservation books (call.execute (.start books)).2 ↔ call.Clear := by
  obtain ⟨later, ran⟩ := Effect.exists_run precharged
  obtain ⟨held, endings⟩ := call.charged leaves ran
  obtain ⟨guard, isGuard⟩ : ∃ guard, call.host.guardToolExecution = .ok guard := by
    cases answered : call.host.guardToolExecution with
    | error error =>
      rw [answered] at guarded
      cases guarded
    | ok guard => exact ⟨guard, rfl⟩
  have executed : call.execute (.start books) = call.perform (some reservation) later := by
    rw [execute, Effect.bind_of_ok ran]
  have decides := call.decides_perform leaves isGuard
  rw [executed] at unrefused ⊢
  by_cases clear : call.Clear
  · have ended := decides.ends clear later
    refine iff_of_true ⟨?_, ?_⟩ clear
    · rw [ended.ended unrefused, endings]
      rfl
    · rw [ended.held unrefused, held]
      rfl
  · have untouched := decides.leaves clear later
    refine iff_of_false ?_ clear
    rintro ⟨ended, -⟩
    rw [untouched.endings, endings] at ended
    cases ended

section Example

/-- Prompts that are texts. -/
def plainPrompts : PromptForm String where
  json := id
  parse arguments _ := arguments
  estimateTokens _ := 1
  compact messages _ := messages
  lastUserText := some

/-- A host that lets everything pass and changes nothing. -/
def quietHost (activeTools : UInt64) : ExecuteHost String where
  during _ books := books
  admission := .ok none
  rulesAt _ := {}
  chat messages := .ok ⟨some messages, []⟩
  activeTools
  guardToolExecution := .ok ⟨.allow, 1, 90, "allowed", "ann:tool:shell", none⟩
  enforcesGate := true
  trustedHighRiskPreflight := .ok ()
  classifiedToolPath _ arguments guard := (.ok ⟨arguments, none⟩, guard)
  durationMs := 10

def shellCall (activeTools : UInt64) : Execution String where
  kernel := hourly
  store := unmirroredStore
  forms := RecordForms.all
  moments := still
  maxParallelAgents := 1
  form := plainPrompts
  actorId := "ann"
  envelope := shellTask
  messages := ""
  payload := .text "ls"
  manifestServer := none
  trustedHint := false
  highRiskHint := false
  allowShell := true
  host := quietHost activeTools

def freshBooks : BudgetBooks := ⟨Shared.started still, [], []⟩

instance (world : ExecuteWorld) : Decidable world.Unrefused :=
  decidable_of_iff
    (∀ entry ∈ world.made, (match entry.2 with | .refused _ => true | _ => false) = false) (by
      apply forall₂_congr
      intro entry _
      cases entry.2 <;> simp)

theorem shellCall_clear : (shellCall 0).Clear := by
  rw [Execution.Clear, if_neg (by decide +kernel)]
  decide +kernel

theorem shell_call_released :
    Released shellReservation freshBooks ((shellCall 0).execute (.start freshBooks)).2 :=
  (reservation_released_iff (shellCall 0) shellReservation (fun _ _ => rfl) freshBooks
    (by decide +kernel) rfl (by decide +kernel)).mpr shellCall_clear

/-- A second call of a session whose window is for one call. -/
theorem full_window_leaks :
    ¬∀ (Messages : Type) (call : Execution Messages) (reservation : BudgetReservation)
        (books : BudgetBooks), call.host.Leaves reservation →
      (call.charge (.start books)).1 = .ok (.inr (some reservation)) →
      call.host.guardToolExecution.toBool = true →
      (call.execute (.start books)).2.Unrefused →
      Released reservation books (call.execute (.start books)).2 := by
  intro released
  have ended := (released String (shellCall 1) shellReservation freshBooks (fun _ _ => rfl)
    (by decide +kernel) rfl (by decide +kernel)).ended
  revert ended
  decide +kernel

end Example

end AutoLoop.Runtime
