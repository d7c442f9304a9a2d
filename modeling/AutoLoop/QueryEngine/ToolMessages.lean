import AutoLoop.QueryEngine.QueryLoop

/-!
# Answers to tool calls

A run is compared with the log of what its backend did.  Every call that was executed
has its tool message, in call order.  A response without content announces no calls, so
that its tool messages follow the calls of an earlier response, or none.
-/

namespace AutoLoop.QueryEngine

open QueryLoopEngine
open QueryLoopEngine.LoopState (announce answer)
open Effect
open List hiding iterate
open LoopState

variable {World α β : Type}

/-! ## What is asked of the messages -/

def Preceded (before : List ChatMessage) (message : ChatMessage) : Prop :=
  ∃ earlier assistant tools, before = earlier ++ assistant :: tools ∧
    assistant.role = "assistant" ∧
    (∃ calls call, assistant.toolCalls = some calls ∧ call ∈ calls ∧
      message.toolCallId = some call.id) ∧
    ∀ tool ∈ tools, tool.role = "tool"

def AnsweredAfter (context messages : List ChatMessage) : Prop :=
  ∀ before message after, messages = before ++ message :: after → message.role = "tool" →
    Preceded (context ++ before) message

abbrev Answered (messages : List ChatMessage) : Prop := AnsweredAfter [] messages

section Messages

variable {context before messages rest : List ChatMessage} {message assistant : ChatMessage}

theorem answeredAfter_nil (context : List ChatMessage) : AnsweredAfter context [] := by
  intro before message after shape
  cases before with
  | nil => cases shape
  | cons first others => cases shape

theorem answeredAfter_cons :
    AnsweredAfter context (message :: rest) ↔
      (message.role = "tool" → Preceded context message) ∧
        AnsweredAfter (context ++ [message]) rest := by
  constructor
  · intro answered
    constructor
    · intro isTool
      have preceded := answered [] message rest rfl isTool
      rwa [append_nil] at preceded
    · intro before other after shape isTool
      rw [append_assoc]
      exact answered (message :: before) other after (by rw [shape]; rfl) isTool
  · rintro ⟨first, others⟩ before other after shape isTool
    cases before with
    | nil =>
      cases shape
      rw [append_nil]
      exact first isTool
    | cons head before =>
      obtain ⟨rfl, rfl⟩ := List.cons.inj shape
      have preceded := others before other after rfl isTool
      rwa [append_assoc] at preceded

theorem not_preceded_nil : ¬Preceded [] message := by
  rintro ⟨earlier, assistant, tools, shape, -⟩
  cases earlier with
  | nil => cases shape
  | cons first others => cases shape

theorem preceded_snoc_tool {tool : ChatMessage} (isTool : tool.role = "tool") :
    Preceded (before ++ [tool]) message ↔ Preceded before message := by
  constructor
  · rintro ⟨earlier, assistant, tools, shape, isAssistant, calls, areTools⟩
    rcases eq_nil_or_concat tools with rfl | ⟨others, last, rfl⟩
    · have same : tool = assistant := (append_inj' shape rfl).2 |> singleton_inj.mp
      rw [← same, isTool] at isAssistant
      exact absurd isAssistant (by decide)
    · rw [concat_eq_append, ← cons_append, ← append_assoc] at shape
      have sameBefore := (append_inj' shape rfl).1
      refine ⟨earlier, assistant, others, sameBefore, isAssistant, calls, ?_⟩
      intro other membership
      exact areTools other (by simp [membership])
  · rintro ⟨earlier, assistant, tools, rfl, isAssistant, calls, areTools⟩
    refine ⟨earlier, assistant, tools ++ [tool], by simp, isAssistant, calls, ?_⟩
    intro other membership
    rcases mem_append.mp membership with inTools | isLast
    · exact areTools other inTools
    · rw [mem_singleton.mp isLast]
      exact isTool

theorem preceded_snoc_assistant (isAssistant : assistant.role = "assistant") :
    Preceded (before ++ [assistant]) message ↔
      ∃ calls call, assistant.toolCalls = some calls ∧ call ∈ calls ∧
        message.toolCallId = some call.id := by
  constructor
  · rintro ⟨earlier, other, tools, shape, -, calls, areTools⟩
    rcases eq_nil_or_concat tools with rfl | ⟨others, last, rfl⟩
    · have same : assistant = other := (append_inj' shape rfl).2 |> singleton_inj.mp
      rw [same]
      exact calls
    · rw [concat_eq_append, ← cons_append, ← append_assoc] at shape
      have same : assistant = last := (append_inj' shape rfl).2 |> singleton_inj.mp
      have isTool := areTools last (by simp)
      rw [← same, isAssistant] at isTool
      exact absurd isTool (by decide)
  · intro calls
    exact ⟨before, assistant, [], rfl, isAssistant, calls, nofun⟩

end Messages

/-! ## Rounds -/

structure Round where
  response : LlmResponse
  results : List (ToolCall × String)

namespace Round

structure Complete (round : Round) : Prop where
  calls : round.response.toolCalls ≠ []
  executed : round.results.map Prod.fst = round.response.toolCalls

def messages (round : Round) : List ChatMessage :=
  announce round.response ++ round.results.map answer

end Round

def IdsAmong (calls announced : List ToolCall) : Prop :=
  ∀ call ∈ calls, ∃ other ∈ announced, other.id = call.id

def Announced : List ToolCall → List LlmResponse → Prop
  | _, [] => True
  | announced, response :: rest =>
    if response.content.isSome then Announced response.toolCalls rest
    else IdsAmong response.toolCalls announced ∧ Announced announced rest

section Rounds

variable {context : List ChatMessage} {announced : List ToolCall}

/-- Behind the context exactly the announced calls can be answered. -/
def Answerable (context : List ChatMessage) (announced : List ToolCall) : Prop :=
  ∀ message, message.role = "tool" →
    (Preceded context message ↔ ∃ call ∈ announced, message.toolCallId = some call.id)

theorem answerable_nil : Answerable [] [] := by
  intro message isTool
  constructor
  · intro preceded
    exact absurd preceded not_preceded_nil
  · rintro ⟨call, ⟨⟩, -⟩

theorem Answerable.snoc_tool (answerable : Answerable context announced) {tool : ChatMessage}
    (isTool : tool.role = "tool") : Answerable (context ++ [tool]) announced := by
  intro message messageIsTool
  rw [preceded_snoc_tool isTool]
  exact answerable message messageIsTool

theorem answerable_announce {response : LlmResponse} {content : String}
    (isContent : response.content = some content) (calls : response.toolCalls ≠ []) :
    Answerable (context ++ announce response) response.toolCalls := by
  intro message isTool
  rw [announce, isContent]
  apply (preceded_snoc_assistant rfl).trans
  simp [calls]

theorem answeredAfter_answers (answerable : Answerable context announced)
    (results : List (ToolCall × String)) (messages : List ChatMessage) :
    (AnsweredAfter context (results.map answer ++ messages) ↔
      IdsAmong (results.map Prod.fst) announced ∧
        AnsweredAfter (context ++ results.map answer) messages) ∧
    Answerable (context ++ results.map answer) announced := by
  induction results generalizing context with
  | nil => simp [IdsAmong, answerable]
  | cons result rest ih =>
    have isTool : (answer result).role = "tool" := rfl
    obtain ⟨others, stillAnswerable⟩ := ih (answerable.snoc_tool isTool)
    rw [append_assoc] at others stillAnswerable
    refine ⟨?_, stillAnswerable⟩
    rw [map_cons, cons_append, answeredAfter_cons, others, map_cons,
      IdsAmong, IdsAmong, forall_mem_cons, answerable (answer result) isTool, and_assoc]
    simp [answer, eq_comm]

theorem answeredAfter_rounds {rounds : List Round} (complete : ∀ round ∈ rounds, round.Complete)
    (answerable : Answerable context announced) :
    AnsweredAfter context (rounds.flatMap Round.messages) ↔
      Announced announced (rounds.map Round.response) := by
  induction rounds generalizing context announced with
  | nil => simp [Announced, answeredAfter_nil]
  | cons round rest ih =>
    obtain ⟨thisComplete, restComplete⟩ := forall_mem_cons.mp complete
    rw [flatMap_cons, map_cons, Announced, Round.messages, append_assoc]
    cases isContent : round.response.content with
    | some content =>
      have announces : announce round.response = [⟨"assistant", content, none,
          if round.response.toolCalls = [] then none else some round.response.toolCalls⟩] := by
        rw [announce, isContent]
      have announcedHere : Answerable (context ++ announce round.response)
          round.response.toolCalls :=
        answerable_announce isContent thisComplete.calls
      obtain ⟨answers, stillAnswerable⟩ := answeredAfter_answers announcedHere round.results
        (rest.flatMap Round.messages)
      have own : IdsAmong (round.results.map Prod.fst) round.response.toolCalls := by
        rw [thisComplete.executed]
        exact fun call membership => ⟨call, membership, rfl⟩
      rw [announces, singleton_append, answeredAfter_cons, ← announces, answers,
        ih restComplete stillAnswerable]
      simp [own]
    | none =>
      have silent : announce round.response = [] := by
        rw [announce, isContent]
      obtain ⟨answers, stillAnswerable⟩ := answeredAfter_answers answerable round.results
        (rest.flatMap Round.messages)
      rw [silent, nil_append, answers, ih restComplete stillAnswerable, thisComplete.executed]
      simp

end Rounds

/-! ## Recording a backend -/

/-- What a backend has done. -/
inductive BackendEvent where
  | responded (response : LlmResponse)
  | executed (result : ToolCall × String)

/-- A step with a log of the values it ended in. -/
def recording (step : Effect World α) (event : α → BackendEvent) :
    Effect (World × List BackendEvent) α := fun recorded =>
  match step recorded.1 with
  | (.ok value, world) => (.ok value, (world, recorded.2 ++ [event value]))
  | (.error message, world) => (.error message, (world, recorded.2))

/-- The backend with a log of its responses and of the calls it has executed. -/
def QueryLoopBackend.recorded (backend : QueryLoopBackend World) :
    QueryLoopBackend (World × List BackendEvent) where
  providerStep sessionId messages token :=
    recording (backend.providerStep sessionId messages token) .responded
  toolStep sessionId call token :=
    recording (backend.toolStep sessionId call token) fun output => .executed (call, output)

/-! ## The log of a run -/

/-- What a step that ends so leaves in the log. -/
def logged (event : α → BackendEvent) : Except String α → List BackendEvent
  | .ok value => [event value]
  | .error _ => []

def Round.events (round : Round) : List BackendEvent :=
  .responded round.response :: round.results.map .executed

section
variable (step : Effect World α) (event : α → BackendEvent)

theorem log_recording (world : World) (log : List BackendEvent) :
    (recording step event (world, log)).2.2 =
      log ++ logged event (recording step event (world, log)).1 := by
  rw [recording]
  split
  · rfl
  · exact (append_nil log).symm

theorem log_retrying (attempts retriesUsed : Nat) (world : World) (log : List BackendEvent) :
    (retrying (recording step event) attempts retriesUsed (world, log)).2.2 =
      log ++ logged (fun value => event value.1)
        (retrying (recording step event) attempts retriesUsed (world, log)).1 := by
  induction attempts generalizing retriesUsed world log with
  | zero =>
    have first := log_recording step event world log
    rw [retrying, bind_apply]
    generalize recording step event (world, log) = ran at first ⊢
    obtain ⟨answer, after, later⟩ := ran
    cases answer with
    | ok value => exact first
    | error message => exact first
  | succ attempts ih =>
    have first := log_recording step event world log
    rw [retrying, bind_apply, attempt_apply]
    generalize recording step event (world, log) = ran at first ⊢
    obtain ⟨answer, after, later⟩ := ran
    cases answer with
    | ok value => exact first
    | error message =>
      have same : later = log := first.trans (append_nil log)
      subst same
      exact ih _ after later

end

section Runs

variable (engine : QueryLoopEngine) (backend : QueryLoopBackend World)

/-- What the settled calls leave in the log. -/
def settledEvents (settled : List (ToolCall × Except String (String × Nat))) :
    List BackendEvent :=
  settled.flatMap fun entry => logged (fun output => .executed (entry.1, output.1)) entry.2

theorem log_settleAll (sessionId token : String) (calls : List ToolCall) (world : World)
    (log : List BackendEvent) :
    ∃ settled final, engine.settleAll backend.recorded sessionId token calls (world, log) =
        (.ok settled, (final, log ++ settledEvents settled)) ∧
      settled.map Prod.fst = calls := by
  induction calls generalizing world log with
  | nil => exact ⟨[], world, by rw [settledEvents, flatMap_nil, append_nil]; rfl, rfl⟩
  | cons call rest ih =>
    have first := log_retrying (backend.toolStep sessionId call token)
      (fun output => .executed (call, output)) engine.config.toolRetryLimit 0 world log
    have ranFirst : Effect.attempt (engine.toolWithRetry backend.recorded sessionId call token)
        (world, log) = (.ok (engine.toolWithRetry backend.recorded sessionId call token
          (world, log)).1, (engine.toolWithRetry backend.recorded sessionId call token
          (world, log)).2) := rfl
    rw [settleAll, bind_of_ok ranFirst]
    change (engine.toolWithRetry backend.recorded sessionId call token (world, log)).2.2 = _ ++
      logged _ (engine.toolWithRetry backend.recorded sessionId call token (world, log)).1
      at first
    generalize engine.toolWithRetry backend.recorded sessionId call token (world, log) = ran
      at first
    obtain ⟨answer, after, later⟩ := ran
    simp only at first
    obtain ⟨settled, final, ranRest, areCalls⟩ := ih after later
    rw [bind_of_ok ranRest]
    have wholeLog : log ++ settledEvents ((call, answer) :: settled) =
        later ++ settledEvents settled := by
      rw [first, append_assoc]
      rfl
    refine ⟨(call, answer) :: settled, final, ?_, by rw [map_cons, areCalls]⟩
    rw [wholeLog]
    rfl

theorem collect_ok {settled : List (ToolCall × Except String (String × Nat))}
    {dispatched collected : Dispatched} (isOk : collect dispatched settled = .ok collected) :
    ∃ results, collected.results = dispatched.results ++ results ∧
      results.map Prod.fst = settled.map Prod.fst ∧
      settledEvents settled = results.map .executed := by
  induction settled generalizing dispatched with
  | nil =>
    cases isOk
    exact ⟨[], (append_nil _).symm, rfl, rfl⟩
  | cons entry rest ih =>
    obtain ⟨call, answer⟩ := entry
    cases answer with
    | error message => cases isOk
    | ok output =>
      obtain ⟨results, collects, areCalls, events⟩ := ih isOk
      refine ⟨(call, output.1) :: results, ?_, ?_, ?_⟩
      · rw [collects]
        simp
      · rw [map_cons, map_cons, areCalls]
      · rw [settledEvents, flatMap_cons, ← settledEvents, events]
        rfl

/-- What the loop does, as its log tells it. -/
structure Logged (before after : List ChatMessage) (log final : List BackendEvent)
    (rounds : List Round) (last : List BackendEvent) : Prop where
  complete : ∀ round ∈ rounds, round.Complete
  log : final = log ++ rounds.flatMap Round.events ++ last
  ends : ∀ event ∈ last, ∃ response, event = .responded response ∧ response.toolCalls = []
  messages : after = before ++ rounds.flatMap Round.messages

theorem logged_iterate {sessionId token : String} {left iteration : Nat} {loop : LoopState}
    {world final : World} {log later : List BackendEvent} {output : QueryLoopOutput}
    (ran : engine.iterate backend.recorded sessionId token left iteration loop (world, log) =
      (.ok output, (final, later))) :
    ∃ rounds last, Logged loop.messages output.messages log later rounds last := by
  induction left generalizing iteration loop world log with
  | zero =>
    cases ran
    exact ⟨[], [], nofun, by simp, nofun, by simp [finish, moveTo]⟩
  | succ left ih =>
    rw [iterate, bind_eq_ok] at ran
    obtain ⟨⟨response, retries⟩, ⟨middle, middleLog⟩, responded, ran⟩ := ran
    have isLog := log_retrying (backend.providerStep sessionId
      (loop.moveTo .providerCall "invoke provider" iteration).messages token) .responded
      engine.config.providerRetryLimit 0 world log
    have isAnswer : retrying (recording (backend.providerStep sessionId
      (loop.moveTo .providerCall "invoke provider" iteration).messages token) .responded)
      engine.config.providerRetryLimit 0 (world, log) =
        (.ok (response, retries), (middle, middleLog)) := responded
    rw [isAnswer] at isLog
    simp only [logged] at isLog ran
    split at ran
    · next noCalls =>
      cases ran
      refine ⟨[], [.responded response], nofun, by simp [isLog], ?_, ?_⟩
      · intro event membership
        exact ⟨response, mem_singleton.mp membership, noCalls⟩
      · simp [finish, moveTo]
    · next calls =>
      rw [bind_eq_ok] at ran
      obtain ⟨dispatched, ⟨dispatchedWorld, dispatchedLog⟩, dispatches, ran⟩ := ran
      obtain ⟨settled, settledWorld, ranSettle, areCalls⟩ := log_settleAll engine backend
        sessionId token response.toolCalls middle middleLog
      rw [dispatchToolsConcurrently, bind_of_ok ranSettle, ofExcept_apply,
        Prod.mk.injEq, Prod.mk.injEq] at dispatches
      obtain ⟨collected, -, sameLog⟩ := dispatches
      obtain ⟨results, isResults, executed, events⟩ := collect_ok collected
      obtain ⟨rounds, last, holds⟩ := ih ran
      refine ⟨⟨response, results⟩ :: rounds, last, ?_, ?_, holds.ends, ?_⟩
      · exact forall_mem_cons.mpr ⟨⟨calls, executed.trans areCalls⟩, holds.complete⟩
      · rw [holds.log, ← sameLog, events, isLog, flatMap_cons, Round.events]
        simp
      · rw [holds.messages, flatMap_cons, Round.messages]
        simp only [nil_append] at isResults
        simp [afterDispatch, moveTo, isResults]

end Runs

/-! ## What holds of a run -/

def callingResponses (log : List BackendEvent) : List LlmResponse :=
  log.filterMap fun event =>
    match event with
    | .responded response => if response.toolCalls = [] then none else some response
    | .executed _ => none

def executedCalls (log : List BackendEvent) : List (ToolCall × String) :=
  log.filterMap fun event =>
    match event with
    | .responded _ => none
    | .executed result => some result

def toolMessages (messages : List ChatMessage) : List ChatMessage :=
  messages.filter (·.role = "tool")

section Rounds

variable {round : Round} {rounds : List Round}

theorem callingResponses_events (complete : ∀ round ∈ rounds, round.Complete) :
    callingResponses (rounds.flatMap Round.events) = rounds.map Round.response := by
  induction rounds with
  | nil => rfl
  | cons round rest ih =>
    obtain ⟨thisComplete, restComplete⟩ := forall_mem_cons.mp complete
    have own : callingResponses round.events = [round.response] := by
      simp [callingResponses, Round.events, thisComplete.calls]
    rw [flatMap_cons, callingResponses, filterMap_append, ← callingResponses,
      ← callingResponses, ih restComplete, own]
    rfl

theorem executedCalls_events :
    executedCalls (rounds.flatMap Round.events) = rounds.flatMap Round.results := by
  induction rounds with
  | nil => rfl
  | cons round rest ih =>
    have own : executedCalls round.events = round.results := by
      simp [executedCalls, Round.events, filterMap_map]
    rw [flatMap_cons, executedCalls, filterMap_append, ← executedCalls,
      ← executedCalls, ih, own, flatMap_cons]

theorem toolMessages_round (round : Round) :
    toolMessages round.messages = round.results.map answer := by
  have announced : toolMessages (announce round.response) = [] := by
    rw [announce]
    split
    · rfl
    · rfl
  have answers : toolMessages (round.results.map answer) = round.results.map answer := by
    rw [toolMessages, filter_eq_self]
    intro message membership
    obtain ⟨result, -, rfl⟩ := mem_map.mp membership
    rfl
  rw [Round.messages, toolMessages, filter_append, ← toolMessages, ← toolMessages,
    announced, answers, nil_append]

theorem toolMessages_rounds :
    toolMessages (rounds.flatMap Round.messages) =
      (rounds.flatMap Round.results).map answer := by
  induction rounds with
  | nil => rfl
  | cons round rest ih =>
    rw [flatMap_cons, toolMessages, filter_append, ← toolMessages, ← toolMessages,
      toolMessages_round, ih, flatMap_cons, map_append]

end Rounds

theorem callingResponses_last {last : List BackendEvent}
    (ends : ∀ event ∈ last, ∃ response, event = .responded response ∧ response.toolCalls = []) :
    callingResponses last = [] ∧ executedCalls last = [] := by
  rw [callingResponses, executedCalls, filterMap_eq_nil_iff, filterMap_eq_nil_iff]
  constructor
  · intro event membership
    obtain ⟨response, rfl, noCalls⟩ := ends event membership
    exact if_pos noCalls
  · intro event membership
    obtain ⟨response, rfl, -⟩ := ends event membership
    rfl

/-- In a run that succeeds, every call that was made is executed and has one tool
message, in call order; and every tool message that was appended follows its call
exactly when each response with tool calls has content or repeats calls of the latest
response with content. -/
theorem tool_messages_answered_iff (engine : QueryLoopEngine) (backend : QueryLoopBackend World)
    (input : QueryLoopInput) {world final : World} {output : QueryLoopOutput}
    {log : List BackendEvent}
    (ran : engine.run backend.recorded input (world, []) = (.ok output, (final, log))) :
    ∃ compiled appended, engine.compile input.messages = .ok compiled ∧
      output.messages = compiled.messages ++ appended ∧
      (executedCalls log).map Prod.fst = (callingResponses log).flatMap (·.toolCalls) ∧
      ((Answered appended ∧ toolMessages appended = (executedCalls log).map answer) ↔
        Announced [] (callingResponses log)) := by
  rw [run] at ran
  split at ran
  · cases ran
  · rw [bind_eq_ok] at ran
    obtain ⟨compiled, ⟨middle, middleLog⟩, compiles, ran⟩ := ran
    rw [ofExcept_apply, Prod.mk.injEq, Prod.mk.injEq] at compiles
    obtain ⟨compiles, rfl, rfl⟩ := compiles
    obtain ⟨rounds, last, holds⟩ := logged_iterate engine backend ran
    obtain ⟨noCalls, noExecuted⟩ := callingResponses_last holds.ends
    have isCalling : callingResponses log = rounds.map Round.response := by
      rw [holds.log, nil_append, callingResponses, filterMap_append,
        ← callingResponses, ← callingResponses, noCalls, callingResponses_events holds.complete,
        append_nil]
    have isExecuted : executedCalls log = rounds.flatMap Round.results := by
      rw [holds.log, nil_append, executedCalls, filterMap_append, ← executedCalls,
        ← executedCalls, noExecuted, executedCalls_events, append_nil]
    refine ⟨compiled, rounds.flatMap Round.messages, compiles, holds.messages, ?_, ?_⟩
    · rw [isCalling, isExecuted, map_flatMap, flatMap_map]
      apply flatMap_congr
      intro round membership
      exact (holds.complete round membership).executed
    · rw [isCalling, isExecuted, Answered, answeredAfter_rounds holds.complete answerable_nil]
      exact ⟨And.left, fun announced => ⟨announced, toolMessages_rounds⟩⟩

/-- A backend whose provider answers from a list and whose tools echo their arguments. -/
def scripted : QueryLoopBackend (List LlmResponse) where
  providerStep _ _ _ := fun responses =>
    match responses with
    | [] => (.error "no response", [])
    | response :: rest => (.ok response, rest)
  toolStep _ call _ := pure call.arguments

/-- An engine with the default configuration that leaves the messages as they are. -/
def plainEngine : QueryLoopEngine where
  config := ⟨8, 1, 1⟩
  compile messages := .ok ⟨messages, false, ""⟩

def toolCallResponse (content : Option String) : LlmResponse :=
  ⟨content, [⟨"call-1", "read", "a.txt"⟩]⟩

def finalResponse : LlmResponse := ⟨some "done", []⟩

theorem tool_messages_answered_once :
    ∃ output final log, plainEngine.run scripted.recorded ⟨"s", []⟩
        ([toolCallResponse (some "reading"), finalResponse], []) = (.ok output, (final, log)) ∧
      ∃ compiled appended, plainEngine.compile [] = .ok compiled ∧
        output.messages = compiled.messages ++ appended ∧
        (executedCalls log).map Prod.fst = (callingResponses log).flatMap (·.toolCalls) ∧
        ((Answered appended ∧ toolMessages appended = (executedCalls log).map answer) ↔
          Announced [] (callingResponses log)) :=
  ⟨_, _, _, rfl, @tool_messages_answered_iff _ plainEngine scripted ⟨"s", []⟩
    ([toolCallResponse (some "reading"), finalResponse]) _ _ _ rfl⟩

theorem silent_response_unanswered :
    ¬∀ (World : Type) (engine : QueryLoopEngine) (backend : QueryLoopBackend World)
        (input : QueryLoopInput) (world final : World) (output : QueryLoopOutput)
        (log : List BackendEvent),
      ((callingResponses log).flatMap (·.toolCalls)).map (·.id) |>.Nodup →
      engine.run backend.recorded input (world, []) = (.ok output, (final, log)) →
      ∃ compiled appended, engine.compile input.messages = .ok compiled ∧
        output.messages = compiled.messages ++ appended ∧ Answered appended ∧
        toolMessages appended = (executedCalls log).map answer := by
  intro always
  obtain ⟨compiled, appended, compiles, isAppended, answered, -⟩ := always _ plainEngine scripted
    ⟨"s", []⟩ [toolCallResponse none, finalResponse] _ _ _ (by decide) rfl
  cases compiles
  have isAnswer : appended = [answer (⟨"call-1", "read", "a.txt"⟩, "a.txt")] := by
    rw [nil_append] at isAppended
    exact isAppended.symm
  subst isAnswer
  exact not_preceded_nil (answered [] _ [] rfl rfl)

end AutoLoop.QueryEngine
