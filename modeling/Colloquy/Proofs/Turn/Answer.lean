import Colloquy.Proofs.Chain.Ending

/-!
# Answers to tool calls

What an exchange or a tool call gives is told here without outcomes: a message or a
text, or an error of the library as data.  `Registry.answers` answers the calls of a
message one after the other, and `Chain.settles_answers` shows that this is what the
frames of a round do in a run.
-/

namespace Colloquy

/-! ## Errors as data -/

/-- The errors of the library as data.  What else is raised stays raised. -/
def ownAsData {α : Type} : Except Exception α → Except Exception (Except Error α)
  | .ok x => .ok (.ok x)
  | .error (.own e) => .ok (.error e)
  | .error e => .error e

/-- The outcome that a result is. -/
def Outcome.ofResult : Except Error Item → Outcome
  | .ok item => .success item
  | .error e => .failure (.own e)

theorem Outcome.settle_map {α : Type} (f : α → Item) (r : Except Exception α) :
    Outcome.settle (r.map f) = (ownAsData r).map fun x => Outcome.ofResult (x.map f) := by
  cases r with
  | ok x => rfl
  | error e => cases e <;> rfl

/-! ## Exchanges -/

/-- The next message that a backend writes for a chat.  A request that cannot be built leaves no
event, any other one event. -/
def Generator.next (g : Generator) (chat : Chat) : Course (Except Error AssistantMessage) :=
  fun events =>
    match g.backend.buildRequest g.model chat with
    | .error e => (ownAsData (.error e), events)
    | .ok request => (ownAsData (g.reply events request), events ++ [.requested request])

/-- An exchange gives the chat with the next message. -/
theorem Generator.ask_eq (g : Generator) (chat : Chat) :
    g.ask chat = (do
      return .ofResult ((← g.next chat).map fun turn =>
        .chat (chat.addMessage (.assistant turn)))) := by
  funext events
  rw [g.ask_apply, bind_apply, Generator.next]
  cases g.backend.buildRequest g.model chat with
  | error e => cases e <;> rfl
  | ok request =>
    dsimp only
    rw [Outcome.settle_map]
    cases ownAsData (g.reply events request) <;> rfl

/-! ## Tool calls -/

/-- What a call gives as text: what the handler returned for the arguments, written down, or the
error of the call. -/
def Registry.written (r : Registry) (call : ToolCall) : Course (Except Error Text) := fun events =>
  match r.get? call.name with
  | none => (.ok (.error (r.unknown call)), events ++ [.invoked call])
  | some tool =>
    match tool.arguments call with
    | .error e => (.ok (.error e), events ++ [.invoked call])
    | .ok arguments =>
      let events := events ++ [.invoked call, .handled arguments]
      match tool.handler events arguments with
      | .ok output => (.ok (tool.written output), events)
      | .error e =>
        (if e.isOrdinary then .ok (.error (Registry.failed call e)) else .error e, events)

/-- The result of a call with a text. -/
def ToolCall.resultWith (call : ToolCall) (text : Text) : ToolResult :=
  { callId := call.id, content := text, toolName := .text call.name }

theorem ownAsData_output (tool : Tool) (call : ToolCall) (events : List Event)
    (arguments : ModelInstance) :
    ownAsData (tool.output call events arguments) = match tool.handler events arguments with
      | .ok output => .ok ((tool.written output).map call.resultWith)
      | .error e => if e.isOrdinary then .ok (.error (Registry.failed call e)) else .error e := by
  rw [Tool.output, Registry.ofHandler]
  cases tool.handler events arguments with
  | ok output =>
    show ownAsData (do
      let content ← (tool.written output).mapError Exception.own
      return call.resultWith content) = .ok ((tool.written output).map call.resultWith)
    cases tool.written output <;> rfl
  | error e =>
    cases e with
    | own e => rfl
    | foreign cls text =>
      show ownAsData (.error (if Exception.isOrdinary (.foreign cls text) then
        .own (Registry.failed call (.foreign cls text)) else .foreign cls text)) = _
      dsimp only
      split <;> rfl

/-- A tool call gives the result with what was written. -/
theorem Executor.carryOut_eq (x : Executor) (call : ToolCall) :
    x.carryOut call = (do
      return .ofResult ((← x.registry.written call).map fun text =>
        .toolResult (call.resultWith text))) := by
  funext events
  rw [x.carryOut_apply, bind_apply, Registry.written]
  cases x.registry.get? call.name with
  | none => rfl
  | some tool =>
    dsimp only
    cases tool.arguments call with
    | error e => rfl
    | ok arguments =>
      dsimp only
      rw [Outcome.settle_map, ownAsData_output]
      cases tool.handler (events ++ [.invoked call, .handled arguments]) arguments with
      | ok output =>
        dsimp only
        cases tool.written output <;> rfl
      | error e =>
        dsimp only
        split <;> rfl

/-! ## Answers -/

/-- The text that answers a tool call. -/
structure Answer where
  call : ToolCall
  text : Text

/-- The message with an answer. -/
def Answer.message (answer : Answer) : Message :=
  .tool answer.call.id (some (.text answer.text)) [] answer.call.identified

/-- A chat with answers at the end. -/
def Chat.answered (chat : Chat) (answers : List Answer) : Chat :=
  { chat with history := chat.history ++ answers.map Answer.message }

@[simp] theorem Chat.answered_nil (chat : Chat) : chat.answered [] = chat := by
  rw [Chat.answered, List.map_nil, List.append_nil]

theorem Chat.answered_cons (chat : Chat) (answer : Answer) (answers : List Answer) :
    chat.answered (answer :: answers) = (chat.addMessage answer.message).answered answers := by
  simp only [Chat.answered, Chat.addMessage, List.map_cons, List.append_assoc,
    List.singleton_append]

/-- What the model is told of a failed call. -/
def Error.told (e : Error) : Text :=
  Text.concat ["Error: ", e.message]

/-- The answer to a call: what it gives, or what the model is told of its failure. -/
def Registry.answer (r : Registry) (policy : ToolErrorPolicy) (call : ToolCall) :
    Course (Except Error Answer) := do
  match ← r.written call with
  | .ok text => return .ok ⟨call, text⟩
  | .error e =>
    match policy with
    | .continue => return .ok ⟨call, e.told⟩
    | .raise => return .error e

/-- The answers to calls, one after the other, up to the first error that is not told. -/
def Registry.answers (r : Registry) (policy : ToolErrorPolicy) :
    List ToolCall → Course (Except Error (List Answer))
  | [] => return .ok []
  | call :: calls => do
    match ← r.answer policy call with
    | .error e => return .error e
    | .ok answer => return (← r.answers policy calls).map (answer :: ·)

section

variable {r : Registry} {policy : ToolErrorPolicy} {call : ToolCall} {calls : List ToolCall}
  {events events' : List Event}

/-- What can come of a call to be answered: what its text or its error comes to. -/
theorem Registry.answer_cases {result : Except Exception (Except Error Answer)}
    (h : r.answer policy call events = (result, events')) :
    (∃ e, r.written call events = (.error e, events') ∧ result = .error e) ∨
    (∃ e, r.written call events = (.ok (.error e), events') ∧
      (policy = .raise ∧ result = .ok (.error e) ∨
        policy = .continue ∧ result = .ok (.ok ⟨call, e.told⟩))) ∨
    (∃ text, r.written call events = (.ok (.ok text), events') ∧
      result = .ok (.ok ⟨call, text⟩)) := by
  rw [Registry.answer, bind_apply] at h
  cases hwritten : r.written call events with
  | mk written reached =>
    rw [hwritten] at h
    rcases written with e | (e | text)
    · cases h
      exact .inl ⟨e, rfl, rfl⟩
    · refine .inr (.inl ⟨e, ?_⟩)
      cases policy with
      | raise =>
        cases h
        exact ⟨rfl, .inl ⟨rfl, rfl⟩⟩
      | «continue» =>
        cases h
        exact ⟨rfl, .inr ⟨rfl, rfl⟩⟩
    · cases h
      exact .inr (.inr ⟨text, rfl, rfl⟩)

/-- What can come of calls to be answered: what comes of the first one, unless it has an answer, and
otherwise what comes of the others. -/
theorem Registry.answers_cons_cases {result : Except Exception (Except Error (List Answer))}
    (h : r.answers policy (call :: calls) events = (result, events')) :
    (∃ e, r.answer policy call events = (.error e, events') ∧ result = .error e) ∨
    (∃ e, r.answer policy call events = (.ok (.error e), events') ∧ result = .ok (.error e)) ∨
    (∃ answer reached others, r.answer policy call events = (.ok (.ok answer), reached) ∧
      r.answers policy calls reached = (others, events') ∧
      result = others.map (Except.map (answer :: ·))) := by
  rw [Registry.answers, bind_apply] at h
  cases hanswer : r.answer policy call events with
  | mk answer reached =>
    rw [hanswer] at h
    rcases answer with e | (e | answer)
    · cases h
      exact .inl ⟨e, rfl, rfl⟩
    · cases h
      exact .inr (.inl ⟨e, rfl, rfl⟩)
    · dsimp only at h
      rw [bind_apply] at h
      cases hothers : r.answers policy calls reached with
      | mk others reached' =>
        rw [hothers] at h
        refine .inr (.inr ⟨answer, reached, others, rfl, ?_⟩)
        cases others with
        | error e =>
          cases h
          exact ⟨hothers, rfl⟩
        | ok others =>
          cases h
          exact ⟨hothers, rfl⟩

end

theorem ToolCall.resultWith_toMessage? (call : ToolCall) (text : Text) :
    (call.resultWith text).toMessage? = .ok (Answer.message ⟨call, text⟩) := by
  show (if h : call.id ≠ [] then _ else _) = _
  rw [dif_pos call.identified]
  rfl

/-- A round records the answer to a call, or passes its failure on. -/
theorem Executor.carryOut_recordAnswer (x : Executor) (policy : ToolErrorPolicy) (chat : Chat)
    (call : ToolCall) :
    (do Course.ofExcept (recordAnswer chat call policy (← x.carryOut call))) = (do
      return .ofResult ((← x.registry.answer policy call).map fun answer =>
        .chat (chat.addMessage answer.message))) := by
  rw [x.carryOut_eq, Registry.answer]
  simp only [bind_assoc, pure_bind]
  refine congrArg (x.registry.written call >>= ·) (funext fun written => ?_)
  cases written with
  | ok text =>
    have hrecord : recordAnswer chat call policy (.success (.toolResult (call.resultWith text)))
        = (do
          return Outcome.success (.chat (chat.addMessage
            (← (call.resultWith text).toMessage?)))) := by
      cases policy <;> rfl
    rw [call.resultWith_toMessage?] at hrecord
    exact congrArg Course.ofExcept hrecord
  | error e => cases policy <;> rfl

/-! ## Frames in a run -/

/-- A program followed by frames. -/
def Program.onward (p : Program) (frames : List Frame) : Course Program :=
  frames.foldlM (fun p frame => p.continued frame frame.follow) p

theorem Program.onward_cons (p : Program) (frame : Frame) (frames : List Frame) :
    p.onward (frame :: frames) = (do (← p.continued frame frame.follow).onward frames) := rfl

/-- The continuation of a new operation gives the result of the operation. -/
theorem Cont.follow_callback_pure (result : Outcome) :
    (Cont.plain [] (.callback .pure)).follow result = pure (.final result) := rfl

/-- A continuation followed by frames goes on to a program that the frames follow. -/
theorem Cont.follow_through (frames : List Frame) (k : Cont) (result : Outcome) :
    (k.through frames).follow result = (do (← k.follow result).onward frames) := by
  induction frames generalizing k with
  | nil =>
    show k.follow result = k.follow result >>= pure
    rw [bind_pure]
  | cons frame frames ih =>
    show ((Cont.plain [] (.extended k frame)).through frames).follow result = _
    rw [ih, Cont.plain, Cont.follow, Body.follow, bind_assoc]
    rfl

/-- Frames put themselves behind a tool call. -/
theorem Program.onward_execute (frames : List Frame) (call : ToolCall) (k : Cont) :
    (Program.pending (.execute call k)).onward frames
      = pure (.pending (.execute call (k.through frames))) := by
  induction frames generalizing k with
  | nil => rfl
  | cons frame frames ih => exact ih _

/-- Answering a call and then going on with frames runs the call. -/
theorem Program.onward_answer (chat : Chat) (call : ToolCall) (policy : ToolErrorPolicy)
    (frames : List Frame) :
    (Program.final (.success (.chat chat))).onward (.answer call policy :: frames)
      = pure (.running call (.record chat call policy :: frames)) :=
  Program.onward_execute frames call _

/-- A round begins with a chat whose calls are answered, before the model is asked again. -/
theorem ToolLoop.running_frames (loop : ToolLoop) (chat : Chat) (call : ToolCall)
    (others : List ToolCall) (k : Cont) (count : Nat) :
    pure (.running call (loop.frames chat call others k count))
      = (Program.final (.success (.chat chat))).onward
        ((call :: others).map (.answer · loop.policy) ++ [.regenerate loop k count]) :=
  (Program.onward_answer chat call loop.policy _).symm

/-- Frames that answer calls pass a failure on. -/
theorem Program.onward_failure (calls : List ToolCall) (policy : ToolErrorPolicy)
    (rest : List Frame) (e : Exception) :
    (Program.final (.failure e)).onward (calls.map (.answer · policy) ++ rest)
      = (Program.final (.failure e)).onward rest := by
  induction calls with
  | nil => rfl
  | cons call calls ih => exact ih

/-- A tool call whose answer is recorded: frames go on with the chat that has the answer at its
end, or with the failure. -/
theorem Executor.carryOut_through (x : Executor) (chat : Chat) (call : ToolCall)
    (policy : ToolErrorPolicy) (frames : List Frame) :
    (do
      ((Cont.plain [] (.callback .pure)).through (.record chat call policy :: frames)).follow
        (← x.carryOut call)) = (do
      let answer ← x.registry.answer policy call
      (Program.final (.ofResult (answer.map fun answer =>
        .chat (chat.addMessage answer.message)))).onward frames) := by
  have hrecord : ∀ outcome : Outcome,
      ((Cont.plain [] (.callback .pure)).through (.record chat call policy :: frames)).follow
        outcome = (do
          (Program.final (← Course.ofExcept (recordAnswer chat call policy outcome))).onward
            frames) := by
    intro outcome
    rw [Cont.follow_through, Cont.follow_callback_pure, pure_bind, Program.onward_cons,
      Program.continued, Frame.follow, bind_assoc]
    simp only [pure_bind]
  simp only [hrecord]
  rw [← bind_assoc, x.carryOut_recordAnswer, bind_assoc]
  simp only [pure_bind]

namespace Chain

variable {chain : Chain} {x : Executor} {events events' : List Event}
  {result : Except Exception Outcome}

/-- Calls are answered one after the other.  With all answers the frames behind them go on with the
chat that has the answers at its end, and otherwise with the first error. -/
theorem settles_onward (hx : chain.executor? = some x) (policy : ToolErrorPolicy)
    (rest : List Frame) (calls : List ToolCall) (chat : Chat) :
    chain.Settles ((Program.final (.success (.chat chat))).onward
        (calls.map (.answer · policy) ++ rest)) events result events' ↔
      chain.Settles (do
        match ← x.registry.answers policy calls with
        | .ok answers => (Program.final (.success (.chat (chat.answered answers)))).onward rest
        | .error e => (Program.final (.failure (.own e))).onward rest) events result events' := by
  induction calls generalizing chat events with
  | nil =>
    rw [Registry.answers, pure_bind]
    simp only [Chat.answered_nil]
    rfl
  | cons call calls ih =>
    let others : List Frame := calls.map (.answer · policy) ++ rest
    rw [List.map_cons, List.cons_append, Program.onward_answer, settles_pure, Program.running,
      ends_execute hx]
    show chain.Settles (do
      ((Cont.plain [] (.callback .pure)).through (.record chat call policy :: others)).follow
        (← x.carryOut call)) _ _ _ ↔ _
    rw [x.carryOut_through, Registry.answers, bind_assoc]
    refine settles_bind_congr fun answer reached => ?_
    cases answer with
    | error e =>
      show chain.Settles ((Program.final (.failure (.own e))).onward others) _ _ _ ↔ _
      rw [Program.onward_failure]
      rfl
    | ok answer =>
      show chain.Settles ((Program.final (.success (.chat _))).onward others) _ _ _ ↔ _
      rw [ih]
      simp only [bind_assoc, pure_bind]
      refine settles_bind_congr fun answers reached => ?_
      cases answers with
      | error e => rfl
      | ok answers =>
        simp only [Except.map, Chat.answered_cons]

/-- The calls of a round are answered one after the other.  With all answers the model is asked
again; an error goes to the continuation that was there. -/
theorem settles_answers (hx : chain.executor? = some x) (loop : ToolLoop) (k : Cont) (count : Nat)
    (calls : List ToolCall) (chat : Chat) :
    chain.Settles ((Program.final (.success (.chat chat))).onward
        (calls.map (.answer · loop.policy) ++ [.regenerate loop k count])) events result events' ↔
      chain.Settles (do
        match ← x.registry.answers loop.policy calls with
        | .ok answers =>
          return .pending (.generate (chat.answered answers)
            (.plain [loop.owner] (.rounds loop k count)))
        | .error e => k.follow (.failure (.own e))) events result events' := by
  rw [settles_onward hx]
  refine settles_bind_congr fun answers reached => ?_
  cases answers with
  | ok answers => rfl
  | error e =>
    show chain.Settles (k.follow (.failure (.own e)) >>= pure) _ _ _ ↔ _
    rw [bind_pure]

end Chain

end Colloquy
