import Colloquy.Proofs.Turn.Course

/-!
# Rounds of a turn

A round is a message with calls and an answer to each of them.  `Rounds` is a
declarative trace of the rounds of a turn: which message the backend wrote for which
chat, and what each tool gave.  `LastStep` says how a turn ends after its rounds, and
`Aborts` how an exception comes out of it.

`SoloChain.turn_eq_iff` ties the trace to `SoloChain.turn`.  What a trace does to the
account of events, the requests and the invocations in it, is read off the trace.
-/

namespace Colloquy

/-! ## Answers, call by call -/

/-- Calls were answered one after the other: each with what it gave, or, when failures are told to
the model, with what is told of its failure. -/
inductive Registry.Answers (r : Registry) (policy : ToolErrorPolicy) :
    List Event → List Answer → List Event → Prop
  | nil (events : List Event) : Answers r policy events [] events
  | output {call : ToolCall} {text : Text} {answers : List Answer}
      {events reached events' : List Event}
      (h : r.written call events = (.ok (.ok text), reached))
      (hrest : Answers r policy reached answers events') :
      Answers r policy events (⟨call, text⟩ :: answers) events'
  | failure {call : ToolCall} {e : Error} {answers : List Answer}
      {events reached events' : List Event} (htold : policy = .continue)
      (h : r.written call events = (.ok (.error e), reached))
      (hrest : Answers r policy reached answers events') :
      Answers r policy events (⟨call, e.told⟩ :: answers) events'

section

variable {r : Registry} {policy : ToolErrorPolicy} {events events' reached : List Event}

/-- A call is answered with what it gave, or with what is told of its failure. -/
theorem Registry.answer_eq_ok_iff {call : ToolCall} {answer : Answer} :
    r.answer policy call events = (.ok (.ok answer), events') ↔
      answer.call = call ∧
      (r.written call events = (.ok (.ok answer.text), events') ∨
        policy = .continue ∧
        ∃ e, r.written call events = (.ok (.error e), events') ∧ answer.text = e.told) := by
  constructor
  · intro h
    rcases Registry.answer_cases h with ⟨e, -, hresult⟩ |
      ⟨e, hwritten, ⟨-, hresult⟩ | ⟨hpolicy, hresult⟩⟩ | ⟨text, hwritten, hresult⟩
    · cases hresult
    · cases hresult
    · cases hresult
      exact ⟨rfl, .inr ⟨hpolicy, e, hwritten, rfl⟩⟩
    · cases hresult
      exact ⟨rfl, .inl hwritten⟩
  · obtain ⟨answered, text⟩ := answer
    rintro ⟨rfl, hwritten | ⟨rfl, e, hwritten, htext⟩⟩
    · rw [Registry.answer, bind_ok hwritten]
      rfl
    · cases htext
      rw [Registry.answer, bind_ok hwritten]
      rfl

/-- Answers to a first call and to others. -/
theorem Registry.answers_cons_eq_ok_iff {call : ToolCall} {calls : List ToolCall}
    {answers : List Answer} :
    r.answers policy (call :: calls) events = (.ok (.ok answers), events') ↔
      ∃ answer others reached, answers = answer :: others ∧
        r.answer policy call events = (.ok (.ok answer), reached) ∧
        r.answers policy calls reached = (.ok (.ok others), events') := by
  constructor
  · intro h
    rcases Registry.answers_cons_cases h with ⟨e, -, hresult⟩ | ⟨e, -, hresult⟩ |
      ⟨answer, reached, others, hanswer, hothers, hresult⟩
    · cases hresult
    · cases hresult
    · rcases others with e | (e | others)
      · cases hresult
      · cases hresult
      · cases hresult
        exact ⟨answer, others, reached, rfl, hanswer, hothers⟩
  · rintro ⟨answer, others, reached, rfl, hanswer, hothers⟩
    rw [Registry.answers, bind_ok hanswer]
    dsimp only
    rw [bind_ok hothers]
    rfl

/-- The calls that are answered are answered one by one, in order. -/
theorem Registry.answers_eq_ok_iff {calls : List ToolCall} {answers : List Answer} :
    r.answers policy calls events = (.ok (.ok answers), events') ↔
      answers.map Answer.call = calls ∧ r.Answers policy events answers events' := by
  induction calls generalizing answers events with
  | nil =>
    constructor
    · intro h
      cases h
      exact ⟨rfl, .nil _⟩
    · rintro ⟨hcalls, h⟩
      rw [List.map_eq_nil_iff] at hcalls
      subst hcalls
      cases h
      rfl
  | cons call calls ih =>
    rw [Registry.answers_cons_eq_ok_iff]
    constructor
    · rintro ⟨answer, others, reached, rfl, hfirst, hothers⟩
      obtain ⟨hcalls, hanswers⟩ := ih.1 hothers
      obtain ⟨hcall, h⟩ := Registry.answer_eq_ok_iff.1 hfirst
      obtain ⟨answered, text⟩ := answer
      subst hcall
      refine ⟨by rw [List.map_cons, hcalls], ?_⟩
      rcases h with houtput | ⟨htold, e, hfailed, rfl⟩
      · exact .output houtput hanswers
      · exact .failure htold hfailed hanswers
    · rintro ⟨hcalls, h⟩
      cases h with
      | nil => cases hcalls
      | output h hrest =>
        rw [List.map_cons, List.cons.injEq] at hcalls
        obtain ⟨rfl, hcalls⟩ := hcalls
        exact ⟨_, _, _, rfl, Registry.answer_eq_ok_iff.2 ⟨rfl, .inl h⟩, ih.2 ⟨hcalls, hrest⟩⟩
      | failure htold h hrest =>
        rw [List.map_cons, List.cons.injEq] at hcalls
        obtain ⟨rfl, hcalls⟩ := hcalls
        exact ⟨_, _, _, rfl, Registry.answer_eq_ok_iff.2 ⟨rfl, .inr ⟨htold, _, h, rfl⟩⟩,
          ih.2 ⟨hcalls, hrest⟩⟩

end

/-! ## Rounds -/

/-- A message with calls, and an answer to each of them in order. -/
structure Round where
  message : AssistantMessage
  answers : List Answer
  called : message.calls ≠ []
  complete : answers.map Answer.call = message.calls

/-- The messages of a round: the one with calls, then one for each answer. -/
def Round.messages (round : Round) : List Message :=
  .assistant round.message :: round.answers.map Answer.message

/-- A chat after rounds. -/
def Chat.after (chat : Chat) (rounds : List Round) : Chat :=
  { chat with history := chat.history ++ rounds.flatMap Round.messages }

@[simp] theorem Chat.after_nil (chat : Chat) : chat.after [] = chat := by
  rw [Chat.after, List.flatMap_nil, List.append_nil]

theorem Chat.after_cons (chat : Chat) (round : Round) (rounds : List Round) :
    chat.after (round :: rounds)
      = ((chat.addMessage (.assistant round.message)).answered round.answers).after rounds := by
  simp only [Chat.after, Chat.answered, Chat.addMessage, Round.messages, List.flatMap_cons,
    List.append_assoc, List.cons_append, List.nil_append]

/-- The rounds of a turn, one after the other: the backend wrote the message of each for the chat
after those before it, no call in it is watched for, and the tools gave the answers. -/
inductive Rounds (g : Generator) (r : Registry) (policy : ToolErrorPolicy) (names : List Text) :
    Chat → List Event → List Round → List Event → Prop
  | nil (chat : Chat) (events : List Event) : Rounds g r policy names chat events [] events
  | cons {chat : Chat} {round : Round} {rounds : List Round}
      {events written answered events' : List Event}
      (hmessage : g.next chat events = (.ok (.ok round.message), written))
      (hnames : callsAny names round.message.calls = false)
      (hanswers : r.Answers policy written round.answers answered)
      (hrest : Rounds g r policy names
        ((chat.addMessage (.assistant round.message)).answered round.answers) answered rounds
        events') :
      Rounds g r policy names chat events (round :: rounds) events'

namespace SoloChain

variable (s : SoloChain)

/-- The rounds of a turn in which all generations are watched alike. -/
abbrev Rounds : Chat → List Event → List Round → List Event → Prop :=
  Colloquy.Rounds s.generator s.runner.registry s.executor.policy s.watchedLater

/-- How a turn ends after its rounds, with a number of rounds left. -/
inductive LastStep (left : Nat) (chat : Chat) (events : List Event) :
    TurnEnd → List Event → Prop
  | unanswered {e : Error} {events' : List Event}
      (h : s.generator.next chat events = (.ok (.error e), events')) :
      LastStep left chat events (.failed e) events'
  | stopped {message : AssistantMessage} {events' : List Event}
      (h : s.generator.next chat events = (.ok (.ok message), events'))
      (hnames : callsAny s.watchedLater message.calls = true) :
      LastStep left chat events (.stopped (chat.addMessage (.assistant message))) events'
  | replied {message : AssistantMessage} {events' : List Event}
      (h : s.generator.next chat events = (.ok (.ok message), events'))
      (hcalls : message.calls = []) :
      LastStep left chat events (.replied (chat.addMessage (.assistant message))) events'
  | exhausted {message : AssistantMessage} {events' : List Event} (hleft : left = 0)
      (h : s.generator.next chat events = (.ok (.ok message), events'))
      (hnames : callsAny s.watchedLater message.calls = false) (hcalls : message.calls ≠ []) :
      LastStep left chat events (.failed (.toolRounds s.executor.limit.toValue)) events'
  | refused {message : AssistantMessage} {e : Error} {written events' : List Event}
      (hleft : left ≠ 0) (h : s.generator.next chat events = (.ok (.ok message), written))
      (hnames : callsAny s.watchedLater message.calls = false) (hcalls : message.calls ≠ [])
      (hanswers : s.runner.registry.answers s.executor.policy message.calls written
        = (.ok (.error e), events')) :
      LastStep left chat events (.failed e) events'

/-- How a turn is aborted after its rounds: an exchange or a tool call raises what is no error of
the library. -/
inductive Aborts (left : Nat) (chat : Chat) (events : List Event) :
    Exception → List Event → Prop
  | exchange {e : Exception} {events' : List Event}
      (h : s.generator.next chat events = (.error e, events')) :
      Aborts left chat events e events'
  | call {message : AssistantMessage} {e : Exception} {written events' : List Event}
      (hleft : left ≠ 0) (h : s.generator.next chat events = (.ok (.ok message), written))
      (hnames : callsAny s.watchedLater message.calls = false) (hcalls : message.calls ≠ [])
      (hanswers : s.runner.registry.answers s.executor.policy message.calls written
        = (.error e, events')) :
      Aborts left chat events e events'

/-- What a turn comes to after its rounds: it ends, or it is aborted. -/
def Closes (left : Nat) (chat : Chat) (events : List Event) :
    Except Exception TurnEnd → List Event → Prop
  | .ok ending, events' => s.LastStep left chat events ending events'
  | .error e, events' => s.Aborts left chat events e events'

variable {s} {left : Nat} {chat : Chat} {events reached events' : List Event} {ending : TurnEnd}
  {result : Except Exception TurnEnd}

/-- A last step is a turn without rounds. -/
theorem LastStep.turn (h : s.LastStep left chat events ending events') :
    s.turn left s.watchedLater chat events = (.ok ending, events') := by
  cases h with
  | unanswered h => exact turn_unanswered h
  | stopped h hnames => exact turn_stopped h hnames
  | replied h hcalls => exact turn_replied h hcalls
  | exhausted hleft h hnames hcalls =>
    subst hleft
    exact turn_exhausted h hnames hcalls
  | refused hleft h hnames hcalls hanswers =>
    obtain ⟨left, rfl⟩ := Nat.exists_eq_succ_of_ne_zero hleft
    rw [turn_answered h hnames hcalls, bind_ok hanswers]
    rfl

theorem Aborts.turn {e : Exception} (h : s.Aborts left chat events e events') :
    s.turn left s.watchedLater chat events = (.error e, events') := by
  cases h with
  | exchange h => exact turn_raised h
  | call hleft h hnames hcalls hanswers =>
    obtain ⟨left, rfl⟩ := Nat.exists_eq_succ_of_ne_zero hleft
    rw [turn_answered h hnames hcalls, bind_error hanswers]

theorem Closes.turn (h : s.Closes left chat events result events') :
    s.turn left s.watchedLater chat events = (result, events') := by
  cases result with
  | ok ending => exact LastStep.turn h
  | error e => exact Aborts.turn h

/-- A turn goes through the rounds of its trace. -/
theorem Rounds.turn {rounds : List Round} (h : s.Rounds chat events rounds reached) (left : Nat) :
    s.turn (left + rounds.length) s.watchedLater chat events
      = s.turn left s.watchedLater (chat.after rounds) reached := by
  induction h with
  | nil chat events => rw [Chat.after_nil, List.length_nil, Nat.add_zero]
  | @cons chat round rounds _ _ _ _ hmessage hnames hanswers hrest ih =>
    have hround := Registry.answers_eq_ok_iff.2 ⟨round.complete, hanswers⟩
    rw [List.length_cons, ← Nat.add_assoc, turn_answered hmessage hnames round.called,
      bind_ok hround, Chat.after_cons]
    exact ih

/-- A turn closes with its next step, or it goes on with a round. -/
theorem turn_step (h : s.turn left s.watchedLater chat events = (result, events')) :
    s.Closes left chat events result events' ∨
    ∃ (round : Round) (fewer : Nat) (written answered : List Event), left = fewer + 1 ∧
      s.generator.next chat events = (.ok (.ok round.message), written) ∧
      callsAny s.watchedLater round.message.calls = false ∧
      s.runner.registry.Answers s.executor.policy written round.answers answered ∧
      s.turn fewer s.watchedLater
        ((chat.addMessage (.assistant round.message)).answered round.answers) answered
          = (result, events') := by
  rcases s.next_cases s.watchedLater chat events with ⟨e, written, hnext⟩ | ⟨e, written, hnext⟩ |
    ⟨message, written, hnext, hnames | hcalls | ⟨hnames, hcalls⟩⟩
  · rw [turn_raised hnext] at h
    cases h
    exact .inl (Aborts.exchange hnext)
  · rw [turn_unanswered hnext] at h
    cases h
    exact .inl (LastStep.unanswered hnext)
  · rw [turn_stopped hnext hnames] at h
    cases h
    exact .inl (LastStep.stopped hnext hnames)
  · rw [turn_replied hnext hcalls] at h
    cases h
    exact .inl (LastStep.replied hnext hcalls)
  · cases left with
    | zero =>
      rw [turn_exhausted hnext hnames hcalls] at h
      cases h
      exact .inl (LastStep.exhausted rfl hnext hnames hcalls)
    | succ fewer =>
      rw [turn_answered hnext hnames hcalls, bind_apply] at h
      cases hround : s.runner.registry.answers s.executor.policy message.calls written with
      | mk answers answered =>
        rw [hround] at h
        rcases answers with e | (e | answers)
        · cases h
          exact .inl (Aborts.call (Nat.succ_ne_zero fewer) hnext hnames hcalls hround)
        · cases h
          exact .inl (LastStep.refused (Nat.succ_ne_zero fewer) hnext hnames hcalls hround)
        · obtain ⟨hcomplete, hanswers⟩ := Registry.answers_eq_ok_iff.1 hround
          exact .inr ⟨⟨message, answers, hcalls, hcomplete⟩, fewer, written, answered, rfl, hnext,
            hnames, hanswers, h⟩

/-- A turn is a trace of rounds and what it comes to after them, and every such trace is a turn. -/
theorem turn_eq_iff : s.turn left s.watchedLater chat events = (result, events') ↔
    ∃ rounds reached, rounds.length ≤ left ∧ s.Rounds chat events rounds reached ∧
      s.Closes (left - rounds.length) (chat.after rounds) reached result events' := by
  constructor
  · intro h
    induction left generalizing chat events with
    | zero =>
      rcases turn_step h with hlast | ⟨round, fewer, written, answered, hleft, -⟩
      · exact ⟨[], events, Nat.le_refl 0, .nil chat events, by rwa [Chat.after_nil]⟩
      · omega
    | succ left ih =>
      rcases turn_step h with hlast |
        ⟨round, fewer, written, answered, hleft, hmessage, hnames, hanswers, hturn⟩
      · exact ⟨[], events, Nat.zero_le _, .nil chat events, by rwa [Chat.after_nil]⟩
      · cases hleft
        obtain ⟨rounds, reached, hlength, hrounds, hlast⟩ := ih hturn
        refine ⟨round :: rounds, reached, Nat.succ_le_succ hlength,
          .cons hmessage hnames hanswers hrounds, ?_⟩
        rw [List.length_cons, Nat.add_sub_add_right, Chat.after_cons]
        exact hlast
  · rintro ⟨rounds, reached, hlength, hrounds, hlast⟩
    have hturn := hrounds.turn (left - rounds.length)
    rw [Nat.sub_add_cancel hlength] at hturn
    rw [hturn]
    exact hlast.turn

/-- A turn that ends is a trace of rounds and a last step, and every such trace is a turn. -/
theorem turn_eq_ok_iff : s.turn left s.watchedLater chat events = (.ok ending, events') ↔
    ∃ rounds reached, rounds.length ≤ left ∧ s.Rounds chat events rounds reached ∧
      s.LastStep (left - rounds.length) (chat.after rounds) reached ending events' :=
  turn_eq_iff

end SoloChain

end Colloquy
