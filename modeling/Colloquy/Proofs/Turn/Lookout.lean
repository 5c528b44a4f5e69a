import Colloquy.Proofs.Turn.Break

/-!
# A watching link outside the executor

A link that watches for tools is meant to be inside the automatic executor.  A
`Lookout` is a chain in which it is outside.  The executor then puts its rounds around
the check of the link, so the first message of a turn is answered before the link sees
it.  For each later message the executor owns the continuation already and the link
does not, so it puts its check around the rounds.

So of the messages of a turn that call a tool that is watched for, the first one is
executed and every later one ends the run (`Lookout.preempted_iff`).  The rounds of a
turn are not treated alike (`Lookout.rounds_unlike`).
-/

namespace Colloquy

/-! ## The chain -/

/-- The chain with a link that watches for tools around an automatic executor, the generator and the
terminal link. -/
structure Lookout where
  names : List Text
  executor : Executor
  generator : Generator
  auto : executor.auto = true

namespace Lookout

variable (o : Lookout)

/-- The links of the chain. -/
def chain : Chain :=
  [.breakOn o.names, .executor o.executor, .generation o.generator, .terminal]

theorem outside_passive : ∀ link ∈ [Link.breakOn o.names], link.isPassive = true := by
  intro link hlink
  rw [List.mem_singleton.1 hlink]
  rfl

/-- No link is between the executor and the generator. -/
theorem between_passive : ∀ link ∈ ([] : Chain), link.isPassive = true := by
  intro link hlink
  cases hlink

/-- The chain as one with a single automatic executor. -/
def solo : SoloChain where
  outside := [.breakOn o.names]
  executor := o.executor
  between := []
  generator := o.generator
  inside := [.terminal]
  auto := o.auto
  passiveOutside := o.outside_passive
  passiveBetween := between_passive

theorem solo_chain : o.solo.chain = o.chain := rfl

theorem terminal_mem : .terminal ∈ o.chain := by
  simp [chain]

/-- The first generation of a turn is not watched. -/
theorem solo_watchedFirst : o.solo.watchedFirst = [] := rfl

/-! ## The messages of a turn -/

/-- The rounds of a turn, as far as they went: the message of the first was not watched, those of
the others were. -/
inductive Rounds : Chat → List Event → List Round → List Event → Prop
  | none (chat : Chat) (events : List Event) : Rounds chat events [] events
  | first {chat : Chat} {round : Round} {rounds : List Round}
      {events written answered events' : List Event}
      (hmessage : o.generator.next chat events = (.ok (.ok round.message), written))
      (hanswers : o.executor.registry.Answers o.executor.policy written round.answers answered)
      (hrest : o.solo.Rounds ((chat.addMessage (.assistant round.message)).answered round.answers)
        answered rounds events') :
      Rounds chat events (round :: rounds) events'

/-- In a turn the backend writes a message, after rounds that the limit allows. -/
def Writes (most : Nat) (chat : Chat) (events : List Event) (rounds : List Round)
    (message : AssistantMessage) (written : List Event) : Prop :=
  rounds.length ≤ most ∧
  ∃ reached, o.Rounds chat events rounds reached ∧
    o.generator.next (chat.after rounds) reached = (.ok (.ok message), written)

/-- A message ends the run: whatever callback is to follow, the run gives the chat that ends with
the message, and nothing happens after it was written.  So none of its calls is invoked. -/
def Preempted (chat : Chat) (before : Ledger) (rounds : List Round) (message : AssistantMessage)
    (written : List Event) : Prop :=
  ∀ next result events',
    (∃ after, o.chain.Gives ((Plan.generate chat).andThen next) before result after ∧
        after.events = events') ↔
      result = .ok (.success (.chat ((chat.after rounds).addMessage (.assistant message)))) ∧
        events' = written

/-- The calls of a message are executed: whatever callback is to follow, they are answered in order
after the message was written, and the first of them at least is handed to the registry.  That is
so in every run that ends, and the run without a callback does. -/
def Executed (chat : Chat) (before : Ledger) (message : AssistantMessage)
    (written : List Event) : Prop :=
  (∃ result after, o.chain.Gives ((Plan.generate chat).andThen .pure) before result after) ∧
  ∀ next result after, o.chain.Gives ((Plan.generate chat).andThen next) before result after →
    (o.executor.registry.answers o.executor.policy message.calls written).2 <+: after.events ∧
      ∃ call ∈ message.calls, written ++ [.invoked call] <+: after.events

section

variable {o} {most : Nat} {chat : Chat} {before : Ledger} {events events' : List Event}
  {rounds : List Round} {message : AssistantMessage} {written : List Event}
  {result : Except Exception Outcome}

/-- A run is a turn in which the first generation is not watched. -/
theorem gives_iff (hmost : o.executor.limit.rounds? = some most) (hl : before.Sound) (chat : Chat)
    (next : Outcome → Plan) :
    (∃ after, o.chain.Gives ((Plan.generate chat).andThen next) before result after ∧
        after.events = events') ↔
      o.chain.Settles (do (← o.solo.turn most [] chat).proceed (.calling next))
        before.events result events' := by
  rw [← o.solo_chain, o.solo.gives_andThen_iff hmost hl, o.solo_watchedFirst]

/-- A message after a round stops the turn. -/
theorem turn_of_later (h : o.Writes most chat events rounds message written) (hrounds : rounds ≠ [])
    (hcalls : callsAny o.names message.calls = true) :
    o.solo.turn most [] chat events
      = (.ok (.stopped ((chat.after rounds).addMessage (.assistant message))), written) := by
  obtain ⟨hlength, reached, htrace, hnext⟩ := h
  cases htrace with
  | none => exact absurd rfl hrounds
  | @first round rest _ _ _ _ hmessage hanswers hrest =>
    have hround : o.solo.runner.registry.answers o.solo.executor.policy round.message.calls _ = _ :=
      Registry.answers_eq_ok_iff.2 ⟨round.complete, hanswers⟩
    obtain ⟨left, rfl⟩ := Nat.exists_eq_add_of_le' hlength
    rw [List.length_cons, ← Nat.add_assoc,
      SoloChain.turn_answered hmessage (callsAny_nil_names _) round.called, bind_ok hround,
      Chat.after_cons]
    rw [Chat.after_cons] at hnext
    exact (hrest.turn left).trans (SoloChain.turn_stopped hnext hcalls)

/-- A message after a round ends the run. -/
theorem preempted_of_later (hmost : o.executor.limit.rounds? = some most) (hl : before.Sound)
    (h : o.Writes most chat before.events rounds message written) (hrounds : rounds ≠ [])
    (hcalls : callsAny o.names message.calls = true) :
    o.Preempted chat before rounds message written := by
  intro next result events'
  rw [gives_iff hmost hl, Chain.settles_bind_of_ok (turn_of_later h hrounds hcalls)]
  exact Chain.ends_done o.terminal_mem _

/-- The first message of a turn is executed. -/
theorem executed_of_first (hmost : o.executor.limit.rounds? = some most) (hl : before.Sound)
    (h : o.Writes most chat before.events [] message written) (hcalls : message.calls ≠ []) :
    o.Executed chat before message written := by
  refine ⟨o.solo.exists_gives_andThen hmost o.terminal_mem hl chat, ?_⟩
  intro next result after hgives
  obtain ⟨-, reached, htrace, hnext⟩ := h
  cases htrace
  rw [Chat.after_nil] at hnext
  obtain ⟨left, rfl⟩ := Nat.exists_eq_add_of_le' (RoundLimit.rounds?_pos hmost)
  have hsettles := (gives_iff hmost hl chat next).1 ⟨after, hgives, rfl⟩
  exact SoloChain.answers_of_settles hnext (callsAny_nil_names _) hcalls hsettles

/-- A message that ends the run is not executed. -/
theorem Preempted.not_executed (h : o.Preempted chat before rounds message written) :
    ¬o.Executed chat before message written := by
  rintro ⟨-, hexecuted⟩
  obtain ⟨after, hgives, hevents⟩ := (h .pure _ _).2 ⟨rfl, rfl⟩
  obtain ⟨-, call, -, hbegins⟩ := hexecuted .pure _ after hgives
  have hlength := hbegins.length_le
  rw [hevents, List.length_append, List.length_singleton] at hlength
  omega

/-- Which messages of a turn end the run, of those that call a tool that is watched for: every one
but the first, and the calls of the first are executed.  This is so for every backend, every
registry and every whole limit, after whatever rounds the message comes. -/
theorem preempted_iff (hmost : o.executor.limit.rounds? = some most) (hl : before.Sound)
    (h : o.Writes most chat before.events rounds message written)
    (hcalls : callsAny o.names message.calls = true) :
    (o.Preempted chat before rounds message written ↔ rounds ≠ []) ∧
      (o.Executed chat before message written ↔ rounds = []) := by
  have hnonempty : message.calls ≠ [] := by
    intro hnil
    rw [hnil, callsAny_nil] at hcalls
    exact Bool.false_ne_true hcalls
  by_cases hrounds : rounds = []
  · subst hrounds
    have hexecuted := executed_of_first hmost hl h hnonempty
    have hnot : ¬o.Preempted chat before [] message written := fun h => h.not_executed hexecuted
    exact ⟨⟨fun h => absurd h hnot, fun h => absurd rfl h⟩, ⟨fun _ => rfl, fun _ => hexecuted⟩⟩
  · have hpreempted := preempted_of_later hmost hl h hrounds hcalls
    have hnot := hpreempted.not_executed
    exact ⟨⟨fun _ => hrounds, fun _ => hpreempted⟩,
      ⟨fun h => absurd h hnot, fun h => absurd h hrounds⟩⟩

end

/-! ## A turn in which the tool is called twice -/

/-- Whether the first two messages of a turn call a tool that is watched for, and the calls of the
first have answers. -/
def callsTwice (chat : Chat) : Bool :=
  match o.generator.next chat [] with
  | (.ok (.ok first), written) =>
    match o.executor.registry.answers o.executor.policy first.calls written with
    | (.ok (.ok answers), answered) =>
      match o.generator.next ((chat.addMessage (.assistant first)).answered answers) answered with
      | (.ok (.ok second), _) => callsAny o.names first.calls && callsAny o.names second.calls
      | _ => false
    | _ => false
  | _ => false

theorem exists_of_callsTwice {chat : Chat} (h : o.callsTwice chat = true) :
    ∃ round second written written', o.Writes 1 chat [] [] round.message written ∧
      callsAny o.names round.message.calls = true ∧
      o.Writes 1 chat [] [round] second written' ∧ callsAny o.names second.calls = true := by
  unfold callsTwice at h
  split at h
  case h_2 => cases h
  case h_1 first written hfirst =>
    split at h
    case h_2 => cases h
    case h_1 answers answered hanswers =>
      split at h
      case h_2 => cases h
      case h_1 second written' hsecond =>
        obtain ⟨hcalls, hcalls'⟩ := (Bool.and_eq_true _ _).mp h
        have hnonempty : first.calls ≠ [] := by
          intro hnil
          rw [hnil, callsAny_nil] at hcalls
          exact Bool.false_ne_true hcalls
        obtain ⟨hcomplete, htrace⟩ := Registry.answers_eq_ok_iff.1 hanswers
        let round : Round := ⟨first, answers, hnonempty, hcomplete⟩
        refine ⟨round, second, written, written', ⟨Nat.zero_le _, [], .none _ _, ?_⟩, hcalls,
          ⟨Nat.le_refl _, answered, .first hfirst htrace (.nil _ _), ?_⟩, hcalls'⟩
        · rw [Chat.after_nil]
          exact hfirst
        · rw [Chat.after_cons, Chat.after_nil]
          exact hsecond

/-- A lookout for the clock, whose backend asks for the time twice. -/
def twiceAsking : Lookout where
  names := ["clock"]
  executor := (Assembly.rehearsal .flag []).executor
  generator :=
    (Assembly.rehearsal .flag
      [.message (.assistant Assembly.clockMessage),
        .message (.assistant Assembly.clockMessage)]).generator
  auto := rfl

theorem twiceAsking_callsTwice : twiceAsking.callsTwice Assembly.clockChat = true := by
  decide +kernel

/-- The first question for the time is answered, and the second one ends the run. -/
theorem preempted_iff_twiceAsking :
    ∃ round second written written',
      twiceAsking.Executed Assembly.clockChat {} round.message written ∧
      twiceAsking.Preempted Assembly.clockChat {} [round] second written' := by
  obtain ⟨round, second, written, written', hfirst, hcalls, hsecond, hcalls'⟩ :=
    twiceAsking.exists_of_callsTwice twiceAsking_callsTwice
  exact ⟨round, second, written, written',
    (preempted_iff rfl .empty hfirst hcalls).2.2 rfl,
    (preempted_iff rfl .empty hsecond hcalls').1.2 (List.cons_ne_nil _ _)⟩

/-- It is not so that two messages of a turn that call a tool which is watched for are treated
alike, whatever rounds they come after. -/
theorem rounds_unlike :
    ¬∀ (o : Lookout) (most : Nat) (chat : Chat) (before : Ledger) (rounds rounds' : List Round)
      (message message' : AssistantMessage) (written written' : List Event),
      o.executor.limit.rounds? = some most → before.Sound →
      o.Writes most chat before.events rounds message written →
      o.Writes most chat before.events rounds' message' written' →
      callsAny o.names message.calls = true → callsAny o.names message'.calls = true →
      (o.Preempted chat before rounds message written ↔
        o.Preempted chat before rounds' message' written') := by
  intro halike
  obtain ⟨round, second, written, written', hfirst, hcalls, hsecond, hcalls'⟩ :=
    twiceAsking.exists_of_callsTwice twiceAsking_callsTwice
  have hpreempted : twiceAsking.Preempted Assembly.clockChat {} [round] second written' :=
    preempted_of_later rfl .empty hsecond (List.cons_ne_nil _ _) hcalls'
  have hfirst' := (halike twiceAsking 1 Assembly.clockChat {} [] [round] round.message second
    written written' rfl .empty hfirst hsecond hcalls hcalls').2 hpreempted
  exact hfirst'.not_executed (executed_of_first rfl .empty hfirst round.called)

end Lookout

end Colloquy
