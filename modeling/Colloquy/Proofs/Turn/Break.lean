import Colloquy.Proofs.Chain.Growth
import Colloquy.Proofs.Turn.Assembly

/-!
# Turns that a call ends

A message that calls a tool that is watched for ends the run, in whichever round it
comes: its calls stay open, nothing more is sent, and what was to come after the
turn is dropped.  `Assembly.Breaks` tells such a turn as a trace.

The main statement is `Assembly.stopped_by_call`.  A callback after the turn is told
by the note that it leaves: it is never called exactly when a call ends the turn.
-/

namespace Colloquy

/-! ## What comes after a turn -/

/-- The continuation of a generation that a callback follows. -/
def Cont.calling (next : Outcome → Plan) : Cont :=
  .plain [] (.extended (.plain [] (.callback .pure)) (.callback next))

theorem Cont.calling_opening (chat : Chat) (next : Outcome → Plan) :
    ((Plan.generate chat).andThen next).opening
      = pure (.pending (.generate chat (.calling next))) := by
  rw [Plan.opening, Plan.outline, Plan.outline, pure_bind]
  rfl

/-- A run of a generation that a callback follows is a turn whose end goes to the callback. -/
theorem SoloChain.gives_andThen_iff (s : SoloChain) {most : Nat} {before : Ledger}
    {events' : List Event} {result : Except Exception Outcome}
    (hmost : s.executor.limit.rounds? = some most) (hl : before.Sound) (chat : Chat)
    (next : Outcome → Plan) :
    (∃ after, s.chain.Gives ((Plan.generate chat).andThen next) before result after ∧
        after.events = events') ↔
      s.chain.Settles (do (← s.turn most s.watchedFirst chat).proceed (.calling next))
        before.events result events' := by
  rw [Chain.gives_iff hl, Cont.calling_opening, Chain.settles_pure, s.ends_generate hmost rfl]

/-- With the callback that only gives its value, a run gives the outcome of a turn. -/
theorem SoloChain.gives_andThen_pure (s : SoloChain) {most : Nat} {before : Ledger}
    {events' : List Event} {result : Except Exception Outcome}
    (hmost : s.executor.limit.rounds? = some most) (hterminal : .terminal ∈ s.chain)
    (hl : before.Sound) (chat : Chat) :
    (∃ after, s.chain.Gives ((Plan.generate chat).andThen .pure) before result after ∧
        after.events = events') ↔
      ∃ r, s.turn most s.watchedFirst chat before.events = (r, events') ∧
        result = r.map TurnEnd.outcome := by
  rw [s.gives_andThen_iff hmost hl]
  refine settles_outcome (fun ending reached => ?_) _
  cases ending with
  | stopped chat => exact Chain.ends_done hterminal _
  | replied chat => exact Chain.ends_final hterminal _
  | failed e => exact Chain.ends_final hterminal _

/-- Such a run ends. -/
theorem SoloChain.exists_gives_andThen (s : SoloChain) {most : Nat} {before : Ledger}
    (hmost : s.executor.limit.rounds? = some most) (hterminal : .terminal ∈ s.chain)
    (hl : before.Sound) (chat : Chat) :
    ∃ result after, s.chain.Gives ((Plan.generate chat).andThen .pure) before result after := by
  obtain ⟨after, hgives, -⟩ := (s.gives_andThen_pure hmost hterminal hl chat).2 ⟨_, rfl, rfl⟩
  exact ⟨_, after, hgives⟩

/-- Such a run makes at most one exchange more than the limit has rounds. -/
theorem SoloChain.requests_of_gives_andThen (s : SoloChain) {most : Nat} {before after : Ledger}
    {result : Except Exception Outcome} (hmost : s.executor.limit.rounds? = some most)
    (hterminal : .terminal ∈ s.chain) (hl : before.Sound) {chat : Chat}
    (h : s.chain.Gives ((Plan.generate chat).andThen .pure) before result after) :
    after.requests.length ≤ before.requests.length + (most + 1) := by
  obtain ⟨r, hturn, -⟩ := (s.gives_andThen_pure hmost hterminal hl chat).1 ⟨after, h, rfl⟩
  have hbound := s.turn_requests most s.watchedFirst chat before.events
  rw [hturn] at hbound
  exact hbound

/-- The callback that leaves a note and then goes on. -/
def Plan.noting (mark : Text) (next : Outcome → Plan) (value : Outcome) : Plan :=
  .note mark (next value)

/-- A callback is called: its note is left, and its plan is built. -/
theorem Cont.calling_noting_follow (mark : Text) (next : Outcome → Plan) (result : Outcome) :
    (Cont.calling (.noting mark next)).follow result = (do
      Course.record (.noted mark)
      (← (next result).outline).required "and_then callback") := by
  rw [Cont.calling, Cont.plain, Cont.follow, Body.follow, Cont.follow_callback_pure, pure_bind]
  show (do (← (Plan.note mark (next result)).outline).required "and_then callback") = _
  rw [Plan.outline, bind_assoc]

/-! ## Notes stay -/

/-- A note that was left is one more note, whatever happens before and after it. -/
theorem notesIn_ne_of_noted {mark : Text} {events reached events' : List Event}
    (hbefore : events <+: reached) (hafter : reached ++ [.noted mark] <+: events') :
    notesIn events' ≠ notesIn events := by
  obtain ⟨first, rfl⟩ := hbefore
  obtain ⟨later, rfl⟩ := hafter
  intro heq
  have hone : notesIn [.noted mark] = [mark] := rfl
  have hlength := congrArg List.length heq
  rw [notesIn_append, notesIn_append, notesIn_append, hone, List.length_append,
    List.length_append, List.length_append, List.length_singleton] at hlength
  omega

/-- When a callback is called, its note stays. -/
theorem Chain.Settles.keeps_note {chain : Chain} {mark : Text} {next : Outcome → Plan}
    {outcome : Outcome} {events events' : List Event} {result : Except Exception Outcome}
    (h : chain.Settles ((Cont.calling (.noting mark next)).follow outcome) events result events') :
    events ++ [.noted mark] <+: events' := by
  rw [Cont.calling_noting_follow, settles_bind_of_ok (Course.record_apply _ _)] at h
  exact h.prefix_events ((next outcome).outline_grows.bind fun b => b.required_grows _)

theorem Generator.next_grows (g : Generator) (chat : Chat) : (g.next chat).Grows := by
  intro events
  cases h : g.next chat events with
  | mk result reached =>
    rcases Generator.next_events h with rfl | ⟨request, rfl⟩
    · exact List.prefix_rfl
    · exact List.prefix_append _ _

theorem Registry.written_grows (r : Registry) (call : ToolCall) : (r.written call).Grows := by
  intro events
  cases h : r.written call events with
  | mk result reached =>
    rcases Registry.written_events h with rfl | ⟨arguments, rfl⟩
    · exact List.prefix_append _ _
    · exact List.prefix_append _ _

theorem Registry.answer_grows (r : Registry) (policy : ToolErrorPolicy) (call : ToolCall) :
    (r.answer policy call).Grows := by
  refine (r.written_grows call).bind fun written => ?_
  cases written with
  | ok text => exact .pure _
  | error e => cases policy <;> exact .pure _

theorem Registry.answers_grows (r : Registry) (policy : ToolErrorPolicy) (calls : List ToolCall) :
    (r.answers policy calls).Grows := by
  induction calls with
  | nil => exact .pure _
  | cons call calls ih =>
    refine (r.answer_grows policy call).bind fun answer => ?_
    cases answer with
    | error e => exact .pure _
    | ok answer => exact ih.bind fun _ => .pure _

/-- Answering calls begins with the first one, which is handed to the registry. -/
theorem Registry.answers_begin (r : Registry) (policy : ToolErrorPolicy) (call : ToolCall)
    (others : List ToolCall) (events : List Event) :
    events ++ [.invoked call] <+: (r.answers policy (call :: others) events).2 := by
  have hfirst : events ++ [.invoked call] <+: (r.answer policy call events).2 := by
    refine List.IsPrefix.trans ?_ (Course.Grows.prefix_bind (fun written => ?_) events)
    · cases hwritten : r.written call events with
      | mk result reached =>
        rcases Registry.written_events hwritten with rfl | ⟨arguments, rfl⟩
        · exact List.prefix_rfl
        · exact ⟨[.handled arguments], by rw [List.append_assoc]; rfl⟩
    · cases written with
      | ok text => exact .pure _
      | error e => cases policy <;> exact .pure _
  refine hfirst.trans (Course.Grows.prefix_bind (fun answer => ?_) events)
  cases answer with
  | error e => exact .pure _
  | ok answer => exact (r.answers_grows policy others).bind fun _ => .pure _

theorem TurnEnd.proceed_grows (k : Cont) (ending : TurnEnd) : (ending.proceed k).Grows := by
  cases ending with
  | stopped chat => exact .pure _
  | replied chat => exact k.follow_grows _
  | failed e => exact k.follow_grows _

/-- A turn only appends to the events before it. -/
theorem SoloChain.turn_grows (s : SoloChain) (left : Nat) (names : List Text) (chat : Chat) :
    (s.turn left names chat).Grows := by
  induction left generalizing names chat with
  | zero =>
    rw [turn]
    refine (s.generator.next_grows chat).bind fun message => ?_
    cases message with
    | error e => exact .pure _
    | ok message =>
      dsimp only
      split
      · exact .pure _
      · split <;> exact .pure _
  | succ left ih =>
    rw [turn]
    refine (s.generator.next_grows chat).bind fun message => ?_
    cases message with
    | error e => exact .pure _
    | ok message =>
      dsimp only
      split
      · exact .pure _
      · split
        · exact .pure _
        · refine (s.runner.registry.answers_grows _ _).bind fun answers => ?_
          cases answers with
          | error e => exact .pure _
          | ok answers => exact ih _ _

/-- When rounds are left, the calls of a message that nothing watches for are answered before a run
ends, and the first of them at least is handed to the registry. -/
theorem SoloChain.answers_of_settles {s : SoloChain} {left : Nat} {names : List Text} {chat : Chat}
    {k : Cont} {message : AssistantMessage} {events written events' : List Event}
    {result : Except Exception Outcome}
    (hnext : s.generator.next chat events = (.ok (.ok message), written))
    (hnames : callsAny names message.calls = false) (hcalls : message.calls ≠ [])
    (h : s.chain.Settles (do (← s.turn (left + 1) names chat).proceed k) events result events') :
    (s.runner.registry.answers s.executor.policy message.calls written).2 <+: events' ∧
      ∃ call ∈ message.calls, written ++ [.invoked call] <+: events' := by
  have hturn : s.turn (left + 1) names chat events = _ := turn_answered hnext hnames hcalls
  rw [Chain.settles_congr (by rw [bind_apply, hturn, ← bind_apply]), bind_assoc] at h
  have hbegins := h.prefix_bind fun answers => by
    refine Course.Grows.bind ?_ (TurnEnd.proceed_grows _)
    cases answers with
    | error e => exact .pure _
    | ok answers => exact s.turn_grows _ _ _
  refine ⟨hbegins, ?_⟩
  cases hmessage : message.calls with
  | nil => exact absurd hmessage hcalls
  | cons call others =>
    rw [hmessage] at hbegins
    exact ⟨call, List.mem_cons_self, (Registry.answers_begin _ _ call others written).trans hbegins⟩

namespace Assembly

variable {a : Assembly} {most : Nat} {chat : Chat} {before : Ledger}
  {events events' : List Event} {result : Except Exception Outcome}

/-! ## Traces of turns that a call ends -/

/-- A turn that a call ends: after rounds that the limit allows, a message calls a tool that is
watched for. -/
def Breaks (a : Assembly) (most : Nat) (chat : Chat) (events : List Event) (rounds : List Round)
    (last : AssistantMessage) (events' : List Event) : Prop :=
  rounds.length ≤ most ∧
  ∃ reached, a.Rounds chat events rounds reached ∧
    a.generator.next (chat.after rounds) reached = (.ok (.ok last), events') ∧
    callsAny a.names last.calls = true

/-- A turn is stopped when a call ends it, and only then. -/
theorem turn_eq_stopped_iff {ended : Chat} :
    a.solo.turn most a.solo.watchedLater chat events = (.ok (.stopped ended), events') ↔
      ∃ rounds last, a.Breaks most chat events rounds last events' ∧
        ended = (chat.after rounds).addMessage (.assistant last) := by
  rw [SoloChain.turn_eq_ok_iff, a.solo_rounds]
  constructor
  · rintro ⟨rounds, reached, hlength, hrounds, hlast⟩
    cases hlast with
    | @stopped last _ hnext hnames =>
      rw [a.solo_watchedLater] at hnames
      exact ⟨rounds, last, ⟨hlength, reached, hrounds, hnext, hnames⟩, rfl⟩
  · rintro ⟨rounds, last, ⟨hlength, reached, hrounds, hnext, hnames⟩, rfl⟩
    refine ⟨rounds, reached, hlength, hrounds, .stopped hnext ?_⟩
    rw [a.solo_watchedLater]
    exact hnames

/-- What happens in a turn that a call ends: the calls of the rounds are invoked, and none of the
last message; there is one request more than there are rounds; no callback is called. -/
theorem Breaks.account {rounds : List Round} {last : AssistantMessage}
    (h : a.Breaks most chat events rounds last events') :
    invocationsIn events' = invocationsIn events ++ rounds.flatMap (·.message.calls) ∧
      (requestsIn events').length = (requestsIn events).length + (rounds.length + 1) ∧
      notesIn events' = notesIn events := by
  obtain ⟨-, reached, hrounds, hnext, -⟩ := h
  obtain ⟨requests, hin, hlength, -⟩ := hrounds.requests hnext
  refine ⟨?_, ?_, ?_⟩
  · rw [(Generator.next_account hnext).2, hrounds.invocations]
  · rw [hin, List.length_append, hlength]
  · rw [Generator.next_notes hnext, hrounds.notes]

/-! ## Runs with a callback -/

/-- All generations of such a turn are watched alike. -/
theorem gives_andThen_iff (hmost : a.executor.limit.rounds? = some most) (hl : before.Sound)
    (chat : Chat) (next : Outcome → Plan) :
    (∃ after, a.chain.Gives ((Plan.generate chat).andThen next) before result after ∧
        after.events = events') ↔
      a.chain.Settles (do
        (← a.solo.turn most a.solo.watchedLater chat).proceed (.calling next))
        before.events result events' := by
  rw [← a.solo_chain, a.solo.gives_andThen_iff hmost hl, a.solo_watchedFirst,
    a.solo_watchedLater]

/-- A turn that is stopped ends the run, whatever callback was to follow. -/
theorem settles_stopped {ended : Chat} {reached : List Event} (next : Outcome → Plan)
    (hturn : a.solo.turn most a.solo.watchedLater chat events
      = (.ok (.stopped ended), reached)) :
    a.chain.Settles (do
        (← a.solo.turn most a.solo.watchedLater chat).proceed (.calling next))
        events result events' ↔
      result = .ok (.success (.chat ended)) ∧ events' = reached := by
  rw [Chain.settles_bind_of_ok hturn]
  exact Chain.ends_done a.terminal_mem _

/-- A run that gives something without a call of the callback is one of a turn that is stopped. -/
theorem stopped_of_settles {mark : Text} {next : Outcome → Plan} {outcome : Outcome}
    (h : a.chain.Settles (do
        (← a.solo.turn most a.solo.watchedLater chat).proceed (.calling (.noting mark next)))
        events (.ok outcome) events')
    (hnotes : notesIn events' = notesIn events) :
    ∃ ended reached, a.solo.turn most a.solo.watchedLater chat events
      = (.ok (.stopped ended), reached) := by
  cases hturn : a.solo.turn most a.solo.watchedLater chat events with
  | mk r reached =>
    have hbefore : events <+: reached := (a.solo.turn_grows _ _ _).prefix_of_eq hturn
    rcases r with e | ending
    · rw [Chain.settles_bind_of_error hturn] at h
      exact absurd h.1 nofun
    · rw [Chain.settles_bind_of_ok hturn] at h
      cases ending with
      | stopped ended => exact ⟨ended, reached, rfl⟩
      | replied ended => exact absurd hnotes (notesIn_ne_of_noted hbefore h.keeps_note)
      | failed e => exact absurd hnotes (notesIn_ne_of_noted hbefore h.keeps_note)

/-- A call of a tool that is watched for ends the run.  With such a message in the turn, in
whichever round, a run gives the chat that ends with the message and nothing else, whatever callback
is to follow; only the calls of the rounds before it are invoked, nothing is sent after it, and no
callback is called.  And a run that gives something without a call of its callback is one with such
a message. -/
theorem stopped_by_call (hmost : a.executor.limit.rounds? = some most) (hl : before.Sound)
    (chat : Chat) (next : Outcome → Plan) :
    (∀ rounds last stopped, a.Breaks most chat before.events rounds last stopped →
      (∀ result events',
        (∃ after, a.chain.Gives ((Plan.generate chat).andThen next) before result after ∧
            after.events = events') ↔
          result = .ok (.success (.chat ((chat.after rounds).addMessage (.assistant last)))) ∧
            events' = stopped) ∧
      invocationsIn stopped = before.invocations ++ rounds.flatMap (·.message.calls) ∧
      (requestsIn stopped).length = before.requests.length + (rounds.length + 1) ∧
      notesIn stopped = before.notes) ∧
    (∀ mark outcome events',
      (∃ after, a.chain.Gives ((Plan.generate chat).andThen (.noting mark next)) before
          (.ok outcome) after ∧ after.events = events' ∧ after.notes = before.notes) ↔
        ∃ rounds last, a.Breaks most chat before.events rounds last events' ∧
          outcome = .success (.chat ((chat.after rounds).addMessage (.assistant last)))) := by
  have hstopped : ∀ rounds last stopped, a.Breaks most chat before.events rounds last stopped →
      ∀ next result events',
        (∃ after, a.chain.Gives ((Plan.generate chat).andThen next) before result after ∧
            after.events = events') ↔
          result = .ok (.success (.chat ((chat.after rounds).addMessage (.assistant last)))) ∧
            events' = stopped := by
    intro rounds last stopped hbreaks next result events'
    rw [gives_andThen_iff hmost hl]
    exact settles_stopped next (turn_eq_stopped_iff.2 ⟨rounds, last, hbreaks, rfl⟩)
  constructor
  · intro rounds last stopped hbreaks
    exact ⟨hstopped rounds last stopped hbreaks next, hbreaks.account⟩
  · intro mark outcome events'
    constructor
    · rintro ⟨after, hgives, rfl, hnotes⟩
      have hsettles := (gives_andThen_iff hmost hl chat _).1 ⟨after, hgives, rfl⟩
      obtain ⟨ended, reached, hturn⟩ := stopped_of_settles hsettles hnotes
      obtain ⟨houtcome, hevents⟩ := (settles_stopped _ hturn).1 hsettles
      obtain ⟨rounds, last, hbreaks, rfl⟩ := turn_eq_stopped_iff.1 hturn
      cases houtcome
      rw [hevents]
      exact ⟨rounds, last, hbreaks, rfl⟩
    · rintro ⟨rounds, last, hbreaks, rfl⟩
      obtain ⟨after, hgives, hevents⟩ :=
        (hstopped rounds last events' hbreaks (.noting mark next) _ _).2 ⟨rfl, rfl⟩
      refine ⟨after, hgives, hevents, ?_⟩
      have hnotes := hbreaks.account.2.2
      rw [← hevents] at hnotes
      exact hnotes

/-- A message that asks for the time once more, and asks the user. -/
def askMessage : AssistantMessage where
  content := none
  calls := [clockCall, ⟨"call_2", "ask_user", [], by decide, by decide⟩]
  metadata := []
  spoken := .inr (List.cons_ne_nil _ _)

/-- An assembly whose backend asks for the time and then asks the user. -/
def asking : Assembly :=
  rehearsal .flag [.message (.assistant clockMessage), .message (.assistant askMessage)]

/-- The backend asks for the time and then asks the user.  That ends the turn although no rounds are
left, and a callback that would raise is not called. -/
theorem stopped_by_call_ask_user :
    ∃ (rounds : List Round) (last : AssistantMessage) (after : Ledger),
      asking.chain.Gives
        ((Plan.generate clockChat).andThen fun _ => .raise (.own (.internal "called"))) {}
        (.ok (.success (.chat ((clockChat.after rounds).addMessage (.assistant last))))) after ∧
      after.invocations = rounds.flatMap (·.message.calls) ∧
      after.requests.length = rounds.length + 1 := by
  let plan : Plan := (Plan.generate clockChat).andThen (.noting "called" .pure)
  obtain ⟨item, hgives⟩ := Chain.gives_of_succeeded asking.chain 5 plan {} (by decide +kernel)
  have hnotes : (asking.chain.perform 5 plan {}).2.notes = [] := by decide +kernel
  obtain ⟨rounds, last, hbreaks, -⟩ :=
    ((stopped_by_call (a := asking) rfl .empty clockChat .pure).2 "called" _ _).1
      ⟨_, hgives, rfl, hnotes⟩
  obtain ⟨hruns, hinvocations, hrequests, -⟩ :=
    (stopped_by_call (a := asking) rfl .empty clockChat
      fun _ => .raise (.own (.internal "called"))).1 rounds last _ hbreaks
  obtain ⟨after, hends, hevents⟩ := (hruns _ _).2 ⟨rfl, rfl⟩
  rw [← hevents] at hinvocations hrequests
  exact ⟨rounds, last, after, hends, hinvocations, hrequests.trans (Nat.zero_add _)⟩

end Assembly

end Colloquy
