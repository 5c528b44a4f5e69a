import Colloquy.Proofs.Turn.Assembly

/-!
# Tool calls that fail

The calls of a message are answered in order, up to one that fails where failures
are not told to the model, or that raises.  `Registry.StopsAt` names that call, and
`Assembly.Concludes` what a run comes to after its rounds, with the calls that were
tried for a message that was not answered.

`Assembly.gives_iff_concludes` reads a whole run off such a trace, and
`Assembly.tool_failures` reads off it which calls are invoked and which errors a run
can give.
-/

namespace Colloquy

/-! ## Calls that are not answered -/

/-- Answering calls stops at one of them: those before it have their answers, and it fails where
failures are not told to the model, or it raises an exception. -/
def Registry.StopsAt (r : Registry) (policy : ToolErrorPolicy) (events : List Event)
    (calls : List ToolCall) (answers : List Answer) (call : ToolCall)
    (failure : Except Exception Error) (events' : List Event) : Prop :=
  (∃ later, calls = answers.map Answer.call ++ call :: later) ∧
  (∀ e, failure = .ok e → policy = .raise) ∧
  ∃ reached, r.Answers policy events answers reached ∧
    r.written call reached = (failure.map .error, events')

section

variable {r : Registry} {policy : ToolErrorPolicy} {events events' reached : List Event}
  {failure : Except Exception Error}

/-- There is no answer to a call that fails where failures are not told, or that raises. -/
theorem Registry.answer_eq_failure_iff {call : ToolCall} :
    r.answer policy call events = (failure.map .error, events') ↔
      (∀ e, failure = .ok e → policy = .raise) ∧
        r.written call events = (failure.map .error, events') := by
  constructor
  · intro h
    rcases Registry.answer_cases h with ⟨e, hwritten, hresult⟩ |
      ⟨e, hwritten, ⟨hpolicy, hresult⟩ | ⟨-, hresult⟩⟩ | ⟨text, -, hresult⟩
    · cases failure with
      | error raised =>
        cases hresult
        exact ⟨nofun, hwritten⟩
      | ok e => cases hresult
    · cases failure with
      | error raised => cases hresult
      | ok failed =>
        cases hresult
        exact ⟨fun _ _ => hpolicy, hwritten⟩
    · cases failure <;> cases hresult
    · cases failure <;> cases hresult
  · rintro ⟨hpolicy, hwritten⟩
    cases failure with
    | error raised =>
      rw [Registry.answer, bind_error hwritten]
      rfl
    | ok e =>
      cases hpolicy e rfl
      rw [Registry.answer, bind_ok hwritten]
      rfl

/-- Calls are not all answered when the first one has no answer, or when it has one and the others
are not all answered. -/
theorem Registry.answers_cons_eq_failure_iff {call : ToolCall} {calls : List ToolCall} :
    r.answers policy (call :: calls) events = (failure.map .error, events') ↔
      r.answer policy call events = (failure.map .error, events') ∨
      ∃ answer reached, r.answer policy call events = (.ok (.ok answer), reached) ∧
        r.answers policy calls reached = (failure.map .error, events') := by
  constructor
  · intro h
    rcases Registry.answers_cons_cases h with ⟨e, hanswer, hresult⟩ | ⟨e, hanswer, hresult⟩ |
      ⟨answer, reached, others, hanswer, hothers, hresult⟩
    · cases failure <;> cases hresult
      exact .inl hanswer
    · cases failure <;> cases hresult
      exact .inl hanswer
    · refine .inr ⟨answer, reached, hanswer, ?_⟩
      rcases others with raised | (e | others)
      · cases failure <;> cases hresult
        exact hothers
      · cases failure <;> cases hresult
        exact hothers
      · cases failure <;> cases hresult
  · rintro (hanswer | ⟨answer, reached, hanswer, hothers⟩)
    · cases failure with
      | error raised =>
        rw [Registry.answers, bind_error hanswer]
        rfl
      | ok e =>
        rw [Registry.answers, bind_ok hanswer]
        rfl
    · rw [Registry.answers, bind_ok hanswer]
      dsimp only
      cases failure with
      | error raised =>
        rw [bind_error hothers]
        rfl
      | ok e =>
        rw [bind_ok hothers]
        rfl

/-- The first of some answers, and the others. -/
theorem Registry.Answers.cons_iff {answer : Answer} {others : List Answer} :
    r.Answers policy events (answer :: others) events' ↔
      ∃ reached, r.answer policy answer.call events = (.ok (.ok answer), reached) ∧
        r.Answers policy reached others events' := by
  constructor
  · intro h
    obtain ⟨_, _, reached, heq, hfirst, hothers⟩ := Registry.answers_cons_eq_ok_iff.1
      (Registry.answers_eq_ok_iff.2 ⟨rfl, h⟩)
    cases heq
    exact ⟨reached, hfirst, (Registry.answers_eq_ok_iff.1 hothers).2⟩
  · rintro ⟨reached, hfirst, hothers⟩
    exact (Registry.answers_eq_ok_iff.1 (Registry.answers_cons_eq_ok_iff.2
      ⟨answer, others, reached, rfl, hfirst, Registry.answers_eq_ok_iff.2 ⟨rfl, hothers⟩⟩)).2

/-- Calls are answered up to the one at which that stops. -/
theorem Registry.answers_eq_failure_iff (failure : Except Exception Error)
    {calls : List ToolCall} :
    r.answers policy calls events = (failure.map .error, events') ↔
      ∃ answers call, r.StopsAt policy events calls answers call failure events' := by
  induction calls generalizing events with
  | nil =>
    constructor
    · intro h
      cases failure <;> cases h
    · rintro ⟨answers, call, ⟨later, hcalls⟩, -⟩
      exact absurd (congrArg List.length hcalls) (by simp)
  | cons first calls ih =>
    rw [Registry.answers_cons_eq_failure_iff]
    constructor
    · rintro (hanswer | ⟨answer, reached, hanswer, hothers⟩)
      · obtain ⟨huntold, hwritten⟩ := Registry.answer_eq_failure_iff.1 hanswer
        exact ⟨[], first, ⟨calls, rfl⟩, huntold, events, .nil events, hwritten⟩
      · obtain ⟨others, call, ⟨later, hcalls⟩, huntold, written, hrest, hwritten⟩ :=
          ih.1 hothers
        have hcall : answer.call = first := (Registry.answer_eq_ok_iff.1 hanswer).1
        subst hcall
        refine ⟨answer :: others, call, ⟨later, ?_⟩, huntold, written,
          Registry.Answers.cons_iff.2 ⟨reached, hanswer, hrest⟩, hwritten⟩
        rw [hcalls, List.map_cons, List.cons_append]
    · rintro ⟨answers, call, ⟨later, hcalls⟩, huntold, written, hanswers, hwritten⟩
      cases answers with
      | nil =>
        cases hcalls
        cases hanswers
        exact .inl (Registry.answer_eq_failure_iff.2 ⟨huntold, hwritten⟩)
      | cons answer others =>
        cases hcalls
        obtain ⟨reached, hanswer, hothers⟩ := Registry.Answers.cons_iff.1 hanswers
        exact .inr ⟨answer, reached, hanswer,
          ih.2 ⟨others, call, ⟨later, rfl⟩, huntold, written, hothers, hwritten⟩⟩

/-- Up to the call at which answering stops each call is invoked once, and nothing is sent. -/
theorem Registry.StopsAt.account {calls : List ToolCall} {answers : List Answer} {call : ToolCall}
    (h : r.StopsAt policy events calls answers call failure events') :
    requestsIn events' = requestsIn events ∧
      invocationsIn events' = invocationsIn events ++ (answers.map Answer.call ++ [call]) := by
  obtain ⟨-, -, reached, hanswers, hwritten⟩ := h
  obtain ⟨hrequests, hinvocations⟩ := Registry.written_account hwritten
  rw [hrequests, hinvocations, hanswers.account.1, hanswers.account.2, List.append_assoc]
  exact ⟨rfl, rfl⟩

end

namespace Assembly

variable {a : Assembly} {most left : Nat} {chat : Chat} {before : Ledger}
  {events reached events' : List Event} {tried : List ToolCall}
  {result : Except Exception Outcome}

/-! ## Traces of runs -/

/-- What a run comes to after its rounds, with a number of rounds left, and the calls that it tried
for a message without answering all of its calls. -/
inductive Concludes (a : Assembly) (left : Nat) (chat : Chat) (events : List Event) :
    List ToolCall → Except Exception Outcome → List Event → Prop
  /-- The exchange fails, or it raises an exception. -/
  | unanswered (failure : Except Exception Error) {events' : List Event}
      (h : a.generator.next chat events = (failure.map .error, events')) :
      Concludes a left chat events [] (failure.map fun e => .failure (.own e)) events'
  /-- The last message calls a tool that is watched for, or it has no calls. -/
  | given {message : AssistantMessage} {events' : List Event}
      (h : a.generator.next chat events = (.ok (.ok message), events'))
      (hlast : callsAny a.names message.calls = true ∨ message.calls = []) :
      Concludes a left chat events []
        (.ok (.success (.chat (chat.addMessage (.assistant message))))) events'
  /-- The last message has calls, and no rounds are left. -/
  | exhausted {message : AssistantMessage} {events' : List Event} (hleft : left = 0)
      (h : a.generator.next chat events = (.ok (.ok message), events'))
      (hnames : callsAny a.names message.calls = false) (hcalls : message.calls ≠ []) :
      Concludes a left chat events []
        (.ok (.failure (.own (.toolRounds a.executor.limit.toValue)))) events'
  /-- The last message has calls, and answering them stops at one. -/
  | untold {message : AssistantMessage} {written events' : List Event} {answers : List Answer}
      {call : ToolCall} {failure : Except Exception Error} (hleft : left ≠ 0)
      (h : a.generator.next chat events = (.ok (.ok message), written))
      (hnames : callsAny a.names message.calls = false)
      (hstops : a.executor.registry.StopsAt a.executor.policy written message.calls answers call
        failure events') :
      Concludes a left chat events (answers.map Answer.call ++ [call])
        (failure.map fun e => .failure (.own e)) events'

/-- A run concludes as its turn closes. -/
theorem concludes_of_closes {r : Except Exception TurnEnd}
    (h : a.solo.Closes left chat events r events') :
    ∃ tried, a.Concludes left chat events tried (r.map TurnEnd.outcome) events' := by
  have hwatched := a.solo_watchedLater
  rcases r with raised | ending
  · cases h with
    | exchange hnext => exact ⟨_, .unanswered (.error raised) hnext⟩
    | call hleft hnext hnames _ hanswers =>
      rw [hwatched] at hnames
      obtain ⟨answers, call, hstops⟩ :=
        (Registry.answers_eq_failure_iff (.error raised)).1 hanswers
      exact ⟨_, .untold hleft hnext hnames hstops⟩
  · cases h with
    | @unanswered e _ hnext => exact ⟨_, .unanswered (.ok e) hnext⟩
    | stopped hnext hnames =>
      rw [hwatched] at hnames
      exact ⟨_, .given hnext (.inl hnames)⟩
    | replied hnext hcalls => exact ⟨_, .given hnext (.inr hcalls)⟩
    | exhausted hleft hnext hnames hcalls =>
      rw [hwatched] at hnames
      exact ⟨_, .exhausted hleft hnext hnames hcalls⟩
    | @refused _ e _ _ hleft hnext hnames _ hanswers =>
      rw [hwatched] at hnames
      obtain ⟨answers, call, hstops⟩ :=
        (Registry.answers_eq_failure_iff (.ok e)).1 hanswers
      exact ⟨_, .untold hleft hnext hnames hstops⟩

/-- A turn closes as the run that it is concludes. -/
theorem Concludes.closes (h : a.Concludes left chat events tried result events') :
    ∃ r, a.solo.Closes left chat events r events' ∧ result = r.map TurnEnd.outcome := by
  have hwatched := a.solo_watchedLater
  cases h with
  | unanswered failure hnext =>
    cases failure with
    | error raised => exact ⟨.error raised, .exchange hnext, rfl⟩
    | ok e => exact ⟨.ok (.failed e), .unanswered hnext, rfl⟩
  | @given message _ hnext hlast =>
    rcases hlast with hnames | hcalls
    · rw [← hwatched] at hnames
      exact ⟨.ok _, .stopped hnext hnames, rfl⟩
    · exact ⟨.ok _, .replied hnext hcalls, rfl⟩
  | exhausted hleft hnext hnames hcalls =>
    rw [← hwatched] at hnames
    exact ⟨.ok _, .exhausted hleft hnext hnames hcalls, rfl⟩
  | @untold message _ _ answers call failure hleft hnext hnames hstops =>
    rw [← hwatched] at hnames
    have hanswers := (Registry.answers_eq_failure_iff _).2 ⟨answers, call, hstops⟩
    have hcalls : message.calls ≠ [] := by
      obtain ⟨⟨later, hcalls⟩, -⟩ := hstops
      rw [hcalls]
      simp
    cases failure with
    | error raised => exact ⟨.error raised, .call hleft hnext hnames hcalls hanswers, rfl⟩
    | ok e => exact ⟨.ok (.failed e), .refused hleft hnext hnames hcalls hanswers, rfl⟩

/-- A run is a trace of rounds and what it comes to after them, and every such trace is a run. -/
theorem gives_iff_concludes (hmost : a.executor.limit.rounds? = some most) (hl : before.Sound)
    (chat : Chat) :
    (∃ after, a.chain.Gives (.generate chat) before result after ∧ after.events = events') ↔
      ∃ rounds reached tried, rounds.length ≤ most ∧ a.Rounds chat before.events rounds reached ∧
        a.Concludes (most - rounds.length) (chat.after rounds) reached tried result events' := by
  rw [gives_iff_turn hmost hl chat]
  constructor
  · rintro ⟨r, hturn, rfl⟩
    obtain ⟨rounds, reached, hlength, hrounds, hcloses⟩ := SoloChain.turn_eq_iff.1 hturn
    rw [a.solo_rounds] at hrounds
    obtain ⟨tried, hconcludes⟩ := concludes_of_closes hcloses
    exact ⟨rounds, reached, tried, hlength, hrounds, hconcludes⟩
  · rintro ⟨rounds, reached, tried, hlength, hrounds, hconcludes⟩
    obtain ⟨r, hcloses, hresult⟩ := hconcludes.closes
    rw [← a.solo_rounds] at hrounds
    exact ⟨r, SoloChain.turn_eq_iff.2 ⟨rounds, reached, hlength, hrounds, hcloses⟩, hresult⟩

/-- A trace leaves nothing open of its run. -/
theorem gives_iff_of_concludes (hmost : a.executor.limit.rounds? = some most) (hl : before.Sound)
    {rounds : List Round} (hlength : rounds.length ≤ most)
    (hrounds : a.Rounds chat before.events rounds reached) {concluded : List Event}
    {given : Except Exception Outcome}
    (h : a.Concludes (most - rounds.length) (chat.after rounds) reached tried given concluded) :
    (∃ after, a.chain.Gives (.generate chat) before result after ∧ after.events = events') ↔
      result = given ∧ events' = concluded := by
  obtain ⟨r, hcloses, rfl⟩ := h.closes
  rw [← a.solo_rounds] at hrounds
  have hturn := SoloChain.turn_eq_iff.2 ⟨rounds, reached, hlength, hrounds, hcloses⟩
  rw [gives_iff_turn hmost hl chat, hturn]
  constructor
  · rintro ⟨r', heq, rfl⟩
    cases heq
    exact ⟨rfl, rfl⟩
  · rintro ⟨rfl, rfl⟩
    exact ⟨r, rfl, rfl⟩

/-- The calls of the rounds are invoked, and after them just those that are tried. -/
theorem Concludes.invocations {rounds : List Round}
    (hrounds : a.Rounds chat events rounds reached)
    (h : a.Concludes left (chat.after rounds) reached tried result events') :
    invocationsIn events'
      = invocationsIn events ++ rounds.flatMap (·.message.calls) ++ tried := by
  rw [← hrounds.invocations]
  cases h with
  | unanswered _ hnext | given hnext | exhausted _ hnext =>
    rw [(Generator.next_account hnext).2, List.append_nil]
  | untold _ hnext _ hstops => rw [hstops.account.2, (Generator.next_account hnext).2]

/-- Where failures are told to the model, a run that gives something tries no calls after its
rounds. A failure that it gives is that of an exchange, or the rounds are used up. -/
theorem Concludes.of_continue (hpolicy : a.executor.policy = .continue) {outcome : Outcome}
    (h : a.Concludes left chat events tried (.ok outcome) events') :
    tried = [] ∧ ∀ e, outcome = .failure e →
      (e = .own (.toolRounds a.executor.limit.toValue) ∧ left = 0) ∨
      ∃ error, e = .own error ∧ a.generator.next chat events = (.ok (.error error), events') := by
  generalize hresult : (Except.ok outcome : Except Exception Outcome) = result at h
  cases h with
  | unanswered failure hnext =>
    cases failure with
    | error raised => cases hresult
    | ok error =>
      cases hresult
      refine ⟨rfl, fun e he => .inr ⟨error, ?_, hnext⟩⟩
      cases he
      rfl
  | given =>
    cases hresult
    exact ⟨rfl, nofun⟩
  | exhausted hleft =>
    cases hresult
    refine ⟨rfl, fun e he => .inl ⟨?_, hleft⟩⟩
    cases he
    rfl
  | @untold _ _ _ _ _ failure _ _ _ hstops =>
    cases failure with
    | error raised => cases hresult
    | ok error =>
      -- only the policy that raises leaves the failure of a call untold
      have hraise := hstops.2.1 error rfl
      rw [hpolicy] at hraise
      cases hraise

/-! ## Failures of tools -/

/-- What failed calls do to a run.  The calls that a run invokes are those of its rounds, once each
and in order, and after them the calls that are tried for a message that is not answered.  When a
call fails where failures are not told to the model, the run gives that very failure: no later call
of the message is invoked and nothing more is sent.  Where failures are told, a run that gives
something has invoked all calls of all messages that it answered, and it gives no failure but that
of an exchange or the one for too many rounds. -/
theorem tool_failures (hmost : a.executor.limit.rounds? = some most) (hl : before.Sound)
    (chat : Chat) :
    (∀ result after, a.chain.Gives (.generate chat) before result after →
      ∃ rounds reached tried, rounds.length ≤ most ∧ a.Rounds chat before.events rounds reached ∧
        a.Concludes (most - rounds.length) (chat.after rounds) reached tried result after.events ∧
        after.invocations
          = before.invocations ++ rounds.flatMap (·.message.calls) ++ tried) ∧
    (∀ rounds reached message written answers call e failed, rounds.length < most →
      a.Rounds chat before.events rounds reached →
      a.generator.next (chat.after rounds) reached = (.ok (.ok message), written) →
      callsAny a.names message.calls = false →
      a.executor.registry.StopsAt a.executor.policy written message.calls answers call (.ok e)
        failed →
      (∀ result events',
        (∃ after, a.chain.Gives (.generate chat) before result after ∧ after.events = events') ↔
          result = .ok (.failure (.own e)) ∧ events' = failed) ∧
      invocationsIn failed = before.invocations ++ rounds.flatMap (·.message.calls)
        ++ (answers.map Answer.call ++ [call]) ∧
      (requestsIn failed).length = before.requests.length + (rounds.length + 1)) ∧
    (a.executor.policy = .continue → ∀ outcome after,
      a.chain.Gives (.generate chat) before (.ok outcome) after →
      ∃ rounds reached, rounds.length ≤ most ∧ a.Rounds chat before.events rounds reached ∧
        after.invocations = before.invocations ++ rounds.flatMap (·.message.calls) ∧
        ∀ e, outcome = .failure e →
          (e = .own (.toolRounds a.executor.limit.toValue) ∧ rounds.length = most) ∨
          ∃ error, e = .own error ∧
            a.generator.next (chat.after rounds) reached = (.ok (.error error), after.events)) := by
  refine ⟨?_, ?_, ?_⟩
  · intro result after h
    obtain ⟨rounds, reached, tried, hlength, hrounds, hconcludes⟩ :=
      (gives_iff_concludes hmost hl chat).1 ⟨after, h, rfl⟩
    exact ⟨rounds, reached, tried, hlength, hrounds, hconcludes, hconcludes.invocations hrounds⟩
  · intro rounds reached message written answers call e failed hlength hrounds hnext hnames hstops
    have hconcludes := Concludes.untold (by omega : most - rounds.length ≠ 0) hnext hnames hstops
    refine ⟨fun result events' => ?_, hconcludes.invocations hrounds, ?_⟩
    · exact gives_iff_of_concludes hmost hl (Nat.le_of_lt hlength) hrounds hconcludes
    · obtain ⟨requests, hin, hcount, -⟩ := hrounds.requests hnext
      rw [hstops.account.1, hin, List.length_append, hcount]
      rfl
  · intro hpolicy outcome after h
    obtain ⟨rounds, reached, tried, hlength, hrounds, hconcludes⟩ :=
      (gives_iff_concludes hmost hl chat).1 ⟨after, h, rfl⟩
    obtain ⟨rfl, hfailure⟩ := hconcludes.of_continue hpolicy
    refine ⟨rounds, reached, hlength, hrounds, ?_, ?_⟩
    · have hinvocations := hconcludes.invocations hrounds
      rw [List.append_nil] at hinvocations
      exact hinvocations
    · intro e he
      rcases hfailure e he with ⟨hlimit, hleft⟩ | hexchange
      · exact .inl ⟨hlimit, by omega⟩
      · exact .inr hexchange

/-- A call of a tool that there is not. -/
def sundialCall : ToolCall :=
  ⟨"call_1", "sundial", [], clockCall.identified, by decide⟩

/-- An assembly whose backend asks for the tool that there is not, and then for the time. -/
def misled : Assembly :=
  rehearsal .flag [.message (.assistant
    { content := none, calls := [sundialCall, clockCall], metadata := [],
      spoken := .inr (List.cons_ne_nil _ _) })]

/-- The calls of the message that an exchange gives. -/
def callsGiven : Except Exception (Except Error AssistantMessage) → Option (List ToolCall)
  | .ok (.ok message) => some message.calls
  | _ => none

/-- The run gives the failure of the first call; the second call is not invoked. -/
theorem tool_failures_sundial :
    ∃ e after, misled.chain.Gives (.generate clockChat) {} (.ok (.failure (.own e))) after ∧
      after.invocations = [sundialCall] ∧ after.requests.length = 1 := by
  have hgiven : callsGiven (misled.generator.next clockChat []).1
      = some [sundialCall, clockCall] := by decide +kernel
  obtain ⟨message, written, hnext, hcalls⟩ : ∃ message written,
      misled.generator.next clockChat [] = (.ok (.ok message), written) ∧
        message.calls = [sundialCall, clockCall] := by
    cases hnext : misled.generator.next clockChat [] with
    | mk result written =>
      rw [hnext] at hgiven
      rcases result with raised | (e | message)
      · cases hgiven
      · cases hgiven
      · exact ⟨message, written, rfl, Option.some.inj hgiven⟩
  have hstops : misled.executor.registry.StopsAt .raise written message.calls [] sundialCall
      (.ok (misled.executor.registry.unknown sundialCall)) (written ++ [.invoked sundialCall]) :=
    ⟨⟨[clockCall], hcalls⟩, fun _ _ => rfl, written, .nil written, rfl⟩
  have hnames : callsAny misled.names message.calls = false := by
    rw [hcalls]
    decide
  obtain ⟨hruns, hinvocations, hrequests⟩ :=
    (tool_failures (a := misled) rfl .empty clockChat).2.1 [] [] message written [] sundialCall _ _
      (by decide) (.nil clockChat []) (by rw [Chat.after_nil]; exact hnext) hnames hstops
  obtain ⟨after, hgives, hevents⟩ := (hruns _ _).2 ⟨rfl, rfl⟩
  rw [← hevents] at hinvocations hrequests
  exact ⟨_, after, hgives, hinvocations, hrequests⟩

end Assembly

end Colloquy
