import Colloquy.Proofs.Turn.Round

/-!
# The account of a turn

Requests and invocations are counted here along a turn.  A generation sends one
request at most, a call is handed to the registry once, and nothing else in a turn
does either.  So a turn sends at most one request more than there are rounds
(`SoloChain.turn_requests`), and a trace of rounds determines the requests and the
invocations of its turn.
-/

namespace Colloquy

/-! ## Single steps -/

section

variable {g : Generator} {r : Registry} {policy : ToolErrorPolicy} {chat : Chat}
  {events events' : List Event}

/-- A message comes of one request, which was built for the chat. -/
theorem Generator.next_ok {message : AssistantMessage}
    (h : g.next chat events = (.ok (.ok message), events')) :
    ∃ request, g.backend.buildRequest g.model chat = .ok request ∧
      g.reply events request = .ok message ∧ events' = events ++ [.requested request] := by
  rw [Generator.next] at h
  cases hrequest : g.backend.buildRequest g.model chat with
  | error e =>
    rw [hrequest] at h
    cases e <;> cases h
  | ok request =>
    rw [hrequest] at h
    dsimp only at h
    cases hreply : g.reply events request with
    | error e =>
      rw [hreply] at h
      cases e <;> cases h
    | ok written =>
      rw [hreply] at h
      cases h
      exact ⟨request, rfl, hreply, rfl⟩

/-- An exchange leaves no event but the request that is sent. -/
theorem Generator.next_events {result : Except Exception (Except Error AssistantMessage)}
    (h : g.next chat events = (result, events')) :
    events' = events ∨ ∃ request, events' = events ++ [.requested request] := by
  rw [Generator.next] at h
  cases hrequest : g.backend.buildRequest g.model chat with
  | error e =>
    rw [hrequest] at h
    cases h
    exact .inl rfl
  | ok request =>
    rw [hrequest] at h
    cases h
    exact .inr ⟨request, rfl⟩

/-- An exchange sends one request at most and invokes nothing. -/
theorem Generator.next_account {result : Except Exception (Except Error AssistantMessage)}
    (h : g.next chat events = (result, events')) :
    (requestsIn events').length ≤ (requestsIn events).length + 1 ∧
      invocationsIn events' = invocationsIn events := by
  rcases Generator.next_events h with rfl | ⟨request, rfl⟩
  · exact ⟨Nat.le_succ _, rfl⟩
  · rw [requestsIn_append, invocationsIn_append, List.length_append]
    exact ⟨Nat.le_refl _, List.append_nil _⟩

/-- No callback is called for an exchange. -/
theorem Generator.next_notes {result : Except Exception (Except Error AssistantMessage)}
    (h : g.next chat events = (result, events')) : notesIn events' = notesIn events := by
  rcases Generator.next_events h with rfl | ⟨request, rfl⟩
  · rfl
  · rw [notesIn_append]
    exact List.append_nil _

/-- A call is handed to the registry, and its arguments to a handler when they fit one. -/
theorem Registry.written_events {call : ToolCall} {result : Except Exception (Except Error Text)}
    (h : r.written call events = (result, events')) :
    events' = events ++ [.invoked call] ∨
      ∃ arguments, events' = events ++ [.invoked call, .handled arguments] := by
  rw [Registry.written] at h
  cases htool : r.get? call.name with
  | none =>
    rw [htool] at h
    cases h
    exact .inl rfl
  | some tool =>
    rw [htool] at h
    dsimp only at h
    cases harguments : tool.arguments call with
    | error e =>
      rw [harguments] at h
      cases h
      exact .inl rfl
    | ok arguments =>
      rw [harguments] at h
      dsimp only at h
      refine .inr ⟨arguments, ?_⟩
      cases houtput : tool.handler (events ++ [.invoked call, .handled arguments]) arguments with
      | ok output =>
        rw [houtput] at h
        cases h
        rfl
      | error e =>
        rw [houtput] at h
        cases h
        rfl

/-- A call is handed to the registry once, and no request is sent. -/
theorem Registry.written_account {call : ToolCall} {result : Except Exception (Except Error Text)}
    (h : r.written call events = (result, events')) :
    requestsIn events' = requestsIn events ∧
      invocationsIn events' = invocationsIn events ++ [call] := by
  rcases Registry.written_events h with rfl | ⟨arguments, rfl⟩
  · rw [requestsIn_append, invocationsIn_append]
    exact ⟨List.append_nil _, rfl⟩
  · rw [requestsIn_append, invocationsIn_append]
    exact ⟨List.append_nil _, rfl⟩

/-- No callback is called for a tool call. -/
theorem Registry.written_notes {call : ToolCall} {result : Except Exception (Except Error Text)}
    (h : r.written call events = (result, events')) : notesIn events' = notesIn events := by
  rcases Registry.written_events h with rfl | ⟨arguments, rfl⟩
  · rw [notesIn_append]
    exact List.append_nil _
  · rw [notesIn_append]
    exact List.append_nil _

/-- No request is sent while calls are answered, however that ends. -/
theorem Registry.answers_requests {calls : List ToolCall}
    {result : Except Exception (Except Error (List Answer))}
    (h : r.answers policy calls events = (result, events')) :
    requestsIn events' = requestsIn events := by
  induction calls generalizing events events' result with
  | nil =>
    cases h
    rfl
  | cons call calls ih =>
    have hfirst : ∀ {result reached}, r.answer policy call events = (result, reached) →
        requestsIn reached = requestsIn events := by
      intro result reached hanswer
      rcases Registry.answer_cases hanswer with ⟨e, hwritten, -⟩ | ⟨e, hwritten, -⟩ |
        ⟨text, hwritten, -⟩
      · exact (Registry.written_account hwritten).1
      · exact (Registry.written_account hwritten).1
      · exact (Registry.written_account hwritten).1
    rcases Registry.answers_cons_cases h with ⟨e, hanswer, -⟩ | ⟨e, hanswer, -⟩ |
      ⟨answer, reached, others, hanswer, hothers, -⟩
    · exact hfirst hanswer
    · exact hfirst hanswer
    · exact (ih hothers).trans (hfirst hanswer)

/-- Every call that is answered was handed to the registry once, in order. -/
theorem Registry.Answers.account {answers : List Answer}
    (h : r.Answers policy events answers events') :
    requestsIn events' = requestsIn events ∧
      invocationsIn events' = invocationsIn events ++ answers.map Answer.call := by
  induction h with
  | nil events => exact ⟨rfl, (List.append_nil _).symm⟩
  | output h _ ih | failure _ h _ ih =>
    obtain ⟨hrequests, hinvocations⟩ := Registry.written_account h
    rw [ih.1, ih.2, hrequests, hinvocations, List.append_assoc]
    exact ⟨rfl, rfl⟩

theorem Registry.Answers.notes {answers : List Answer}
    (h : r.Answers policy events answers events') : notesIn events' = notesIn events := by
  induction h with
  | nil events => rfl
  | output h _ ih | failure _ h _ ih => exact ih.trans (Registry.written_notes h)

end

/-! ## Rounds -/

/-- Each of the requests was built for the chat after as many rounds as there are requests before
it. -/
def Generator.Requested (g : Generator) (chat : Chat) (rounds : List Round)
    (requests : List Wire.Request) : Prop :=
  ∀ (i : Nat) (h : i < requests.length),
    g.backend.buildRequest g.model (chat.after (rounds.take i)) = .ok requests[i]

theorem Generator.Requested.cons {g : Generator} {chat : Chat} {round : Round}
    {rounds : List Round} {request : Wire.Request} {requests : List Wire.Request}
    (hrequest : g.backend.buildRequest g.model chat = .ok request)
    (h : g.Requested ((chat.addMessage (.assistant round.message)).answered round.answers) rounds
      requests) :
    g.Requested chat (round :: rounds) (request :: requests) := by
  intro i hi
  cases i with
  | zero =>
    rw [List.take_zero, Chat.after_nil]
    exact hrequest
  | succ i =>
    rw [List.take_succ_cons, Chat.after_cons]
    exact h i (Nat.lt_of_succ_lt_succ hi)

section

variable {g : Generator} {r : Registry} {policy : ToolErrorPolicy} {names : List Text}
  {chat : Chat} {events events' : List Event} {rounds : List Round}

/-- Rounds and one more message sent one request each. -/
theorem Rounds.requests (h : Rounds g r policy names chat events rounds events')
    {last : AssistantMessage} {written : List Event}
    (hlast : g.next (chat.after rounds) events' = (.ok (.ok last), written)) :
    ∃ requests, requestsIn written = requestsIn events ++ requests ∧
      requests.length = rounds.length + 1 ∧ g.Requested chat rounds requests := by
  induction h with
  | nil chat events =>
    obtain ⟨request, hrequest, -, rfl⟩ := Generator.next_ok hlast
    rw [Chat.after_nil] at hrequest
    refine ⟨[request], requestsIn_append _ _, rfl, ?_⟩
    intro i hi
    cases i with
    | zero =>
      rw [List.take_zero, Chat.after_nil]
      exact hrequest
    | succ i => exact absurd hi (by simp)
  | cons hmessage hnames hanswers hrest ih =>
    rw [Chat.after_cons] at hlast
    obtain ⟨requests, hin, hlength, hrequested⟩ := ih hlast
    obtain ⟨request, hrequest, -, rfl⟩ := Generator.next_ok hmessage
    refine ⟨request :: requests, ?_, by rw [List.length_cons, hlength, List.length_cons],
      .cons hrequest hrequested⟩
    rw [hin, hanswers.account.1, requestsIn_append, List.append_assoc]
    rfl

/-- The calls of rounds were invoked once each, in order. -/
theorem Rounds.invocations (h : Rounds g r policy names chat events rounds events') :
    invocationsIn events' = invocationsIn events ++ rounds.flatMap (·.message.calls) := by
  induction h with
  | nil chat events => exact (List.append_nil _).symm
  | @cons chat round rounds _ _ _ _ hmessage hnames hanswers hrest ih =>
    rw [ih, hanswers.account.2, round.complete, (Generator.next_account hmessage).2,
      List.append_assoc, List.flatMap_cons]

/-- No callback is called in rounds. -/
theorem Rounds.notes (h : Rounds g r policy names chat events rounds events') :
    notesIn events' = notesIn events := by
  induction h with
  | nil chat events => rfl
  | cons hmessage hnames hanswers hrest ih =>
    exact ih.trans (hanswers.notes.trans (Generator.next_notes hmessage))

end

/-! ## Turns -/

namespace SoloChain

variable {s : SoloChain}

/-- A turn ends with its first exchange, or that gives a message with calls to be answered. -/
theorem turn_exchange (left : Nat) (names : List Text) (chat : Chat) (events : List Event) :
    (requestsIn (s.turn left names chat events).2).length ≤ (requestsIn events).length + 1 ∨
    ∃ message written, s.generator.next chat events = (.ok (.ok message), written) ∧
      callsAny names message.calls = false ∧ message.calls ≠ [] := by
  rcases s.next_cases names chat events with ⟨e, written, hnext⟩ | ⟨e, written, hnext⟩ |
    ⟨message, written, hnext, hnames | hcalls | ⟨hnames, hcalls⟩⟩
  · rw [turn_raised hnext]
    exact .inl (Generator.next_account hnext).1
  · rw [turn_unanswered hnext]
    exact .inl (Generator.next_account hnext).1
  · rw [turn_stopped hnext hnames]
    exact .inl (Generator.next_account hnext).1
  · rw [turn_replied hnext hcalls]
    exact .inl (Generator.next_account hnext).1
  · exact .inr ⟨message, written, hnext, hnames, hcalls⟩

/-- A turn sends at most one request more than it has rounds left, however it ends. -/
theorem turn_requests (left : Nat) (names : List Text) (chat : Chat) (events : List Event) :
    (requestsIn (s.turn left names chat events).2).length
      ≤ (requestsIn events).length + (left + 1) := by
  induction left generalizing names chat events with
  | zero =>
    rcases s.turn_exchange 0 names chat events with hends |
      ⟨message, written, hnext, hnames, hcalls⟩
    · exact hends
    · rw [turn_exhausted hnext hnames hcalls]
      exact (Generator.next_account hnext).1
  | succ left ih =>
    rcases s.turn_exchange (left + 1) names chat events with hends |
      ⟨message, written, hnext, hnames, hcalls⟩
    · omega
    · have hone := (Generator.next_account hnext).1
      rw [turn_answered hnext hnames hcalls, bind_apply]
      cases hround : s.runner.registry.answers s.executor.policy message.calls written with
      | mk result answered =>
        have hsame := congrArg List.length (Registry.answers_requests hround)
        rcases result with e | (e | answers)
        · show (requestsIn answered).length ≤ _
          omega
        · show (requestsIn answered).length ≤ _
          omega
        · have hlater := ih s.watchedLater
            ((chat.addMessage (.assistant message)).answered answers) answered
          dsimp only
          omega

end SoloChain

end Colloquy
