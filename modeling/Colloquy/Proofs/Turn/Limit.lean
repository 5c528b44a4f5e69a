import Colloquy.Proofs.Provider.Raised
import Colloquy.Proofs.Turn.Assembly

/-!
# The limit of rounds

A turn of a session ends after at most one exchange more than its limit has rounds.
The error for a turn that keeps asking for tools comes of nothing else: neither an
exchange with a backend nor a tool call gives it.  So `Assembly.rounds_limit` can say
exactly when a run gives that error.
-/

namespace Colloquy

/-! ## Errors of exchanges and of tool calls -/

theorem ownAsData_eq_error {α : Type} {r : Except Exception α} {e : Error}
    (h : ownAsData r = .ok (.error e)) : r = .error (.own e) := by
  cases r with
  | ok x => cases h
  | error e' =>
    cases e' with
    | own e' =>
      cases h
      rfl
    | foreign cls text => cases h

/-- A transport that answers a request with a response or with a failed call of the provider. -/
def Transport.Answers (transport : Transport) : Prop :=
  ∀ events request e, transport events request = .error e → e.isApi = true

/-- What a response is read as raises errors of the classes for responses alone. -/
theorem Generator.receive_raises (g : Generator) (response : Wire.Response) :
    Raises (Exception.Among (bodyClasses ++ statusClasses)) (g.receive response) := by
  refine .ite ((Backend.parseResponse_raises _ _).mono fun e he => ?_) fun e he => ?_
  · rcases he with he | ⟨-, he⟩
    · exact (he.mono (List.subset_append_left _ _) (List.Subset.refl _)).among
    · exact (he.mono (by decide) (List.Subset.refl _)).among
  · cases hread : errorOfResponse response g.backend.provider.name with
    | ok read =>
      rw [hread] at he
      cases he
      exact List.mem_append_right _ (errorOfResponse_cls hread)
    | error raised =>
      rw [hread] at he
      cases he
      have hforeign := errorOfResponse_raises _ _ _ hread
      cases e with
      | own e => cases hforeign
      | foreign cls text => trivial

/-- No exchange gives the error for a turn that keeps asking for tools. -/
theorem Generator.next_cls {g : Generator} (hanswers : g.transport.Answers) {chat : Chat}
    {events events' : List Event} {e : Error}
    (h : g.next chat events = (.ok (.error e), events')) : e.cls ≠ .toolRounds := by
  have hresult := congrArg Prod.fst h
  rw [Generator.next] at hresult
  cases hrequest : g.backend.buildRequest g.model chat with
  | error raised =>
    rw [hrequest] at hresult
    have hown := ownAsData_eq_error hresult
    cases hown
    exact (g.backend.buildRequest_raises g.model chat _ hrequest).cls_ne (by decide)
  | ok request =>
    rw [hrequest] at hresult
    have hreply : g.reply events request = .error (.own e) := ownAsData_eq_error hresult
    rw [Generator.reply] at hreply
    cases htransport : g.transport events request with
    | error raised =>
      rw [htransport] at hreply
      cases hreply
      have hapi := hanswers events request _ htransport
      intro hcls
      rw [Exception.isApi, Error.isA, hcls] at hapi
      exact absurd hapi (by decide)
    | ok response =>
      rw [htransport] at hreply
      exact (g.receive_raises response _ hreply).cls_ne (by decide)

/-- The classes of the errors of tool calls. -/
def callClasses : List ErrorClass :=
  [.toolNotFound, .toolArguments, .toolExecution, .serialization]

theorem Registry.written_cls {r : Registry} {call : ToolCall} {events events' : List Event}
    {e : Error} (h : r.written call events = (.ok (.error e), events')) : e.cls ∈ callClasses := by
  have hnotFound : ErrorClass.toolNotFound ∈ callClasses := by decide
  have hexecution : ErrorClass.toolExecution ∈ callClasses := by decide
  have hresult := congrArg Prod.fst h
  rw [Registry.written] at hresult
  cases htool : r.get? call.name with
  | none =>
    rw [htool] at hresult
    cases hresult
    exact hnotFound
  | some tool =>
    rw [htool] at hresult
    dsimp only at hresult
    cases harguments : tool.arguments call with
    | error fault =>
      rw [harguments] at hresult
      cases hresult
      rw [Tool.arguments_cls harguments]
      decide
    | ok arguments =>
      rw [harguments] at hresult
      dsimp only at hresult
      cases houtput : tool.handler (events ++ [.invoked call, .handled arguments]) arguments with
      | ok output =>
        rw [houtput] at hresult
        rw [Tool.written_cls (Except.ok.inj hresult)]
        decide
      | error raised =>
        rw [houtput] at hresult
        dsimp only at hresult
        split at hresult
        · cases hresult
          exact hexecution
        · cases hresult

/-- An error that calls are not answered for is the error of one of them. -/
theorem Registry.answers_cls {r : Registry} {policy : ToolErrorPolicy} {calls : List ToolCall}
    {events events' : List Event} {e : Error}
    (h : r.answers policy calls events = (.ok (.error e), events')) : e.cls ∈ callClasses := by
  induction calls generalizing events with
  | nil => cases h
  | cons call calls ih =>
    rcases Registry.answers_cons_cases h with ⟨e', -, hresult⟩ | ⟨e', hanswer, hresult⟩ |
      ⟨answer, reached, others, -, hothers, hresult⟩
    · cases hresult
    · cases hresult
      rcases Registry.answer_cases hanswer with ⟨e', -, hanswer⟩ |
        ⟨e', hwritten, ⟨-, hanswer⟩ | ⟨-, hanswer⟩⟩ | ⟨text, -, hanswer⟩
      · cases hanswer
      · cases hanswer
        exact Registry.written_cls hwritten
      · cases hanswer
      · cases hanswer
    · rcases others with e' | (e' | answers)
      · cases hresult
      · cases hresult
        exact ih hothers
      · cases hresult

/-! ## Runs that use up their rounds -/

namespace Assembly

variable {a : Assembly} {most : Nat} {before : Ledger}

/-- A turn that uses up its rounds: there are as many as the limit allows, and after them one more
message has calls, none of which ends the turn. -/
def Exhausts (a : Assembly) (most : Nat) (chat : Chat) (events : List Event) (rounds : List Round)
    (last : AssistantMessage) (events' : List Event) : Prop :=
  rounds.length = most ∧
  ∃ reached, a.Rounds chat events rounds reached ∧
    a.generator.next (chat.after rounds) reached = (.ok (.ok last), events') ∧
    last.calls ≠ [] ∧ callsAny a.names last.calls = false

/-- A turn fails for want of rounds when it uses them up, and only then. -/
theorem turn_eq_toolRounds_iff (hanswers : a.generator.transport.Answers) {chat : Chat}
    {events events' : List Event} :
    a.solo.turn most a.solo.watchedLater chat events
        = (.ok (.failed (.toolRounds a.executor.limit.toValue)), events') ↔
      ∃ rounds last, a.Exhausts most chat events rounds last events' := by
  rw [SoloChain.turn_eq_ok_iff]
  constructor
  · rintro ⟨rounds, reached, hlength, hrounds, hlast⟩
    rw [a.solo_rounds] at hrounds
    -- only the last step for want of rounds ends with this error
    generalize hending : TurnEnd.failed (.toolRounds a.executor.limit.toValue) = ending at hlast
    cases hlast with
    | stopped => cases hending
    | replied => cases hending
    | unanswered hnext =>
      cases hending
      exact absurd rfl (Generator.next_cls hanswers hnext)
    | refused hleft hnext hnames hcalls hrefused =>
      cases hending
      have hother : ErrorClass.toolRounds ∉ callClasses := by decide
      exact absurd (Registry.answers_cls hrefused) hother
    | @exhausted last _ hleft hnext hnames hcalls =>
      rw [a.solo_watchedLater] at hnames
      exact ⟨rounds, last, by omega, reached, hrounds, hnext, hcalls, hnames⟩
  · rintro ⟨rounds, last, hlength, reached, hrounds, hnext, hcalls, hnames⟩
    refine ⟨rounds, reached, by omega, ?_, .exhausted (by omega) hnext ?_ hcalls⟩
    · rw [a.solo_rounds]
      exact hrounds
    · rw [a.solo_watchedLater]
      exact hnames

/-- A turn that uses up its rounds made one exchange more than there are rounds, and invoked the
calls of the rounds once each and no others. -/
theorem Exhausts.account {chat : Chat} {events events' : List Event} {rounds : List Round}
    {last : AssistantMessage} (h : a.Exhausts most chat events rounds last events') :
    (requestsIn events').length = (requestsIn events).length + (most + 1) ∧
      invocationsIn events' = invocationsIn events ++ rounds.flatMap (·.message.calls) := by
  obtain ⟨rfl, reached, hrounds, hnext, -, -⟩ := h
  obtain ⟨requests, hin, hlength, -⟩ := hrounds.requests hnext
  refine ⟨by rw [hin, List.length_append, hlength], ?_⟩
  rw [(Generator.next_account hnext).2, hrounds.invocations]

/-- The limit of rounds bounds a turn.  With a backend that answers every request, a run of a
generation ends, and after at most one exchange more than the limit has rounds.  It gives the error
for too many rounds exactly when the turn uses up its rounds, and then it made just that many
exchanges and invoked every call of the rounds once and no call after them. -/
theorem rounds_limit (hmost : a.executor.limit.rounds? = some most)
    (hanswers : a.generator.transport.Answers) (hl : before.Sound) (chat : Chat) :
    (∃ result after, a.chain.Gives (.generate chat) before result after) ∧
    (∀ result after, a.chain.Gives (.generate chat) before result after →
      after.requests.length ≤ before.requests.length + (most + 1)) ∧
    (∀ events', (∃ after, a.chain.Gives (.generate chat) before
          (.ok (.failure (.own (.toolRounds a.executor.limit.toValue)))) after ∧
          after.events = events') ↔
        ∃ rounds last, a.Exhausts most chat before.events rounds last events') ∧
    (∀ rounds last events', a.Exhausts most chat before.events rounds last events' →
      (requestsIn events').length = before.requests.length + (most + 1) ∧
        invocationsIn events' = before.invocations ++ rounds.flatMap (·.message.calls)) := by
  refine ⟨?_, ?_, ?_, ?_⟩
  · obtain ⟨after, hgives, -⟩ := (gives_iff_turn hmost hl chat).2 ⟨_, rfl, rfl⟩
    exact ⟨_, after, hgives⟩
  · intro result after h
    obtain ⟨r, hturn, -⟩ := (gives_iff_turn hmost hl chat).1 ⟨after, h, rfl⟩
    have hbound := a.solo.turn_requests most a.solo.watchedLater chat before.events
    rw [hturn] at hbound
    exact hbound
  · intro events'
    rw [gives_iff_turn hmost hl chat, ← turn_eq_toolRounds_iff hanswers]
    constructor
    · rintro ⟨r, hturn, hresult⟩
      rcases r with e | ⟨chat⟩ | ⟨chat⟩ | ⟨e⟩
      · cases hresult
      · cases hresult
      · cases hresult
      · cases hresult
        exact hturn
    · intro hturn
      exact ⟨_, hturn, rfl⟩
  · intro rounds last events' h
    exact h.account

/-- The response with a message that asks for the time. -/
def clockResponse : Wire.Response :=
  match Wire.Response.ofMessage (.assistant clockMessage) with
  | .ok response => response
  | .error _ => { status := 500, body := [], headers := [] }

/-- An assembly whose backend asks for the time in every reply. -/
def insistent : Assembly :=
  { rehearsal .flag [] with
    generator := { backend := { provider := .mock }, model := .null,
                   transport := fun _ _ => .ok clockResponse } }

/-- A run of an assembly whose backend never stops asking ends after two exchanges. -/
theorem rounds_limit_insistent :
    ∃ result after, insistent.chain.Gives (.generate clockChat) {} result after ∧
      after.requests.length ≤ 2 := by
  have h := rounds_limit (a := insistent) rfl
    (fun events request e he => by cases he) .empty clockChat
  obtain ⟨result, after, hgives⟩ := h.1
  exact ⟨result, after, hgives, h.2.1 result after hgives⟩

end Assembly

end Colloquy
