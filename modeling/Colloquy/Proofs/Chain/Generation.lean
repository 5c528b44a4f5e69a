import Colloquy.Proofs.Chain.Exchange
import Colloquy.Proofs.Provider.Classification
import Colloquy.Proofs.Provider.Escape
import Colloquy.Proofs.Provider.Raised

/-!
# How a generation ends

A generation has four stages: the request is built, sent, answered with success, and the
answer is read.  `Generator.Exchanges` tells what is given when it returns, one rule for
each stage that can fail and one for none.  It does not always return:
`Generator.Stumbles` are the causes for which it raises an exception in place of that
(`Generator.generate_outcome`).
-/

namespace Colloquy

/-! ## Responses -/

theorem loadDocument_escapes_iff (response : Wire.Response) :
    Escapes (loadDocument response.body) ↔ response.TooDeep := by
  simp only [loadDocument, escapes_mapError_iff, escapes_reported_iff, Wire.Response.TooDeep]

theorem Backend.parseResponse_escapes_iff (p : Provider) (response : Wire.Response) :
    Escapes (parseResponse p response.body) ↔ response.TooDeep := by
  rw [← loadDocument_escapes_iff]
  constructor
  · intro h
    obtain ⟨cls, text, hread⟩ := escapes_iff.1 h
    rcases parseResponse_raises p response.body _ hread with hforeign | ⟨hload, -⟩
    · cases hforeign
    · exact escapes_iff.2 ⟨cls, text, hload⟩
  · intro h
    rw [parseResponse, escapes_bind_iff]
    exact .inl h

theorem Generator.receive_escapes_iff (g : Generator) (response : Wire.Response) :
    Escapes (g.receive response) ↔ response.TooDeep := by
  unfold Generator.receive
  split
  · exact Backend.parseResponse_escapes_iff _ response
  · rw [← errorOfResponse_escapes_iff response g.backend.provider.name]
    exact escapes_bind_iff_left fun _ => not_escapes_own _

theorem Generator.receive_of_success (g : Generator) {response : Wire.Response}
    (h : response.isSuccess = true) :
    g.receive response = Backend.parseResponse g.backend.provider response.body :=
  if_pos h

theorem Generator.receive_of_refusal (g : Generator) {response : Wire.Response} {e : Error}
    (h : response.isSuccess = false)
    (herror : errorOfResponse response g.backend.provider.name = .ok e) :
    g.receive response = .error (.own e) := by
  rw [receive, h, herror]
  rfl

/-! ## Generations -/

/-- The ledger after a request was sent. -/
def Ledger.asked (l : Ledger) (request : Wire.Request) : Ledger :=
  { l with events := l.events ++ [.requested request] }

/-- What a generation gives, and the ledger after it.  Its stages come in order, and the first one
that fails tells the error. -/
inductive Generator.Exchanges (g : Generator) (chat : Chat) (l : Ledger) : Outcome → Ledger → Prop
  | unbuilt {e : Error} (hbuild : g.backend.buildRequest g.model chat = .error (.own e)) :
      Exchanges g chat l (.failure (.own e)) l
  | unsent {request : Wire.Request} {e : Error}
      (hbuild : g.backend.buildRequest g.model chat = .ok request)
      (hsend : g.transport l.events request = .error (.own e)) :
      Exchanges g chat l (.failure (.own e)) (l.asked request)
  | refused {request : Wire.Request} {response : Wire.Response} {e : Error}
      (hbuild : g.backend.buildRequest g.model chat = .ok request)
      (hsend : g.transport l.events request = .ok response)
      (hstatus : response.isSuccess = false)
      (herror : errorOfResponse response g.backend.provider.name = .ok e) :
      Exchanges g chat l (.failure (.own e)) (l.asked request)
  | unread {request : Wire.Request} {response : Wire.Response} {e : Error}
      (hbuild : g.backend.buildRequest g.model chat = .ok request)
      (hsend : g.transport l.events request = .ok response)
      (hstatus : response.isSuccess = true)
      (hread : Backend.parseResponse g.backend.provider response.body = .error (.own e)) :
      Exchanges g chat l (.failure (.own e)) (l.asked request)
  | answered {request : Wire.Request} {response : Wire.Response} {message : AssistantMessage}
      (hbuild : g.backend.buildRequest g.model chat = .ok request)
      (hsend : g.transport l.events request = .ok response)
      (hstatus : response.isSuccess = true)
      (hread : Backend.parseResponse g.backend.provider response.body = .ok message) :
      Exchanges g chat l (.success (.chat (chat.addMessage (.assistant message)))) (l.asked request)

/-- The causes for which a generation raises an exception that is not reported: building the request
stumbles, or the response that came back is too deep to be read. -/
def Generator.Stumbles (g : Generator) (chat : Chat) (events : List Event) : Prop :=
  g.backend.Stumbles g.model.inText chat ∨
    ∃ request response, g.backend.buildRequest g.model chat = .ok request ∧
      g.transport events request = .ok response ∧ response.TooDeep

theorem Outcome.escapes_settle_iff {r : Except Exception Item} :
    Escapes (Outcome.settle r) ↔ Escapes r := by
  match r with
  | .ok _ | .error (.own _) | .error (.foreign _ _) => exact Iff.rfl

theorem Generator.generate_of_refused (g : Generator) {chat : Chat} (l : Ledger) {e : Exception}
    (hbuild : g.backend.buildRequest g.model chat = .error e) :
    g.generate chat l = (Outcome.settle (.error e), l) := by
  rw [generate, Act.settled_apply, exchange_apply, hbuild]

theorem Generator.generate_of_built (g : Generator) {chat : Chat} (l : Ledger)
    {request : Wire.Request} (hbuild : g.backend.buildRequest g.model chat = .ok request) :
    g.generate chat l = (Outcome.settle ((g.reply l.events request).map fun m =>
      .chat (chat.addMessage (.assistant m))), l.asked request) := by
  rw [generate, Act.settled_apply, exchange_apply, hbuild]
  rfl

theorem Generator.reply_of_response (g : Generator) {events : List Event} {request : Wire.Request}
    {response : Wire.Response} (hsend : g.transport events request = .ok response) :
    g.reply events request = g.receive response := by
  rw [reply, hsend]
  rfl

theorem Generator.reply_of_unsent (g : Generator) {events : List Event} {request : Wire.Request}
    {e : Exception} (hsend : g.transport events request = .error e) :
    g.reply events request = .error e := by
  rw [reply, hsend]
  rfl

/-- Every stage that fails tells its error. -/
theorem Generator.Exchanges.generate {g : Generator} {chat : Chat} {l l' : Ledger}
    {outcome : Outcome} (h : g.Exchanges chat l outcome l') :
    g.generate chat l = (.ok outcome, l') := by
  cases h with
  | unbuilt hbuild => exact g.generate_of_refused l hbuild
  | unsent hbuild hsend =>
    rw [g.generate_of_built l hbuild, g.reply_of_unsent hsend]
    rfl
  | refused hbuild hsend hstatus herror =>
    rw [g.generate_of_built l hbuild, g.reply_of_response hsend,
      g.receive_of_refusal hstatus herror]
    rfl
  | unread hbuild hsend hstatus hread =>
    rw [g.generate_of_built l hbuild, g.reply_of_response hsend, g.receive_of_success hstatus,
      hread]
    rfl
  | answered hbuild hsend hstatus hread =>
    rw [g.generate_of_built l hbuild, g.reply_of_response hsend, g.receive_of_success hstatus,
      hread]
    rfl

/-- A response that is not too deep ends the stages after the request was sent. -/
theorem Generator.exchanges_of_response (g : Generator) {chat : Chat} {l : Ledger}
    {request : Wire.Request} {response : Wire.Response}
    (hbuild : g.backend.buildRequest g.model chat = .ok request)
    (hsend : g.transport l.events request = .ok response) (hdepth : ¬response.TooDeep) :
    ∃ outcome, g.Exchanges chat l outcome (l.asked request) := by
  cases hstatus : response.isSuccess with
  | true =>
    rw [← Backend.parseResponse_escapes_iff g.backend.provider] at hdepth
    rcases hread : Backend.parseResponse g.backend.provider response.body with
      (e | ⟨cls, text⟩) | message
    · exact ⟨_, .unread hbuild hsend hstatus hread⟩
    · rw [hread] at hdepth
      exact absurd (escapes_foreign cls text) hdepth
    · exact ⟨_, .answered hbuild hsend hstatus hread⟩
  | false =>
    rw [← errorOfResponse_escapes_iff response g.backend.provider.name] at hdepth
    rcases herror : errorOfResponse response g.backend.provider.name with
      (e | ⟨cls, text⟩) | e
    · cases errorOfResponse_raises response g.backend.provider.name _ herror
    · rw [herror] at hdepth
      exact absurd (escapes_foreign cls text) hdepth
    · exact ⟨_, .refused hbuild hsend hstatus herror⟩

/-- Without a cause to stumble the stages come to an end, when the transport raises nothing but
errors of the library. -/
theorem Generator.exists_exchanges (g : Generator) (chat : Chat) (l : Ledger)
    (hsends : ∀ events request, ¬Escapes (g.transport events request))
    (h : ¬g.Stumbles chat l.events) : ∃ outcome l', g.Exchanges chat l outcome l' := by
  have hbuild' := fun hb => h (.inl ((g.backend.buildRequest_escapes_iff g.model chat).1 hb))
  rcases hbuild : g.backend.buildRequest g.model chat with (e | ⟨cls, text⟩) | request
  · exact ⟨_, l, .unbuilt hbuild⟩
  · rw [hbuild] at hbuild'
    exact absurd (escapes_foreign cls text) hbuild'
  · rcases hsend : g.transport l.events request with (e | ⟨cls, text⟩) | response
    · exact ⟨_, _, .unsent hbuild hsend⟩
    · have hsent := hsends l.events request
      rw [hsend] at hsent
      exact absurd (escapes_foreign cls text) hsent
    · obtain ⟨outcome, hexchanges⟩ := g.exchanges_of_response hbuild hsend fun hdeep =>
        h (.inr ⟨request, response, hbuild, hsend, hdeep⟩)
      exact ⟨outcome, _, hexchanges⟩

theorem Generator.generate_escapes (g : Generator) {chat : Chat} {l : Ledger}
    (h : g.Stumbles chat l.events) : Escapes (g.generate chat l).1 := by
  rcases h with hbuild | ⟨request, response, hbuild, hsend, hdeep⟩
  · obtain ⟨cls, text, hforeign⟩ :=
      escapes_iff.1 ((g.backend.buildRequest_escapes_iff g.model chat).2 hbuild)
    rw [g.generate_of_refused l hforeign]
    exact escapes_foreign cls text
  · rw [g.generate_of_built l hbuild, g.reply_of_response hsend, Outcome.escapes_settle_iff,
      escapes_map_iff, g.receive_escapes_iff]
    exact hdeep

theorem Generator.generate_eq_ok_iff (g : Generator) (chat : Chat) (l l' : Ledger)
    (outcome : Outcome) (hsends : ∀ events request, ¬Escapes (g.transport events request)) :
    g.generate chat l = (.ok outcome, l') ↔ g.Exchanges chat l outcome l' := by
  refine ⟨fun h => ?_, Exchanges.generate⟩
  have hreturns : ¬g.Stumbles chat l.events := by
    intro hstumbles
    have hescapes := g.generate_escapes hstumbles
    rw [h] at hescapes
    exact not_escapes_ok outcome hescapes
  obtain ⟨outcome', l'', hexchanges⟩ := g.exists_exchanges chat l hsends hreturns
  cases h.symm.trans hexchanges.generate
  exact hexchanges

/-- A request is handed to the transport once when it can be built, and otherwise none is. -/
theorem Generator.generate_requests (g : Generator) (chat : Chat) (l : Ledger) :
    (g.generate chat l).2 = match g.backend.buildRequest g.model chat with
      | .error _ => l
      | .ok request => l.asked request := by
  cases hbuild : g.backend.buildRequest g.model chat with
  | error e => rw [g.generate_of_refused l hbuild]
  | ok request => rw [g.generate_of_built l hbuild]

/-- A generation with a transport that raises nothing but errors of the library returns, unless it
stumbles, and then it raises some other exception.  When it returns it tells the error of the first
stage that failed, or gives the chat with the message of the backend after all of them.  The
transport is asked once when the request can be built, and otherwise not at all. -/
theorem Generator.generate_outcome (g : Generator)
    (hsends : ∀ events request, ¬Escapes (g.transport events request)) (chat : Chat) (l : Ledger) :
    (¬g.Stumbles chat l.events → ∃ outcome l', g.generate chat l = (.ok outcome, l')) ∧
    (g.Stumbles chat l.events → Escapes (g.generate chat l).1) ∧
    (∀ outcome l', g.generate chat l = (.ok outcome, l') ↔ g.Exchanges chat l outcome l') ∧
    (g.generate chat l).2 = match g.backend.buildRequest g.model chat with
      | .error _ => l
      | .ok request => l.asked request := by
  refine ⟨?_, g.generate_escapes, ?_, g.generate_requests chat l⟩
  · intro h
    obtain ⟨outcome, l', hexchanges⟩ := g.exists_exchanges chat l hsends h
    exact ⟨outcome, l', hexchanges.generate⟩
  · intro outcome l'
    exact g.generate_eq_ok_iff chat l l' outcome hsends

/-- A chat in which the user says hello. -/
def Chat.hello : Chat where
  history := [.ofUser "Hello"]
  maxOutputTokens := .count 2048 (Nat.succ_pos 2047)

/-- A generator whose backend has no capacity. -/
def Generator.busy (provider : Provider) (model : Value) : Generator where
  backend := { provider }
  model
  transport := fun _ _ => .ok { status := 503, body := [], headers := [] }

theorem Generator.busy_sends (provider : Provider) (model : Value) (events : List Event)
    (request : Wire.Request) : ¬Escapes ((busy provider model).transport events request) :=
  not_escapes_ok _

/-- A backend without capacity is asked once and then reported; nothing stumbles. -/
theorem Generator.generate_outcome_busy :
    ¬(busy .mock .null).Stumbles .hello [] ∧
    ∃ e l', (busy .mock .null).generate .hello {} = (.ok (.failure (.own e)), l') ∧
      e.cls = .unavailable ∧ l'.requests.length = 1 := by
  obtain ⟨-, hescapes, hexchanges, -⟩ :=
    generate_outcome (busy .mock .null) (busy_sends .mock .null) .hello {}
  have hbuilt : ((busy .mock .null).backend.buildRequest .null .hello).isOk = true := by
    decide +kernel
  obtain ⟨request, hbuild⟩ :
      ∃ request, (busy .mock .null).backend.buildRequest .null .hello = .ok request := by
    cases hbuild : (busy .mock .null).backend.buildRequest .null .hello with
    | error e =>
      rw [hbuild] at hbuilt
      cases hbuilt
    | ok request => exact ⟨request, rfl⟩
  have hgenerate := (hexchanges _ _).2 (.refused hbuild rfl rfl rfl)
  refine ⟨fun hstumbles => ?_, _, _, hgenerate, rfl, rfl⟩
  have hforeign := hescapes hstumbles
  rw [hgenerate] at hforeign
  exact not_escapes_ok _ hforeign

/-- A surrogate in the name of a model, or a user who says nothing, is not reported. -/
theorem Generator.generate_unreported :
    Escapes ((busy .gemini (.text [0xd800])).generate .hello {}).1 ∧
    Escapes ((busy .openai (.ofString "gpt-4o")).generate { history := [.user none []] } {}).1 := by
  constructor
  · exact generate_escapes _ (.inl (.model rfl rfl))
  · refine generate_escapes _ (.inl (.history ?_ rfl ⟨[], .user none [], [], rfl, ?_, ?_⟩))
    · exact ⟨_, rfl⟩
    · exact ⟨[], rfl⟩
    · exact List.mem_cons_self

end Colloquy
