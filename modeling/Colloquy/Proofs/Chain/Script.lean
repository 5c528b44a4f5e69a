import Colloquy.Proofs.Chain.Ending
import Colloquy.Proofs.Chain.Generation
import Colloquy.Proofs.Provider.Canonical

/-!
# Scripted exchanges

A generator whose transport plays turns of the model asks no backend.  Exchange after
exchange it gives the turns of the script in order, each as it is read back from the
canonical form (`Generator.scripted_replies`).

`Chain.GivesEach` is a row of plans that are run on one ledger.  How far the script has been
played is told by the requests on the ledger, so an exchange that leaves one more request
there passes the rest of the script on to the exchange after it.
-/

namespace Colloquy

/-! ## Rows of runs -/

/-- Plans that are built and run one after the other, each on the ledger that the one before it
left, end with results. -/
inductive Chain.GivesEach (chain : Chain) :
    List Plan → Ledger → List (Except Exception Outcome) → Ledger → Prop
  | nil (l : Ledger) : GivesEach chain [] l [] l
  | cons {plan : Plan} {plans : List Plan} {before between after : Ledger}
      {result : Except Exception Outcome} {results : List (Except Exception Outcome)}
      (first : chain.Gives plan before result between)
      (others : GivesEach chain plans between results after) :
      GivesEach chain (plan :: plans) before (result :: results) after

/-! ## Chains that generate first -/

/-- A chain whose first link generates gives what an exchange gives. -/
theorem Chain.gives_generation (g : Generator) {inner : Chain} (hterminal : .terminal ∈ inner)
    {before : Ledger} (hl : before.Sound) (chat : Chat) {result : Except Exception Outcome}
    {events : List Event} :
    (∃ after, Chain.Gives (.generation g :: inner) (.generate chat) before result after ∧
      after.events = events) ↔ g.ask chat before.events = (result, events) := by
  have hmem : .terminal ∈ (Link.generation g :: inner : Chain) := List.mem_cons_of_mem _ hterminal
  have hgenerator : Chain.generator? (.generation g :: inner) = some g := rfl
  rw [gives_iff hl]
  show Chain.Ends _ (.pending (.generate chat (.plain [] (.callback .pure)))) _ _ _ ↔ _
  rw [ends_generate hgenerator]
  cases hask : g.ask chat before.events with
  | mk r reached =>
    cases r with
    | error e =>
      rw [settles_bind_of_error hask, Prod.mk.injEq]
      exact ⟨fun h => ⟨h.1.symm, h.2.symm⟩, fun h => ⟨h.1.symm, h.2.symm⟩⟩
    | ok outcome =>
      rw [settles_bind_of_ok hask, Prod.mk.injEq]
      show Chain.Ends _ (.final outcome) _ _ _ ↔ _
      rw [ends_final hmem]
      exact ⟨fun h => ⟨h.1.symm, h.2.symm⟩, fun h => ⟨h.1.symm, h.2.symm⟩⟩

/-! ## Scripts -/

/-- A generator whose transport plays turns of the model. -/
def Generator.scripted (model : Value) (script : List AssistantMessage) : Generator where
  backend := { provider := .mock }
  model
  transport := .scripted (script.map fun m => .message (.assistant m))

/-- What an exchange on a chat ends with when the reply is a turn of the model. -/
def Outcome.replied (chat : Chat) (m : AssistantMessage) : Except Exception Outcome :=
  .ok (.success (.chat (chat.addMessage (.assistant m))))

namespace Generator

variable {model : Value} {script : List AssistantMessage} {chat : Chat} {m : AssistantMessage}

/-- The turn that comes next in the script is sent as a response. -/
theorem scripted_response {events : List Event} (hnext : script[countRequests events]? = some m)
    (hm : m.IsScalar) (request : Wire.Request) :
    ∃ response, (scripted model script).transport events request = .ok response ∧
      response.isSuccess = true ∧ Backend.parseResponse .mock response.body = .ok m.reduced := by
  obtain ⟨body, hwritten, hread⟩ := Canonical.parseResponse_message hm
  refine ⟨{ status := 200, body, headers := [] }, ?_, rfl, hread⟩
  show Transport.scripted _ events request = _
  rw [Transport.scripted, List.getElem?_map, hnext]
  show Wire.Response.ofMessage (.assistant m) = _
  rw [Wire.Response.ofMessage, hwritten]
  rfl

/-- An exchange on a chat that can be sent appends the turn that comes next in the script. -/
theorem ask_scripted {events : List Event} {request : Wire.Request}
    (hbuild : (scripted model script).backend.buildRequest model chat = .ok request)
    (hnext : script[countRequests events]? = some m) (hm : m.IsScalar) :
    (scripted model script).ask chat events
      = (Outcome.replied chat m.reduced, events ++ [.requested request]) := by
  obtain ⟨response, hsend, hsuccess, hread⟩ := scripted_response hnext hm request
  have hask : (scripted model script).backend.buildRequest (scripted model script).model chat
      = .ok request := hbuild
  rw [ask_apply, hask]
  dsimp only
  rw [reply_of_response _ hsend, receive_of_success _ hsuccess]
  show (Outcome.settle ((Backend.parseResponse .mock response.body).map _), _) = _
  rw [hread]
  rfl

/-- One run on a ledger that still has a turn of the script ahead. -/
theorem gives_scripted {inner : Chain} (hterminal : .terminal ∈ inner) {before : Ledger}
    (hl : before.Sound) {request : Wire.Request}
    (hbuild : (scripted model script).backend.buildRequest model chat = .ok request)
    (hnext : script[before.requests.length]? = some m) (hm : m.IsScalar)
    {result : Except Exception Outcome} {events : List Event} :
    (∃ after, Chain.Gives (.generation (scripted model script) :: inner) (.generate chat) before
      result after ∧ after.events = events) ↔
      result = Outcome.replied chat m.reduced ∧ events = before.events ++ [.requested request] := by
  rw [Chain.gives_generation _ hterminal hl, ask_scripted hbuild hnext hm, Prod.mk.injEq]
  exact ⟨fun h => ⟨h.1.symm, h.2.symm⟩, fun h => ⟨h.1.symm, h.2.symm⟩⟩

/-- Runs on chats that can be sent end with the turns that come next in the script, in order, and
leave one request each. -/
theorem givesEach_scripted {inner : Chain} (hterminal : .terminal ∈ inner) {chats : List Chat}
    {before : Ledger} (hl : before.Sound) (hscript : ∀ m ∈ script, m.IsScalar)
    (hbuild : ∀ chat ∈ chats, ∃ request,
      (scripted model script).backend.buildRequest model chat = .ok request)
    (hroom : before.requests.length + chats.length ≤ script.length) :
    (∃ results after, Chain.GivesEach (.generation (scripted model script) :: inner)
      (chats.map Plan.generate) before results after) ∧
    ∀ results after, Chain.GivesEach (.generation (scripted model script) :: inner)
        (chats.map Plan.generate) before results after →
      results = List.zipWith Outcome.replied chats
          ((script.drop before.requests.length).map AssistantMessage.reduced) ∧
        after.requests.length = before.requests.length + chats.length := by
  -- The requests on the ledger say which turn comes next, so the ledger varies in the induction.
  induction chats generalizing before with
  | nil =>
    refine ⟨⟨[], before, .nil before⟩, fun results after h => ?_⟩
    cases h
    exact ⟨rfl, rfl⟩
  | cons chat chats ih =>
    rw [List.forall_mem_cons] at hbuild
    obtain ⟨⟨request, hfirst⟩, hothers⟩ := hbuild
    rw [List.length_cons] at hroom
    have hlt : before.requests.length < script.length := by omega
    have hturn : script[before.requests.length]? = some script[before.requests.length] :=
      List.getElem?_eq_getElem hlt
    have hscalar : script[before.requests.length].IsScalar := hscript _ (List.getElem_mem hlt)
    have hcount : ∀ between : Ledger, between.events = before.events ++ [.requested request] →
        between.requests.length = before.requests.length + 1 := by
      intro between hevents
      show (requestsIn between.events).length = _
      rw [hevents, requestsIn_append, List.length_append]
      rfl
    have hnext : ∀ {between : Ledger}, between.requests.length = before.requests.length + 1 →
        between.requests.length + chats.length ≤ script.length := by
      intro between hrequests
      omega
    constructor
    · obtain ⟨between, first, hevents⟩ :=
        (gives_scripted hterminal hl hfirst hturn hscalar).2 ⟨rfl, rfl⟩
      obtain ⟨⟨results, after, others⟩, -⟩ :=
        ih (first.sound hl) hothers (hnext (hcount between hevents))
      exact ⟨_, after, .cons first others⟩
    · intro results after h
      cases h with
      | @cons _ _ _ between _ result results first others =>
        obtain ⟨rfl, hevents⟩ :=
          (gives_scripted hterminal hl hfirst hturn hscalar).1 ⟨between, first, rfl⟩
        have hrequests := hcount between hevents
        obtain ⟨rfl, hafter⟩ := (ih (first.sound hl) hothers (hnext hrequests)).2 _ _ others
        constructor
        · rw [List.drop_eq_getElem_cons hlt, List.map_cons, List.zipWith_cons_cons, hrequests]
        · rw [hafter, hrequests, List.length_cons]
          omega

/-- Turns of the model whose texts are made of scalar values are read back from the canonical form
as they were, but for what the form leaves out.  So a generator whose transport plays such turns
appends them in this form to the chats of its exchanges, in the order of the script and one in each
exchange, as long as the chats can be sent and the script lasts. -/
theorem scripted_replies :
    (∀ m : AssistantMessage, m.IsScalar →
      ∃ body, dumpPayload (Canonical.message (.assistant m)) = .ok body ∧
        Backend.parseResponse .mock body = .ok m.reduced) ∧
    ∀ (model : Value) (script : List AssistantMessage) (inner : Chain) (chats : List Chat)
      (before : Ledger), (∀ m ∈ script, m.IsScalar) → .terminal ∈ inner → before.Sound →
      (∀ chat ∈ chats, ∃ request,
        (scripted model script).backend.buildRequest model chat = .ok request) →
      before.requests.length + chats.length ≤ script.length →
      (∃ results after, Chain.GivesEach (.generation (scripted model script) :: inner)
        (chats.map Plan.generate) before results after) ∧
      ∀ results after, Chain.GivesEach (.generation (scripted model script) :: inner)
          (chats.map Plan.generate) before results after →
        results = List.zipWith Outcome.replied chats
            ((script.drop before.requests.length).map AssistantMessage.reduced) ∧
          after.requests.length = before.requests.length + chats.length := by
  constructor
  · intro m hm
    exact Canonical.parseResponse_message hm
  · intro model script inner chats before hscript hterminal hl hbuild hroom
    exact givesEach_scripted hterminal hl hscript hbuild hroom

/-- A turn with a text, an image in some detail, a call and metadata. -/
def sketch : AssistantMessage where
  content := some (.parts [.text "Here:", .image "data:,x" (.ofString "high") (by decide)])
  calls := [⟨"s1", "draw", "\x7b\x7d", by decide, by decide⟩]
  metadata := [("usage", .int 7)]
  spoken := .inl rfl

/-- A turn without content whose call has no object for its arguments. -/
def grumble : AssistantMessage where
  content := none
  calls := [⟨"s2", "draw", "\"", by decide, by decide⟩]
  metadata := []
  spoken := .inr (List.cons_ne_nil _ _)

theorem scripted_replies_sketch :
    (∃ body, dumpPayload (Canonical.message (.assistant sketch)) = .ok body ∧
      Backend.parseResponse .mock body = .ok sketch.reduced) ∧
    ∃ after, Chain.GivesEach [.generation (scripted .null [sketch, grumble]), .terminal]
        [.generate .hello, .generate .hello] {}
        [Outcome.replied .hello sketch.reduced, Outcome.replied .hello grumble.reduced] after ∧
      after.requests.length = 2 := by
  have hscript : ∀ m ∈ [sketch, grumble], m.IsScalar := by decide
  have hbuild : ∀ chat ∈ [Chat.hello, Chat.hello], ∃ request,
      (scripted .null [sketch, grumble]).backend.buildRequest .null chat = .ok request := by
    intro chat hchat
    obtain rfl : chat = .hello := by simpa using hchat
    have hbuilt : ((scripted .null [sketch, grumble]).backend.buildRequest .null .hello).isOk
        = true := by
      decide +kernel
    exact exists_of_isOk hbuilt
  obtain ⟨hcodec, hruns⟩ := scripted_replies
  obtain ⟨⟨results, after, heach⟩, hresults⟩ :=
    hruns .null [sketch, grumble] [.terminal] [.hello, .hello] {} hscript List.mem_cons_self .empty
      hbuild (by decide)
  obtain ⟨rfl, hrequests⟩ := hresults _ _ heach
  exact ⟨hcodec sketch (hscript _ List.mem_cons_self), after, heach, hrequests⟩

end Generator

end Colloquy
