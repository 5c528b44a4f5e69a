import Colloquy.Proofs.Error.Raised
import Colloquy.Proofs.Provider.Conversation
import Colloquy.Proofs.Turn.Limit
import Colloquy.Proofs.Turn.Stack

/-!
# When runs end

Whether the runs of a chain end can be told from the automatic executors around its
generator: with one they do, and its limit bounds them; with more of them there are
tools and a backend for which they do not (`Chain.ending_iff`).
-/

namespace Colloquy

/-! ## Chats that can be sent -/

/-- The payload for a chat can be sent when the settings and the messages of the chat can in the
room that is left for them. -/
theorem Canonical.payload_isSendable {room : Nat} {model : Text} {chat : Chat}
    (hmodel : model.isClean = true)
    (hsystem : Json.isSendable (room + 1) chat.systemPrompt = true)
    (hhistory : ∀ m ∈ chat.history, Json.isSendable room (message m) = true)
    (htools : ∀ spec ∈ chat.tools, Json.isSendable room (tool spec) = true)
    (hchoice : Json.isSendable (room + 1) (toolChoice chat.toolChoice) = true)
    (hlimit : Json.isSendable (room + 1) chat.maxOutputTokens.toValue = true) :
    Json.isSendable (room + 2) (payload model chat) = true := by
  have hmessages : Json.isSendable (room + 1) (.list (chat.history.map message)) = true := by
    refine Json.isSendable_list fun item hitem => ?_
    obtain ⟨m, hm, rfl⟩ := List.mem_map.1 hitem
    exact hhistory m hm
  have hspecs : Json.isSendable (room + 1) (.list (chat.tools.map tool)) = true := by
    refine Json.isSendable_list fun item hitem => ?_
    obtain ⟨spec, hspec, rfl⟩ := List.mem_map.1 hitem
    exact htools spec hspec
  refine Json.isSendable_object fun field hfield => ?_
  simp only [List.mem_cons, List.not_mem_nil, or_false] at hfield
  rcases hfield with rfl | rfl | rfl | rfl | rfl | rfl
  · exact ⟨rfl, Json.isSendable_text hmodel⟩
  · exact ⟨rfl, hsystem⟩
  · exact ⟨rfl, hmessages⟩
  · exact ⟨rfl, hspecs⟩
  · exact ⟨rfl, hchoice⟩
  · exact ⟨rfl, hlimit⟩

/-- In the canonical format there is a request for every chat that can be sent and leaves the choice
of tools open. -/
theorem Backend.buildRequest_of_isSendable {b : Backend} (hb : b.provider = .mock) (model : Value)
    {chat : Chat} (hchoice : chat.choice = none)
    (h : Json.isSendable Json.depthLimit (Canonical.payload model.inText chat) = true) :
    ∃ request, b.buildRequest model chat = .ok request := by
  obtain ⟨body, hbody⟩ := Json.encode_isOk_iff.2 h
  have hcheck : checkChat chat b.provider.capabilities b.provider.name = .ok () := by
    rw [checkChat, hb, hchoice]
    rw [if_neg (by rw [Bool.and_eq_true]; rintro ⟨-, h⟩; cases h),
      if_neg (by rw [Bool.and_eq_true]; rintro ⟨h, -⟩; cases h)]
  have hdump : dumpPayload (Canonical.payload model.inText chat) = .ok body :=
    mapError_eq_ok_iff.2 hbody
  refine ⟨{ method := "POST", url := Provider.mock.defaultBase, headers := b.headers, body }, ?_⟩
  rw [buildRequest, hcheck, endpoint, payload, hb]
  show (do
    let body ← dumpPayload (Canonical.payload model.inText chat)
    return { method := "POST", url := _, headers := b.headers, body : Wire.Request }) = _
  rw [hdump]
  rfl

/-! ## A backend that never stops asking -/

namespace Assembly

/-- What answers the call. -/
def clockAnswer : Answer :=
  ⟨clockCall, "noon"⟩

/-- Whether a message only asks for the time, and can be sent again. -/
def asksForTime (message : AssistantMessage) : Bool :=
  message.calls = [clockCall] &&
    Json.isSendable Provider.turnRoom (Canonical.message (.assistant message))

/-- The message that is read from the response of the backend that never stops asking. -/
theorem insistent_receive :
    ∃ message, insistent.generator.receive clockResponse = .ok message ∧
      asksForTime message = true := by
  have hreads : (insistent.generator.receive clockResponse).toOption.any asksForTime = true := by
    decide +kernel
  cases hmessage : insistent.generator.receive clockResponse with
  | ok message =>
    rw [hmessage] at hreads
    exact ⟨message, rfl, hreads⟩
  | error e =>
    rw [hmessage] at hreads
    cases hreads

/-- That backend replies to every request with that response. -/
theorem insistent_reply (events : List Event) (request : Wire.Request) :
    insistent.generator.reply events request = insistent.generator.receive clockResponse := by
  have htransport : insistent.generator.transport events request = pure clockResponse := rfl
  rw [Generator.reply, htransport, pure_bind]

/-- The clock answers its call, whatever happened before. -/
theorem clock_answer (policy : ToolErrorPolicy) (events : List Event) :
    ∃ reached, insistent.executor.registry.answer policy clockCall events
      = (.ok (.ok clockAnswer), reached) := by
  obtain ⟨arguments, harguments⟩ : ∃ arguments, clock.arguments clockCall = .ok arguments :=
    exists_of_isOk (by decide +kernel)
  have hget : insistent.executor.registry.get? clockCall.name = some clock := rfl
  have hwritten : insistent.executor.registry.written clockCall events
      = (.ok (.ok "noon"), events ++ [.invoked clockCall, .handled arguments]) := by
    rw [Registry.written, hget]
    dsimp only
    rw [harguments]
    rfl
  rw [Registry.answer, bind_ok hwritten]
  exact ⟨_, rfl⟩

/-- Chats like the one in which the user asks for the time. -/
def Clocked (chat : Chat) : Prop :=
  ∃ history, chat = { clockChat with history } ∧
    ∀ m ∈ history, Json.isSendable Provider.turnRoom (Canonical.message m) = true

theorem Clocked.addMessage {chat : Chat} (h : Clocked chat) {m : Message}
    (hm : Json.isSendable Provider.turnRoom (Canonical.message m) = true) :
    Clocked (chat.addMessage m) := by
  obtain ⟨history, rfl, hhistory⟩ := h
  refine ⟨history ++ [m], rfl, ?_⟩
  intro n hn
  rcases List.mem_append.1 hn with hn | hn
  · exact hhistory n hn
  · rw [List.mem_singleton.1 hn]
    exact hm

/-- There is a request for each of these chats. -/
theorem Clocked.request {chat : Chat} (h : Clocked chat) :
    ∃ request, insistent.generator.backend.buildRequest insistent.generator.model chat
      = .ok request := by
  obtain ⟨history, rfl, hhistory⟩ := h
  have hmodel : Text.isClean insistent.generator.model.inText = true := by decide +kernel
  have hsystem : Json.isSendable (Provider.turnRoom + 1) clockChat.systemPrompt = true := by
    decide +kernel
  have hchoice : Json.isSendable (Provider.turnRoom + 1)
      (Canonical.toolChoice clockChat.toolChoice) = true := by
    decide +kernel
  have hlimit :
      Json.isSendable (Provider.turnRoom + 1) clockChat.maxOutputTokens.toValue = true := by
    decide +kernel
  exact Backend.buildRequest_of_isSendable rfl insistent.generator.model rfl
    (Canonical.payload_isSendable hmodel hsystem hhistory nofun hchoice hlimit)

theorem clockChat_clocked : Clocked clockChat := by
  refine ⟨clockChat.history, rfl, ?_⟩
  intro m hm
  rw [List.mem_singleton.1 hm]
  decide +kernel

end Assembly

/-! ## Chains that never stop -/

/-- A link with the clock as its tool, or with the backend that never stops asking. -/
def Link.insistent : Link → Link
  | .executor x => .executor { x with registry := Assembly.insistent.executor.registry }
  | .breakOn _ => .breakOn ["ask_user"]
  | .generation _ => .generation Assembly.insistent.generator
  | .forward => .forward
  | .terminal => .terminal

theorem Link.alike_insistent (link : Link) : link.Alike link.insistent := by
  cases link with
  | executor x => exact .executor x _
  | breakOn names => exact .breakOn _ _
  | generation g => exact .generation _ _
  | forward => exact .forward
  | terminal => exact .terminal

namespace Chain

variable {chain : Chain}

/-- A chain with the clock as its tool and the backend that never stops asking. -/
def insistent (chain : Chain) : Chain :=
  chain.map Link.insistent

theorem alike_insistent (chain : Chain) : chain.Alike chain.insistent := by
  induction chain with
  | nil => exact .nil
  | cons link inner ih => exact .cons link.alike_insistent ih

theorem insistent_generator? (h : chain.generator?.isSome = true) :
    chain.insistent.generator? = some Assembly.insistent.generator := by
  induction chain with
  | nil => cases h
  | cons link inner ih =>
    cases link with
    | terminal => cases h
    | generation g => rfl
    | executor | breakOn | forward => exact ih h

/-- The tools are those of the outermost executor, which has the clock. -/
theorem insistent_executor? (h : chain.loops ≠ []) :
    ∃ x, chain.insistent.executor? = some x ∧
      x.registry = Assembly.insistent.executor.registry := by
  induction chain with
  | nil => exact absurd rfl h
  | cons link inner ih =>
    cases link with
    | terminal => exact absurd rfl h
    | generation g => exact absurd rfl h
    | executor x => exact ⟨_, rfl, rfl⟩
    | breakOn | forward => exact ih h

theorem insistent_watched : ∀ name ∈ watched chain.insistent, name = "ask_user" := by
  induction chain with
  | nil => nofun
  | cons link inner ih =>
    cases link with
    | breakOn names =>
      intro name hname
      rcases List.mem_append.1 hname with hname | hname
      · exact ih name hname
      · exact List.mem_singleton.1 hname
    | executor | generation | forward | terminal => exact ih

/-- The clock and the backend keep the turns of such a chain going. -/
theorem insistent_insists (chain : Chain) (hgenerator : chain.generator?.isSome = true)
    (hloops : chain.loops ≠ [])
    (hwhole : ∀ loop ∈ chain.loops, ∃ most, loop.limit.rounds? = some most) :
    ∃ message, chain.insistent.Insists message Assembly.clockAnswer Assembly.Clocked := by
  obtain ⟨message, hreceive, hasks⟩ := Assembly.insistent_receive
  rw [Assembly.asksForTime, Bool.and_eq_true, decide_eq_true_eq] at hasks
  refine ⟨message, hasks.1, ⟨?_, ?_⟩, ?_, ?_, ?_⟩
  · intro loop hloop
    have hlimit : loop.limit ∈ chain.loops.map ToolLoop.limit := by
      rw [← chain.alike_insistent.limits]
      exact List.mem_map_of_mem hloop
    obtain ⟨loop', hloop', heq⟩ := List.mem_map.1 hlimit
    obtain ⟨most, hmost⟩ := hwhole loop' hloop'
    rw [heq] at hmost
    rw [← Bool.not_eq_true, RoundLimit.reached_iff hmost]
    exact Nat.not_le_of_lt (RoundLimit.rounds?_pos hmost)
  · intro hmem
    exact absurd (insistent_watched _ hmem) (by decide)
  · refine ⟨_, insistent_generator? hgenerator, ?_⟩
    intro chat events hchat
    obtain ⟨request, hrequest⟩ := hchat.request
    rw [Generator.next, hrequest]
    dsimp only
    rw [Assembly.insistent_reply, hreceive]
    exact ⟨_, rfl⟩
  · obtain ⟨x, hx, hregistry⟩ := insistent_executor? hloops
    refine ⟨x, hx, fun policy events => ?_⟩
    rw [hregistry]
    exact Assembly.clock_answer policy events
  · intro chat hchat
    exact (hchat.addMessage hasks.2).addMessage (by decide +kernel)

/-! ## Which chains end -/

/-- A chain that is like one with one loop ends within the limit of that loop. -/
theorem Alike.endsWithin {other : Chain} (halike : chain.Alike other) {loop : ToolLoop} {most : Nat}
    (hloop : chain.loops = [loop]) (hmost : loop.limit.rounds? = some most)
    (hgenerator : chain.generator?.isSome = true) (hterminal : .terminal ∈ chain) :
    other.EndsWithin (most + 1) := by
  have hlimits := halike.limits
  rw [hloop, List.map_singleton] at hlimits
  obtain ⟨loop', hloop', hlimit⟩ := List.map_eq_singleton_iff.1 hlimits
  rw [← hlimit] at hmost
  rw [← halike.generator?] at hgenerator
  exact endsWithin_of_loops_eq_singleton hloop' hmost hgenerator (halike.terminal_mem hterminal)

/-- A chain with two loops is like one with a run that never ends. -/
theorem exists_unending (hgenerator : chain.generator?.isSome = true)
    (hloops : 2 ≤ chain.loops.length)
    (hwhole : ∀ loop ∈ chain.loops, ∃ most, loop.limit.rounds? = some most) :
    ∃ other, chain.Alike other ∧
      ∃ chat, ∀ result after, ¬other.Gives (.generate chat) {} result after := by
  have hsome : chain.loops ≠ [] := by
    intro hnil
    rw [hnil] at hloops
    exact absurd hloops (by decide)
  obtain ⟨message, hinsists⟩ := chain.insistent_insists hgenerator hsome hwhole
  have hlength := congrArg List.length chain.alike_insistent.limits
  rw [List.length_map, List.length_map] at hlength
  rw [← hlength] at hloops
  exact ⟨chain.insistent, chain.alike_insistent, Assembly.clockChat,
    hinsists.unending hloops Assembly.clockChat_clocked .empty⟩

/-- Chains end, whatever their tools and backends do, when one automatic executor is around the
generator, and then after at most one exchange more than its limit has rounds.  With more of them,
whatever their limits are, there are tools and a backend with which a run never ends. -/
theorem endsWithin_iff (chain : Chain) (hgenerator : chain.generator?.isSome = true)
    (hterminal : .terminal ∈ chain) (hloops : chain.loops ≠ [])
    (hwhole : ∀ loop ∈ chain.loops, ∃ most, loop.limit.rounds? = some most) :
    ((∃ bound, ∀ other, chain.Alike other → other.EndsWithin bound) ↔ chain.loops.length = 1) ∧
    (∀ loop most, chain.loops = [loop] → loop.limit.rounds? = some most →
      ∀ other, chain.Alike other → other.EndsWithin (most + 1)) ∧
    (2 ≤ chain.loops.length → ∃ other, chain.Alike other ∧
      ∃ chat, ∀ result after, ¬other.Gives (.generate chat) {} result after) := by
  refine ⟨⟨?_, ?_⟩, ?_, fun htwo => exists_unending hgenerator htwo hwhole⟩
  · rintro ⟨bound, hbound⟩
    by_contra hlength
    have hpositive := List.length_pos_iff.2 hloops
    obtain ⟨other, halike, chat, hnever⟩ := exists_unending hgenerator (by omega) hwhole
    obtain ⟨result, after, hgives⟩ := (hbound other halike chat {} .empty).1
    exact hnever result after hgives
  · intro hlength
    obtain ⟨loop, hloop⟩ := List.length_eq_one_iff.1 hlength
    have hmem : loop ∈ chain.loops := by
      rw [hloop]
      exact List.mem_singleton.2 rfl
    obtain ⟨most, hmost⟩ := hwhole loop hmem
    exact ⟨most + 1, fun other halike => halike.endsWithin hloop hmost hgenerator hterminal⟩
  · intro loop most hloop hmost other halike
    exact halike.endsWithin hloop hmost hgenerator hterminal

/-- An automatic executor with room for one round. -/
def clockExecutor : Executor :=
  { Assembly.insistent.executor with limit := .count 1 (Nat.le_refl 1) }

/-- Any chain with one such executor ends after two exchanges. -/
theorem endsWithin_iff_clock :
    let chain : Chain := [.executor clockExecutor, .generation Assembly.insistent.generator,
      .terminal]
    ∀ other, chain.Alike other → other.EndsWithin 2 :=
  (endsWithin_iff [.executor clockExecutor, .generation Assembly.insistent.generator, .terminal]
    rfl (by simp) nofun
    (fun loop hloop => ⟨1, by rw [List.mem_singleton.1 hloop]; rfl⟩)).2.1 _ 1 rfl rfl

/-- Two such executors, one in the other, go on without end. -/
theorem stacked_unending :
    ¬∃ result after, Gives [.executor clockExecutor, .executor clockExecutor,
      .generation Assembly.insistent.generator, .terminal] (.generate Assembly.clockChat) {}
      result after := by
  rintro ⟨result, after, hgives⟩
  obtain ⟨message, hinsists⟩ := insistent_insists
    [.executor clockExecutor, .executor clockExecutor,
      .generation Assembly.insistent.generator, .terminal] rfl nofun (by
    intro loop hloop
    refine ⟨1, ?_⟩
    cases hloop with
    | head => rfl
    | tail _ hloop =>
      rw [List.mem_singleton.1 hloop]
      rfl)
  exact hinsists.unending (Nat.le_refl 2) Assembly.clockChat_clocked .empty result after hgives

end Chain

end Colloquy
