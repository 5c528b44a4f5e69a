import Colloquy.Proofs.Turn.Watch

/-!
# Turns

A turn is what a chain with one automatic executor makes of a generation: the model
is asked, its calls are answered and it is asked again, until it writes a message
without calls, or calls a tool that is watched for, or something fails, or no rounds
are left.  `SoloChain.turn` says this directly, by recursion on the rounds that are
left, without programs and continuations.

The main statement is `SoloChain.settles_turn`: a run is a turn, whose end goes to
the continuation that was there before.
-/

namespace Colloquy

/-! ## Limits that are whole -/

/-- The number of rounds that a limit allows, none of a float. -/
def RoundLimit.rounds? : RoundLimit → Option Nat
  | .count n _ => some n
  | .flag => some 1
  | .real _ _ => none

theorem RoundLimit.reached_iff {limit : RoundLimit} {most : Nat} (h : limit.rounds? = some most)
    (count : Nat) : limit.reached count = true ↔ most ≤ count := by
  cases limit with
  | count n positive =>
    cases h
    exact decide_eq_true_iff
  | flag =>
    cases h
    exact decide_eq_true_iff
  | real x notBelow => cases h

/-- A limit allows one round at least. -/
theorem RoundLimit.rounds?_pos {limit : RoundLimit} {most : Nat} (h : limit.rounds? = some most) :
    1 ≤ most := by
  cases limit with
  | count n positive =>
    cases h
    exact positive
  | flag =>
    cases h
    exact Nat.le_refl 1
  | real x notBelow => cases h

/-! ## Turns -/

/-- How a turn ends: with a chat whose last message calls a tool that is watched for, with a chat
whose last message has no calls, or with an error. -/
inductive TurnEnd
  | stopped (chat : Chat)
  | replied (chat : Chat)
  | failed (e : Error)

namespace TurnEnd

/-- The outcome that an end is. -/
def outcome : TurnEnd → Outcome
  | .stopped chat => .success (.chat chat)
  | .replied chat => .success (.chat chat)
  | .failed e => .failure (.own e)

/-- A turn that is stopped ends the run; otherwise its outcome goes to a continuation. -/
def proceed (k : Cont) : TurnEnd → Course Program
  | .stopped chat => return .pending (.done (.success (.chat chat)))
  | .replied chat => k.follow (.success (.chat chat))
  | .failed e => k.follow (.failure (.own e))

end TurnEnd

namespace SoloChain

variable (s : SoloChain)

/-- A turn with a number of rounds left, in which the names are watched for in the generation that
comes next. -/
def turn : Nat → List Text → Chat → Course TurnEnd
  | left, names, chat => do
    match ← s.generator.next chat with
    | .error e => return .failed e
    | .ok message =>
      let reply := chat.addMessage (.assistant message)
      if callsAny names message.calls then return .stopped reply
      else if message.calls = [] then return .replied reply
      else match left with
        | 0 => return .failed (.toolRounds s.executor.limit.toValue)
        | left + 1 =>
          match ← s.runner.registry.answers s.executor.policy message.calls with
          | .error e => return .failed e
          | .ok answers => turn left s.watchedLater (reply.answered answers)

section

variable {s} {left : Nat} {names : List Text} {chat : Chat} {events reached : List Event}
  {message : AssistantMessage} {e : Error}

/-- What can come of an exchange: an exception, an error, or a message, which calls a tool that is
watched for, has no calls, or has calls that nothing watches for. -/
theorem next_cases (s : SoloChain) (names : List Text) (chat : Chat) (events : List Event) :
    (∃ e reached, s.generator.next chat events = (.error e, reached)) ∨
    (∃ e reached, s.generator.next chat events = (.ok (.error e), reached)) ∨
    (∃ message reached, s.generator.next chat events = (.ok (.ok message), reached) ∧
      (callsAny names message.calls = true ∨ message.calls = [] ∨
        (callsAny names message.calls = false ∧ message.calls ≠ []))) := by
  cases h : s.generator.next chat events with
  | mk result reached =>
    rcases result with e | (e | message)
    · exact .inl ⟨e, reached, rfl⟩
    · exact .inr (.inl ⟨e, reached, rfl⟩)
    · refine .inr (.inr ⟨message, reached, rfl, ?_⟩)
      by_cases hcalls : message.calls = []
      · exact .inr (.inl hcalls)
      · cases hnames : callsAny names message.calls with
        | true => exact .inl rfl
        | false => exact .inr (.inr ⟨rfl, hcalls⟩)

theorem turn_raised {e : Exception}
    (h : s.generator.next chat events = (.error e, reached)) :
    s.turn left names chat events = (.error e, reached) := by
  rw [turn, bind_error h]

theorem turn_unanswered (h : s.generator.next chat events = (.ok (.error e), reached)) :
    s.turn left names chat events = (.ok (.failed e), reached) := by
  rw [turn, bind_ok h]
  rfl

theorem turn_stopped (h : s.generator.next chat events = (.ok (.ok message), reached))
    (hnames : callsAny names message.calls = true) :
    s.turn left names chat events
      = (.ok (.stopped (chat.addMessage (.assistant message))), reached) := by
  rw [turn, bind_ok h]
  dsimp only
  rw [if_pos hnames]
  rfl

theorem turn_replied (h : s.generator.next chat events = (.ok (.ok message), reached))
    (hcalls : message.calls = []) :
    s.turn left names chat events
      = (.ok (.replied (chat.addMessage (.assistant message))), reached) := by
  rw [turn, bind_ok h]
  dsimp only
  rw [hcalls, callsAny_nil, if_neg Bool.false_ne_true, if_pos rfl]
  rfl

theorem turn_exhausted (h : s.generator.next chat events = (.ok (.ok message), reached))
    (hnames : callsAny names message.calls = false) (hcalls : message.calls ≠ []) :
    s.turn 0 names chat events
      = (.ok (.failed (.toolRounds s.executor.limit.toValue)), reached) := by
  rw [turn, bind_ok h]
  dsimp only
  rw [hnames, if_neg Bool.false_ne_true, if_neg hcalls]
  rfl

/-- A message with calls that nothing watches for is answered, when rounds are left. -/
theorem turn_answered (h : s.generator.next chat events = (.ok (.ok message), reached))
    (hnames : callsAny names message.calls = false) (hcalls : message.calls ≠ []) :
    s.turn (left + 1) names chat events = (do
      match ← s.runner.registry.answers s.executor.policy message.calls with
      | .error e => return TurnEnd.failed e
      | .ok answers =>
        s.turn left s.watchedLater ((chat.addMessage (.assistant message)).answered answers))
      reached := by
  rw [turn, bind_ok h]
  dsimp only
  rw [hnames, if_neg Bool.false_ne_true, if_neg hcalls]

end

/-! ## Runs are turns -/

section

variable {s} {events events' : List Event} {result : Except Exception Outcome}
  {k k₁ k₂ : Cont} {owners : List Owner} {names : List Text} {count : Nat}

/-- Guarded rounds pass a failure on. -/
theorem follow_failure (hk₁ : k₁.Guards (Chain.watched s.outside) k)
    (hk₂ : k₂.Guards names (.plain owners (.rounds s.loop k₁ count))) (e : Exception) :
    k₂.follow (.failure e) = k.follow (.failure e) :=
  (hk₂.failure e).trans (hk₁.failure e)

/-- What guarded rounds do with a chat that has a new message at its end. -/
theorem follow_reply (hk₁ : k₁.Guards (Chain.watched s.outside) k)
    (hk₂ : k₂.Guards names (.plain owners (.rounds s.loop k₁ count))) (chat : Chat)
    (message : AssistantMessage) :
    k₂.follow (.success (.chat (chat.addMessage (.assistant message)))) =
      if callsAny names message.calls then
        pure (.pending (.done (.success (.chat (chat.addMessage (.assistant message))))))
      else match message.calls with
        | [] => k.follow (.success (.chat (chat.addMessage (.assistant message))))
        | call :: others =>
          if s.executor.limit.reached count then
            k.follow (.failure (.own (.toolRounds s.executor.limit.toValue)))
          else pure (.running call (s.loop.frames (chat.addMessage (.assistant message)) call others
            k₁ (count + 1))) := by
  have hpending := chat.pendingCalls_addMessage message
  have hchat := hk₁.chat (chat.addMessage (.assistant message))
  rw [hk₂.chat, hpending]
  split
  · rfl
  · rw [Cont.plain, Cont.follow, Body.follow, hpending]
    rw [hpending] at hchat
    cases hcalls : message.calls with
    | nil =>
      rw [hcalls, callsAny_nil, if_neg Bool.false_ne_true] at hchat
      exact hchat
    | cons call others =>
      dsimp only
      rw [hk₁.failure]
      rfl

/-- A round answers the calls of a message, and then the model is asked again. -/
theorem settles_running (hk₁ : k₁.Guards (Chain.watched s.outside) k) (chat : Chat)
    (call : ToolCall) (others : List ToolCall) :
    s.chain.Settles (pure (.running call (s.loop.frames chat call others k₁ count)))
        events result events' ↔
      s.chain.Settles (do
        match ← s.runner.registry.answers s.executor.policy (call :: others) with
        | .ok answers =>
          (s.chain.taken (.plain [s.owner] (.rounds s.loop k₁ count))).follow
            (← s.generator.ask (chat.answered answers))
        | .error e => k.follow (.failure (.own e))) events result events' := by
  rw [ToolLoop.running_frames, Chain.settles_answers s.executor?_chain]
  refine Chain.settles_bind_congr fun answers reached => ?_
  cases answers with
  | error e =>
    show s.chain.Settles (k₁.follow _) _ _ _ ↔ _
    rw [hk₁.failure]
  | ok answers =>
    show s.chain.Ends _ _ _ _ ↔ _
    rw [Chain.ends_generate s.generator?_chain]
    rfl

/-- An exchange whose result goes to guarded rounds, when it is known what becomes of a message with
calls that nothing watches for. -/
theorem settles_exchange (hk₁ : k₁.Guards (Chain.watched s.outside) k)
    (hk₂ : k₂.Guards names (.plain owners (.rounds s.loop k₁ count))) (chat : Chat)
    (rest : AssistantMessage → Course TurnEnd)
    (hrest : ∀ message call others reached, message.calls = call :: others →
      (s.chain.Settles
          (if s.executor.limit.reached count then
            k.follow (.failure (.own (.toolRounds s.executor.limit.toValue)))
          else pure (.running call (s.loop.frames (chat.addMessage (.assistant message)) call others
            k₁ (count + 1)))) reached result events' ↔
        s.chain.Settles (do (← rest message).proceed k) reached result events')) :
    s.chain.Settles (do k₂.follow (← s.generator.ask chat)) events result events' ↔
      s.chain.Settles (do
        match ← s.generator.next chat with
        | .error e => TurnEnd.proceed k (.failed e)
        | .ok message =>
          if callsAny names message.calls then
            TurnEnd.proceed k (.stopped (chat.addMessage (.assistant message)))
          else if message.calls = [] then
            TurnEnd.proceed k (.replied (chat.addMessage (.assistant message)))
          else (← rest message).proceed k) events result events' := by
  rw [s.generator.ask_eq]
  simp only [bind_assoc, pure_bind]
  refine Chain.settles_bind_congr fun message reached => ?_
  cases message with
  | error e =>
    show s.chain.Settles (k₂.follow (.failure (.own e))) _ _ _ ↔ _
    rw [follow_failure hk₁ hk₂]
    rfl
  | ok message =>
    show s.chain.Settles (k₂.follow (.success (.chat _))) _ _ _ ↔ _
    rw [follow_reply hk₁ hk₂]
    by_cases hany : callsAny names message.calls = true
    · rw [if_pos hany]
      dsimp only
      rw [if_pos hany]
      rfl
    · rw [if_neg hany]
      dsimp only
      rw [if_neg hany]
      cases hcalls : message.calls with
      | nil => rfl
      | cons call others => exact hrest message call others reached hcalls

/-- A turn that goes on with an exchange, and what comes after it, ends as these do. -/
theorem settles_turn_proceed {left : Nat} {chat : Chat} (rest : AssistantMessage → Course TurnEnd)
    (hturn : s.turn left names chat = do
      match ← s.generator.next chat with
      | .error e => return .failed e
      | .ok message =>
        if callsAny names message.calls then
          return .stopped (chat.addMessage (.assistant message))
        else if message.calls = [] then return .replied (chat.addMessage (.assistant message))
        else rest message) :
    s.chain.Settles (do (← s.turn left names chat).proceed k) events result events' ↔
      s.chain.Settles (do
        match ← s.generator.next chat with
        | .error e => TurnEnd.proceed k (.failed e)
        | .ok message =>
          if callsAny names message.calls then
            TurnEnd.proceed k (.stopped (chat.addMessage (.assistant message)))
          else if message.calls = [] then
            TurnEnd.proceed k (.replied (chat.addMessage (.assistant message)))
          else (← rest message).proceed k) events result events' := by
  rw [hturn, bind_assoc]
  refine Chain.settles_bind_congr fun message reached => ?_
  cases message with
  | error e => rfl
  | ok message =>
    dsimp only
    split
    · rfl
    · split <;> rfl

/-- What comes of an exchange whose result goes to guarded rounds is a turn, whose end goes to the
continuation that was there. -/
theorem settles_turn {most : Nat} (hmost : s.executor.limit.rounds? = some most)
    (hk₁ : k₁.Guards (Chain.watched s.outside) k) (left : Nat) (hcount : count + left = most)
    (hk₂ : k₂.Guards names (.plain owners (.rounds s.loop k₁ count))) (chat : Chat) :
    s.chain.Settles (do k₂.follow (← s.generator.ask chat)) events result events' ↔
      s.chain.Settles (do (← s.turn left names chat).proceed k) events result events' := by
  -- the induction is on the rounds left; a round hands its continuation on with one round less
  induction left generalizing count owners names k₂ chat events with
  | zero =>
    have hreached : s.executor.limit.reached count = true :=
      (RoundLimit.reached_iff hmost count).2 (by omega)
    rw [settles_turn_proceed (fun _ => pure (.failed (.toolRounds s.executor.limit.toValue)))
      (by rw [turn])]
    refine settles_exchange hk₁ hk₂ chat _ fun message call others reached hcalls => ?_
    rw [hreached]
    rfl
  | succ left ih =>
    have hreached : s.executor.limit.reached count = false := by
      rw [← Bool.not_eq_true, RoundLimit.reached_iff hmost count]
      omega
    obtain ⟨k₃, hk₃, hguards⟩ := s.taken_again (.rounds s.loop k₁ (count + 1))
    rw [settles_turn_proceed (fun message => do
      match ← s.runner.registry.answers s.executor.policy message.calls with
      | .error e => return .failed e
      | .ok answers =>
        s.turn left s.watchedLater ((chat.addMessage (.assistant message)).answered answers))
      (by rw [turn])]
    refine settles_exchange hk₁ hk₂ chat _ fun message call others reached hcalls => ?_
    rw [hreached, if_neg Bool.false_ne_true, settles_running hk₁, hcalls, bind_assoc]
    refine Chain.settles_bind_congr fun answers reached => ?_
    cases answers with
    | error e => rfl
    | ok answers =>
      dsimp only
      rw [hk₃]
      exact ih (by omega) hguards _

/-- A generation with a new continuation ends as a turn does whose end goes to the continuation. -/
theorem ends_generate {most : Nat} (hmost : s.executor.limit.rounds? = some most)
    (hnew : k.owners = []) (chat : Chat) :
    s.chain.Ends (.pending (.generate chat k)) events result events' ↔
      s.chain.Settles (do (← s.turn most s.watchedFirst chat).proceed k) events result events' := by
  obtain ⟨k₁, k₂, owners, htaken, hk₁, hk₂⟩ := s.taken_first hnew
  rw [Chain.ends_generate s.generator?_chain, htaken]
  exact settles_turn hmost hk₁ most (Nat.zero_add most) hk₂ chat

/-- The end of a turn that goes to the continuation of a new operation is given out. -/
theorem settles_proceed (hterminal : .terminal ∈ s.chain) (ending : TurnEnd) :
    s.chain.Settles (ending.proceed (.plain [] (.callback .pure))) events result events' ↔
      result = .ok ending.outcome ∧ events' = events := by
  cases ending with
  | stopped chat => exact Chain.ends_done hterminal _
  | replied chat => exact Chain.ends_final hterminal _
  | failed e => exact Chain.ends_final hterminal _

/-- When every end of a turn is given out, the outcome of the turn is what a run gives. -/
theorem settles_outcome (hgiven : ∀ ending reached,
      s.chain.Settles (TurnEnd.proceed k ending) reached result events' ↔
        result = .ok ending.outcome ∧ events' = reached) (d : Course TurnEnd) :
    s.chain.Settles (do (← d).proceed k) events result events' ↔
      ∃ r, d events = (r, events') ∧ result = r.map TurnEnd.outcome := by
  cases hturn : d events with
  | mk r reached =>
    cases r with
    | error e =>
      rw [Chain.settles_bind_of_error hturn]
      constructor
      · rintro ⟨rfl, rfl⟩
        exact ⟨_, rfl, rfl⟩
      · rintro ⟨r, heq, rfl⟩
        cases heq
        exact ⟨rfl, rfl⟩
    | ok ending =>
      rw [Chain.settles_bind_of_ok hturn, hgiven]
      constructor
      · rintro ⟨rfl, rfl⟩
        exact ⟨_, rfl, rfl⟩
      · rintro ⟨r, heq, rfl⟩
        cases heq
        exact ⟨rfl, rfl⟩

/-- A plan that only generates gives the outcome of a turn, and what happens is what happens in the
turn. -/
theorem gives_generate {most : Nat} (hmost : s.executor.limit.rounds? = some most)
    (hterminal : .terminal ∈ s.chain) {before : Ledger} (hl : before.Sound) (chat : Chat) :
    (∃ after, s.chain.Gives (.generate chat) before result after ∧ after.events = events') ↔
      ∃ r, s.turn most s.watchedFirst chat before.events = (r, events') ∧
        result = r.map TurnEnd.outcome := by
  rw [Chain.gives_iff hl]
  show s.chain.Ends (.pending (.generate chat (.plain [] (.callback .pure)))) _ _ _ ↔ _
  rw [ends_generate hmost rfl]
  exact settles_outcome (fun ending reached => settles_proceed hterminal ending) _

end

end SoloChain

end Colloquy
