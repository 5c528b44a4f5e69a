import Colloquy.Proofs.Turn.Account
import Colloquy.Schema.Model
import Colloquy.Session

/-!
# The chain of a session

A session has one automatic executor around a link that may watch for tools, around
the generator.  What was proved of turns is read here for this chain, on ledgers.

`Assembly.history_of_success` says which chat a turn gives: the chat it began with,
then rounds in which every call has its answer, then a last message.
-/

namespace Colloquy

/-- The chain that a session builds: an automatic executor, a link that watches for tools when some
are named, the generator and the terminal link. -/
structure Assembly where
  executor : Executor
  breakOn : Option (List Text)
  generator : Generator
  auto : executor.auto = true

namespace Assembly

variable (a : Assembly)

/-- The link that watches for tools, if there is one. -/
def breaks : Chain :=
  match a.breakOn with
  | some names => [.breakOn names]
  | none => []

/-- The links of the chain. -/
def chain : Chain :=
  .executor a.executor :: a.breaks ++ [.generation a.generator, .terminal]

/-- The tools that end a turn. -/
def names : List Text :=
  a.breakOn.getD []

/-- The rounds of a turn of the chain. -/
abbrev Rounds : Chat → List Event → List Round → List Event → Prop :=
  Colloquy.Rounds a.generator a.executor.registry a.executor.policy a.names

theorem breaks_passive : ∀ link ∈ a.breaks, link.isPassive = true := by
  intro link hlink
  unfold breaks at hlink
  split at hlink
  · rw [List.mem_singleton.1 hlink]
    rfl
  · cases hlink

/-- The chain as one with a single automatic executor. -/
def solo : SoloChain where
  outside := []
  executor := a.executor
  between := a.breaks
  generator := a.generator
  inside := [.terminal]
  auto := a.auto
  passiveOutside link hlink := by cases hlink
  passiveBetween := a.breaks_passive

theorem solo_chain : a.solo.chain = a.chain := rfl

theorem terminal_mem : .terminal ∈ a.solo.chain := by
  rw [solo_chain, chain]
  simp

theorem solo_watchedFirst : a.solo.watchedFirst = a.names := by
  show Chain.watched a.breaks = a.names
  unfold breaks names
  cases a.breakOn <;> rfl

/-- All generations of a turn are watched alike, because nothing is outside the executor. -/
theorem solo_watchedLater : a.solo.watchedLater = a.names := by
  show Chain.watched a.breaks ++ [] = a.names
  rw [List.append_nil]
  exact a.solo_watchedFirst

/-- The rounds of a turn of the chain are those of the chain with a single automatic executor. -/
theorem solo_rounds : a.solo.Rounds = a.Rounds := by
  unfold SoloChain.Rounds
  rw [a.solo_watchedLater]
  rfl

variable {a} {most : Nat} {chat : Chat} {before after : Ledger} {events' : List Event}
  {result : Except Exception Outcome}

/-- A run of a generation is a turn. -/
theorem gives_iff_turn (hmost : a.executor.limit.rounds? = some most) (hl : before.Sound)
    (chat : Chat) :
    (∃ after, a.chain.Gives (.generate chat) before result after ∧ after.events = events') ↔
      ∃ r, a.solo.turn most a.solo.watchedLater chat before.events = (r, events') ∧
        result = r.map TurnEnd.outcome := by
  rw [← a.solo_chain, a.solo_watchedLater, ← a.solo_watchedFirst]
  exact a.solo.gives_generate hmost a.terminal_mem hl chat

/-- What a run gives is the outcome of a turn that ended, unless the run raises. -/
theorem turn_of_gives (hmost : a.executor.limit.rounds? = some most) (hl : before.Sound)
    {outcome : Outcome} (h : a.chain.Gives (.generate chat) before (.ok outcome) after) :
    ∃ ending, a.solo.turn most a.solo.watchedLater chat before.events
      = (.ok ending, after.events) ∧ outcome = ending.outcome := by
  obtain ⟨r, hturn, hresult⟩ := (gives_iff_turn hmost hl chat).1 ⟨after, h, rfl⟩
  cases r with
  | error e => cases hresult
  | ok ending =>
    cases hresult
    exact ⟨ending, hturn, rfl⟩

/-! ## The history that a turn gives -/

/-- The chat that a successful turn gives is the chat it began with and, at the end of its history,
at most as many rounds as the limit allows and then a last message, which has no calls or calls a
tool that ends the turn.  The calls of each round were answered by the tools, and each request was
built for the chat after the rounds before it. -/
theorem history_of_success (hmost : a.executor.limit.rounds? = some most) (hl : before.Sound)
    {item : Item} (h : a.chain.Gives (.generate chat) before (.ok (.success item)) after) :
    ∃ (rounds : List Round) (last : AssistantMessage) (requests : List Wire.Request)
        (reached : List Event),
      rounds.length ≤ most ∧
      item = .chat { chat with
        history := chat.history ++ rounds.flatMap Round.messages ++ [.assistant last] } ∧
      (last.calls = [] ∨ callsAny a.names last.calls = true) ∧
      a.Rounds chat before.events rounds reached ∧
      a.generator.next (chat.after rounds) reached = (.ok (.ok last), after.events) ∧
      after.requests = before.requests ++ requests ∧
      requests.length = rounds.length + 1 ∧
      a.generator.Requested chat rounds requests := by
  obtain ⟨ending, hturn, houtcome⟩ := turn_of_gives hmost hl h
  obtain ⟨rounds, reached, hlength, hrounds, hlast⟩ := SoloChain.turn_eq_ok_iff.1 hturn
  have hnames := a.solo_watchedLater
  have hend : ∃ last : AssistantMessage,
      item = .chat ((chat.after rounds).addMessage (.assistant last)) ∧
      (last.calls = [] ∨ callsAny a.names last.calls = true) ∧
      a.generator.next (chat.after rounds) reached = (.ok (.ok last), after.events) := by
    cases hlast with
    | unanswered => cases houtcome
    | exhausted => cases houtcome
    | refused => cases houtcome
    | @stopped last _ hnext hany =>
      cases houtcome
      exact ⟨last, rfl, .inr (by rw [← hnames]; exact hany), hnext⟩
    | @replied last _ hnext hcalls =>
      cases houtcome
      exact ⟨last, rfl, .inl hcalls, hnext⟩
  obtain ⟨last, hitem, hcalls, hnext⟩ := hend
  rw [a.solo_rounds] at hrounds
  obtain ⟨requests, hin, hcount, hrequested⟩ := hrounds.requests hnext
  exact ⟨rounds, last, requests, reached, hlength, hitem, hcalls, hrounds, hnext, hin, hcount,
    hrequested⟩

/-! ## A rehearsal -/

/-- A tool without arguments that tells the time. -/
def clock : Tool where
  definition :=
    { name := "clock", description := .null, input := Record.model ⟨"Clock", []⟩
      named := by decide }
  handler _ _ := .ok (.text "noon")

/-- A call of the tool. -/
def clockCall : ToolCall :=
  ⟨"call_1", "clock", [], by decide, by decide⟩

/-- A message that asks for the time. -/
def clockMessage : AssistantMessage where
  content := none
  calls := [clockCall]
  metadata := []
  spoken := .inr (List.cons_ne_nil _ _)

/-- An assembly with a clock whose backend plays a script. -/
def rehearsal (limit : RoundLimit) (script : List Reply) : Assembly where
  executor := { registry := { tools := [clock] }, auto := true, limit, policy := .raise }
  breakOn := some ["ask_user"]
  generator :=
    { backend := { provider := .mock }, model := .null, transport := Transport.scripted script }
  auto := rfl

/-- A chat in which the user asks for the time. -/
def clockChat : Chat where
  history := [.ofUser "What time is it?"]

/-- The backend asks for the time once and then echoes the turn of the user. -/
theorem history_of_success_clock :
    ∃ (item : Item) (after : Ledger),
      (rehearsal .flag [.message (.assistant clockMessage)]).chain.Gives (.generate clockChat) {}
        (.ok (.success item)) after ∧
      ∃ (rounds : List Round) (last : AssistantMessage), rounds.length ≤ 1 ∧
        item = .chat { clockChat with
          history := clockChat.history ++ rounds.flatMap Round.messages ++ [.assistant last] } := by
  obtain ⟨item, hgives⟩ := Chain.gives_of_succeeded
    (rehearsal .flag [.message (.assistant clockMessage)]).chain 4 (.generate clockChat) {}
    (by decide +kernel)
  obtain ⟨rounds, last, requests, reached, hlength, hhistory, -⟩ :=
    history_of_success rfl .empty hgives
  exact ⟨item, _, hgives, rounds, last, hlength, hhistory⟩

end Assembly

/-- The assembly of a session. -/
def Session.assembly (s : Session) : Assembly where
  executor :=
    { registry := s.registry, auto := true, limit := s.config.maxToolRounds,
      policy := s.config.toolErrorPolicy }
  breakOn := s.breakOn
  generator :=
    { backend := s.config.backend, model := .text s.config.model, transport := s.transport }
  auto := rfl

end Colloquy
