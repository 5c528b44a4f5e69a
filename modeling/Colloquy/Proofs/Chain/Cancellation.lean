import Colloquy.Proofs.Chain.Visit
import Colloquy.Proofs.Error.Raised
import Colloquy.Proofs.Retry.Stop
import Colloquy.Schema.Model

/-!
# Cancellations

A cancellation is no ordinary exception, and no layer makes anything of it: neither the
registry that calls a handler, nor the links that settle errors as data, nor a loop of
retries.  `Chain.Cancelled` are the two places where one comes up, the transport of an
exchange and the handler of a tool.

A step that is cancelled raises the cancellation (`Chain.Cancelled.step`).  Since a run
is a run from each of its points on, so does the run, wherever it was.
-/

namespace Colloquy

/-! ## Exceptions that are cancellations -/

theorem ForeignClass.not_ordinary_of_cancelled {c : ForeignClass} (h : c.isA .cancelled = true) :
    c.isA .ordinary = false := by
  revert h
  cases c <;> decide

/-- A cancellation is no ordinary exception. -/
theorem Exception.not_ordinary_of_isCancellation {e : Exception} (h : e.isCancellation = true) :
    e.isOrdinary = false := by
  cases e with
  | own e => cases h
  | foreign c text => exact ForeignClass.not_ordinary_of_cancelled h

/-- What is no ordinary exception is not data. -/
theorem Outcome.settle_of_not_ordinary {e : Exception} (h : e.isOrdinary = false) :
    Outcome.settle (.error e) = .error e := by
  cases e with
  | own e => cases h
  | foreign c text => rfl

/-! ## Where cancellations come up -/

namespace Chain

/-- A step of a program after some events is cancelled with an exception: the transport of its
exchange raises it, or the handler of its tool call.  What happens until then is the request, or the
call and its arguments. -/
inductive Cancelled (chain : Chain) : Program → List Event → Exception → List Event → Prop
  | exchange {g : Generator} {chat : Chat} {k : Cont} {request : Wire.Request}
      {events : List Event} {e : Exception} (hg : chain.generator? = some g)
      (hbuild : g.backend.buildRequest g.model chat = .ok request)
      (hsend : g.transport events request = .error e) (he : e.isCancellation = true) :
      Cancelled chain (.pending (.generate chat k)) events e [.requested request]
  | handler {x : Executor} {tool : Tool} {call : ToolCall} {k : Cont}
      {arguments : ModelInstance}
      {events : List Event} {e : Exception} (hx : chain.executor? = some x)
      (htool : x.registry.get? call.name = some tool)
      (harguments : tool.arguments call = .ok arguments)
      (hraises : tool.handler (events ++ [.invoked call, .handled arguments]) arguments = .error e)
      (he : e.isCancellation = true) :
      Cancelled chain (.pending (.execute call k)) events e [.invoked call, .handled arguments]

theorem Cancelled.isCancellation {chain : Chain} {q : Program} {e : Exception}
    {events new : List Event} (h : chain.Cancelled q events e new) : e.isCancellation = true := by
  cases h with
  | exchange _ _ _ he => exact he
  | handler _ _ _ _ he => exact he

theorem Cancelled.pending {chain : Chain} {q : Program} {e : Exception}
    {events new : List Event} (h : chain.Cancelled q events e new) :
    q.validate = .ok () ∧ q.isTerminal = false := by
  cases h <;> exact ⟨rfl, rfl⟩

/-- An act fails with an exception, after some events and before any continuation is used. -/
def FailsWith {α : Type} (a : Act α) (m : Ledger) (e : Exception) (events : List Event) : Prop :=
  ∃ issued, a m = (.error e, { m with events, issued })

section

variable {e : Exception} {m : Ledger} {events : List Event} {chain : Chain}

/-- An act that is blind fails as its course does. -/
theorem FailsWith.of_blind {α : Type} {a : Act α} (ha : a.Blind)
    (h : a.course m.events = (.error e, events)) : FailsWith a m e events := by
  refine ⟨m.issued, ?_⟩
  rw [ha m, h]

theorem FailsWith.bind {α β : Type} {a : Act α} {f : α → Act β} (h : FailsWith a m e events) :
    FailsWith (a >>= f) m e events := by
  obtain ⟨issued, heq⟩ := h
  exact ⟨issued, bind_error heq⟩

/-- A link takes a continuation over, and the links inside fail. -/
theorem FailsWith.takeOver {chat : Chat} {k : Cont} {owner : Owner} {body : Body} {inner : Chain}
    (h : ∀ (k : Cont) (m' : Ledger), m'.events = m.events →
      FailsWith (Chain.step inner (.pending (.generate chat k))) m' e events) :
    FailsWith (do changed (← Program.takeOver chat k owner body) (Chain.step inner))
      m e events := by
  let k' : Cont := ⟨m.issued, k.owners.insert owner, body⟩
  let m' : Ledger := { m with issued := m.issued + 1 }
  obtain ⟨issued, heq⟩ := h k' m' rfl
  have htaken : Program.takeOver chat k owner body m = (.ok (.pending (.generate chat k')), m') :=
    rfl
  refine ⟨issued, ?_⟩
  rw [bind_ok htaken]
  exact bind_error heq

/-- A generation fails with what its exchange raises. -/
theorem step_generate_fails {g : Generator} (hg : chain.generator? = some g) {chat : Chat}
    (k : Cont) (hask : g.ask chat m.events = (.error e, events)) :
    FailsWith (chain.step (.pending (.generate chat k))) m e events := by
  induction chain generalizing k m with
  | nil => cases hg
  | cons link inner ih =>
    have hinner : ∀ (k : Cont) (m' : Ledger), generator? inner = some g → m'.events = m.events →
        FailsWith (Chain.step inner (.pending (.generate chat k))) m' e events := by
      intro k m' hg' hevents
      exact ih hg' k (by rw [hevents, hask])
    cases link with
    | terminal => cases hg
    | forward => exact hinner k m hg rfl
    | generation g' =>
      cases hg
      show FailsWith (do return some (← k.call (← g.generate chat))) m e events
      exact .bind (.of_blind (g.generate_blind chat) hask)
    | breakOn names =>
      show FailsWith (if k.ownedBy _ then Chain.step inner _ else _) m e events
      split
      · exact hinner k m hg rfl
      · exact .takeOver fun k m' hevents => hinner k m' hg hevents
    | executor x =>
      show FailsWith (if x.auto && !k.ownedBy _ then _ else Chain.step inner _) m e events
      split
      · exact .takeOver fun k m' hevents => hinner k m' hg hevents
      · exact hinner k m hg rfl

/-- A tool call fails with what carrying it out raises. -/
theorem step_execute_fails {x : Executor} (hx : chain.executor? = some x) {call : ToolCall}
    (k : Cont) (hcarry : x.carryOut call m.events = (.error e, events)) :
    FailsWith (chain.step (.pending (.execute call k))) m e events := by
  induction chain with
  | nil => cases hx
  | cons link inner ih =>
    cases link with
    | terminal => cases hx
    | forward | generation | breakOn => exact ih hx
    | executor x' =>
      cases hx
      show FailsWith (do return some (← k.call (← x.execute call))) m e events
      exact .bind (.of_blind (x.execute_blind call) hcarry)

/-- A step that is cancelled raises the cancellation. -/
theorem Cancelled.step {q : Program} {new : List Event} (h : chain.Cancelled q m.events e new) :
    FailsWith (chain.step q) m e (m.events ++ new) := by
  cases h with
  | @exchange g chat k request _ _ hg hbuild hsend he =>
    refine step_generate_fails hg k ?_
    have hordinary := Exception.not_ordinary_of_isCancellation he
    rw [g.ask_apply, hbuild]
    dsimp only
    rw [Generator.reply, hsend]
    exact congrArg (·, _) (Outcome.settle_of_not_ordinary hordinary)
  | @handler x tool call k arguments _ _ hx htool harguments hraises he =>
    refine step_execute_fails hx k ?_
    have hordinary := Exception.not_ordinary_of_isCancellation he
    have hkept : Registry.ofHandler call (.error e) = .error e := by
      show Except.error (if e.isOrdinary then _ else e) = _
      rw [hordinary]
      rfl
    have houtput : tool.output call (m.events ++ [.invoked call, .handled arguments]) arguments
        = .error e := by
      rw [Tool.output, hraises, hkept]
      rfl
    rw [x.carryOut_apply, htool]
    dsimp only
    rw [harguments]
    dsimp only
    rw [houtput]
    exact congrArg (·, _) (Outcome.settle_of_not_ordinary hordinary)

end

/-! ## Runs and retries -/

/-- A cancellation is never absorbed.  Wherever a run comes to a step that is cancelled, the run
raises the cancellation.  Its ledger is that of the point, but for the request or the call that was
cancelled and for numbers of new continuations: no continuation is used, and nothing else happens.
Retries of the run end there with the cancellation, whatever the policy is and whatever is
accepted. -/
theorem cancellation_raised (chain : Chain) {n : Nat} {p q : Program} {l m : Ledger}
    {e : Exception} {new : List Event} (hreaches : chain.Reaches n p l q m)
    (hcancelled : chain.Cancelled q m.events e new) :
    (∃ issued, ∀ fuel, n < fuel →
      chain.run fuel p l = (.error e, { m with events := m.events ++ new, issued })) ∧
    ∀ fuel, n < fuel → ∀ (policy : RetryPolicy Number)
      (env : Surroundings Number (Option Outcome)) (i : Nat) (seconds : Float),
      env.attempt i = ⟨(chain.run fuel p l).1, .float seconds⟩ → i < (retry policy env).attempts →
        (retry policy env).ending = .error e ∧ (retry policy env).attempts = i + 1 := by
  obtain ⟨issued, hstep⟩ := hcancelled.step
  have hrun : ∀ fuel, n < fuel →
      chain.run fuel p l = (.error e, { m with events := m.events ++ new, issued }) := by
    intro fuel hfuel
    obtain ⟨more, rfl⟩ := Nat.exists_eq_add_of_lt hfuel
    have hpoint : chain.run (n + more + 1) p l = chain.run (more + 1) q m := by
      rw [← hreaches.run_eq]
      congr 1
      omega
    obtain ⟨hvalid, hpending⟩ := hcancelled.pending
    rw [hpoint, run_succ hvalid hpending]
    exact bind_error hstep
  refine ⟨⟨issued, hrun⟩, ?_⟩
  intro fuel hfuel policy env i seconds hattempt hmade
  rw [hrun fuel hfuel] at hattempt
  exact retry_of_not_ordinary policy env hattempt
    (Exception.not_ordinary_of_isCancellation hcancelled.isCancellation) hmade

/-- A tool whose handler is cancelled. -/
def ferry : Tool where
  definition :=
    { name := "ferry", description := .null, input := Record.model ⟨"Ferry", []⟩
      named := by decide }
  handler _ _ := .error (.foreign .cancelled "")

/-- A call of the tool. -/
def ferryCall : ToolCall :=
  ⟨"crossing", "ferry", [], by decide, by decide⟩

/-- A call of a tool that is not there fails as data, and what comes after calls one whose handler
is cancelled.  The run and its retries raise the cancellation. -/
theorem cancellation_raised_ferry :
    let chain : Chain := [.executor ⟨{ tools := [ferry] }, false, .flag, .continue⟩, .terminal]
    let missing : ToolCall := ⟨"voyage", "bridge", [], by decide, by decide⟩
    let p : Program := .pending (.execute missing ⟨0, [], .callback fun _ => .execute ferryCall⟩)
    let cancelled : Exception := .foreign .cancelled ""
    let policy : RetryPolicy Number := ⟨.count 3 (by decide), .int 0, .int 1, .int 0, false, none⟩
    let env (attempt : Attempt Number (Option Outcome)) : Surroundings Number (Option Outcome) :=
      ⟨fun _ => attempt, fun _ => none, fun _ => true, fun _ => .ok none, fun _ => .int 0⟩
    (∃ arguments issued, chain.run 2 p ⟨[], 1, []⟩ = (.error cancelled,
      ⟨[.invoked missing, .invoked ferryCall, .handled arguments], issued, [0]⟩)) ∧
    (retry policy (env ⟨(chain.run 2 p ⟨[], 1, []⟩).1, .float 0⟩)).ending = .error cancelled ∧
    (retry policy (env ⟨(chain.run 2 p ⟨[], 1, []⟩).1, .float 0⟩)).attempts = 1 := by
  intro chain missing p cancelled policy env
  obtain ⟨arguments, harguments⟩ : ∃ arguments, ferry.arguments ferryCall = .ok arguments :=
    exists_of_isOk (by decide +kernel)
  have hreaches : chain.Reaches 1 p ⟨[], 1, []⟩
      (.pending (.execute ferryCall ⟨1, [], .callback .pure⟩)) ⟨[.invoked missing], 2, [0]⟩ :=
    .step rfl rfl rfl (.here _ _)
  have hcancelled : chain.Cancelled (.pending (.execute ferryCall ⟨1, [], .callback .pure⟩))
      [.invoked missing] cancelled [.invoked ferryCall, .handled arguments] :=
    .handler rfl rfl harguments rfl rfl
  obtain ⟨⟨issued, hrun⟩, hretry⟩ := cancellation_raised chain hreaches hcancelled
  have hraised := hrun 2 (by decide)
  refine ⟨⟨arguments, issued, hraised⟩, hretry 2 (by decide) policy _ 0 0 rfl ?_⟩
  have hmade : 0 < (retry policy (env ⟨.error cancelled, .float 0⟩)).attempts := by
    decide +kernel
  rw [hraised]
  exact hmade

end Chain

end Colloquy
