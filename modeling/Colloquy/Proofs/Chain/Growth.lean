import Colloquy.Proofs.Chain.Ending

/-!
# The account grows

Nothing that happened is taken back.  A course that `Grows` only appends to the
events before it; building, going on, exchanges, tool calls and steps all do.  So the
events before a run are a prefix of those after it (`Chain.Gives.prefix_events`).
-/

namespace Colloquy

/-- A course that only appends to the events before it, whether or not it fails. -/
def Course.Grows {α : Type} (d : Course α) : Prop :=
  ∀ events, events <+: (d events).2

namespace Course.Grows

variable {α β : Type} {d : Course α} {f : α → Course β}

theorem pure (x : α) : Grows (Pure.pure x : Course α) :=
  fun _ => List.prefix_rfl

theorem throw (e : Exception) : Grows (MonadExcept.throw e : Course α) :=
  fun _ => List.prefix_rfl

theorem ofExcept (r : Except Exception α) : Grows (Course.ofExcept r) :=
  fun _ => List.prefix_rfl

theorem record (event : Event) : Grows (Course.record event) :=
  fun events => List.prefix_append events [event]

theorem bind (hd : d.Grows) (hf : ∀ x, (f x).Grows) : (d >>= f).Grows := by
  intro events
  have hfirst := hd events
  cases h : d events with
  | mk r reached =>
    rw [h] at hfirst
    cases r with
    | error e =>
      rw [bind_error h]
      exact hfirst
    | ok x =>
      rw [bind_ok h]
      exact hfirst.trans (hf x reached)

/-- What happens in a course has happened when a course after it ends. -/
theorem prefix_bind (hf : ∀ x, (f x).Grows) (events : List Event) :
    (d events).2 <+: ((d >>= f) events).2 := by
  cases hd : d events with
  | mk r reached =>
    cases r with
    | error e => simp only [bind_error hd, List.prefix_rfl]
    | ok x =>
      rw [bind_ok hd]
      exact hf x reached

/-- What is reached by a course that grows has the events before it as a prefix. -/
theorem prefix_of_eq (hd : d.Grows) {events reached : List Event} {r : Except Exception α}
    (h : d events = (r, reached)) : events <+: reached := by
  have hgrows := hd events
  rw [h] at hgrows
  exact hgrows

end Course.Grows

open Course

/-! ## Building -/

theorem Built.required_grows (who : Text) (b : Built) : (b.required who).Grows := by
  cases b with
  | program p => exact .pure p
  | stray value => exact .throw _

theorem Program.continued_grows (p : Program) (frame : Frame) {apply : Outcome → Course Program}
    (happly : ∀ value, (apply value).Grows) : (p.continued frame apply).Grows := by
  match p with
  | .final value => exact happly value
  | .pending (.generate _ _) | .pending (.execute _ _) | .pending (.done _) => exact .pure _
  | .both _ _ | .neither => exact .throw _

theorem Plan.outline_grows (plan : Plan) : plan.outline.Grows := by
  induction plan with
  | pure | generate | execute | done | neither | both | stray => exact .pure _
  | raise e => exact .throw e
  | note name plan ih => exact .bind (.record _) fun _ => ih
  | andThen first next ihFirst ihNext =>
    rw [Plan.outline]
    refine ihFirst.bind fun b => ?_
    cases b with
    | stray value => exact .throw _
    | program p =>
      refine .bind (p.continued_grows _ fun value => ?_) fun _ => .pure _
      exact (ihNext value).bind fun b => b.required_grows _

theorem Plan.opening_grows (plan : Plan) : plan.opening.Grows :=
  plan.outline_grows.bind fun b => b.required_grows _

/-! ## Going on -/

mutual

theorem Cont.follow_grows (k : Cont) (result : Outcome) : (k.follow result).Grows := by
  cases k with
  | mk number owners body => exact body.follow_grows result

theorem Body.follow_grows (body : Body) (result : Outcome) : (body.follow result).Grows := by
  cases body with
  | callback f => exact (f result).outline_grows.bind fun b => b.required_grows _
  | extended k frame =>
    exact (k.follow_grows result).bind fun p =>
      p.continued_grows frame fun value => frame.follow_grows value
  | rounds loop k count =>
    match result with
    | .failure e => exact k.follow_grows _
    | .plain _ | .success (.value _) | .success (.toolResult _) => exact .throw _
    | .success (.chat chat) =>
      rw [Body.follow]
      cases chat.pendingCalls with
      | nil => exact k.follow_grows _
      | cons call others =>
        dsimp only
        split
        · exact k.follow_grows _
        · exact .pure _
  | check names k =>
    match result with
    | .plain _ | .failure _ => exact k.follow_grows _
    | .success (.value _) | .success (.toolResult _) => exact .throw _
    | .success (.chat chat) =>
      rw [Body.follow]
      split
      · exact .pure _
      · exact k.follow_grows _

theorem Frame.follow_grows (frame : Frame) (value : Outcome) : (frame.follow value).Grows := by
  cases frame with
  | callback f => exact (f value).outline_grows.bind fun b => b.required_grows _
  | answer call policy =>
    match value with
    | .failure _ | .success (.chat _) => exact .pure _
    | .plain _ | .success (.value _) | .success (.toolResult _) => exact .throw _
  | record chat call policy => exact .bind (.ofExcept _) fun _ => .pure _
  | regenerate loop k count =>
    match value with
    | .failure e => exact k.follow_grows _
    | .success (.chat _) => exact .pure _
    | .plain _ | .success (.value _) | .success (.toolResult _) => exact .throw _

end

/-! ## Exchanges and tool calls -/

theorem Generator.ask_grows (g : Generator) (chat : Chat) : (g.ask chat).Grows := by
  intro events
  rw [g.ask_apply]
  cases g.backend.buildRequest g.model chat with
  | error e => exact List.prefix_rfl
  | ok request => exact List.prefix_append events _

theorem Executor.carryOut_grows (x : Executor) (call : ToolCall) : (x.carryOut call).Grows := by
  intro events
  rw [x.carryOut_apply]
  cases x.registry.get? call.name with
  | none => exact List.prefix_append events _
  | some tool =>
    dsimp only
    cases tool.arguments call with
    | error e => exact List.prefix_append events _
    | ok arguments => exact List.prefix_append events _

/-! ## Steps and runs -/

namespace Chain

/-- A link that resolves an operation goes on with its result. -/
theorem resolved_grows {d : Course Outcome} (hd : d.Grows) (k : Cont) :
    Grows (do return some (← k.follow (← d)) : Course (Option Program)) :=
  hd.bind fun result => (k.follow_grows result).bind fun _ => .pure _

theorem move_grows (chain : Chain) (p : Program) : (chain.move p).Grows := by
  induction chain generalizing p with
  | nil => exact .pure _
  | cons link inner ih =>
    cases link with
    | terminal => exact .pure _
    | forward => exact ih p
    | generation g =>
      refine .bind (.ofExcept _) fun _ => ?_
      match p with
      | .pending (.generate chat k) => exact resolved_grows (g.ask_grows chat) k
      | .pending (.execute _ _) | .pending (.done _) | .final _ | .both _ _ | .neither =>
        exact ih _
    | breakOn names =>
      refine .bind (.ofExcept _) fun _ => ?_
      match p with
      | .pending (.generate chat k) =>
        dsimp only
        split
        · exact ih _
        · exact (ih _).bind fun _ => .pure _
      | .pending (.execute _ _) | .pending (.done _) | .final _ | .both _ _ | .neither =>
        exact ih _
    | executor x =>
      refine .bind (.ofExcept _) fun _ => ?_
      match p with
      | .pending (.generate chat k) =>
        dsimp only
        split
        · exact (ih _).bind fun _ => .pure _
        · exact ih _
      | .pending (.execute call k) => exact resolved_grows (x.carryOut_grows call) k
      | .pending (.done _) | .final _ | .both _ _ | .neither => exact ih _

theorem drive_grows (chain : Chain) (fuel : Nat) (p : Program) : (chain.drive fuel p).Grows := by
  induction fuel generalizing p with
  | zero => exact .pure _
  | succ fuel ih =>
    refine .bind (.ofExcept _) fun _ => ?_
    split
    · exact .bind (.ofExcept _) fun _ => .pure _
    · refine (chain.move_grows p).bind fun next => ?_
      cases next with
      | none => exact .throw _
      | some next => exact ih next

variable {chain : Chain} {events events' : List Event} {result : Except Exception Outcome}

theorem Ends.prefix_events {p : Program} (h : chain.Ends p events result events') :
    events <+: events' := by
  obtain ⟨fuel, hdrive⟩ := h
  exact (chain.drive_grows fuel p).prefix_of_eq hdrive

/-- The events before a course that grows, and a run of the program it leads to, are a prefix of
those after it. -/
theorem Settles.prefix_events {d : Course Program} (hd : d.Grows)
    (h : chain.Settles d events result events') : events <+: events' := by
  cases hfirst : d events with
  | mk r reached =>
    have hreached := hd.prefix_of_eq hfirst
    cases r with
    | error e =>
      obtain ⟨-, rfl⟩ := (settles_of_error hfirst).1 h
      exact hreached
    | ok p => exact hreached.trans (Ends.prefix_events ((settles_of_ok hfirst).1 h))

/-- What happens in a course has happened when the run that it leads to ends. -/
theorem Settles.prefix_bind {α : Type} {d : Course α} {f : α → Course Program}
    (h : chain.Settles (d >>= f) events result events') (hf : ∀ x, (f x).Grows) :
    (d events).2 <+: events' := by
  cases hd : d events with
  | mk r reached =>
    cases r with
    | error e =>
      obtain ⟨-, rfl⟩ := (settles_bind_of_error hd).1 h
      exact List.prefix_rfl
    | ok x => exact ((settles_bind_of_ok hd).1 h).prefix_events (hf x)

/-- A run of a plan takes back nothing that happened before it. -/
theorem Gives.prefix_events {plan : Plan} {before after : Ledger} (hl : before.Sound)
    (h : chain.Gives plan before result after) : before.events <+: after.events :=
  Settles.prefix_events plan.opening_grows (h.settles hl)

end Chain

end Colloquy
