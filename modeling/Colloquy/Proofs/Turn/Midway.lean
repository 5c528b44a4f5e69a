import Colloquy.Proofs.Program.Sequencing
import Colloquy.Proofs.Turn.Assembly

/-!
# Callbacks that wait

A program that a callback follows is run beside the program alone.  `Assembly.Standing`
says what the run with the callback comes to when the other one stands at a program.
Between turns the callback follows the program.  Within a turn it waits at the end of the
continuation that the rounds of the turn hand on.

The main statement is `Assembly.Standing.moved`: however many steps are taken, the two
runs stand so.
-/

namespace Colloquy

open Course

/-! ## Callbacks behind programs -/

/-- A continuation that a callback follows. -/
def Cont.andThen (k : Cont) (f : Outcome → Plan) : Cont :=
  .plain [] (.extended k (.callback f))

/-- A program that a callback follows: the program without numbers that `Program.andThen`
builds. -/
def Program.followedBy (p : Program) (f : Outcome → Plan) : Course Program :=
  p.continued (.callback f) (Frame.callback f).follow

/-- Whether a plan is one of a program, and not of something else. -/
def Plan.isProgram : Plan → Bool
  | .stray _ => false
  | .note _ plan => plan.isProgram
  | _ => true

/-- A plan of a program is built into one. -/
theorem Plan.outline_of_isProgram {plan : Plan} (h : plan.isProgram = true) :
    Always (fun b => ∃ p, b = .program p) plan.outline := by
  induction plan with
  | pure | generate | execute | done | neither | both => exact .pure ⟨_, rfl⟩
  | raise e => exact .throw e
  | stray value => cases h
  | note name plan ih => exact .bind_any fun _ => ih h
  | andThen first next =>
    rw [Plan.outline]
    refine .bind_any fun b => ?_
    cases b with
    | stray value => exact .throw _
    | program p => exact .bind_any fun q => .pure ⟨q, rfl⟩

/-- A plan that a callback follows opens with the program of the plan, which the callback
follows. -/
theorem Plan.opening_andThen {plan : Plan} (h : plan.isProgram = true) (f : Outcome → Plan) :
    (plan.andThen f).opening = (do (← plan.opening).followedBy f) := by
  refine Alike.eq ?_
  rw [Plan.opening, Plan.opening, Plan.outline]
  simp only [bind_assoc]
  refine (Alike.refl plan.outline).bind_always (outline_of_isProgram h) ?_
  rintro b - rfl ⟨p, rfl⟩
  simp only [Built.required, bind_assoc, pure_bind, bind_pure]
  exact .refl _

/-! ## Fresh programs -/

/-- A continuation of callbacks alone, as it is built of plans: no link has taken it over. -/
inductive Cont.Fresh : Cont → Prop
  | callback (f : Outcome → Plan) : Fresh (.plain [] (.callback f))
  | andThen {k : Cont} (h : Fresh k) (f : Outcome → Plan) : Fresh (k.andThen f)

/-- A program that waits, if it does, with a continuation of callbacks alone. -/
inductive Program.Fresh : Program → Prop
  | final (value : Outcome) : Fresh (.final value)
  | generate (chat : Chat) {k : Cont} (h : k.Fresh) : Fresh (.pending (.generate chat k))
  | execute (call : ToolCall) {k : Cont} (h : k.Fresh) : Fresh (.pending (.execute call k))
  | done (result : Outcome) : Fresh (.pending (.done result))
  | both (operation : Operation) (value : Outcome) : Fresh (.both operation value)
  | neither : Fresh .neither

/-- What is built of a plan: a fresh program, or no program. -/
inductive Built.Fresh : Built → Prop
  | program {p : Program} (h : p.Fresh) : Fresh (.program p)
  | stray (value : Outcome) : Fresh (.stray value)

theorem Cont.Fresh.owners {k : Cont} (h : k.Fresh) : k.owners = [] := by
  cases h <;> rfl

theorem Built.Fresh.required {b : Built} (h : b.Fresh) (who : Text) :
    Always Program.Fresh (b.required who) := by
  cases h with
  | program h => exact .pure h
  | stray value => exact .throw _

theorem Program.Fresh.continued {p : Program} (h : p.Fresh) (f : Outcome → Plan)
    {apply : Outcome → Course Program} (happly : ∀ value, Always Program.Fresh (apply value)) :
    Always Program.Fresh (p.continued (.callback f) apply) := by
  cases h with
  | final value => exact happly value
  | generate chat h => exact .pure (.generate chat (.andThen h f))
  | execute call h => exact .pure (.execute call (.andThen h f))
  | done result => exact .pure (.done result)
  | both operation value => exact .throw _
  | neither => exact .throw _

theorem Plan.outline_fresh (plan : Plan) : Always Built.Fresh plan.outline := by
  induction plan with
  | pure value => exact .pure (.program (.final value))
  | generate chat => exact .pure (.program (.generate chat (.callback .pure)))
  | execute call => exact .pure (.program (.execute call (.callback .pure)))
  | done result => exact .pure (.program (.done result))
  | neither => exact .pure (.program .neither)
  | both result value => exact .pure (.program (.both _ value))
  | raise e => exact .throw e
  | stray value => exact .pure (.stray value)
  | note name plan ih => exact .bind_any fun _ => ih
  | andThen first next ihFirst ihNext =>
    rw [Plan.outline]
    refine ihFirst.bind fun b hb => ?_
    cases hb with
    | stray value => exact .throw _
    | program hp =>
      refine (hp.continued next fun value => ?_).bind fun q hq => .pure (.program hq)
      exact (ihNext value).bind fun b hb => hb.required _

/-- Wherever a plan is built, its program is fresh. -/
theorem Plan.required_fresh (plan : Plan) (who : Text) :
    Always Program.Fresh (plan.outline >>= Built.required who) :=
  plan.outline_fresh.bind fun _ hb => hb.required who

/-- A continuation of callbacks goes on with a fresh program. -/
theorem Cont.Fresh.follow {k : Cont} (h : k.Fresh) (result : Outcome) :
    Always Program.Fresh (k.follow result) := by
  induction h with
  | callback f => exact (f result).required_fresh _
  | andThen _ f ih =>
    exact ih.bind fun p hp => hp.continued f fun value => (f value).required_fresh _

/-! ## Steps one after the other -/

namespace Chain

/-- The program after one step, which is the very same program when the links pass it on. -/
def moveOn (chain : Chain) (p : Program) : Course Program := do
  return (← chain.move p).getD p

/-- The program after a number of steps. -/
def moved (chain : Chain) : Nat → Program → Course Program
  | 0, p => return p
  | n + 1, p => do moved chain n (← chain.moveOn p)

variable {chain : Chain} {p : Program}

theorem moveOn_of_move {d : Course Program} (h : chain.move p = (do return some (← d))) :
    chain.moveOn p = d := by
  rw [moveOn, h]
  simp only [bind_assoc, pure_bind, Option.getD_some, bind_pure]

/-- The links pass on a program with nothing left to be resolved. -/
theorem move_of_isTerminal (hvalid : p.validate = .ok ()) (hterminal : p.isTerminal = true) :
    chain.move p = pure none := by
  match p with
  | .final value =>
    induction chain with
    | nil => rfl
    | cons link inner ih => cases link <;> first | exact ih | rfl
  | .pending (.done result) =>
    induction chain with
    | nil => rfl
    | cons link inner ih => cases link <;> first | exact ih | rfl
  | .pending (.generate _ _) | .pending (.execute _ _) => cases hterminal
  | .both _ _ | .neither => cases hvalid

theorem moveOn_of_isTerminal (hvalid : p.validate = .ok ()) (hterminal : p.isTerminal = true) :
    chain.moveOn p = pure p := by
  rw [moveOn, move_of_isTerminal hvalid hterminal]
  rfl

/-- Two courses, each after some events, that settle the same. -/
def SameEnds (chain : Chain) (d : Course Program) (events : List Event) (d' : Course Program)
    (events' : List Event) : Prop :=
  ∀ result last, chain.Settles d events result last ↔ chain.Settles d' events' result last

theorem SameEnds.refl (d : Course Program) (events : List Event) :
    chain.SameEnds d events d events :=
  fun _ _ => Iff.rfl

theorem SameEnds.trans {d d' d'' : Course Program} {events events' events'' : List Event}
    (h : chain.SameEnds d events d' events') (h' : chain.SameEnds d' events' d'' events'') :
    chain.SameEnds d events d'' events'' :=
  fun result last => (h result last).trans (h' result last)

end Chain

namespace Assembly

/-! ## Where two runs stand -/

/-- The continuation of a generation within a turn, in which a number of rounds were made. -/
def midway (a : Assembly) (k : Cont) (count : Nat) : Cont :=
  .plain [a.solo.owner] (.rounds a.solo.loop k count)

/-- What a run with a callback comes to when the run without it stands at a program. -/
inductive Standing (a : Assembly) (most : Nat) (f : Outcome → Plan) :
    Program → Course Program → Prop
  /-- No turn goes on, and the callback follows the program. -/
  | between {p : Program} (h : p.Fresh) : Standing a most f p (p.followedBy f)
  /-- The model is asked again. -/
  | asking (chat : Chat) {k : Cont} (hk : k.Fresh) {count : Nat}
      (hcount : 0 < count ∧ count ≤ most) :
      Standing a most f (.pending (.generate chat (a.midway k count)))
        (pure (.pending (.generate chat (a.midway (k.andThen f) count))))
  /-- The calls of a round are answered. -/
  | answering (chat : Chat) (call : ToolCall) (others : List ToolCall) {k : Cont} (hk : k.Fresh)
      {count : Nat} (hcount : 0 < count ∧ count ≤ most) :
      Standing a most f (.running call (a.solo.loop.frames chat call others k count))
        (pure (.running call (a.solo.loop.frames chat call others (k.andThen f) count)))

/-- What a course of the run without the callback came to: a program at which the two runs stand, or
an exception that both have raised. -/
inductive Beside (a : Assembly) (most : Nat) (f : Outcome → Plan) (d : Course Program)
    (events : List Event) : Except Exception Program × List Event → Prop
  | stands {q : Program} {d' : Course Program} {reached : List Event}
      (hq : a.Standing most f q d') (hsame : a.chain.SameEnds d events d' reached) :
      Beside a most f d events (.ok q, reached)
  | raised {e : Exception} {reached : List Event}
      (hsame : a.chain.SameEnds d events (throw e) reached) :
      Beside a most f d events (.error e, reached)

/-- A course of the run without the callback is taken beside the run with it. -/
def Keeps (a : Assembly) (most : Nat) (f : Outcome → Plan) (m d : Course Program)
    (events : List Event) : Prop :=
  a.Beside most f d events (m events)

variable {a : Assembly} {most : Nat} {f : Outcome → Plan}

theorem Beside.of_sameEnds {d d' : Course Program} {events events' : List Event}
    {r : Except Exception Program × List Event} (h : a.Beside most f d' events' r)
    (hd : a.chain.SameEnds d events d' events') : a.Beside most f d events r := by
  cases h with
  | stands hq hsame => exact .stands hq (hd.trans hsame)
  | raised hsame => exact .raised (hd.trans hsame)

namespace Keeps

variable {m d d' : Course Program} {events : List Event}

theorem pure {q : Program} (h : a.Standing most f q d) : a.Keeps most f (Pure.pure q) d events :=
  .stands h (.refl _ _)

theorem throw (e : Exception) :
    a.Keeps most f (MonadExcept.throw e) (MonadExcept.throw e) events :=
  .raised (.refl _ _)

theorem of_sameEnds (h : a.Keeps most f m d' events)
    (hd : a.chain.SameEnds d events d' events) : a.Keeps most f m d events :=
  Beside.of_sameEnds h hd

theorem bind {m' : Program → Course Program} (h : a.Keeps most f m d events)
    (hm' : ∀ q d' reached, a.Standing most f q d' → a.Keeps most f (m' q) d' reached) :
    a.Keeps most f (m >>= m') d events := by
  unfold Keeps at h ⊢
  rw [bind_apply]
  generalize m events = r at h
  cases h with
  | stands hq hsame => exact Beside.of_sameEnds (hm' _ _ _ hq) hsame
  | raised hsame => exact .raised hsame

/-- The same happens in both runs before they part. -/
theorem bind_same {α : Type} (x : Course α) {m d : α → Course Program}
    (h : ∀ y reached, a.Keeps most f (m y) (d y) reached) :
    a.Keeps most f (x >>= m) (x >>= d) events := by
  unfold Keeps
  cases hx : x events with
  | mk r reached =>
    cases r with
    | error e =>
      rw [bind_error hx]
      exact .raised fun result last => Chain.settles_bind_of_error hx
    | ok y =>
      rw [bind_ok hx]
      exact Beside.of_sameEnds (h y reached) fun result last => Chain.settles_bind_of_ok hx

/-- The callback follows the fresh program that a course leads to. -/
theorem followed (h : Always Program.Fresh m) :
    a.Keeps most f m (m >>= (·.followedBy f)) events := by
  unfold Keeps
  cases hm : m events with
  | mk r reached =>
    cases r with
    | error e => exact .raised fun result last => Chain.settles_bind_of_error hm
    | ok q =>
      exact .stands (.between (h events q reached hm)) fun result last =>
        Chain.settles_bind_of_ok hm

end Keeps

/-! ## How continuations are taken over -/

theorem generator?_chain (a : Assembly) : a.chain.generator? = some a.generator :=
  a.solo.generator?_chain

theorem executor?_chain (a : Assembly) : a.chain.executor? = some a.executor :=
  a.solo.executor?_chain

variable {k : Cont} {count : Nat} {events : List Event}

/-- A new continuation is taken over as the one of a turn without rounds. -/
theorem taken_new (hnew : k.owners = []) :
    a.chain.taken k = a.solo.core.taken (a.midway k 0) := by
  have hfree : (a.executor.auto && !k.ownedBy a.solo.owner) = true := by
    rw [a.auto, Cont.ownedBy, hnew]
    rfl
  have hinsert : k.owners.insert a.solo.owner = [a.solo.owner] := by
    rw [hnew]
    rfl
  rw [← a.solo_chain]
  show (if a.executor.auto && !k.ownedBy a.solo.owner then
      a.solo.core.taken (.plain (k.owners.insert a.solo.owner) (.rounds a.solo.loop k 0))
    else a.solo.core.taken k) = _
  rw [if_pos hfree, hinsert]
  rfl

/-- The executor owns the continuation within a turn. -/
theorem taken_midway : a.chain.taken (a.midway k count) = a.solo.core.taken (a.midway k count) := by
  have howned : (a.midway k count).ownedBy a.solo.owner = true := by
    rw [Cont.ownedBy, List.contains_eq_mem, decide_eq_true_eq]
    exact List.mem_singleton.2 rfl
  rw [← a.solo_chain]
  show (if a.executor.auto && !(a.midway k count).ownedBy a.solo.owner then _
    else a.solo.core.taken (a.midway k count)) = _
  rw [howned, Bool.not_true, Bool.and_false, if_neg Bool.false_ne_true]

/-- The link that watches for tools guards the continuation. -/
theorem guards_midway (k : Cont) (count : Nat) :
    (a.solo.core.taken (a.midway k count)).Guards a.names (a.midway k count) := by
  obtain ⟨k', htaken, hguards⟩ := a.solo.taken_core (k := a.midway k count) (by
    intro o ho
    rw [midway, Cont.plain_owners, List.mem_singleton] at ho
    rw [ho]
    exact Nat.le_refl _)
  rw [htaken, ← a.solo_watchedFirst]
  exact hguards

/-! ## Steps side by side -/

/-- A failed exchange ends the turn, and the callback follows. -/
theorem keeps_failure (hk : k.Fresh) (count : Nat) (e : Exception) :
    a.Keeps most f ((a.solo.core.taken (a.midway k count)).follow (.failure e))
      ((a.solo.core.taken (a.midway (k.andThen f) count)).follow (.failure e)) events := by
  rw [SoloChain.follow_failure (.refl k) (guards_midway k count),
    SoloChain.follow_failure (.refl (k.andThen f)) (guards_midway (k.andThen f) count)]
  exact .followed (hk.follow _)

/-- What a message comes to in both runs: the turn ends, or a round begins. -/
theorem keeps_message (hmost : a.executor.limit.rounds? = some most) (hk : k.Fresh) (count : Nat)
    (chat : Chat) (message : AssistantMessage) :
    a.Keeps most f
      ((a.solo.core.taken (a.midway k count)).follow
        (.success (.chat (chat.addMessage (.assistant message)))))
      ((a.solo.core.taken (a.midway (k.andThen f) count)).follow
        (.success (.chat (chat.addMessage (.assistant message))))) events := by
  have hfollowed : ∀ result,
      a.Keeps most f (k.follow result) ((k.andThen f).follow result) events :=
    fun result => .followed (hk.follow result)
  rw [SoloChain.follow_reply (.refl k) (guards_midway k count),
    SoloChain.follow_reply (.refl (k.andThen f)) (guards_midway (k.andThen f) count)]
  split
  · exact .pure (.between (.done _))
  · cases message.calls with
    | nil => exact hfollowed _
    | cons call others =>
      dsimp only
      split
      · exact hfollowed _
      · rename_i hreached
        have hless : ¬most ≤ count := fun h => hreached ((RoundLimit.reached_iff hmost count).2 h)
        exact .pure (.answering _ call others hk ⟨count.succ_pos, by omega⟩)

/-- An exchange within a turn. -/
theorem keeps_exchange (hmost : a.executor.limit.rounds? = some most) (hk : k.Fresh)
    (count : Nat) (chat : Chat) :
    a.Keeps most f (do (a.solo.core.taken (a.midway k count)).follow (← a.generator.ask chat))
      (do (a.solo.core.taken (a.midway (k.andThen f) count)).follow (← a.generator.ask chat))
      events := by
  rw [a.generator.ask_eq]
  simp only [bind_assoc, pure_bind]
  refine .bind_same _ fun message reached => ?_
  cases message with
  | error e => exact keeps_failure hk count (.own e)
  | ok message => exact keeps_message hmost hk count chat message

/-- A call that is not answered ends the turn, and the callback follows. -/
theorem keeps_refused (hk : k.Fresh) (count : Nat) (others : List ToolCall) (e : Exception) :
    a.Keeps most f
      ((Program.final (.failure e)).onward
        (others.map (.answer · a.executor.policy) ++ [.regenerate a.solo.loop k count]))
      ((Program.final (.failure e)).onward
        (others.map (.answer · a.executor.policy) ++ [.regenerate a.solo.loop (k.andThen f) count]))
      events := by
  have hpassed : ∀ k : Cont,
      (Program.final (.failure e)).onward [.regenerate a.solo.loop k count]
        = k.follow (.failure e) :=
    fun k => bind_pure (k.follow (.failure e))
  rw [Program.onward_failure, Program.onward_failure, hpassed, hpassed]
  exact .followed (hk.follow _)

/-- After an answer the next call is answered, or the model is asked again. -/
theorem keeps_answered (hk : k.Fresh) (hcount : 0 < count ∧ count ≤ most) (chat : Chat)
    (others : List ToolCall) :
    a.Keeps most f
      ((Program.final (.success (.chat chat))).onward
        (others.map (.answer · a.executor.policy) ++ [.regenerate a.solo.loop k count]))
      ((Program.final (.success (.chat chat))).onward
        (others.map (.answer · a.executor.policy) ++ [.regenerate a.solo.loop (k.andThen f) count]))
      events := by
  cases others with
  | nil => exact .pure (.asking chat hk hcount)
  | cons call others =>
    rw [List.map_cons, List.cons_append, List.cons_append, Program.onward_answer,
      Program.onward_answer]
    exact .pure (.answering chat call others hk hcount)

/-- A step of a fresh program.  A generation begins a turn, in which the callback waits; of a tool
call a fresh program comes again. -/
theorem keeps_fresh (hmost : a.executor.limit.rounds? = some most) {p : Program} (h : p.Fresh)
    (events : List Event) : a.Keeps most f (a.chain.moveOn p) (p.followedBy f) events := by
  cases h with
  | final value =>
    rw [Chain.moveOn_of_isTerminal rfl rfl]
    exact .pure (.between (.final value))
  | done result =>
    rw [Chain.moveOn_of_isTerminal rfl rfl]
    exact .pure (.between (.done result))
  | both operation value => exact .throw (.own (Program.invalid "both"))
  | neither => exact .throw (.own (Program.invalid "neither"))
  | @generate chat k hk =>
    rw [Chain.moveOn_of_move (Chain.move_generate a.generator?_chain chat k), taken_new hk.owners]
    refine (keeps_exchange hmost hk 0 chat).of_sameEnds fun result last => ?_
    rw [← taken_new (hk.andThen f).owners]
    exact Chain.ends_generate a.generator?_chain chat _
  | @execute call k hk =>
    rw [Chain.moveOn_of_move (Chain.move_execute a.executor?_chain call k)]
    refine (Keeps.followed (.bind_any fun result => hk.follow result)).of_sameEnds
      fun result last => ?_
    rw [bind_assoc]
    exact Chain.ends_execute a.executor?_chain call _

/-- A step keeps the two runs side by side. -/
theorem Standing.step (hmost : a.executor.limit.rounds? = some most) {p : Program}
    {d : Course Program} (h : a.Standing most f p d) (events : List Event) :
    a.Keeps most f (a.chain.moveOn p) d events := by
  cases h with
  | between h => exact keeps_fresh hmost h events
  | @asking chat k hk count hcount =>
    rw [Chain.moveOn_of_move (Chain.move_generate a.generator?_chain chat _), taken_midway]
    refine (keeps_exchange hmost hk count chat).of_sameEnds fun result last => ?_
    rw [← taken_midway]
    exact Chain.ends_generate a.generator?_chain chat _
  | @answering chat call others k hk count hcount =>
    rw [Program.running, Chain.moveOn_of_move (Chain.move_execute a.executor?_chain call _)]
    refine Keeps.of_sameEnds ?_ fun result last => Chain.ends_execute a.executor?_chain call _
    show a.Keeps most f
      (do
        ((Cont.plain [] (.callback .pure)).through (.record chat call a.executor.policy ::
          _)).follow (← a.executor.carryOut call))
      (do
        ((Cont.plain [] (.callback .pure)).through (.record chat call a.executor.policy ::
          _)).follow (← a.executor.carryOut call)) events
    rw [a.executor.carryOut_through, a.executor.carryOut_through]
    refine .bind_same _ fun answer reached => ?_
    cases answer with
    | error e => exact keeps_refused hk count others (.own e)
    | ok answer => exact keeps_answered hk hcount (chat.addMessage answer.message) others

/-- However many steps are taken, the two runs stay side by side. -/
theorem Standing.moved (hmost : a.executor.limit.rounds? = some most) (n : Nat) {p : Program}
    {d : Course Program} (h : a.Standing most f p d) (events : List Event) :
    a.Keeps most f (a.chain.moved n p) d events := by
  induction n generalizing p d events with
  | zero => exact .pure h
  | succ n ih => exact (h.step hmost events).bind fun q d' reached hq => ih hq reached

end Assembly

end Colloquy
