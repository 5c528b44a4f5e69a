import Colloquy.Proofs.Turn.Bound
import Mathlib.Data.List.Perm.Subperm

/-!
# Stacked automatic executors

After a round the executor that drove it owns the continuation, and no other link
does.  So a second automatic executor takes the continuation over again and begins to
count at zero, and after its round the first one does the same.  No limit is ever
reached: with a backend that asks for a tool in every reply, a run does not end
(`Chain.Insists.unending`).
-/

namespace Colloquy

namespace Chain

variable {chain : Chain}

/-! ## Owners of loops -/

theorem place_lt {chain : Chain} {loop : ToolLoop} (h : loop ∈ chain.loops) :
    loop.owner.place < chain.length := by
  induction chain with
  | nil => cases h
  | cons link inner ih =>
    cases link with
    | terminal => cases h
    | generation g => cases h
    | breakOn | forward => exact Nat.lt_succ_of_lt (ih h)
    | executor x =>
      rw [loops] at h
      split at h
      · cases h with
        | head => exact Nat.lt_succ_self _
        | tail _ h => exact Nat.lt_succ_of_lt (ih h)
      · exact Nat.lt_succ_of_lt (ih h)

theorem owners_nodup (chain : Chain) : (chain.loops.map ToolLoop.owner).Nodup := by
  induction chain with
  | nil => exact .nil
  | cons link inner ih =>
    cases link with
    | terminal => exact .nil
    | generation g => exact .nil
    | breakOn | forward => exact ih
    | executor x =>
      rw [loops]
      split
      · rw [List.map_cons, List.nodup_cons]
        refine ⟨?_, ih⟩
        intro hmem
        obtain ⟨loop, hloop, howner⟩ := List.mem_map.1 hmem
        have hplace := place_lt hloop
        rw [howner] at hplace
        exact Nat.lt_irrefl _ hplace
      · exact ih

/-- Of two loops one does not own a continuation that has one owner at most. -/
theorem exists_free (hloops : 2 ≤ chain.loops.length) {k : Cont} (hk : k.owners.length ≤ 1) :
    ∃ loop ∈ chain.loops, loop.owner ∉ k.owners := by
  by_contra hall
  have hsubset : chain.loops.map ToolLoop.owner ⊆ k.owners := by
    intro owner howner
    obtain ⟨loop, hloop, rfl⟩ := List.mem_map.1 howner
    by_contra hfree
    exact hall ⟨loop, hloop, hfree⟩
  have hlength := ((owners_nodup chain).subperm hsubset).length_le
  rw [List.length_map] at hlength
  omega

end Chain

/-! ## Fresh rounds -/

/-- A continuation that begins to count rounds: it answers a call that a chat ends with, and has
the model asked again after a first round. -/
def Cont.Restarts (k : Cont) (call : ToolCall) : Prop :=
  ∃ (loop : ToolLoop) (k' : Cont), ∀ chat : Chat, chat.pendingCalls = [call] →
    k.follow (.success (.chat chat)) = pure (.running call (loop.frames chat call [] k' 1))

namespace Cont.Restarts

variable {k : Cont} {call : ToolCall}

theorem rounds {loop : ToolLoop} (hlimit : loop.limit.reached 0 = false) (owners : List Owner)
    (k : Cont) : (Cont.plain owners (.rounds loop k 0)).Restarts call := by
  refine ⟨loop, k, fun chat hchat => ?_⟩
  rw [Cont.plain, Cont.follow, Body.follow, hchat]
  dsimp only
  rw [hlimit]
  rfl

theorem check {names : List Text} (hnames : call.name ∉ names) (h : k.Restarts call)
    (owners : List Owner) : (Cont.plain owners (.check names k)).Restarts call := by
  obtain ⟨loop, k', hfollow⟩ := h
  refine ⟨loop, k', fun chat hchat => ?_⟩
  have hany : callsAny names chat.pendingCalls = false := by
    rw [hchat, callsAny, List.any_cons, List.any_nil, List.contains_eq_mem]
    simp [hnames]
  rw [(Cont.Guards.check owners names k).chat, hany, if_neg Bool.false_ne_true, hfollow chat hchat]

end Cont.Restarts

namespace Chain

variable {chain : Chain} {call : ToolCall}

/-- A turn is not stopped for a call before there was a round: every loop allows one, and no link
watches for the tool. -/
structure Yields (chain : Chain) (call : ToolCall) : Prop where
  limits : ∀ loop ∈ chain.loops, loop.limit.reached 0 = false
  names : call.name ∉ watched chain

theorem Yields.forward {inner : Chain} (h : Yields (.forward :: inner) call) :
    Yields inner call :=
  ⟨h.limits, h.names⟩

theorem Yields.breakOn {names : List Text} {inner : Chain}
    (h : Yields (.breakOn names :: inner) call) : Yields inner call ∧ call.name ∉ names := by
  have hnames := h.names
  rw [watched, List.mem_append, not_or] at hnames
  exact ⟨⟨h.limits, hnames.1⟩, hnames.2⟩

theorem Yields.executor {x : Executor} {inner : Chain} (h : Yields (.executor x :: inner) call) :
    Yields inner call ∧ (x.auto = true → x.limit.reached 0 = false) := by
  have hlimits := h.limits
  rw [loops] at hlimits
  split at hlimits
  · rw [List.forall_mem_cons] at hlimits
    exact ⟨⟨hlimits.2, h.names⟩, fun _ => hlimits.1⟩
  · rename_i hmanual
    exact ⟨⟨hlimits, h.names⟩, fun hauto => absurd hauto hmanual⟩

/-- Fresh rounds stay fresh when links take them over. -/
theorem taken_restarts (hchain : chain.Yields call) {k : Cont} (h : k.Restarts call) :
    (chain.taken k).Restarts call := by
  induction chain generalizing k with
  | nil => exact h
  | cons link inner ih =>
    cases link with
    | terminal => exact h
    | generation g => exact h
    | forward => exact ih hchain.forward h
    | breakOn names =>
      obtain ⟨hinner, hnames⟩ := hchain.breakOn
      rw [taken]
      split
      · exact ih hinner h
      · exact ih hinner (h.check hnames _)
    | executor x =>
      obtain ⟨hinner, hlimit⟩ := hchain.executor
      rw [taken]
      split
      · rename_i hnew
        rw [Bool.and_eq_true] at hnew
        exact ih hinner (.rounds (hlimit hnew.1) _ _)
      · exact ih hinner h

/-- A continuation that some loop does not own is taken over with fresh rounds. -/
theorem taken_of_free (hchain : chain.Yields call) {k : Cont} {loop : ToolLoop}
    (hloop : loop ∈ chain.loops) (hfree : loop.owner ∉ k.owners) :
    (chain.taken k).Restarts call := by
  induction chain generalizing k with
  | nil => cases hloop
  | cons link inner ih =>
    cases link with
    | terminal => cases hloop
    | generation g => cases hloop
    | forward => exact ih hchain.forward hloop hfree
    | breakOn names =>
      obtain ⟨hinner, -⟩ := hchain.breakOn
      rw [taken]
      split
      · exact ih hinner hloop hfree
      · -- the link has a place of its own, further out than the loop
        refine ih hinner hloop fun hmem => ?_
        rcases List.mem_insert_iff.1 hmem with howner | hmem
        · have hinside : loop ∈ Chain.loops inner := hloop
          have hplace := place_lt hinside
          rw [howner] at hplace
          exact Nat.lt_irrefl _ hplace
        · exact hfree hmem
    | executor x =>
      obtain ⟨hinner, hlimit⟩ := hchain.executor
      rw [taken]
      split
      · rename_i hnew
        rw [Bool.and_eq_true] at hnew
        exact taken_restarts hinner (.rounds (hlimit hnew.1) _ _)
      · rename_i howned
        rw [loops] at hloop
        split at hloop
        · rename_i hauto
          cases hloop with
          | head =>
            rw [hauto, Bool.true_and, Bool.not_eq_true', Bool.not_eq_false, Cont.ownedBy,
              List.contains_iff_mem] at howned
            exact absurd howned hfree
          | tail _ hloop => exact ih hinner hloop hfree
        · exact ih hinner hloop hfree

/-! ## Runs that do not end -/

/-- A run goes on for as long as every step leads to a program that has a step again. -/
theorem drive_unending {S : Program → Prop}
    (hstep : ∀ p events, S p → ∃ (d : Course Program) (q : Program) (reached : List Event),
      p.validate = .ok () ∧ p.isTerminal = false ∧ chain.move p = (do return some (← d)) ∧
        d events = (.ok q, reached) ∧ S q)
    (fuel : Nat) {p : Program} (h : S p) (events : List Event) :
    (chain.drive fuel p events).1 = .ok none := by
  induction fuel generalizing p events with
  | zero => rfl
  | succ fuel ih =>
    obtain ⟨d, q, reached, hvalid, hpending, hmove, hd, hq⟩ := hstep p events h
    rw [drive_succ hvalid hpending hmove, bind_ok hd]
    exact ih hq reached

/-- The programs of a turn that goes on forever: the model is asked with a continuation that has
one owner at most, or its call is answered in a first round. -/
inductive Restless (answer : Answer) (chats : Chat → Prop) : Program → Prop
  | asking {chat : Chat} {k : Cont} (hchat : chats chat) (howners : k.owners.length ≤ 1) :
      Restless answer chats (.pending (.generate chat k))
  | answering {chat : Chat} (hchat : chats (chat.addMessage answer.message)) (loop : ToolLoop)
      (k : Cont) :
      Restless answer chats (.running answer.call (loop.frames chat answer.call [] k 1))

/-- A backend and tools that keep a turn going: the message for each of the chats has a call, which
has an answer, and with both at its end the chat is one of the chats again. -/
structure Insists (chain : Chain) (message : AssistantMessage) (answer : Answer)
    (chats : Chat → Prop) : Prop where
  calls : message.calls = [answer.call]
  yields : chain.Yields answer.call
  next : ∃ g, chain.generator? = some g ∧ ∀ chat events, chats chat →
    ∃ reached, g.next chat events = (.ok (.ok message), reached)
  answered : ∃ x, chain.executor? = some x ∧ ∀ policy events,
    ∃ reached, x.registry.answer policy answer.call events = (.ok (.ok answer), reached)
  again : ∀ chat, chats chat →
    chats ((chat.addMessage (.assistant message)).addMessage answer.message)

namespace Insists

variable {message : AssistantMessage} {answer : Answer} {chats : Chat → Prop}

/-- Every step of such a turn leads to a program with a step again. -/
theorem step (h : chain.Insists message answer chats) (hloops : 2 ≤ chain.loops.length)
    (p : Program) (events : List Event) (hp : Restless answer chats p) :
    ∃ (d : Course Program) (q : Program) (reached : List Event),
      p.validate = .ok () ∧ p.isTerminal = false ∧ chain.move p = (do return some (← d)) ∧
        d events = (.ok q, reached) ∧ Restless answer chats q := by
  cases hp with
  | @asking chat k hchat howners =>
    obtain ⟨g, hg, hnext⟩ := h.next
    obtain ⟨reached, hnext⟩ := hnext chat events hchat
    obtain ⟨loop, hloop, hfree⟩ := exists_free hloops howners
    obtain ⟨loop, k', hfollow⟩ := taken_of_free h.yields hloop hfree
    refine ⟨_, _, reached, rfl, rfl, move_generate hg chat k, ?_,
      .answering (h.again chat hchat) loop k'⟩
    have hasked : g.ask chat events
        = (.ok (.success (.chat (chat.addMessage (.assistant message)))), reached) := by
      rw [g.ask_eq, bind_ok hnext]
      rfl
    have hpending : (chat.addMessage (.assistant message)).pendingCalls = [answer.call] := by
      rw [chat.pendingCalls_addMessage, h.calls]
    rw [bind_ok hasked, hfollow _ hpending]
    rfl
  | @answering chat hchat loop k =>
    obtain ⟨x, hx, hanswer⟩ := h.answered
    obtain ⟨reached, hanswer⟩ := hanswer loop.policy events
    refine ⟨_, _, reached, rfl, rfl, move_execute hx answer.call _, ?_,
      .asking (k := .plain [loop.owner] (.rounds loop k 1)) hchat (Nat.le_refl _)⟩
    show (do
      ((Cont.plain [] (.callback .pure)).through
        (.record chat answer.call loop.policy :: [.regenerate loop k 1])).follow
          (← x.carryOut answer.call)) events = _
    rw [x.carryOut_through, bind_ok hanswer]
    rfl

/-- With two automatic executors a run of such a turn does not end. -/
theorem unending (h : chain.Insists message answer chats) (hloops : 2 ≤ chain.loops.length)
    {chat : Chat} (hchat : chats chat) {before : Ledger} (hl : before.Sound)
    (result : Except Exception Outcome) (after : Ledger) :
    ¬chain.Gives (.generate chat) before result after := by
  intro hgives
  obtain ⟨fuel, hends⟩ := hgives.settles hl
  have hgoes := drive_unending (h.step hloops) fuel
    (.asking (k := .plain [] (.callback .pure)) hchat (Nat.zero_le _)) before.events
  exact map_some_ne_none ((congrArg Prod.fst hends).symm.trans hgoes)

end Insists

end Chain

end Colloquy
