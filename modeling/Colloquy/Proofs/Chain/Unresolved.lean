import Colloquy.Proofs.Chain.Visit

/-!
# Operations that no link resolves

A link that does not recognise the operation of a program hands on what the links
inside it make of that very program (`Link.Ignores.step_eq`).

Links that take generations over change a program although nothing is resolved, so a
run cannot see from one changed program that it is stuck.  It stops because a link
takes a continuation over once.  `Chain.Owns` says that there is no link left to do
so.  A step of an unresolved generation leads to a continuation that all links own
(`Chain.step_unresolved`), and the step after that passes the program on
(`Chain.step_of_owns`).
-/

namespace Colloquy

/-! ## Links that pass a program on -/

/-- Whether a link takes generations over. -/
def Link.takesOver : Link → Bool
  | .executor x => x.auto
  | .breakOn _ => true
  | .generation _ | .forward | .terminal => false

/-- A program that a link around the links `inner` has nothing to do with: an operation that it does
not recognise, a generation that is not its own or that it has taken over before, and a program
with nothing left to resolve. -/
inductive Link.Ignores (inner : Chain) : Link → Program → Prop
  | breakOn_execute (names : List Text) (call : ToolCall) (k : Cont) :
      Ignores inner (.breakOn names) (.pending (.execute call k))
  | generation_execute (g : Generator) (call : ToolCall) (k : Cont) :
      Ignores inner (.generation g) (.pending (.execute call k))
  | manual {x : Executor} (h : x.auto = false) (chat : Chat) (k : Cont) :
      Ignores inner (.executor x) (.pending (.generate chat k))
  | owned {link : Link} (hlink : link.takesOver = true) (chat : Chat) {k : Cont}
      (h : k.ownedBy (link.owner inner) = true) : Ignores inner link (.pending (.generate chat k))
  | done {link : Link} (hlink : link ≠ .terminal) (result : Outcome) :
      Ignores inner link (.pending (.done result))
  | final {link : Link} (hlink : link ≠ .terminal) (value : Outcome) :
      Ignores inner link (.final value)

/-- What a link makes of a program that it ignores is what the links inside make of it. -/
theorem Link.Ignores.step_eq {link : Link} {inner : Chain} {p : Program}
    (h : link.Ignores inner p) : Chain.step (link :: inner) p = Chain.step inner p := by
  cases h with
  | breakOn_execute | generation_execute => rfl
  | @manual x h chat k =>
    show (if x.auto && !k.ownedBy _ then _ else Chain.step inner _) = _
    rw [h]
    rfl
  | @owned _ hlink chat k h =>
    cases link with
    | executor x =>
      show (if x.auto && !k.ownedBy _ then _ else Chain.step inner _) = _
      rw [h, Bool.not_true, Bool.and_false]
      rfl
    | breakOn names =>
      show (if k.ownedBy _ then Chain.step inner _ else _) = _
      rw [if_pos h]
    | generation | forward | terminal => cases hlink
  | done hlink | final hlink =>
    cases link with
    | terminal => exact absurd rfl hlink
    | executor | breakOn | generation | forward => rfl

/-- A link that takes a generation over leaves it to the links inside, with a continuation that it
owns. -/
theorem Link.step_takesOver {link : Link} {inner : Chain} (hlink : link.takesOver = true)
    (chat : Chat) {k : Cont} (h : k.ownedBy (link.owner inner) = false) :
    ∃ body, Chain.step (link :: inner) (.pending (.generate chat k))
      = (do changed (← Program.takeOver chat k (link.owner inner) body) (Chain.step inner)) := by
  cases link with
  | executor x =>
    refine ⟨.rounds (x.loop ((Link.executor x).owner inner)) k 0, ?_⟩
    show (if x.auto && !k.ownedBy _ then _ else _) = _
    rw [h, show x.auto = true from hlink]
    rfl
  | breakOn names =>
    refine ⟨.check names k, ?_⟩
    show (if k.ownedBy _ then _ else _) = _
    rw [h]
    rfl
  | generation | forward | terminal => cases hlink

theorem changed_takeOver_apply (chat : Chat) (k : Cont) (owner : Owner) (body : Body)
    (inner : Program → Act (Option Program)) (l : Ledger) :
    (do changed (← Program.takeOver chat k owner body) inner) l
      = changed (.pending (.generate chat ⟨l.issued, k.owners.insert owner, body⟩)) inner
          { l with issued := l.issued + 1 } := rfl

/-! ## Continuations that all links own -/

namespace Chain

/-- Every link that takes generations over, as far as the terminal link, owns a continuation. -/
def Owns : Chain → Cont → Prop
  | [], _ => True
  | .terminal :: _, _ => True
  | link :: inner, k =>
    (link.takesOver = true → k.ownedBy (link.owner inner) = true) ∧ Owns inner k

theorem owns_cons {link : Link} {inner : Chain} {k : Cont}
    (hlink : link.takesOver = true → k.ownedBy (link.owner inner) = true)
    (hinner : inner.Owns k) : Owns (link :: inner) k := by
  cases link with
  | terminal => trivial
  | executor | breakOn | generation | forward => exact ⟨hlink, hinner⟩

section

variable {chain : Chain}

/-- A generation that no link resolves and all links own is passed on. -/
theorem step_of_owns (hgenerator : chain.generator? = none) (chat : Chat) {k : Cont}
    (h : chain.Owns k) : chain.step (.pending (.generate chat k)) = pure none := by
  induction chain with
  | nil => rfl
  | cons link inner ih =>
    cases link with
    | terminal => rfl
    | forward => exact ih hgenerator h.2
    | generation g => cases hgenerator
    | breakOn names =>
      rw [(Link.Ignores.owned rfl chat (h.1 rfl)).step_eq]
      exact ih hgenerator h.2
    | executor x =>
      have hignores : (Link.executor x).Ignores inner (.pending (.generate chat k)) := by
        cases hauto : x.auto with
        | false => exact .manual hauto chat k
        | true =>
          have hlink : (Link.executor x).takesOver = true := hauto
          exact .owned hlink chat (h.1 hlink)
      rw [hignores.step_eq]
      exact ih hgenerator h.2

/-- What a step can make of a generation that no link resolves.  It passes on a program whose
continuation all links own.  Any other continuation is taken over by the links that do not own it;
then all of them do, and all that happens is that continuations are issued. -/
inductive Wraps (chain : Chain) (chat : Chat) (k : Cont) (l : Ledger) : Prop
  | passed (h : chain.Owns k)
  | wrapped (k' : Cont) (issued : Nat) (h : chain.Owns k')
      (howners : ∀ o, k.ownedBy o = true → k'.ownedBy o = true) (hissued : l.issued ≤ issued)
      (hstep : chain.step (.pending (.generate chat k)) l
        = (.ok (some (.pending (.generate chat k'))), { l with issued }))

/-- A link that ignores a generation leaves it to the links inside. -/
theorem Wraps.outward {link : Link} {inner : Chain} {chat : Chat} {k : Cont} {l : Ledger}
    (h : inner.Wraps chat k l) (hlink : link.takesOver = true → k.ownedBy (link.owner inner) = true)
    (hignores : link.Ignores inner (.pending (.generate chat k))) :
    Wraps (link :: inner) chat k l := by
  cases h with
  | passed h => exact .passed (owns_cons hlink h)
  | wrapped k' issued h howners hissued hstep =>
    refine .wrapped k' issued (owns_cons (fun ht => howners _ (hlink ht)) h) howners hissued ?_
    rw [hignores.step_eq]
    exact hstep

/-- A link takes a generation over, and the links inside do what they do with it. -/
theorem Wraps.takenOver {link : Link} {inner : Chain} {chat : Chat} {k : Cont} {l : Ledger}
    (hinner : ∀ k l, inner.Wraps chat k l) (hgenerator : inner.generator? = none)
    (hlink : link.takesOver = true) (h : k.ownedBy (link.owner inner) = false) :
    Wraps (link :: inner) chat k l := by
  obtain ⟨body, hbody⟩ := Link.step_takesOver hlink chat h
  let k₁ : Cont := ⟨l.issued, k.owners.insert (link.owner inner), body⟩
  let l₁ : Ledger := { l with issued := l.issued + 1 }
  have hown : k₁.ownedBy (link.owner inner) = true :=
    List.contains_iff_mem.2 (List.mem_insert_self)
  have hkept : ∀ o, k.ownedBy o = true → k₁.ownedBy o = true := fun o ho =>
    List.contains_iff_mem.2 (List.mem_insert_of_mem (List.contains_iff_mem.1 ho))
  have hstep : Chain.step (link :: inner) (.pending (.generate chat k)) l
      = changed (.pending (.generate chat k₁)) (Chain.step inner) l₁ := by
    rw [hbody, changed_takeOver_apply]
  cases hinner k₁ l₁ with
  | passed howns =>
    refine .wrapped k₁ (l.issued + 1) (owns_cons (fun _ => hown) howns) hkept (Nat.le_succ _) ?_
    rw [hstep, changed, step_of_owns hgenerator chat howns]
    rfl
  | wrapped k' issued howns howners hissued hwrapped =>
    refine .wrapped k' issued (owns_cons (fun _ => howners _ hown) howns)
      (fun o ho => howners o (hkept o ho)) (Nat.le_of_succ_le hissued) ?_
    rw [hstep, changed, bind_ok hwrapped]
    rfl

/-- A step makes one of two things of a generation that no link resolves. -/
theorem step_unresolved (hgenerator : chain.generator? = none) (chat : Chat) (k : Cont)
    (l : Ledger) : chain.Wraps chat k l := by
  induction chain generalizing k l with
  | nil => exact .passed trivial
  | cons link inner ih =>
    cases link with
    | terminal => exact .passed trivial
    | generation g => cases hgenerator
    | forward =>
      cases ih hgenerator k l with
      | passed h => exact .passed (owns_cons nofun h)
      | wrapped k' issued h howners hissued hstep =>
        exact .wrapped k' issued (owns_cons nofun h) howners hissued hstep
    | breakOn names =>
      cases hown : k.ownedBy ((Link.breakOn names).owner inner) with
      | false => exact .takenOver (ih hgenerator) hgenerator rfl hown
      | true => exact (ih hgenerator k l).outward (fun _ => hown) (.owned rfl chat hown)
    | executor x =>
      cases hauto : x.auto with
      | false =>
        refine (ih hgenerator k l).outward (fun h => ?_) (.manual hauto chat k)
        cases hauto.symm.trans h
      | true =>
        have hlink : (Link.executor x).takesOver = true := hauto
        cases hown : k.ownedBy ((Link.executor x).owner inner) with
        | false => exact .takenOver (ih hgenerator) hgenerator hlink hown
        | true => exact (ih hgenerator k l).outward (fun _ => hown) (.owned hlink chat hown)

/-- A tool call that no link resolves is passed on. -/
theorem step_execute_unresolved (hexecutor : chain.executor? = none) (call : ToolCall) (k : Cont) :
    chain.step (.pending (.execute call k)) = pure none := by
  induction chain with
  | nil => rfl
  | cons link inner ih =>
    cases link with
    | terminal => rfl
    | executor x => cases hexecutor
    | forward | breakOn | generation => exact ih hexecutor

end

end Chain

/-! ## Runs -/

/-- Whether a link resolves an operation. -/
def Link.resolves : Link → Operation → Bool
  | .generation _, .generate _ _ => true
  | .executor _, .execute _ _ => true
  | _, _ => false

/-- Whether some link of a chain, as far as the terminal link, resolves an operation. -/
def Chain.resolves (chain : Chain) : Operation → Bool
  | .generate _ _ => chain.generator?.isSome
  | .execute _ _ => chain.executor?.isSome
  | .done _ => false

namespace Chain

section

variable {chain : Chain} {operation : Operation}

/-- A chain does not resolve what none of its links does. -/
theorem not_resolves (h : ∀ link ∈ chain, link.resolves operation = false) :
    chain.resolves operation = false := by
  induction chain with
  | nil => cases operation <;> rfl
  | cons link inner ih =>
    have hlink := h link List.mem_cons_self
    have hinner := ih fun l hl => h l (List.mem_cons_of_mem link hl)
    cases link <;> cases operation <;> first | exact hinner | rfl | cases hlink

/-- A program that waits for an operation that no link resolves, and the ledger there: links may put
continuations around its own, and nothing else happens until the run has to stop. -/
inductive Stuck (chain : Chain) (p : Program) (l : Ledger) : Prop
  | passed (hstep : chain.step p l = (.ok none, l))
  | wrapped (q : Program) (issued : Nat) (hissued : l.issued ≤ issued)
      (hstep : chain.step p l = (.ok (some q), { l with issued }))
      (hvalid : q.validate = .ok ()) (hpending : q.isTerminal = false)
      (hkind : unhandled q = unhandled p) (hpassed : ∀ m, chain.step q m = (.ok none, m))

theorem stuck (hpending : (Program.pending operation).isTerminal = false)
    (h : chain.resolves operation = false) (l : Ledger) :
    chain.Stuck (.pending operation) l := by
  cases operation with
  | done result => cases hpending
  | execute call k =>
    have hexecutor : chain.executor? = none :=
      Option.isNone_iff_eq_none.1 (Option.isSome_eq_false_iff.1 h)
    refine .passed ?_
    rw [step_execute_unresolved hexecutor]
    rfl
  | generate chat k =>
    have hgenerator : chain.generator? = none :=
      Option.isNone_iff_eq_none.1 (Option.isSome_eq_false_iff.1 h)
    cases step_unresolved hgenerator chat k l with
    | passed howns =>
      refine .passed ?_
      rw [step_of_owns hgenerator chat howns]
      rfl
    | wrapped k' issued howns _ hissued hstep =>
      refine .wrapped _ issued hissued hstep rfl rfl rfl fun m => ?_
      rw [step_of_owns hgenerator chat howns]
      rfl

/-- A run stops at a program that is passed on. -/
theorem run_passed {p : Program} {l m : Ledger} (hvalid : p.validate = .ok ())
    (hpending : p.isTerminal = false) (hstep : chain.step p l = (.ok none, m)) (fuel : Nat) :
    chain.run (fuel + 1) p l = (.error (.own (unhandled p)), m) := by
  rw [run_succ hvalid hpending, bind_ok hstep]
  rfl

/-- A run stops after two steps at most at an operation that no link resolves. -/
theorem run_unresolved (hpending : (Program.pending operation).isTerminal = false)
    (h : chain.resolves operation = false) (l : Ledger) :
    ∃ issued, l.issued ≤ issued ∧ ∀ fuel, chain.run (fuel + 2) (.pending operation) l
      = (.error (.own (unhandled (.pending operation))), { l with issued }) := by
  cases stuck hpending h l with
  | passed hstep => exact ⟨l.issued, Nat.le_refl _, fun fuel => run_passed rfl hpending hstep _⟩
  | wrapped q issued hissued hstep hvalid hpending' hkind hpassed =>
    refine ⟨issued, hissued, fun fuel => ?_⟩
    rw [run_step rfl hpending hstep, run_passed hvalid hpending' (hpassed _), hkind]

/-- Nothing happens on the way, however far a run gets. -/
theorem run_unresolved_within (hpending : (Program.pending operation).isTerminal = false)
    (h : chain.resolves operation = false) (fuel : Nat) (l : Ledger) :
    ∃ issued, chain.run fuel (.pending operation) l = (.ok none, { l with issued }) ∨
      chain.run fuel (.pending operation) l
        = (.error (.own (unhandled (.pending operation))), { l with issued }) := by
  match fuel with
  | 0 => exact ⟨l.issued, .inl rfl⟩
  | 1 =>
    cases stuck hpending h l with
    | passed hstep => exact ⟨l.issued, .inr (run_passed rfl hpending hstep 0)⟩
    | wrapped q issued hissued hstep =>
      refine ⟨issued, .inl ?_⟩
      rw [run_step rfl hpending hstep]
      rfl
  | fuel + 2 =>
    obtain ⟨issued, -, hrun⟩ := run_unresolved hpending h l
    exact ⟨issued, .inr (hrun fuel)⟩

end

/-- What a link ignores it passes on to the links inside as it is: its step is their step, on every
ledger.  And an operation that no link of a chain resolves ends the run.  Whatever links of the
chain take its continuation over, two steps are enough for the run to raise the internal error
that names the operation.  The ledger shows that all that happens is that continuations are issued:
no request is sent, no handler runs, and no continuation is used up. -/
theorem unresolved_operation_raises :
    (∀ (link : Link) (inner : Chain) (p : Program), link.Ignores inner p →
      Chain.step (link :: inner) p = Chain.step inner p) ∧
    ∀ (chain : Chain) (operation : Operation),
      (Program.pending operation).isTerminal = false →
      (∀ link ∈ chain, link.resolves operation = false) →
      ∃ e : Error, e.cls = .internal ∧
        e.message = Text.concat ["No interpreter in the chain handles ", operation.kind] ∧
        ∀ before : Ledger, ∃ issued, before.issued ≤ issued ∧
          ∀ fuel, chain.run (fuel + 2) (.pending operation) before
            = (.error (.own e), { before with issued }) := by
  refine ⟨fun _ _ _ h => h.step_eq, fun chain operation hpending h => ?_⟩
  exact ⟨unhandled (.pending operation), rfl, rfl, fun before =>
    run_unresolved hpending (not_resolves h) before⟩

/-- A generation below two automatic executors and a link that watches for a tool; the outer
executor ignores it when it owns it. -/
theorem unresolved_operation_raises_generation :
    let x : Executor := ⟨{}, true, .flag, .continue⟩
    let inner : Chain := [.breakOn ["ask_user"], .executor x, .terminal]
    let owned : Cont := ⟨0, [(Link.executor x).owner inner], .callback .pure⟩
    let p : Program := .pending (.generate {} ⟨0, [], .callback .pure⟩)
    Chain.step (.executor x :: inner) (.pending (.generate {} owned))
      = Chain.step inner (.pending (.generate {} owned)) ∧
    ∃ e : Error, e.cls = .internal ∧
      e.message = "No interpreter in the chain handles GenerateNextMessage" ∧
      ∃ issued, ∀ fuel, Chain.run (.executor x :: inner) (fuel + 2) p { issued := 1 }
        = (.error (.own e), { issued }) := by
  intro x inner owned p
  refine ⟨unresolved_operation_raises.1 _ _ _ (.owned rfl {} (by decide)), ?_⟩
  obtain ⟨e, hcls, hmessage, hrun⟩ := unresolved_operation_raises.2 (.executor x :: inner)
    (.generate {} ⟨0, [], .callback .pure⟩) rfl (by
      intro link hlink
      simp only [inner, List.mem_cons, List.not_mem_nil, or_false] at hlink
      rcases hlink with rfl | rfl | rfl | rfl <;> rfl)
  obtain ⟨issued, -, hends⟩ := hrun { issued := 1 }
  exact ⟨e, hcls, hmessage.trans (by decide), issued, hends⟩

end Chain

end Colloquy
