import Colloquy.Proofs.Chain.Ending
import Colloquy.Proofs.Program.Regular

/-!
# Points of a run

`Chain.Reaches` relates the beginning of a run to each point that it comes by: the
program and the ledger there.  A run from the beginning is a run from the point on
(`Reaches.run_eq`), so what happens at one point is settled there.

A step of a regular program leads to a regular program, and no number is lost
(`Chain.step_yields`).  The exception is a step that a link ends the run with: then
the backend gave a call of a tool that the link watches for (`Chain.StopsWith`).
-/

namespace Colloquy

/-! ## Tools that are watched for -/

/-- Which tools a continuation ends the run for does not depend on its number. -/
theorem Chain.taken_stops (chain : Chain) {k k' : Cont} (howners : k.owners = k'.owners)
    (hstops : k.stops = k'.stops) : (chain.taken k).stops = (chain.taken k').stops := by
  induction chain generalizing k k' with
  | nil => exact hstops
  | cons link inner ih =>
    cases link with
    | terminal => exact hstops
    | generation g => exact hstops
    | forward => exact ih howners hstops
    | breakOn names =>
      have howned : k.ownedBy ((Link.breakOn names).owner inner)
          = k'.ownedBy ((Link.breakOn names).owner inner) := by
        rw [Cont.ownedBy, Cont.ownedBy, howners]
      rw [taken, taken, howned, howners]
      split
      · exact ih howners hstops
      · exact ih rfl (congrArg (names ++ ·) hstops)
    | executor x =>
      have howned : k.ownedBy ((Link.executor x).owner inner)
          = k'.ownedBy ((Link.executor x).owner inner) := by
        rw [Cont.ownedBy, Cont.ownedBy, howners]
      rw [taken, taken, howned, howners]
      split
      · exact ih rfl rfl
      · exact ih howners hstops

/-- After some events, the step of a generation ends the run with a result: the backend gives a chat
that ends with the call of a tool, and a link that took the continuation over watches for it. -/
def Chain.StopsWith (chain : Chain) (p : Program) (events : List Event) (result : Outcome) : Prop :=
  ∃ g chat k, chain.generator? = some g ∧ p = .pending (.generate chat k) ∧
    (g.ask chat events).1 = .ok result ∧ (chain.taken k).BreaksOn result

/-- A step ends the run when the step of the links inside does, if the same tools are watched
for. -/
theorem Chain.StopsWith.outward {chain inner : Chain} {chat : Chat} {k k' : Cont}
    {events : List Event} {result : Outcome}
    (h : inner.StopsWith (.pending (.generate chat k')) events result)
    (hgenerator : chain.generator? = inner.generator?)
    (hstops : (chain.taken k).stops = (inner.taken k').stops) :
    chain.StopsWith (.pending (.generate chat k)) events result := by
  obtain ⟨g, chat', j, hg, heq, hask, reply, hreply, call, hcall, hname⟩ := h
  cases heq
  exact ⟨g, chat, k, hgenerator.trans hg, rfl, hask, reply, hreply, call, hcall,
    by rwa [hstops]⟩

/-- A tool call gives no chat. -/
theorem Executor.carryOut_ne_chat (x : Executor) (call : ToolCall) (chat : Chat)
    (events : List Event) : (x.carryOut call events).1 ≠ .ok (.success (.chat chat)) := by
  intro h
  rw [x.carryOut_apply] at h
  cases htool : x.registry.get? call.name with
  | none =>
    rw [htool] at h
    cases h
  | some tool =>
    rw [htool] at h
    dsimp only at h
    cases harguments : tool.arguments call with
    | error e =>
      rw [harguments] at h
      cases h
    | ok arguments =>
      rw [harguments] at h
      dsimp only at h
      generalize tool.output call _ arguments = output at h
      match output, h with
      | .ok _, h | .error (.own _), h | .error (.foreign _ _), h => cases h

/-! ## Steps -/

/-- What a step of a regular program leads to: nothing, and the ledger is as it was; or a regular
program, with no number lost; or the end of the run. -/
inductive Chain.Leads (chain : Chain) (p : Program) (l : Ledger) : Option Program → Ledger → Prop
  | passed : Leads chain p l none l
  | changed {q : Program} {l' : Ledger} (h : q.Accounted Program.Regular l p.numbers l') :
      Leads chain p l (some q) l'
  | stopped {result : Outcome} {l' : Ledger} (h : chain.StopsWith p l.events result) :
      Leads chain p l (some (.pending (.done result))) l'

section

variable {l : Ledger} {chain inner : Chain}

/-- A link leaves a program to the links inside it. -/
theorem Chain.Leads.outward {p : Program} {o : Option Program} {l' : Ledger}
    (h : inner.Leads p l o l')
    (hstops : ∀ events result, inner.StopsWith p events result → chain.StopsWith p events result) :
    chain.Leads p l o l' := by
  cases h with
  | passed => exact .passed
  | changed h => exact .changed h
  | stopped h => exact .stopped (hstops _ _ h)

/-- What is no generation is left to the links inside. -/
theorem Chain.pass_yields {p : Program} (h : (inner.step p).Yields l (inner.Leads p l))
    (hstep : chain.step p = inner.step p) (hp : ∀ chat k, p ≠ .pending (.generate chat k)) :
    (chain.step p).Yields l (chain.Leads p l) := by
  rw [hstep]
  refine h.mono fun o l' ho => ho.outward fun events result hs => ?_
  obtain ⟨g, chat, k, -, hgenerate, -⟩ := hs
  exact absurd hgenerate (hp chat k)

/-- A link takes a continuation over and leaves the program to the links inside it. -/
theorem Chain.takeOver_yields {chat : Chat} {k : Cont} {owner : Owner} {body : Body}
    (hregular : ∀ number owners, Cont.Regular ⟨number, owners, body⟩)
    (hnumbers : body.numbers = k.numbers)
    (hinner : ∀ (p : Program) (l : Ledger), p.Regular →
      (Chain.step inner p).Yields l (inner.Leads p l))
    (hstops : ∀ number events result,
      inner.StopsWith (.pending (.generate chat ⟨number, k.owners.insert owner, body⟩)) events
        result → chain.StopsWith (.pending (.generate chat k)) events result) :
    (do changed (← Program.takeOver chat k owner body) (Chain.step inner)).Yields l
      (chain.Leads (.pending (.generate chat k)) l) := by
  let k' : Cont := ⟨l.issued, k.owners.insert owner, body⟩
  let l₁ : Ledger := { l with issued := l.issued + 1 }
  have hk' : k'.Regular := hregular _ _
  have hissued : l.Keeps k.numbers l₁ k'.numbers := by
    rw [← hnumbers]
    exact .issue l _
  show (do changed (.pending (.generate chat (← k.wrap owner body))) (Chain.step inner) :
    Act (Option Program)).Yields l _
  refine .bind (.issue (P := fun x l' => x = k' ∧ l' = l₁) ⟨rfl, rfl⟩) ?_
  rintro _ _ ⟨rfl, rfl⟩
  refine .map ((hinner _ l₁ (.generate chat hk')).mono fun o l₂ ho => ?_)
  cases ho with
  | passed => exact .changed ⟨.generate chat hk', hissued⟩
  | changed h => exact .changed (h.after hissued)
  | stopped h => exact .stopped (hstops _ _ _ h)

/-- A step of a regular program leads to a regular program, and no number is lost, unless a link
ends the run. -/
theorem Chain.step_yields (chain : Chain) {p : Program} (h : p.Regular) :
    (chain.step p).Yields l (chain.Leads p l) := by
  induction chain generalizing p l with
  | nil => exact .pure .passed
  | cons link inner ih =>
    cases link with
    | terminal => exact .pure .passed
    | forward => exact (ih h).mono fun _ _ ho => ho.outward fun _ _ hs => hs
    | generation g =>
      cases h with
      | @generate chat k hk =>
        show (do return some (← k.call (← g.generate chat)) : Act (Option Program)).Yields l _
        refine .bind (.of_blind (g.generate_blind chat)) fun result l₁ hresult => .map ?_
        obtain ⟨hask, events, rfl⟩ := hresult
        refine (Cont.Regular.call_yields hk result).mono fun q l₂ hq => ?_
        rcases hq with hq | ⟨hbreaks, rfl⟩
        · exact .changed (hq.after (.of_events l events _))
        · exact .stopped ⟨g, chat, k, rfl, rfl, hask, hbreaks⟩
      | execute call hk => exact Chain.pass_yields (ih (.execute call hk)) rfl fun _ _ => nofun
      | done h => exact Chain.pass_yields (ih (.done h)) rfl fun _ _ => nofun
      | final h => exact Chain.pass_yields (ih (.final h)) rfl fun _ _ => nofun
    | breakOn names =>
      cases h with
      | @generate chat k hk =>
        show (if k.ownedBy _ then Chain.step inner _ else _ : Act _).Yields l _
        by_cases howned : k.ownedBy ((Link.breakOn names).owner inner) = true
        · rw [if_pos howned]
          refine (ih (.generate chat hk)).mono fun _ _ ho => ho.outward fun _ _ hs => ?_
          refine hs.outward rfl ?_
          rw [taken, if_pos howned]
        · rw [if_neg howned]
          refine Chain.takeOver_yields (fun _ _ => .check _ _ names hk) rfl (fun _ _ => ih) ?_
          intro number events result hs
          refine hs.outward rfl ?_
          rw [taken, if_neg howned]
          exact Chain.taken_stops inner rfl rfl
      | execute call hk => exact Chain.pass_yields (ih (.execute call hk)) rfl fun _ _ => nofun
      | done h => exact Chain.pass_yields (ih (.done h)) rfl fun _ _ => nofun
      | final h => exact Chain.pass_yields (ih (.final h)) rfl fun _ _ => nofun
    | executor x =>
      cases h with
      | @generate chat k hk =>
        show (if x.auto && !k.ownedBy _ then _ else Chain.step inner _ : Act _).Yields l _
        by_cases hfree : (x.auto && !k.ownedBy ((Link.executor x).owner inner)) = true
        · rw [if_pos hfree]
          refine Chain.takeOver_yields (fun _ _ => .rounds _ _ _ 0 hk) rfl (fun _ _ => ih) ?_
          intro number events result hs
          refine hs.outward rfl ?_
          rw [taken, if_pos hfree]
          exact Chain.taken_stops inner rfl rfl
        · rw [if_neg hfree]
          refine (ih (.generate chat hk)).mono fun _ _ ho => ho.outward fun _ _ hs => ?_
          refine hs.outward rfl ?_
          rw [taken, if_neg hfree]
      | @execute call k hk =>
        show (do return some (← k.call (← x.execute call)) : Act (Option Program)).Yields l _
        refine .bind (.of_blind (x.execute_blind call)) fun result l₁ hresult => .map ?_
        obtain ⟨hcarried, events, rfl⟩ := hresult
        have hbreaks : ¬ k.BreaksOn result := by
          rintro ⟨chat, rfl, -⟩
          exact x.carryOut_ne_chat call chat l.events hcarried
        refine ((Cont.Regular.call_yields hk result).of_leads hbreaks).mono fun q l₂ hq => ?_
        exact .changed (hq.after (.of_events l events _))
      | done h => exact Chain.pass_yields (ih (.done h)) rfl fun _ _ => nofun
      | final h => exact Chain.pass_yields (ih (.final h)) rfl fun _ _ => nofun

end

/-! ## Points -/

/-- A run from a program on a ledger comes, after `n` steps, to a program on a ledger. -/
inductive Chain.Reaches (chain : Chain) : Nat → Program → Ledger → Program → Ledger → Prop
  | here (p : Program) (l : Ledger) : Reaches chain 0 p l p l
  | step {n : Nat} {p q r : Program} {l m l' : Ledger} (hvalid : p.validate = .ok ())
      (hpending : p.isTerminal = false) (hstep : chain.step p l = (.ok (some q), m))
      (hrest : Reaches chain n q m r l') : Reaches chain (n + 1) p l r l'

section

variable {chain : Chain} {p q : Program} {l m : Ledger}

/-- The next step of a run of a pending program. -/
theorem Chain.run_succ (hvalid : p.validate = .ok ()) (hpending : p.isTerminal = false)
    (fuel : Nat) : chain.run (fuel + 1) p = (do
      match ← chain.step p with
      | none => throw (.own (unhandled p))
      | some next => chain.run fuel next) := by
  rw [run, hvalid, hpending]
  rfl

theorem Chain.run_step (hvalid : p.validate = .ok ()) (hpending : p.isTerminal = false)
    (hstep : chain.step p l = (.ok (some q), m)) (fuel : Nat) :
    chain.run (fuel + 1) p l = chain.run fuel q m := by
  rw [run_succ hvalid hpending, bind_ok hstep]

/-- A run is the run from any of its points on. -/
theorem Chain.Reaches.run_eq {n : Nat} (h : chain.Reaches n p l q m) (fuel : Nat) :
    chain.run (fuel + n) p l = chain.run fuel q m := by
  induction h with
  | here p l => rfl
  | step hvalid hpending hstep _ ih =>
    rw [← Nat.add_assoc, Chain.run_step hvalid hpending hstep]
    exact ih

/-- What a chain gives out is what its terminal link does. -/
theorem Chain.finish_of_ok {value : Outcome} (h : chain.finish p = .ok value) :
    p.finish = .ok value := by
  induction chain with
  | nil => cases h
  | cons link inner ih =>
    cases link with
    | terminal => exact h
    | executor | breakOn | generation | forward => exact ih h

/-- A program at its end gives out its value at once. -/
theorem Chain.finish_of_run {fuel : Nat} {value : Outcome} (hvalid : p.validate = .ok ())
    (hterminal : p.isTerminal = true) (h : chain.run fuel p l = (.ok (some value), m)) :
    p.finish = .ok value ∧ m = l := by
  cases fuel with
  | zero => cases h
  | succ fuel =>
    rw [run, hvalid, hterminal] at h
    cases hfinish : chain.finish p with
    | error e =>
      rw [hfinish] at h
      cases h
    | ok given =>
      rw [hfinish] at h
      cases h
      exact ⟨Chain.finish_of_ok hfinish, rfl⟩

/-- A run that gives a value gives it from each of its points on. -/
theorem Chain.Reaches.run_from {n fuel : Nat} {value : Outcome} {after : Ledger}
    (h : chain.Reaches n p l q m) (hrun : chain.run fuel p l = (.ok (some value), after)) :
    ∃ fuel', chain.run fuel' q m = (.ok (some value), after) := by
  induction h generalizing fuel with
  | here p l => exact ⟨fuel, hrun⟩
  | step hvalid hpending hstep _ ih =>
    cases fuel with
    | zero => cases hrun
    | succ fuel =>
      rw [run_step hvalid hpending hstep] at hrun
      exact ih hrun

/-- A run that gives a value comes to a program that is at its end. -/
theorem Chain.reaches_of_run {fuel : Nat} {value : Outcome}
    (h : chain.run fuel p l = (.ok (some value), m)) :
    ∃ n q, chain.Reaches n p l q m ∧ q.isTerminal = true := by
  induction fuel generalizing p l with
  | zero => cases h
  | succ fuel ih =>
    cases hvalid : p.validate with
    | error e =>
      rw [run, hvalid] at h
      cases h
    | ok u =>
      cases hterminal : p.isTerminal with
      | true =>
        obtain ⟨-, rfl⟩ := Chain.finish_of_run hvalid hterminal h
        exact ⟨0, p, .here p m, hterminal⟩
      | false =>
        rw [run_succ hvalid hterminal, bind_apply] at h
        cases hstep : chain.step p l with
        | mk r l' =>
          rw [hstep] at h
          rcases r with e | _ | q
          · cases h
          · cases h
          · obtain ⟨n, r, hreaches, hend⟩ := ih h
            exact ⟨n + 1, _, .step hvalid hterminal hstep hreaches, hend⟩

/-- The numbers of a program can be used all the way. -/
theorem Chain.Reaches.usable {n : Nat} (h : chain.Reaches n p l q m) (hl : l.Sound)
    (hp : l.Usable p.numbers) : m.Sound ∧ m.Usable q.numbers := by
  induction h with
  | here p l => exact ⟨hl, hp⟩
  | @step n p q r l m l' hvalid hpending hstep hrest ih =>
    have htracks := chain.step_tracks p l hl hp
    have hsound := htracks.advances.sound
    have hnext := htracks.usable (some q)
    rw [hstep] at hsound hnext
    exact ih hsound (hnext rfl)

/-- A run that a link ends with a result: it comes to a generation whose step does so. -/
def Chain.BreaksOff (chain : Chain) (p : Program) (l : Ledger) (result : Outcome) : Prop :=
  ∃ n r l' m, chain.Reaches n p l r l' ∧ chain.StopsWith r l'.events result ∧
    chain.step r l' = (.ok (some (.pending (.done result))), m)

/-- A run that a link ends with a result gives nothing else. -/
theorem Chain.BreaksOff.eq_of_run {fuel : Nat} {value result : Outcome}
    (h : chain.BreaksOff p l result) (hrun : chain.run fuel p l = (.ok (some value), m)) :
    value = result := by
  obtain ⟨n, r, l', l'', hreaches, ⟨g, chat, k, -, rfl, -⟩, hstep⟩ := h
  obtain ⟨fuel, hrun⟩ := hreaches.run_from hrun
  cases fuel with
  | zero => cases hrun
  | succ fuel =>
    rw [run_step rfl rfl hstep] at hrun
    obtain ⟨hfinish, -⟩ := Chain.finish_of_run rfl rfl hrun
    cases hfinish
    rfl

/-- How a run of a regular program stands at one of its points: no number was lost, or a link has
just ended the run. -/
theorem Chain.Reaches.accounted {n : Nat} (h : chain.Reaches n p l q m) (hp : p.Regular) :
    q.Accounted Program.Regular l p.numbers m ∨
      ∃ result, q = .pending (.done result) ∧ chain.BreaksOff p l result := by
  induction h with
  | here p l => exact .inl ⟨hp, .refl l _⟩
  | @step n p q r l m l' hvalid hpending hstep hrest ih =>
    cases chain.step_yields hp _ _ hstep with
    | stopped hstops =>
      -- the end of the run leads nowhere
      cases hrest with
      | here => exact .inr ⟨_, rfl, 0, p, l, _, .here p l, hstops, hstep⟩
      | step _ hpending' => cases hpending'
    | changed hq =>
      rcases ih hq.kind with hr | ⟨result, rfl, i, r', l'', m', hreaches, hstops, hlast⟩
      · exact .inl (hr.after hq.keeps)
      · exact .inr ⟨result, rfl, i + 1, r', l'', m', .step hvalid hpending hstep hreaches, hstops,
          hlast⟩

end

end Colloquy
