import Colloquy.Proofs.Chain.Insertion
import Colloquy.Proofs.Chain.Linear
import Colloquy.Proofs.Chain.Unresolved
import Colloquy.Proofs.Turn.Limit

/-!
# A watching link that is idle

A link that watches for tools changes the continuation of each generation and its
marks.  As long as no message calls one of the tools, nothing else comes of it.

Two runs keep step (`Chain.KeepsStep`) when the same happens in them however far they
get, and when each of them ends as the other does.  One of them may need a step more:
where no link resolves an operation, the watching link may be the only one that takes
it over before the run stops.

The run lemma is `Chain.Widened.keepsStep`.  It goes along the steps, and each step
leads from related programs to related programs, or ends both runs.
-/

namespace Colloquy

open Course

namespace Chain

/-! ## Steps on the ledger -/

section

variable {chain : Chain} {p : Program} {l : Ledger} {d : Course Program} {events : List Event}

/-- A step fails where the course of its operation does. -/
theorem step_of_error {e : Exception} (hl : l.Sound) (hu : l.Usable p.numbers)
    (hmove : chain.move p.bare = (do return some (← d))) (hd : d l.events = (.error e, events)) :
    ∃ m, chain.step p l = (.error e, m) ∧ m.events = events := by
  have htracks := (chain.step_tracks p l hl hu).result
  rw [hmove, bind_error hd] at htracks
  cases hstep : chain.step p l with
  | mk r m =>
    rw [hstep] at htracks
    cases r with
    | error e' =>
      cases htracks
      exact ⟨m, rfl, rfl⟩
    | ok o => cases htracks

/-- A step leads to a program where the course of its operation does, and the numbers of that
program can be used. -/
theorem step_of_ok {q : Program} (hl : l.Sound) (hu : l.Usable p.numbers)
    (hmove : chain.move p.bare = (do return some (← d))) (hd : d l.events = (.ok q, events)) :
    ∃ p' m, chain.step p l = (.ok (some p'), m) ∧ p'.bare = q ∧ m.events = events ∧ m.Sound ∧
      m.Usable p'.numbers := by
  have htracks := chain.step_tracks p l hl hu
  have hresult := htracks.result
  have hsound := htracks.advances.sound
  have husable := htracks.usable
  rw [hmove, bind_ok hd] at hresult
  cases hstep : chain.step p l with
  | mk r m =>
    rw [hstep] at hresult hsound husable
    rcases r with e | _ | p'
    · cases hresult
    · cases hresult
    · cases hresult
      exact ⟨p', m, rfl, rfl, rfl, hsound, husable (some p') rfl⟩

end

/-! ## Runs that keep step -/

/-- Two runs of which each shows what the other does, as far as `fuel` steps take it, and ends as
the other does.  It may end a step later. -/
structure KeepsStep (chain chain' : Chain) (p p' : Program) (l l' : Ledger) (fuel : Nat) :
    Prop where
  events : (chain.run fuel p l).2.events = (chain'.run fuel p' l').2.events
  ends (result : Except Exception Outcome) (m : Ledger)
    (h : chain.run fuel p l = (result.map some, m)) :
    ∃ m', chain'.run (fuel + 1) p' l' = (result.map some, m') ∧ m'.events = m.events
  ended (result : Except Exception Outcome) (m' : Ledger)
    (h : chain'.run fuel p' l' = (result.map some, m')) :
    ∃ m, chain.run (fuel + 1) p l = (result.map some, m) ∧ m.events = m'.events

namespace KeepsStep

variable {chain chain' : Chain} {p p' : Program} {l l' : Ledger}

theorem zero (h : l.events = l'.events) : KeepsStep chain chain' p p' l l' 0 where
  events := h
  ends _ _ hrun := absurd (congrArg Prod.fst hrun).symm map_some_ne_none
  ended _ _ hrun := absurd (congrArg Prod.fst hrun).symm map_some_ne_none

/-- Two runs that end with the first step. -/
theorem of_ended {result : Except Exception Outcome} {m m' : Ledger}
    (h : ∀ fuel, chain.run (fuel + 1) p l = (result.map some, m))
    (h' : ∀ fuel, chain'.run (fuel + 1) p' l' = (result.map some, m'))
    (hevents : m.events = m'.events) (fuel : Nat) :
    KeepsStep chain chain' p p' l l' (fuel + 1) where
  events := by rw [h, h', hevents]
  ends _ _ hrun := by
    have heq := (h fuel).symm.trans hrun
    refine ⟨m', ?_, hevents.symm.trans (congrArg (·.2.events) heq)⟩
    exact (h' _).trans (congrArg (·, m') (congrArg Prod.fst heq))
  ended _ _ hrun := by
    have heq := (h' fuel).symm.trans hrun
    refine ⟨m, ?_, hevents.trans (congrArg (·.2.events) heq)⟩
    exact (h _).trans (congrArg (·, m) (congrArg Prod.fst heq))

/-- Two runs that go on after the first step. -/
theorem of_step {q q' : Program} {m m' : Ledger} {fuel : Nat}
    (h : ∀ fuel, chain.run (fuel + 1) p l = chain.run fuel q m)
    (h' : ∀ fuel, chain'.run (fuel + 1) p' l' = chain'.run fuel q' m')
    (hnext : KeepsStep chain chain' q q' m m' fuel) :
    KeepsStep chain chain' p p' l l' (fuel + 1) where
  events := by rw [h, h', hnext.events]
  ends _ _ hrun := by
    rw [h] at hrun
    rw [h']
    exact hnext.ends _ _ hrun
  ended _ _ hrun := by
    rw [h'] at hrun
    rw [h]
    exact hnext.ended _ _ hrun

/-- A run that stops at an operation that no link resolves ends as another one that stops at an
operation of the same kind. -/
theorem ends_of_unresolved {operation operation' : Operation}
    (h : chain.resolves operation = false) (h' : chain'.resolves operation' = false)
    (hpending : (Program.pending operation).isTerminal = false)
    (hpending' : (Program.pending operation').isTerminal = false)
    (hkind : unhandled (.pending operation) = unhandled (.pending operation'))
    (hevents : l.events = l'.events) {fuel : Nat} {result : Except Exception Outcome} {m : Ledger}
    (hrun : chain.run (fuel + 1) (.pending operation) l = (result.map some, m)) :
    ∃ m', chain'.run (fuel + 2) (.pending operation') l' = (result.map some, m') ∧
      m'.events = m.events := by
  obtain ⟨issued', -, hends'⟩ := run_unresolved hpending' h' l'
  obtain ⟨issued, hnone | herror⟩ := run_unresolved_within hpending h (fuel + 1) l
  · exact absurd (congrArg Prod.fst (hnone.symm.trans hrun)).symm map_some_ne_none
  · have heq := herror.symm.trans hrun
    refine ⟨_, (hends' fuel).trans (congrArg (·, _) ?_),
      hevents.symm.trans (congrArg (·.2.events) heq)⟩
    rw [← hkind]
    exact congrArg Prod.fst heq

/-- Two runs that stop at an operation that no link of either chain resolves. -/
theorem of_unresolved {operation operation' : Operation}
    (h : chain.resolves operation = false) (h' : chain'.resolves operation' = false)
    (hpending : (Program.pending operation).isTerminal = false)
    (hpending' : (Program.pending operation').isTerminal = false)
    (hkind : unhandled (.pending operation) = unhandled (.pending operation'))
    (hevents : l.events = l'.events) (fuel : Nat) :
    KeepsStep chain chain' (.pending operation) (.pending operation') l l' (fuel + 1) where
  events := by
    obtain ⟨issued, hwithin⟩ := run_unresolved_within hpending h (fuel + 1) l
    obtain ⟨issued', hwithin'⟩ := run_unresolved_within hpending' h' (fuel + 1) l'
    rcases hwithin with hrun | hrun <;> rcases hwithin' with hrun' | hrun' <;>
      rw [hrun, hrun'] <;> exact hevents
  ends _ _ hrun := ends_of_unresolved h h' hpending hpending' hkind hevents hrun
  ended _ _ hrun := ends_of_unresolved h' h hpending' hpending hkind.symm hevents.symm hrun

/-- Runs that keep step end alike. -/
theorem ends_iff (h : ∀ fuel, KeepsStep chain chain' p p' l l' fuel)
    {result : Except Exception Outcome} {events : List Event} :
    (∃ fuel after, chain.run fuel p l = (result.map some, after) ∧ after.events = events) ↔
      ∃ fuel after, chain'.run fuel p' l' = (result.map some, after) ∧ after.events = events := by
  constructor
  · rintro ⟨fuel, after, hrun, rfl⟩
    obtain ⟨after', hrun', hevents⟩ := (h fuel).ends _ _ hrun
    exact ⟨fuel + 1, after', hrun', hevents⟩
  · rintro ⟨fuel, after, hrun, rfl⟩
    obtain ⟨after', hrun', hevents⟩ := (h fuel).ended _ _ hrun
    exact ⟨fuel + 1, after', hrun', hevents⟩

end KeepsStep

/-! ## Messages that call none of the tools -/

/-- At a program that waits for a generation, the message that the backend of a chain gives after
some events calls none of the named tools. -/
def Spares (chain : Chain) (names : List Text) (p : Program) (events : List Event) : Prop :=
  ∀ g chat k turn reached, chain.generator? = some g → p = .pending (.generate chat k) →
    g.next chat events = (.ok (.ok turn), reached) → callsAny names turn.calls = false

/-- No message that is generated in the run of a program calls one of the named tools. -/
def Unprovoked (chain : Chain) (names : List Text) (p : Program) (l : Ledger) : Prop :=
  ∀ n q m, chain.Reaches n p l q m → chain.Spares names q m.events

section

variable {names : List Text}

theorem quiet_of_ask {g : Generator} {chat : Chat} {result : Outcome}
    {events reached : List Event}
    (hspares : ∀ turn reached, g.next chat events = (.ok (.ok turn), reached) →
      callsAny names turn.calls = false)
    (h : g.ask chat events = (.ok result, reached)) : result.Quiet names := by
  rw [g.ask_eq, bind_apply] at h
  cases hnext : g.next chat events with
  | mk r reached' =>
    rw [hnext] at h
    rcases r with e | e | turn
    · cases h
    · cases h
      exact .failure _
    · cases h
      refine .chat ?_
      rw [Chat.pendingCalls_addMessage]
      exact hspares turn _ hnext

/-! ## Steps of related programs -/

variable {n : Nat} {chain chain' : Chain} {p p' : Program} {l l' : Ledger}

/-- A step that fails ends the run. -/
theorem run_error {e : Exception} {m : Ledger} (hvalid : p.validate = .ok ())
    (hpending : p.isTerminal = false) (hstep : chain.step p l = (.error e, m)) (fuel : Nat) :
    chain.run (fuel + 1) p l = ((Except.error e : Except Exception Outcome).map some, m) := by
  rw [run_succ hvalid hpending, bind_error hstep]
  rfl

/-- Two runs that stand at related programs, on ledgers with the same events. -/
structure InStep (n : Nat) (names : List Text) (p p' : Program) (l l' : Ledger) : Prop where
  overseen : p.bare.Overseen n names p'.bare
  events : l.events = l'.events
  sound : l.Sound
  sound' : l'.Sound
  usable : l.Usable p.numbers
  usable' : l'.Usable p'.numbers

/-- Two steps that go the same course keep two runs in step, when what comes after does. -/
theorem InStep.keepsStep_of_move (h : InStep n names p p' l l') {d d' : Course Program} {fuel : Nat}
    (hvalid : p.validate = .ok ()) (hpending : p.isTerminal = false)
    (hvalid' : p'.validate = .ok ()) (hpending' : p'.isTerminal = false)
    (hmove : chain.move p.bare = (do return some (← d)))
    (hmove' : chain'.move p'.bare = (do return some (← d')))
    (hd : SameEnd (Program.Overseen n names) (d l.events) (d' l'.events))
    (hnext : ∀ q q' m m', chain.step p l = (.ok (some q), m) → InStep n names q q' m m' →
      KeepsStep chain chain' q q' m m' fuel) :
    KeepsStep chain chain' p p' l l' (fuel + 1) := by
  cases hend : d l.events with
  | mk r events =>
    cases hend' : d' l'.events with
    | mk r' events' =>
      rw [hend, hend'] at hd
      cases hd with
      | @error e =>
        obtain ⟨m, hstep, hm⟩ := step_of_error h.sound h.usable hmove hend
        obtain ⟨m', hstep', hm'⟩ := step_of_error h.sound' h.usable' hmove' hend'
        exact .of_ended (run_error hvalid hpending hstep) (run_error hvalid' hpending' hstep')
          (hm.trans hm'.symm) fuel
      | ok hq =>
        obtain ⟨q, m, hstep, hbare, hm, hsound, husable⟩ :=
          step_of_ok h.sound h.usable hmove hend
        obtain ⟨q', m', hstep', hbare', hm', hsound', husable'⟩ :=
          step_of_ok h.sound' h.usable' hmove' hend'
        rw [← hbare, ← hbare'] at hq
        exact .of_step (run_step hvalid hpending hstep) (run_step hvalid' hpending' hstep')
          (hnext q q' m m' hstep ⟨hq, hm.trans hm'.symm, hsound, hsound', husable, husable'⟩)

/-- A program with nothing left to resolve ends its run at once. -/
theorem run_terminal (hvalid : p.validate = .ok ()) (hterminal : p.isTerminal = true)
    (fuel : Nat) : chain.run (fuel + 1) p l
      = (((chain.finish p).mapError .own).map some, l) := by
  rw [run, hvalid, hterminal]
  cases chain.finish p <;> rfl

/-- A program that is not valid ends its run at once. -/
theorem run_invalid {e : Error} (h : p.validate = .error e) (fuel : Nat) :
    chain.run (fuel + 1) p l
      = ((Except.error (.own e) : Except Exception Outcome).map some, l) := by
  rw [run, h]
  rfl

end

end Chain

/-! ## Programs by what is left of them without numbers -/

theorem Program.eq_of_bare_generate {p : Program} {chat : Chat} {k : Cont}
    (h : p.bare = .pending (.generate chat k)) :
    ∃ j, p = .pending (.generate chat j) ∧ j.bare = k := by
  cases p with
  | pending operation =>
    cases operation with
    | generate chat' j =>
      cases h
      exact ⟨j, rfl, rfl⟩
    | execute call j => cases h
    | done result => cases h
  | both operation value => cases operation <;> cases h
  | final value => cases h
  | neither => cases h

theorem Program.eq_of_bare_execute {p : Program} {call : ToolCall} {k : Cont}
    (h : p.bare = .pending (.execute call k)) :
    ∃ j, p = .pending (.execute call j) ∧ j.bare = k := by
  cases p with
  | pending operation =>
    cases operation with
    | generate chat j => cases h
    | execute call' j =>
      cases h
      exact ⟨j, rfl, rfl⟩
    | done result => cases h
  | both operation value => cases operation <;> cases h
  | final value => cases h
  | neither => cases h

namespace Chain

section

variable {n : Nat} {names : List Text} {chain chain' : Chain}

/-- Programs with nothing left to resolve end both runs alike. -/
theorem Widened.keepsStep_terminal (h : Widened n names chain chain') {p p' : Program}
    {l l' : Ledger} (hbare : p.bare = p'.bare) (hvalid : p.bare.validate = .ok ())
    (hterminal : p.bare.isTerminal = true) (hevents : l.events = l'.events) (fuel : Nat) :
    KeepsStep chain chain' p p' l l' (fuel + 1) := by
  have hfinish : (chain'.finish p').mapError Exception.own
      = (chain.finish p).mapError Exception.own := by
    rw [← chain.bare_finish p, ← chain'.bare_finish p', hbare, h.finish_eq]
  have hvalid' := hbare ▸ hvalid
  have hterminal' := hbare ▸ hterminal
  rw [Program.bare_validate] at hvalid hvalid'
  rw [Program.bare_isTerminal] at hterminal hterminal'
  refine .of_ended (run_terminal hvalid hterminal) (fun fuel => ?_) hevents fuel
  rw [← hfinish]
  exact run_terminal hvalid' hterminal' fuel

section

variable {l l' : Ledger} {fuel : Nat}

/-- Related generations keep two runs in step, when what comes after does: no link generates, or the
same message is received. -/
theorem Widened.keepsStep_generate (h : Widened n names chain chain') {chat : Chat} {j j' : Cont}
    (hin : InStep n names (.pending (.generate chat j)) (.pending (.generate chat j')) l l')
    (hj : j.bare.Overseen n names true j'.bare)
    (hspares : chain.Spares names (.pending (.generate chat j)) l.events)
    (hnext : ∀ q q' m m', chain.step (.pending (.generate chat j)) l = (.ok (some q), m) →
      InStep n names q q' m m' → KeepsStep chain chain' q q' m m' fuel) :
    KeepsStep chain chain' (.pending (.generate chat j)) (.pending (.generate chat j')) l l'
      (fuel + 1) := by
  cases hgenerator : chain.generator? with
  | none =>
    have hnone : chain.resolves (.generate chat j) = false := by
      rw [resolves, hgenerator]
      rfl
    have hnone' : chain'.resolves (.generate chat j') = false := by
      rw [resolves, ← h.generator?_eq, hgenerator]
      rfl
    exact .of_unresolved hnone hnone' rfl rfl rfl hin.events fuel
  | some g =>
    have hgenerator' : chain'.generator? = some g := h.generator?_eq ▸ hgenerator
    refine hin.keepsStep_of_move rfl rfl rfl rfl (move_generate hgenerator chat j.bare)
      (move_generate hgenerator' chat j'.bare) ?_ hnext
    rw [← hin.events, bind_apply, bind_apply]
    cases hask : g.ask chat l.events with
    | mk r reached =>
      cases r with
      | error e => exact .error
      | ok result =>
        have hquiet : result.Quiet names := quiet_of_ask
          (fun turn reached hturn => hspares g chat j turn reached hgenerator rfl hturn) hask
        exact (h.taken hj).goesAlike result (fun _ => hquiet) reached

/-- Related calls keep two runs in step, when what comes after does: no link executes, or the call
has the same result. -/
theorem Widened.keepsStep_execute (h : Widened n names chain chain') {call : ToolCall} {j j' : Cont}
    (hin : InStep n names (.pending (.execute call j)) (.pending (.execute call j')) l l')
    (hj : j.bare.Overseen n names false j'.bare)
    (hnext : ∀ q q' m m', chain.step (.pending (.execute call j)) l = (.ok (some q), m) →
      InStep n names q q' m m' → KeepsStep chain chain' q q' m m' fuel) :
    KeepsStep chain chain' (.pending (.execute call j)) (.pending (.execute call j')) l l'
      (fuel + 1) := by
  cases hexecutor : chain.executor? with
  | none =>
    have hnone : chain.resolves (.execute call j) = false := by
      rw [resolves, hexecutor]
      rfl
    have hnone' : chain'.resolves (.execute call j') = false := by
      rw [resolves, ← h.executor?_eq, hexecutor]
      rfl
    exact .of_unresolved hnone hnone' rfl rfl rfl hin.events fuel
  | some x =>
    have hexecutor' : chain'.executor? = some x := h.executor?_eq ▸ hexecutor
    refine hin.keepsStep_of_move rfl rfl rfl rfl (move_execute hexecutor call j.bare)
      (move_execute hexecutor' call j'.bare) ?_ hnext
    rw [← hin.events]
    exact (Alike.bind_same (x.carryOut call) fun result => hj.goesAlike result nofun) l.events

end

/-- Runs of related programs keep step, as long as no message in the run of the first calls one of
the tools that the new link watches for. -/
theorem Widened.keepsStep (h : Widened n names chain chain') (fuel : Nat) {p p' : Program}
    {l l' : Ledger} (hin : InStep n names p p' l l') (hcalm : chain.Unprovoked names p l) :
    KeepsStep chain chain' p p' l l' fuel := by
  induction fuel generalizing p p' l l' with
  | zero => exact .zero hin.events
  | succ fuel ih =>
    have hnext : p.validate = .ok () → p.isTerminal = false → ∀ q q' m m',
        chain.step p l = (.ok (some q), m) → InStep n names q q' m m' →
        KeepsStep chain chain' q q' m m' fuel := by
      intro hvalid hpending q q' m m' hstep hq
      refine ih hq fun i r m₂ hreaches => ?_
      exact hcalm (i + 1) r m₂ (.step hvalid hpending hstep hreaches)
    have hp := hin.overseen
    generalize hb : p.bare = b at hp
    generalize hb' : p'.bare = b' at hp
    cases hp with
    | invalid herror herror' =>
      rw [← hb, p.bare_validate] at herror
      rw [← hb', p'.bare_validate] at herror'
      exact .of_ended (run_invalid herror) (run_invalid herror') hin.events fuel
    | final value | done result =>
      refine h.keepsStep_terminal (hb.trans hb'.symm) ?_ ?_ hin.events fuel
      · rw [hb]
        rfl
      · rw [hb]
        rfl
    | generate chat hk =>
      obtain ⟨j, rfl, rfl⟩ := Program.eq_of_bare_generate hb
      obtain ⟨j', rfl, rfl⟩ := Program.eq_of_bare_generate hb'
      exact h.keepsStep_generate hin hk (hcalm 0 _ _ (.here _ _)) (hnext rfl rfl)
    | execute call hk =>
      obtain ⟨j, rfl, rfl⟩ := Program.eq_of_bare_execute hb
      obtain ⟨j', rfl, rfl⟩ := Program.eq_of_bare_execute hb'
      exact h.keepsStep_execute hin hk (hnext rfl rfl)

/-- What is built of a plan is related to itself, since no link has marked it yet. -/
theorem inStep_of_build {plan : Plan} {before l : Ledger} {p : Program} (hl : before.Sound)
    (hbuild : (plan.build >>= Built.expect "Plan") before = (.ok p, l)) :
    InStep n names p p l l := by
  have htracks := plan.expect_tracks "Plan" hl
  have hresult := htracks.result
  have hsound := htracks.advances.sound
  have husable := htracks.usable p
  have hrelated : SameEnd (Program.Overseen n names) _ _ :=
    plan.required_overseen "Plan" before.events
  rw [hbuild] at hresult hsound husable
  rw [hresult] at hrelated
  cases hrelated with
  | ok hp => exact ⟨hp, rfl, hsound, hsound, husable rfl, husable rfl⟩

/-- Runs of a plan keep step: what happens is the same with every number of steps, and they end
alike. -/
theorem Widened.perform (h : Widened n names chain chain') {plan : Plan} {before : Ledger}
    (hl : before.Sound)
    (hcalm : ∀ q m, chain.Visits plan before q m → chain.Spares names q m.events) :
    (∀ fuel, (chain.perform fuel plan before).2.events
      = (chain'.perform fuel plan before).2.events) ∧
    ∀ result events, (∃ after, chain.Gives plan before result after ∧ after.events = events) ↔
      ∃ after, chain'.Gives plan before result after ∧ after.events = events := by
  simp only [Gives, Chain.perform, ← bind_assoc]
  cases hbuild : (plan.build >>= Built.expect "Plan") before with
  | mk r l =>
    cases r with
    | error e =>
      simp only [bind_error hbuild]
      exact ⟨fun _ => trivial, fun _ _ => trivial⟩
    | ok p =>
      have hkeeps : ∀ fuel, KeepsStep chain chain' p p l l fuel := fun fuel =>
        h.keepsStep fuel (inStep_of_build hl hbuild) fun i q m hreaches =>
          hcalm q m ⟨p, l, i, hbuild, hreaches⟩
      simp only [bind_ok hbuild]
      refine ⟨fun fuel => (hkeeps fuel).events, fun result events => ?_⟩
      constructor
      · rintro ⟨after, ⟨fuel, hrun⟩, hevents⟩
        obtain ⟨fuel', after', h'⟩ := (KeepsStep.ends_iff hkeeps).1 ⟨fuel, after, hrun, hevents⟩
        exact ⟨after', ⟨fuel', h'.1⟩, h'.2⟩
      · rintro ⟨after, ⟨fuel, hrun⟩, hevents⟩
        obtain ⟨fuel', after', h'⟩ := (KeepsStep.ends_iff hkeeps).2 ⟨fuel, after, hrun, hevents⟩
        exact ⟨after', ⟨fuel', h'.1⟩, h'.2⟩

end

/-- A link that watches for tools changes nothing, at any place of any chain, as long as no message
that is generated in the run calls one of the tools.  The same happens with every number of steps,
and the run ends with the same value or exception, or does not end.  This is so for every plan, and
for every program that a run came to, once the marks on its continuation follow the links that
moved. -/
theorem idle_watch_transparent (outer inner : Chain) (names : List Text) :
    let chain := outer ++ inner
    let watching := outer ++ .breakOn names :: inner
    (∀ (plan : Plan) (before : Ledger), before.Sound →
      (∀ q m, Visits chain plan before q m → Spares chain names q m.events) →
      (∀ fuel, (perform chain fuel plan before).2.events
        = (perform watching fuel plan before).2.events) ∧
      ∀ result events, (∃ after, Gives chain plan before result after ∧ after.events = events) ↔
        ∃ after, Gives watching plan before result after ∧ after.events = events) ∧
    ∀ (p : Program) (l : Ledger), l.Sound → l.Usable p.numbers → Unprovoked chain names p l →
      let p' := p.shift inner.length
      (∀ fuel, (run chain fuel p l).2.events = (run watching fuel p' l).2.events) ∧
      ∀ (result : Except Exception Outcome) (events : List Event),
        (∃ fuel after, run chain fuel p l = (result.map some, after) ∧ after.events = events) ↔
        ∃ fuel after, run watching fuel p' l = (result.map some, after) ∧
          after.events = events := by
  intro chain watching
  have hwidened : Widened inner.length names chain watching := .insert outer inner names
  refine ⟨fun plan before hl hcalm => hwidened.perform hl hcalm, fun p l hl hu hcalm => ?_⟩
  intro p'
  have hu' : l.Usable p'.numbers := by
    rw [p.numbers_shift]
    exact hu
  have hkeeps : ∀ fuel, KeepsStep chain watching p p' l l fuel := fun fuel =>
    hwidened.keepsStep fuel ⟨p.overseen_shift, rfl, hl, hl, hu, hu'⟩ hcalm
  exact ⟨fun fuel => (hkeeps fuel).events, fun _ _ => KeepsStep.ends_iff hkeeps⟩

/-- Whether what was received is a message that calls one of the named tools. -/
def receivedCall (names : List Text) : Except Exception AssistantMessage → Bool
  | .ok turn => callsAny names turn.calls
  | .error _ => false

/-- A backend whose response is always the same never calls a tool that is not called there. -/
theorem spares_of_constant {chain : Chain} {g : Generator} {response : Wire.Response}
    {names : List Text} (hgenerator : chain.generator? = some g)
    (htransport : ∀ events request, g.transport events request = .ok response)
    (hcalls : receivedCall names (g.receive response) = false) (p : Program)
    (events : List Event) : chain.Spares names p events := by
  rintro _ chat k turn reached hg - hnext
  cases hgenerator.symm.trans hg
  obtain ⟨request, -, hreply, -⟩ := Generator.next_ok hnext
  rw [Generator.reply, htransport] at hreply
  have hreceived : g.receive response = .ok turn := hreply
  rw [hreceived] at hcalls
  exact hcalls

/-- A backend that always asks for the time, and a link that watches for another tool outside the
executor: the run ends as it does without the link. -/
theorem idle_watch_transparent_insistent :
    let watching := .breakOn ["weather"] :: Assembly.insistent.chain
    ∃ result after after',
      Gives Assembly.insistent.chain (.generate Assembly.clockChat) {} result after ∧
      Gives watching (.generate Assembly.clockChat) {} result after' ∧
      after'.events = after.events := by
  intro watching
  have hcalls : receivedCall ["weather"]
      (Assembly.insistent.generator.receive Assembly.clockResponse) = false := by decide +kernel
  have hspares : ∀ q events, Spares Assembly.insistent.chain ["weather"] q events :=
    spares_of_constant rfl (fun _ _ => rfl) hcalls
  obtain ⟨after, hgives, -⟩ := (Assembly.gives_iff_turn (a := Assembly.insistent) rfl .empty
    Assembly.clockChat).2 ⟨_, rfl, rfl⟩
  obtain ⟨after', hgives', hevents⟩ :=
    ((idle_watch_transparent [] Assembly.insistent.chain ["weather"]).1
      (.generate Assembly.clockChat) {} .empty fun q m _ => hspares q m.events).2 _ _ |>.1
      ⟨after, hgives, rfl⟩
  exact ⟨_, after, after', hgives, hgives', hevents⟩

end Chain

end Colloquy
