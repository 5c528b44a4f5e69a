import Colloquy.Proofs.Chain.Conduct
import Colloquy.Proofs.Chain.Refusal

/-!
# Continuations are used once

A plan is built into a program with new continuations, and a run issues more of them.
Three facts make their use linear:

* none is refused, so the run is the run without numbers (`Chain.play_apply`);
* none is used twice, since a number that is spent is not spent again
  (`Chain.count_spent_le_one`);
* none is lost, since at each point of a run a continuation is spent or held by the
  program there (`Chain.Visits.accounted`).

The last one has an exception.  A link that ends a run with a result drops the
continuation that the program holds at that point.
-/

namespace Colloquy

namespace Chain

/-! ## Points of the run of a plan -/

/-- The run of a plan that is built on the ledger `before` comes to a program on a ledger. -/
def Visits (chain : Chain) (plan : Plan) (before : Ledger) (q : Program) (m : Ledger) : Prop :=
  ∃ p l n, (plan.build >>= Built.expect "Plan") before = (.ok p, l) ∧ chain.Reaches n p l q m

/-- A link ends the run of a plan with a result. -/
def Breaks (chain : Chain) (plan : Plan) (before : Ledger) (result : Outcome) : Prop :=
  ∃ p l, (plan.build >>= Built.expect "Plan") before = (.ok p, l) ∧ chain.BreaksOff p l result

section

variable {chain : Chain} {plan : Plan} {before after m : Ledger} {q : Program}

/-- Only numbers that can be used are held. -/
theorem Visits.usable (h : chain.Visits plan before q m) (hl : before.Sound) :
    m.Usable q.numbers := by
  obtain ⟨p, l, n, hbuild, hreaches⟩ := h
  have htracks := plan.expect_tracks "Plan" hl
  have hsound := htracks.advances.sound
  have hp := htracks.usable p
  rw [hbuild] at hsound hp
  exact (hreaches.usable hsound (hp rfl)).2

/-- Each number that was issued since the run began is spent or held, unless a link has just ended
the run. -/
theorem Visits.accounted (h : chain.Visits plan before q m) (hplan : plan.Fresh) :
    q.Accounted Program.Regular before [] m ∨
      ∃ result, q = .pending (.done result) ∧ chain.Breaks plan before result := by
  obtain ⟨p, l, n, hbuild, hreaches⟩ := h
  have hp := hplan.expect_yields (l := before) "Plan" p l hbuild
  rcases hreaches.accounted hp.kind with hq | ⟨result, hdone, hbreaks⟩
  · exact .inl (hq.after hp.keeps)
  · exact .inr ⟨result, hdone, p, l, hbuild, hbreaks⟩

/-- The ledger at a point is what so many steps leave. -/
theorem Visits.exists_perform (h : chain.Visits plan before q m) :
    ∃ fuel, chain.perform fuel plan before = (.ok none, m) := by
  obtain ⟨p, l, n, hbuild, hreaches⟩ := h
  refine ⟨n, ?_⟩
  have hrun := hreaches.run_eq 0
  rw [Nat.zero_add] at hrun
  rw [perform, ← bind_assoc, bind_ok hbuild, hrun]
  rfl

/-- A run that gives a value comes to a program at its end, and a link that ends the run ends it
with that value. -/
theorem Gives.visits {value : Outcome} (h : chain.Gives plan before (.ok value) after) :
    (∃ q, chain.Visits plan before q after ∧ q.isTerminal = true) ∧
      ∀ result, chain.Breaks plan before result → value = result := by
  obtain ⟨fuel, hperform⟩ := h
  rw [perform, ← bind_assoc, bind_apply] at hperform
  cases hbuild : (plan.build >>= Built.expect "Plan") before with
  | mk r l =>
    rw [hbuild] at hperform
    cases r with
    | error e => cases hperform
    | ok p =>
      constructor
      · obtain ⟨n, q, hreaches, hterminal⟩ := reaches_of_run hperform
        exact ⟨q, ⟨p, l, n, hbuild, hreaches⟩, hterminal⟩
      · rintro result ⟨p', l', hbuild', hbreaks⟩
        cases hbuild.symm.trans hbuild'
        exact hbreaks.eq_of_run hperform

/-! ## Linear use -/

/-- A program that is accounted for holds each number that was issued, or it is spent once. -/
theorem Visits.held_or_spent (h : chain.Visits plan before q m) (hl : before.Sound)
    (hq : q.Accounted Program.Regular before [] m) {n : Nat} (hlow : before.issued ≤ n)
    (hhigh : n < m.issued) :
    (n ∈ q.numbers ∧ m.spent.count n = 0) ∨ (n ∉ q.numbers ∧ m.spent.count n = 1) := by
  have hnew : n ∉ before.spent := fun hmem => Nat.not_lt.2 hlow (hl.lt_issued n hmem)
  obtain ⟨fuel, hperform⟩ := h.exists_perform
  have honce : m.spent.count n ≤ 1 := by
    have hcount := chain.count_spent_le_one fuel plan before hnew
    rwa [hperform] at hcount
  rcases Decidable.em (n ∈ q.numbers) with hheld | hfree
  · exact .inl ⟨hheld, List.count_eq_zero.2 ((h.usable hl).unspent n hheld)⟩
  · have hspent : n ∈ m.spent := (hq.keeps.kept n (.inr ⟨hlow, hhigh⟩)).resolve_right hfree
    exact .inr ⟨hfree, Nat.le_antisymm honce (List.count_pos_iff.2 hspent)⟩

end

/-- A program at its end holds no numbers. -/
theorem numbers_of_isTerminal {p : Program} (h : p.Regular) (hterminal : p.isTerminal = true) :
    p.numbers = [] := by
  cases h with
  | final | done => rfl
  | generate | execute => cases hterminal

/-- Continuations are used linearly, by every chain and for every plan of the builders.  None is
refused: a run is the same as without numbers.  So the error of a continuation that is used twice is
raised only when a callback or a transport raises it.  None is used more than once.  At each point
of a run each continuation that was issued since the run began is either held by the program and
not used, or used once; so when the run gives a value each was used once.  Both have the exception
that a link ended the run with a result. -/
theorem continuations_linear (chain : Chain) (plan : Plan) (before : Ledger) (hplan : plan.Fresh)
    (hl : before.Sound) :
    (∀ fuel, chain.play fuel plan before.events
      = ((chain.perform fuel plan before).1, (chain.perform fuel plan before).2.events)) ∧
    (plan.Clear → chain.Clear → ∀ fuel, (chain.perform fuel plan before).1 ≠ .error .usedTwice) ∧
    (∀ fuel n, n ∉ before.spent → (chain.perform fuel plan before).2.spent.count n ≤ 1) ∧
    (∀ q m, chain.Visits plan before q m →
      (∃ result, q = .pending (.done result) ∧ chain.Breaks plan before result) ∨
      ∀ n, before.issued ≤ n → n < m.issued →
        (n ∈ q.numbers ∧ m.spent.count n = 0) ∨ (n ∉ q.numbers ∧ m.spent.count n = 1)) ∧
    (∀ value after, chain.Gives plan before (.ok value) after → chain.Breaks plan before value ∨
      ∀ n, before.issued ≤ n → n < after.issued → after.spent.count n = 1) := by
  refine ⟨fun fuel => chain.play_apply fuel plan hl, ?_, ?_, ?_, ?_⟩
  · intro hclear hchain fuel
    exact perform_ne_usedTwice hchain fuel hclear hl
  · intro fuel n hn
    exact chain.count_spent_le_one fuel plan before hn
  · intro q m hvisits
    rcases hvisits.accounted hplan with hq | hbreaks
    · exact .inr fun n hlow hhigh => hvisits.held_or_spent hl hq hlow hhigh
    · exact .inl hbreaks
  · intro value after hgives
    obtain ⟨⟨q, hvisits, hterminal⟩, hvalue⟩ := hgives.visits
    rcases hvisits.accounted hplan with hq | ⟨result, -, hbreaks⟩
    · refine .inr fun n hlow hhigh => ?_
      have hnone : n ∉ q.numbers := by
        rw [numbers_of_isTerminal hq.kind hterminal]
        exact List.not_mem_nil
      rcases hvisits.held_or_spent hl hq hlow hhigh with ⟨hheld, -⟩ | ⟨-, hcount⟩
      · exact absurd hheld hnone
      · exact hcount
    · rw [hvalue result hbreaks]
      exact .inl hbreaks

/-- Whether what a run gave is a chat without open calls. -/
def endsAnswered : Except Exception (Option Outcome) → Bool
  | .ok (some (.success (.chat chat))) => chat.pendingCalls.isEmpty
  | _ => false

/-- The backend asks for the time once and then echoes the turn of the user.  All continuations of
the run were used once. -/
theorem continuations_linear_clock :
    let a := Assembly.rehearsal .flag [.message (.assistant Assembly.clockMessage)]
    let chain := a.chain
    let plan := (Plan.generate Assembly.clockChat).andThen Plan.pure
    ∃ value after, chain.Gives plan {} (.ok value) after ∧ 2 ≤ after.issued ∧
      (∀ n, n < after.issued → after.spent.count n = 1) ∧
      ∀ fuel, (chain.perform fuel plan {}).1 ≠ .error .usedTwice := by
  intro a chain plan
  have hplan : plan.Fresh := .andThen (.generate _) .pure
  have hclear : plan.Clear := .andThen (.generate _) fun _ h => .pure h
  have hchain : chain.Clear := by
    intro g hg
    have hgenerator : g = a.generator := by
      simpa [chain, Assembly.chain, Assembly.breaks, a, Assembly.rehearsal] using hg
    rw [hgenerator]
    exact Transport.scripted_ne_usedTwice (by simp)
  obtain ⟨chat, hends, hanswered⟩ : ∃ chat,
      (chain.perform 5 plan {}).1 = .ok (some (.success (.chat chat))) ∧
        chat.pendingCalls = [] := by
    have hends : endsAnswered (chain.perform 5 plan {}).1 = true := by decide +kernel
    unfold endsAnswered at hends
    split at hends
    case h_1 chat heq => exact ⟨chat, heq, List.isEmpty_iff.1 hends⟩
    case h_2 => cases hends
  have hgives : chain.Gives plan {} (.ok (.success (.chat chat))) (chain.perform 5 plan {}).2 :=
    ⟨5, Prod.ext hends rfl⟩
  have h := continuations_linear chain plan {} hplan .empty
  refine ⟨_, _, hgives, by decide +kernel, ?_, h.2.1 hclear hchain⟩
  rcases h.2.2.2.2 _ _ hgives with ⟨_, _, _, _, _, _, _, _, ⟨_, _, k, _, _, _, hbreaks⟩, _⟩ | honce
  · exact absurd hbreaks ((chain.taken k).not_breaksOn_of_nil hanswered)
  · exact fun n hn => honce n (Nat.zero_le n) hn

end Chain

end Colloquy
