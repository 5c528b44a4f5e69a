import Colloquy.Proofs.Chain.Ending

/-!
# What runs do to a ledger

Whatever runs do to a ledger is made of three things: events happen, numbers are
issued, and numbers that are not spent are spent.  A relation between the ledger
before and the ledger after that these respect is a `Ledger.Rule`.  Every run obeys
every rule, whether or not it fails (`Chain.perform_obeys`).

So no run spends a number twice (`Chain.count_spent_le_one`).
-/

namespace Colloquy

/-- A relation between the ledgers before and after, which holds of the few things that are done to
a ledger and of one thing after another. -/
structure Ledger.Rule (R : Ledger → Ledger → Prop) : Prop where
  refl (l : Ledger) : R l l
  trans {l l' l'' : Ledger} (h : R l l') (h' : R l' l'') : R l l''
  events (l : Ledger) (events : List Event) : R l { l with events }
  issue (l : Ledger) : R l { l with issued := l.issued + 1 }
  spend {l : Ledger} {n : Nat} (h : n ∉ l.spent) : R l { l with spent := n :: l.spent }

/-- An act does to every ledger what a relation allows. -/
def Act.Obeys (R : Ledger → Ledger → Prop) {α : Type} (a : Act α) : Prop :=
  ∀ l, R l (a l).2

section

variable {R : Ledger → Ledger → Prop} {α β : Type} {a : Act α}

/-! ## Acts -/

namespace Act.Obeys

theorem pure (hR : Ledger.Rule R) (x : α) : Obeys R (Pure.pure x : Act α) :=
  fun l => hR.refl l

theorem throw (hR : Ledger.Rule R) (e : Exception) : Obeys R (MonadExcept.throw e : Act α) :=
  fun l => hR.refl l

theorem ofExcept (hR : Ledger.Rule R) (r : Except Exception α) : Obeys R (Act.ofExcept r) :=
  fun l => hR.refl l

theorem of_blind (hR : Ledger.Rule R) (ha : a.Blind) : Obeys R a := by
  intro l
  rw [ha l]
  exact hR.events l _

theorem issue (hR : Ledger.Rule R) (owners : List Owner) (body : Body) :
    Obeys R (Cont.issue owners body) :=
  fun l => hR.issue l

theorem bind (hR : Ledger.Rule R) {f : α → Act β} (ha : Obeys R a) (hf : ∀ x, Obeys R (f x)) :
    Obeys R (a >>= f) := by
  intro l
  have hfirst := ha l
  cases h : a l with
  | mk r l' =>
    rw [h] at hfirst
    cases r with
    | error e =>
      rw [bind_error h]
      exact hfirst
    | ok x =>
      rw [bind_ok h]
      exact hR.trans hfirst (hf x l')

theorem spend (hR : Ledger.Rule R) (n : Nat) : Obeys R (Act.spend n) := by
  intro l
  by_cases h : n ∈ l.spent
  · rw [Act.spend_refused h]
    exact hR.refl l
  · rw [Act.spend_apply h]
    exact hR.spend h

end Act.Obeys

open Act.Obeys

/-! ## Building -/

theorem Built.expect_obeys (hR : Ledger.Rule R) (who : Text) (b : Built) :
    (b.expect who).Obeys R := by
  cases b with
  | program p => exact pure hR p
  | stray value => exact throw hR _

theorem Program.sequence_obeys (hR : Ledger.Rule R) (p : Program) (frame : Frame)
    {apply : Outcome → Act Built} (happly : ∀ value, (apply value).Obeys R) :
    (p.sequence frame apply).Obeys R := by
  match p with
  | .final value => exact bind hR (happly value) (Built.expect_obeys hR _)
  | .pending (.generate _ _) | .pending (.execute _ _) =>
    exact bind hR (issue hR _ _) fun _ => pure hR _
  | .pending (.done _) => exact pure hR _
  | .both _ _ | .neither => exact throw hR _

theorem Plan.build_obeys (hR : Ledger.Rule R) (plan : Plan) : plan.build.Obeys R := by
  induction plan with
  | pure | done | neither | both | stray => exact Act.Obeys.pure hR _
  | generate | execute => exact bind hR (issue hR _ _) fun _ => Act.Obeys.pure hR _
  | raise e => exact throw hR e
  | note name plan ih => exact bind hR (fun l => hR.events l _) fun _ => ih
  | andThen first next ihFirst ihNext =>
    rw [Plan.build]
    refine bind hR ihFirst fun b => ?_
    cases b with
    | stray value => exact throw hR _
    | program p => exact bind hR (p.sequence_obeys hR _ ihNext) fun _ => Act.Obeys.pure hR _

/-! ## Going on -/

theorem Program.executing_obeys (hR : Ledger.Rule R) (call : ToolCall) (frames : List Frame) :
    (Program.executing call frames).Obeys R := by
  have hframes : ∀ k : Cont,
      Act.Obeys R (frames.foldlM (fun k frame => Cont.issue [] (.extended k frame)) k) := by
    induction frames with
    | nil => exact fun k => pure hR k
    | cons frame frames ih =>
      intro k
      rw [List.foldlM_cons]
      exact bind hR (issue hR _ _) ih
  exact bind hR (issue hR _ _) fun k => bind hR (hframes k) fun _ => pure hR _

mutual

theorem Cont.call_obeys (hR : Ledger.Rule R) (k : Cont) (result : Outcome) :
    (k.call result).Obeys R := by
  cases k with
  | mk number owners body =>
    rw [Cont.call]
    refine bind hR (spend hR number) fun fresh => ?_
    split
    · exact bind hR (body.call_obeys hR result) (Built.expect_obeys hR _)
    · exact throw hR _

theorem Body.call_obeys (hR : Ledger.Rule R) (body : Body) (result : Outcome) :
    (body.call result).Obeys R := by
  cases body with
  | callback f => exact (f result).build_obeys hR
  | extended k frame =>
    refine bind hR (k.call_obeys hR result) fun p => bind hR ?_ fun _ => pure hR _
    exact p.sequence_obeys hR frame fun value => frame.call_obeys hR value
  | rounds loop k count =>
    match result with
    | .failure e => exact bind hR (k.call_obeys hR _) fun _ => pure hR _
    | .plain _ | .success (.value _) | .success (.toolResult _) => exact throw hR _
    | .success (.chat chat) =>
      rw [Body.call]
      cases chat.pendingCalls with
      | nil => exact bind hR (k.call_obeys hR _) fun _ => pure hR _
      | cons call others =>
        dsimp only
        split
        · exact bind hR (k.call_obeys hR _) fun _ => pure hR _
        · exact bind hR (Program.executing_obeys hR _ _) fun _ => pure hR _
  | check names k =>
    match result with
    | .plain _ | .failure _ => exact bind hR (k.call_obeys hR _) fun _ => pure hR _
    | .success (.value _) | .success (.toolResult _) => exact throw hR _
    | .success (.chat chat) =>
      rw [Body.call]
      split
      · exact pure hR _
      · exact bind hR (k.call_obeys hR _) fun _ => pure hR _

theorem Frame.call_obeys (hR : Ledger.Rule R) (frame : Frame) (value : Outcome) :
    (frame.call value).Obeys R := by
  cases frame with
  | callback f => exact (f value).build_obeys hR
  | answer call policy =>
    match value with
    | .failure _ => exact pure hR _
    | .plain _ | .success (.value _) | .success (.toolResult _) => exact throw hR _
    | .success (.chat chat) => exact bind hR (Program.executing_obeys hR _ _) fun _ => pure hR _
  | record chat call policy => exact bind hR (ofExcept hR _) fun _ => pure hR _
  | regenerate loop k count =>
    match value with
    | .failure e => exact bind hR (k.call_obeys hR _) fun _ => pure hR _
    | .plain _ | .success (.value _) | .success (.toolResult _) => exact throw hR _
    | .success (.chat chat) => exact bind hR (issue hR _ _) fun _ => pure hR _

end

/-! ## Steps and runs -/

namespace Chain

theorem step_obeys (hR : Ledger.Rule R) (chain : Chain) (p : Program) :
    (chain.step p).Obeys R := by
  induction chain generalizing p with
  | nil => exact pure hR _
  | cons link inner ih =>
    cases link with
    | terminal => exact pure hR _
    | forward => exact ih p
    | generation g =>
      refine bind hR (ofExcept hR _) fun _ => ?_
      match p with
      | .pending (.generate chat k) =>
        exact bind hR (of_blind hR (g.generate_blind chat)) fun result =>
          bind hR (k.call_obeys hR result) fun _ => pure hR _
      | .pending (.execute _ _) | .pending (.done _) | .final _ | .both _ _ | .neither =>
        exact ih _
    | breakOn names =>
      refine bind hR (ofExcept hR _) fun _ => ?_
      match p with
      | .pending (.generate chat k) =>
        dsimp only
        split
        · exact ih _
        · exact bind hR (bind hR (issue hR _ _) fun _ => pure hR _) fun p =>
            bind hR (ih p) fun _ => pure hR _
      | .pending (.execute _ _) | .pending (.done _) | .final _ | .both _ _ | .neither =>
        exact ih _
    | executor x =>
      refine bind hR (ofExcept hR _) fun _ => ?_
      match p with
      | .pending (.generate chat k) =>
        dsimp only
        split
        · exact bind hR (bind hR (issue hR _ _) fun _ => pure hR _) fun p =>
            bind hR (ih p) fun _ => pure hR _
        · exact ih _
      | .pending (.execute call k) =>
        exact bind hR (of_blind hR (x.execute_blind call)) fun result =>
          bind hR (k.call_obeys hR result) fun _ => pure hR _
      | .pending (.done _) | .final _ | .both _ _ | .neither => exact ih _

theorem run_obeys (hR : Ledger.Rule R) (chain : Chain) (fuel : Nat) (p : Program) :
    (chain.run fuel p).Obeys R := by
  induction fuel generalizing p with
  | zero => exact pure hR _
  | succ fuel ih =>
    refine bind hR (ofExcept hR _) fun _ => ?_
    split
    · exact bind hR (ofExcept hR _) fun _ => pure hR _
    · refine bind hR (step_obeys hR chain p) fun next => ?_
      cases next with
      | none => exact throw hR _
      | some next => exact ih next

/-- A plan that is built and run obeys every rule. -/
theorem perform_obeys (hR : Ledger.Rule R) (chain : Chain) (fuel : Nat) (plan : Plan) :
    (chain.perform fuel plan).Obeys R :=
  bind hR (plan.build_obeys hR) fun b =>
    bind hR (b.expect_obeys hR _) fun p => chain.run_obeys hR fuel p

end Chain

end

/-! ## Spending once -/

/-- A number that was not spent is spent once at most. -/
theorem Ledger.rule_spent_once : Ledger.Rule fun l l' =>
    ∀ n, l'.spent.count n ≤ max 1 (l.spent.count n) where
  refl l n := Nat.le_max_right _ _
  trans h h' n := by
    have hfirst := h n
    have hsecond := h' n
    omega
  events l events n := Nat.le_max_right _ _
  issue l n := Nat.le_max_right _ _
  spend {l m} h n := by
    rw [List.count_cons]
    split
    · rename_i heq
      have hzero : l.spent.count n = 0 := List.count_eq_zero.2 (beq_iff_eq.1 heq ▸ h)
      omega
    · omega

/-- No run spends a number twice. -/
theorem Chain.count_spent_le_one (chain : Chain) (fuel : Nat) (plan : Plan) (before : Ledger)
    {n : Nat} (h : n ∉ before.spent) : (chain.perform fuel plan before).2.spent.count n ≤ 1 := by
  have hcount := chain.perform_obeys Ledger.rule_spent_once fuel plan before n
  rwa [List.count_eq_zero.2 h] at hcount

end Colloquy
