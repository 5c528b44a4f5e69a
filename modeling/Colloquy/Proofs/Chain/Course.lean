import Colloquy.Chain.Run
import Colloquy.Proofs.Chain.Exchange
import Colloquy.Proofs.Program.Course

/-!
# Runs without numbers

`Chain.move` is a step and `Chain.drive` a run without numbers.  The main statement
is `Chain.run_tracks`: a run of a program whose numbers can be used is the run of
the program without numbers.  No run refuses a continuation that it has not used.
-/

namespace Colloquy

/-! ## Steps -/

/-- The program after one step, none when the links pass the very same program on. -/
def Chain.move : Chain → Program → Course (Option Program)
  | [], _ => return none
  | .terminal :: _, _ => return none
  | .forward :: inner, p => Chain.move inner p
  | .generation g :: inner, p => do
    Course.ofExcept (p.validate.mapError .own)
    match p with
    | .pending (.generate chat k) => return some (← k.follow (← g.ask chat))
    | _ => Chain.move inner p
  | .breakOn names :: inner, p => do
    Course.ofExcept (p.validate.mapError .own)
    let owner := (Link.breakOn names).owner inner
    match p with
    | .pending (.generate chat k) =>
      if k.ownedBy owner then Chain.move inner p
      else
        let p := .pending (.generate chat (.plain (k.owners.insert owner) (.check names k)))
        return some ((← Chain.move inner p).getD p)
    | _ => Chain.move inner p
  | .executor x :: inner, p => do
    Course.ofExcept (p.validate.mapError .own)
    let owner := (Link.executor x).owner inner
    match p with
    | .pending (.execute call k) => return some (← k.follow (← x.carryOut call))
    | .pending (.generate chat k) =>
      if x.auto && !k.ownedBy owner then
        let p := .pending (.generate chat
          (.plain (k.owners.insert owner) (.rounds (x.loop owner) k 0)))
        return some ((← Chain.move inner p).getD p)
      else Chain.move inner p
    | _ => Chain.move inner p

/-- The outcome of a program, none when more than `fuel` steps would be needed. -/
def Chain.drive (chain : Chain) : Nat → Program → Course (Option Outcome)
  | 0, _ => return none
  | fuel + 1, p => do
    Course.ofExcept (p.validate.mapError .own)
    if p.isTerminal then
      return some (← Course.ofExcept ((chain.finish p).mapError .own))
    else
      match ← chain.move p with
      | none => throw (.own (unhandled p))
      | some next => Chain.drive chain fuel next

/-! ## A program that is passed on is as it was -/

/-- An act that always gives something does not give nothing. -/
theorem bind_ne_none {α β : Type} {a : Act α} {f : α → Act (Option β)}
    (hf : ∀ x l l', f x l ≠ (.ok none, l')) {l l' : Ledger} :
    (a >>= f) l ≠ (.ok none, l') := by
  rw [bind_apply]
  cases a l with
  | mk r l'' =>
    cases r with
    | error e =>
      intro h
      cases h
    | ok x => exact hf x l'' l'

theorem changed_ne_none {p : Program} {inner : Program → Act (Option Program)}
    (l l' : Ledger) : changed p inner l ≠ (.ok none, l') :=
  bind_ne_none fun _ _ _ h => by cases h

/-- An operation that a link resolves is not passed on. -/
theorem resolved_ne_none {a : Act Outcome} {k : Cont} {l l' : Ledger} :
    (do return some (← k.call (← a)) : Act (Option Program)) l ≠ (.ok none, l') :=
  bind_ne_none fun _ _ _ => bind_ne_none fun _ _ _ h => by cases h

/-- A step that passes a program on leaves the ledger alone. -/
theorem Chain.step_none {chain : Chain} {p : Program} {l l' : Ledger}
    (h : chain.step p l = (.ok none, l')) : l' = l := by
  induction chain with
  | nil =>
    cases h
    rfl
  | cons link inner ih =>
    cases link with
    | terminal =>
      cases h
      rfl
    | forward => exact ih h
    | generation g =>
      match p, h with
      | .pending (.generate chat k), h => exact absurd h resolved_ne_none
      | .pending (.execute call k), h => exact ih h
      | .pending (.done result), h => exact ih h
      | .final value, h => exact ih h
      | .both _ _, h => cases h
      | .neither, h => cases h
    | breakOn names =>
      match p, h with
      | .pending (.generate chat k), h =>
        change (if k.ownedBy _ then Chain.step inner _ else _ : Act _) l = _ at h
        split at h
        · exact ih h
        · exact absurd h (bind_ne_none fun _ => changed_ne_none)
      | .pending (.execute call k), h => exact ih h
      | .pending (.done result), h => exact ih h
      | .final value, h => exact ih h
      | .both _ _, h => cases h
      | .neither, h => cases h
    | executor x =>
      match p, h with
      | .pending (.generate chat k), h =>
        change (if x.auto && !k.ownedBy _ then _ else Chain.step inner _ : Act _) l = _ at h
        split at h
        · exact absurd h (bind_ne_none fun _ => changed_ne_none)
        · exact ih h
      | .pending (.execute call k), h => exact absurd h resolved_ne_none
      | .pending (.done result), h => exact ih h
      | .final value, h => exact ih h
      | .both _ _, h => cases h
      | .neither, h => cases h

/-! ## Steps are tracked -/

section

variable {l : Ledger}

/-- An operation is resolved without numbers as with them. -/
theorem Tracks.resolved {a : Act Outcome} {k : Cont} (ha : a.Blind) (hl : l.Sound)
    (hu : l.Usable k.numbers) :
    Tracks (do return some (← k.call (← a)) : Act (Option Program))
      (do return some (← k.bare.follow (← a.course))) k.numbers l := by
  have hfirst := Tracks.of_blind ha hl (fun _ => rfl) (fun _ => rfl)
  rw [← List.nil_append k.numbers]
  refine hfirst.bind hu ?_
  intro result l' hl' hu'
  exact (k.call_tracks result l' hl' hu').map (f := some) (g := some) (fun _ => rfl)
    (fun _ => rfl)

/-- The program that comes of a step, or the one that was passed on. -/
theorem Tracks.getD {p : Program} {a : Act (Option Program)} {d : Course (Option Program)}
    (h : Tracks a d p.numbers l) (hu : l.Usable p.numbers)
    (hnone : ∀ l', a l = (.ok none, l') → l' = l) :
    Tracks (do return (← a).getD p) (do return (← d).getD p.bare) p.numbers l := by
  have hact : (do return (← a).getD p : Act Program) l = ((a l).1.map (·.getD p), (a l).2) := by
    rw [bind_apply]
    cases a l with
    | mk r l' => cases r <;> rfl
  have hcourse : (do return (← d).getD p.bare : Course Program) l.events
      = ((d l.events).1.map (·.getD p.bare), (d l.events).2) := by
    rw [bind_apply]
    cases d l.events with
    | mk r events => cases r <;> rfl
  refine ⟨?_, ?_, ?_, ?_⟩
  · rw [hcourse, hact, h.result]
    cases (a l).1 with
    | error e => rfl
    | ok q => cases q <;> rfl
  · rw [hact]
    exact h.advances
  · intro y hy
    rw [hact] at hy ⊢
    obtain ⟨q, hq, rfl⟩ := Except.map_eq_ok hy
    cases q with
    | some q => exact h.usable (some q) hq
    | none =>
      -- the program was passed on, so its numbers are as they were
      have hsame : (a l).2 = l := hnone _ (Prod.ext hq rfl)
      show (a l).2.Usable p.numbers
      rw [hsame]
      exact hu
  · intro y hy n hn
    rw [hact] at hy
    obtain ⟨q, hq, rfl⟩ := Except.map_eq_ok hy
    cases q with
    | some q => exact h.owned (some q) hq n hn
    | none => exact .inl hn

/-- A continuation is taken over, and the links inside go on, without numbers as with them. -/
theorem Tracks.takenOver {chat : Chat} {k : Cont} {owner : Owner} (body : Body)
    {inner : Program → Act (Option Program)} {inner' : Program → Course (Option Program)}
    (hl : l.Sound) (hu : l.Usable body.numbers)
    (hinner : ∀ p l', l'.Sound → l'.Usable p.numbers →
      Tracks (inner p) (inner' p.bare) p.numbers l')
    (hnone : ∀ p l' l'', inner p l' = (.ok none, l'') → l'' = l') :
    Tracks (do changed (← Program.takeOver chat k owner body) inner)
      (do
        let p := .pending (.generate chat (.plain (k.owners.insert owner) body.bare))
        return some ((← inner' p).getD p)) body.numbers l := by
  have hissue := Tracks.issue (k.owners.insert owner) body hl hu
  have hfirst := hissue.map (f := fun k => Program.pending (.generate chat k))
    (g := fun k => Program.pending (.generate chat k)) (fun _ => rfl) (fun _ => rfl)
  refine hfirst.bind_all (g := fun p => do return some ((← inner' p).getD p)) hu ?_
  intro p l' hl' hp
  have h := ((hinner p l' hl' hp).getD hp (hnone p l')).map (f := some) (g := some)
    (fun _ => rfl) (fun _ => rfl)
  simp only [bind_assoc, pure_bind] at h
  exact h

/-- Nothing is done when a program is passed on. -/
theorem Tracks.passed {ns : List Nat} (hl : l.Sound) :
    Tracks (pure none : Act (Option Program)) (pure none) ns l :=
  (Tracks.give (x := (none : Option Program)) hl (.nil l)).mono fun n hn => by cases hn

/-- A step of a program whose numbers can be used is the step without numbers. -/
theorem Chain.step_tracks (chain : Chain) (p : Program) (l : Ledger) (hl : l.Sound)
    (hu : l.Usable p.numbers) : Tracks (chain.step p) (chain.move p.bare) p.numbers l := by
  induction chain generalizing p l with
  | nil => exact .passed hl
  | cons link inner ih =>
    cases link with
    | terminal => exact .passed hl
    | forward => exact ih p l hl hu
    | generation g =>
      match p with
      | .pending (.generate chat k) => exact .resolved (g.generate_blind chat) hl hu
      | .pending (.execute call k) => exact ih _ l hl hu
      | .pending (.done result) => exact ih _ l hl hu
      | .final value => exact ih _ l hl hu
      | .both operation _ => cases operation <;> exact .fail _ hl
      | .neither => exact .fail _ hl
    | breakOn names =>
      match p with
      | .pending (.generate chat k) =>
        have howner := congrArg
          (List.contains · ((Link.breakOn names).owner inner)) k.bare_owners
        show Tracks (if k.ownedBy _ then _ else _) (if k.bare.ownedBy _ then _ else _) _ l
        rw [Cont.ownedBy, Cont.ownedBy, howner]
        split
        · exact ih _ l hl hu
        · rw [k.bare_owners]
          exact .takenOver (.check names k) hl hu ih fun _ _ _ => Chain.step_none
      | .pending (.execute call k) => exact ih _ l hl hu
      | .pending (.done result) => exact ih _ l hl hu
      | .final value => exact ih _ l hl hu
      | .both operation _ => cases operation <;> exact .fail _ hl
      | .neither => exact .fail _ hl
    | executor x =>
      match p with
      | .pending (.generate chat k) =>
        have howner := congrArg (List.contains · ((Link.executor x).owner inner)) k.bare_owners
        show Tracks (if x.auto && !k.ownedBy _ then _ else _)
          (if x.auto && !k.bare.ownedBy _ then _ else _) _ l
        rw [Cont.ownedBy, Cont.ownedBy, howner]
        split
        · rw [k.bare_owners]
          exact .takenOver (.rounds _ k 0) hl hu ih fun _ _ _ => Chain.step_none
        · exact ih _ l hl hu
      | .pending (.execute call k) => exact .resolved (x.execute_blind call) hl hu
      | .pending (.done result) => exact ih _ l hl hu
      | .final value => exact ih _ l hl hu
      | .both operation _ => cases operation <;> exact .fail _ hl
      | .neither => exact .fail _ hl

/-! ## Runs are tracked -/

theorem Program.bare_validate (p : Program) : p.bare.validate = p.validate := by
  match p with
  | .pending (.generate _ _) | .pending (.execute _ _) | .pending (.done _) => rfl
  | .both (.generate _ _) _ | .both (.execute _ _) _ | .both (.done _) _ => rfl
  | .final _ | .neither => rfl

theorem Program.bare_isTerminal (p : Program) : p.bare.isTerminal = p.isTerminal := by
  match p with
  | .pending (.generate _ _) | .pending (.execute _ _) | .pending (.done _) => rfl
  | .both (.generate _ _) _ | .both (.execute _ _) _ | .both (.done _) _ => rfl
  | .final _ | .neither => rfl

theorem Program.bare_finish (p : Program) : p.bare.finish = p.finish := by
  match p with
  | .pending (.generate _ _) | .pending (.execute _ _) | .pending (.done _) => rfl
  | .both (.generate _ _) _ | .both (.execute _ _) _ | .both (.done _) _ => rfl
  | .final _ | .neither => rfl

theorem Program.bare_unhandled (p : Program) : unhandled p.bare = unhandled p := by
  match p with
  | .pending (.generate _ _) | .pending (.execute _ _) | .pending (.done _) => rfl
  | .both (.generate _ _) _ | .both (.execute _ _) _ | .both (.done _) _ => rfl
  | .final _ | .neither => rfl

theorem Chain.bare_finish (chain : Chain) (p : Program) : chain.finish p.bare = chain.finish p := by
  induction chain with
  | nil => rfl
  | cons link inner ih => cases link <;> first | exact ih | exact p.bare_finish

/-- A run of a program whose numbers can be used is the run without numbers. -/
theorem Chain.run_tracks (chain : Chain) (fuel : Nat) (p : Program) (l : Ledger) (hl : l.Sound)
    (hu : l.Usable p.numbers) :
    Tracks (chain.run fuel p) (chain.drive fuel p.bare) p.numbers l := by
  induction fuel generalizing p l with
  | zero =>
    exact (Tracks.give (x := (none : Option Outcome)) hl (.nil l)).mono fun n hn => by cases hn
  | succ fuel ih =>
    rw [Chain.run, Chain.drive, p.bare_validate, p.bare_isTerminal, chain.bare_finish,
      p.bare_unhandled]
    cases p.validate with
    | error e => exact .fail _ hl
    | ok u =>
      show Tracks (if p.isTerminal then _ else _) (if p.isTerminal then _ else _) _ l
      split
      · cases chain.finish p with
        | error e => exact .fail _ hl
        | ok value =>
          exact (Tracks.give (x := some value) hl (.nil l)).mono fun n hn => by cases hn
      · refine (chain.step_tracks p l hl hu).bind_all hu ?_
        intro q l' hl' hq
        cases q with
        | none => exact .fail _ hl'
        | some next => exact ih next l' hl' hq

end

end Colloquy
