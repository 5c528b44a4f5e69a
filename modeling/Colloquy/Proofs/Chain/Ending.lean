import Colloquy.Proofs.Chain.Step

/-!
# How runs end

A run ends with a result when some number of steps is enough for it.  The result may
be an exception that the run raises.  `Chain.Gives` says so of a plan that is built
and run on a ledger, `Chain.Ends` of a program without numbers, and `Chain.Settles`
of a course that leads to one.

The rules are equivalences: to end after a step is to end from where the step leads.
So the end of a run is found by rewriting, and `gives_iff` takes what was found
back to the ledger.
-/

namespace Colloquy

namespace Chain

/-! ## Plans that are built and run -/

/-- The outcome of a plan that is built and run, none when more than `fuel` steps would be
needed. -/
def perform (chain : Chain) (fuel : Nat) (plan : Plan) : Act (Option Outcome) := do
  chain.run fuel (← (← plan.build).expect "Plan")

/-- A plan that is built and run on the ledger `before` ends with a result, and leaves the ledger
`after`. -/
def Gives (chain : Chain) (plan : Plan) (before : Ledger) (result : Except Exception Outcome)
    (after : Ledger) : Prop :=
  ∃ fuel, chain.perform fuel plan before = (result.map some, after)

/-- Whether what a run gave is a success. -/
def succeeded : Except Exception (Option Outcome) → Bool
  | .ok (some (.success _)) => true
  | _ => false

/-- A run that was seen to succeed ends with a success. -/
theorem gives_of_succeeded (chain : Chain) (fuel : Nat) (plan : Plan) (before : Ledger)
    (h : succeeded (chain.perform fuel plan before).1 = true) :
    ∃ item, chain.Gives plan before (.ok (.success item)) (chain.perform fuel plan before).2 := by
  have hends : ∃ item, (chain.perform fuel plan before).1 = .ok (some (.success item)) := by
    generalize (chain.perform fuel plan before).1 = r at h
    match r, h with
    | .ok (some (.success item)), _ => exact ⟨item, rfl⟩
  obtain ⟨item, hitem⟩ := hends
  exact ⟨item, fuel, Prod.ext hitem rfl⟩

end Chain

/-- The program that a plan is built into, without numbers. -/
def Plan.opening (plan : Plan) : Course Program := do
  (← plan.outline).required "Plan"

namespace Chain

/-! ## Programs without numbers -/

/-- A run of a program after some events ends with a result. -/
def Ends (chain : Chain) (p : Program) (events : List Event) (result : Except Exception Outcome)
    (events' : List Event) : Prop :=
  ∃ fuel, chain.drive fuel p events = (result.map some, events')

/-- A course that leads to a program, and a run of that program, end with a result. -/
def Settles (chain : Chain) (d : Course Program) (events : List Event)
    (result : Except Exception Outcome) (events' : List Event) : Prop :=
  match d events with
  | (.ok p, reached) => chain.Ends p reached result events'
  | (.error e, reached) => result = .error e ∧ events' = reached

variable {chain : Chain} {p : Program} {events events' reached : List Event}
  {result : Except Exception Outcome}

theorem map_some_ne_none : result.map some ≠ .ok none := by
  cases result with
  | error e =>
    intro h
    cases h
  | ok value =>
    intro h
    cases h

theorem settles_of_ok {d : Course Program} (h : d events = (.ok p, reached)) :
    chain.Settles d events result events' ↔ chain.Ends p reached result events' := by
  rw [Settles, h]

theorem settles_of_error {d : Course Program} {e : Exception}
    (h : d events = (.error e, reached)) :
    chain.Settles d events result events' ↔ result = .error e ∧ events' = reached := by
  rw [Settles, h]

@[simp] theorem settles_pure :
    chain.Settles (pure p) events result events' ↔ chain.Ends p events result events' :=
  Iff.rfl

@[simp] theorem settles_throw {e : Exception} :
    chain.Settles (throw e) events result events' ↔ result = .error e ∧ events' = events :=
  Iff.rfl

/-- Courses that come to the same settle the same. -/
theorem settles_congr {d d' : Course Program} (h : d events = d' reached) :
    chain.Settles d events result events' ↔ chain.Settles d' reached result events' := by
  rw [Settles, Settles, h]

theorem settles_bind_of_ok {α : Type} {d : Course α} {f : α → Course Program} {x : α}
    (h : d events = (.ok x, reached)) :
    chain.Settles (d >>= f) events result events' ↔
      chain.Settles (f x) reached result events' := by
  rw [Settles, Settles, bind_ok h]

theorem settles_bind_of_error {α : Type} {d : Course α} {f : α → Course Program} {e : Exception}
    (h : d events = (.error e, reached)) :
    chain.Settles (d >>= f) events result events' ↔ result = .error e ∧ events' = reached :=
  settles_of_error (bind_error h)

/-- What comes after a course settles the same as something else does, when that is so wherever the
course leads. -/
theorem settles_bind_congr_of_ok {α : Type} {d : Course α} {f f' : α → Course Program}
    (h : ∀ y reached, d events = (.ok y, reached) →
      (chain.Settles (f y) reached result events' ↔ chain.Settles (f' y) reached result events')) :
    chain.Settles (d >>= f) events result events' ↔
      chain.Settles (d >>= f') events result events' := by
  cases hd : d events with
  | mk r reached =>
    cases r with
    | error e => rw [settles_bind_of_error hd, settles_bind_of_error hd]
    | ok y => rw [settles_bind_of_ok hd, settles_bind_of_ok hd, h y reached hd]

/-- Courses that do the same settle the same, when what comes after them does. -/
theorem settles_bind_congr {α : Type} {d : Course α} {f f' : α → Course Program}
    (h : ∀ y reached, chain.Settles (f y) reached result events' ↔
      chain.Settles (f' y) reached result events') :
    chain.Settles (d >>= f) events result events' ↔
      chain.Settles (d >>= f') events result events' :=
  settles_bind_congr_of_ok fun y reached _ => h y reached

/-! ## The first step -/

/-- What a run of a pending program does, once the step that its operation leads to is known. -/
theorem drive_succ {d : Course Program} (hvalid : p.validate = .ok ())
    (hpending : p.isTerminal = false) (hmove : chain.move p = (do return some (← d)))
    (fuel : Nat) : chain.drive (fuel + 1) p = (do chain.drive fuel (← d)) := by
  rw [drive, hvalid, hpending, hmove]
  simp only [Bool.false_eq_true, if_false, bind_assoc, pure_bind]
  rfl

/-- A pending program ends as the step of its operation settles. -/
theorem ends_iff_settles {d : Course Program} (hvalid : p.validate = .ok ())
    (hpending : p.isTerminal = false) (hmove : chain.move p = (do return some (← d))) :
    chain.Ends p events result events' ↔ chain.Settles d events result events' := by
  have hstep := drive_succ hvalid hpending hmove
  cases hd : d events with
  | mk r reached =>
    cases r with
    | error e =>
      rw [settles_of_error hd]
      constructor
      · rintro ⟨fuel, h⟩
        cases fuel with
        | zero => exact absurd (congrArg Prod.fst h).symm map_some_ne_none
        | succ fuel =>
          rw [hstep, bind_error hd] at h
          cases result with
          | error e' =>
            cases h
            exact ⟨rfl, rfl⟩
          | ok value => cases h
      · rintro ⟨rfl, rfl⟩
        refine ⟨1, ?_⟩
        rw [hstep, bind_error hd]
        rfl
    | ok q =>
      rw [settles_of_ok hd]
      constructor
      · rintro ⟨fuel, h⟩
        cases fuel with
        | zero => exact absurd (congrArg Prod.fst h).symm map_some_ne_none
        | succ fuel =>
          rw [hstep, bind_ok hd] at h
          exact ⟨fuel, h⟩
      · rintro ⟨fuel, h⟩
        refine ⟨fuel + 1, ?_⟩
        rw [hstep, bind_ok hd]
        exact h

/-- A generation ends as its exchange and the continuation that was taken over settle. -/
theorem ends_generate {g : Generator} (hg : chain.generator? = some g) (chat : Chat) (k : Cont) :
    chain.Ends (.pending (.generate chat k)) events result events' ↔
      chain.Settles (do (chain.taken k).follow (← g.ask chat)) events result events' :=
  ends_iff_settles rfl rfl (move_generate hg chat k)

/-- A tool call ends as carrying it out and its continuation settle. -/
theorem ends_execute {x : Executor} (hx : chain.executor? = some x) (call : ToolCall)
    (k : Cont) :
    chain.Ends (.pending (.execute call k)) events result events' ↔
      chain.Settles (do k.follow (← x.carryOut call)) events result events' :=
  ends_iff_settles rfl rfl (move_execute hx call k)

/-! ## The last step -/

/-- The links around a terminal link leave the end to it. -/
theorem finish_of_mem (h : .terminal ∈ chain) (p : Program) : chain.finish p = p.finish := by
  induction chain with
  | nil => cases h
  | cons link inner ih =>
    cases link with
    | terminal => rfl
    | executor x => exact ih (by simpa using h)
    | breakOn names => exact ih (by simpa using h)
    | generation g => exact ih (by simpa using h)
    | forward => exact ih (by simpa using h)

/-- A program with nothing left to resolve ends at once. -/
theorem ends_iff_finish (hvalid : p.validate = .ok ()) (hterminal : p.isTerminal = true) :
    chain.Ends p events result events' ↔
      result = (chain.finish p).mapError .own ∧ events' = events := by
  have hstep : ∀ fuel, chain.drive (fuel + 1) p events
      = (((chain.finish p).mapError .own).map some, events) := by
    intro fuel
    rw [drive, hvalid, hterminal]
    cases chain.finish p <;> rfl
  have hinj : ∀ r : Except Exception Outcome, r.map some = result.map some → r = result := by
    intro r h
    cases r <;> cases result <;> cases h <;> rfl
  constructor
  · rintro ⟨fuel, h⟩
    cases fuel with
    | zero => exact absurd (congrArg Prod.fst h).symm map_some_ne_none
    | succ fuel =>
      rw [hstep] at h
      exact ⟨(hinj _ (congrArg Prod.fst h)).symm, (congrArg Prod.snd h).symm⟩
  · rintro ⟨rfl, rfl⟩
    exact ⟨1, hstep 0⟩

theorem ends_final (h : .terminal ∈ chain) (value : Outcome) :
    chain.Ends (.final value) events result events' ↔ result = .ok value ∧ events' = events := by
  rw [ends_iff_finish rfl rfl, finish_of_mem h]
  rfl

theorem ends_done (h : .terminal ∈ chain) (value : Outcome) :
    chain.Ends (.pending (.done value)) events result events' ↔
      result = .ok value ∧ events' = events := by
  rw [ends_iff_finish rfl rfl, finish_of_mem h]
  rfl

/-! ## Back to the ledger -/

/-- A plan that is built and run without numbers. -/
def play (chain : Chain) (fuel : Nat) (plan : Plan) : Course (Option Outcome) := do
  chain.drive fuel (← plan.opening)

/-- A plan is built and run on a ledger in order as it is without numbers. -/
theorem perform_tracks (chain : Chain) (fuel : Nat) (plan : Plan) {l : Ledger} (hl : l.Sound) :
    Tracks (chain.perform fuel plan) (chain.play fuel plan) [] l := by
  rw [perform, play, Plan.opening, ← bind_assoc]
  exact (plan.expect_tracks "Plan" hl).bind_all (.nil l) fun p l' hl' hp =>
    chain.run_tracks fuel p l' hl' hp

/-- A run leaves a ledger in order behind. -/
theorem Gives.sound {plan : Plan} {before after : Ledger} (hl : before.Sound)
    (h : chain.Gives plan before result after) : after.Sound := by
  obtain ⟨fuel, hends⟩ := h
  have hadvances := (chain.perform_tracks fuel plan hl).advances
  rw [hends] at hadvances
  exact hadvances.sound

/-- What a plan gives on a ledger in order is what it gives after the events on it. -/
theorem play_apply (chain : Chain) (fuel : Nat) (plan : Plan) {l : Ledger} (hl : l.Sound) :
    chain.play fuel plan l.events
      = ((chain.perform fuel plan l).1, (chain.perform fuel plan l).2.events) := by
  have hbare : ∀ r : Except Exception (Option Outcome), r.map bare = r := by
    intro r
    match r with
    | .error _ | .ok none | .ok (some _) => rfl
  rw [(chain.perform_tracks fuel plan hl).result, hbare]

/-- A course and a run of the program that it leads to end with a result when some number of steps
is enough. -/
theorem settles_iff {d : Course Program} :
    chain.Settles d events result events' ↔
      ∃ fuel, (do chain.drive fuel (← d)) events = (result.map some, events') := by
  cases h : d events with
  | mk r reached =>
    cases r with
    | error e =>
      rw [settles_of_error h]
      simp only [bind_error h]
      constructor
      · rintro ⟨rfl, rfl⟩
        exact ⟨0, rfl⟩
      · rintro ⟨_, heq⟩
        cases result with
        | error e' =>
          cases heq
          exact ⟨rfl, rfl⟩
        | ok value => cases heq
    | ok p =>
      rw [settles_of_ok h]
      simp only [bind_ok h]
      rfl

/-- What acts give on a ledger, which a course and a run without numbers track, is what these settle
to after the events on the ledger. -/
theorem exists_iff_settles {act : Nat → Act (Option Outcome)} {d : Course Program} {l : Ledger}
    (h : ∀ fuel, Tracks (act fuel) (do chain.drive fuel (← d)) [] l) :
    (∃ fuel after, act fuel l = (result.map some, after) ∧ after.events = events') ↔
      chain.Settles d l.events result events' := by
  have hbare : ∀ r : Except Exception (Option Outcome), r.map bare = r := by
    intro r
    match r with
    | .error _ | .ok none | .ok (some _) => rfl
  rw [settles_iff]
  constructor
  · rintro ⟨fuel, after, hact, rfl⟩
    refine ⟨fuel, ?_⟩
    rw [(h fuel).result, hbare, hact]
  · rintro ⟨fuel, hdrive⟩
    rw [(h fuel).result, hbare] at hdrive
    obtain ⟨hresult, hevents⟩ := Prod.mk.inj hdrive
    exact ⟨fuel, (act fuel l).2, Prod.ext hresult rfl, hevents⟩

/-- What a plan gives on a ledger in order is what its program settles to after the events on
the ledger. -/
theorem gives_iff {plan : Plan} {before : Ledger} (hl : before.Sound) :
    (∃ after, chain.Gives plan before result after ∧ after.events = events') ↔
      chain.Settles plan.opening before.events result events' := by
  rw [← exists_iff_settles fun fuel => chain.perform_tracks fuel plan hl]
  constructor
  · rintro ⟨after, ⟨fuel, hrun⟩, hevents⟩
    exact ⟨fuel, after, hrun, hevents⟩
  · rintro ⟨fuel, after, hrun, hevents⟩
    exact ⟨after, ⟨fuel, hrun⟩, hevents⟩

theorem Gives.settles {plan : Plan} {before after : Ledger} (hl : before.Sound)
    (h : chain.Gives plan before result after) :
    chain.Settles plan.opening before.events result after.events :=
  (gives_iff hl).1 ⟨after, h, rfl⟩

end Chain

end Colloquy
