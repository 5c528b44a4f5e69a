import Colloquy.Error.Document
import Mathlib.Data.List.Forall2

/-!
# Exceptions that escape

A result escapes when it raises what is no error of the library, because nobody who
takes errors as data holds it back.  The rules are equivalences, so whether something
escapes is found by rewriting along its definition: a sequence escapes at its first
part, or later when that part gives something.

A traversal takes one step for each item of a list, with what is known from the items
before it.  It escapes at the first item that it does not get past
(`IsTraversal.escapes_iff`).
-/

namespace Colloquy

/-- What a result raises is no error of the library. -/
def Escapes {α : Type} : Except Exception α → Prop
  | .error (.foreign _ _) => True
  | _ => False

section

variable {α β : Type} {r : Except Exception α} {f : α → Except Exception β}

theorem escapes_iff : Escapes r ↔ ∃ cls text, r = .error (.foreign cls text) := by
  constructor
  · intro h
    match r, h with
    | .error (.foreign cls text), _ => exact ⟨cls, text, rfl⟩
  · rintro ⟨cls, text, rfl⟩
    trivial

@[simp] theorem not_escapes_ok (x : α) : ¬Escapes (.ok x : Except Exception α) :=
  id

@[simp] theorem not_escapes_pure (x : α) : ¬Escapes (pure x : Except Exception α) :=
  id

@[simp] theorem not_escapes_own (e : Error) : ¬Escapes (.error (.own e) : Except Exception α) :=
  id

@[simp] theorem escapes_foreign (cls : ForeignClass) (text : Text) :
    Escapes (.error (.foreign cls text) : Except Exception α) :=
  trivial

theorem escapes_mapError_iff {ε : Type} {r : Except ε α} {f : ε → Exception} :
    Escapes (r.mapError f) ↔ ∃ e, r = .error e ∧ Escapes (.error (f e) : Except Exception α) := by
  cases r with
  | ok x =>
    constructor
    · intro h
      exact absurd h (not_escapes_ok x)
    · rintro ⟨e, he, -⟩
      cases he
  | error e =>
    constructor
    · intro h
      exact ⟨e, rfl, h⟩
    · rintro ⟨e', he, h⟩
      cases he
      exact h

/-- Errors of the library do not escape. -/
@[simp] theorem not_escapes_mapError_own (r : Except Error α) : ¬Escapes (r.mapError .own) := by
  rw [escapes_mapError_iff]
  rintro ⟨e, -, h⟩
  exact not_escapes_own e h

/-- What is wrong with a document escapes when it is too deep. -/
theorem escapes_reported_iff {front : Text} {fault : Json.DocumentFault} :
    Escapes (.error (fault.reported front) : Except Exception α) ↔ fault.isTooDeep = true := by
  unfold Json.DocumentFault.reported
  split
  · rename_i hdeep
    exact iff_of_true (escapes_foreign _ _) hdeep
  · rename_i hdeep
    exact iff_of_false (not_escapes_own _) hdeep

theorem escapes_bind_iff :
    Escapes (r >>= f) ↔ Escapes r ∨ ∃ x, r = .ok x ∧ Escapes (f x) := by
  match r with
  | .error (.foreign cls text) =>
    constructor
    · intro
      exact .inl trivial
    · intro
      trivial
  | .error (.own e) =>
    constructor
    · exact .inl
    · rintro (h | ⟨x, hx, -⟩)
      · exact h
      · cases hx
  | .ok x =>
    constructor
    · intro h
      exact .inr ⟨x, rfl, h⟩
    · rintro (h | ⟨y, hy, h⟩)
      · exact absurd h (not_escapes_ok x)
      · cases hy
        exact h

/-- What never escapes can be left out at the end. -/
theorem escapes_bind_iff_left (hf : ∀ x, ¬Escapes (f x)) : Escapes (r >>= f) ↔ Escapes r := by
  rw [escapes_bind_iff]
  constructor
  · rintro (h | ⟨x, -, h⟩)
    · exact h
    · exact absurd h (hf x)
  · exact .inl

/-- What was given need not matter for what comes after. -/
theorem escapes_bind_iff_any {p : Prop} (hf : ∀ x, Escapes (f x) ↔ p) :
    Escapes (r >>= f) ↔ Escapes r ∨ (∃ x, r = .ok x) ∧ p := by
  simp only [escapes_bind_iff, hf, exists_and_right]

@[simp] theorem escapes_map_iff {g : α → β} : Escapes (r.map g) ↔ Escapes r := by
  match r with
  | .ok _ | .error (.own _) | .error (.foreign _ _) => exact Iff.rfl

theorem escapes_ite_iff {c : Prop} [Decidable c] {r r' : Except Exception α} :
    Escapes (if c then r else r') ↔ if c then Escapes r else Escapes r' := by
  split
  · exact Iff.rfl
  · exact Iff.rfl

/-- What comes after a result goes on with it. -/
theorem ok_bind {ε α β : Type} (x : α) (f : α → Except ε β) : Except.ok x >>= f = f x :=
  rfl

/-- A sequence gives something when both of its parts do. -/
theorem bind_eq_ok_iff {ε α β : Type} {r : Except ε α} {f : α → Except ε β} {y : β} :
    r >>= f = .ok y ↔ ∃ x, r = .ok x ∧ f x = .ok y := by
  cases r with
  | error e =>
    constructor
    · intro h
      cases h
    · rintro ⟨x, hx, -⟩
      cases hx
  | ok x =>
    constructor
    · intro h
      exact ⟨x, rfl, h⟩
    · rintro ⟨z, hz, h⟩
      cases hz
      exact h

/-- Telling errors in another way changes nothing else. -/
theorem mapError_eq_ok_iff {ε ε' α : Type} {result : Except ε α} {f : ε → ε'} {x : α} :
    result.mapError f = .ok x ↔ result = .ok x := by
  cases result <;> simp [Except.mapError]

theorem mapError_eq_error_iff {ε ε' α : Type} {result : Except ε α} {f : ε → ε'} {e : ε'} :
    result.mapError f = .error e ↔ ∃ e', result = .error e' ∧ f e' = e := by
  cases result <;> simp [Except.mapError]

/-- What comes behind a guard is returned just when the guard is passed. -/
theorem guard_eq_ok_iff {ε α : Type} {c : Prop} [Decidable c] {fault : ε}
    {next : PUnit → Except ε α} {x : α} :
    (if c then throw fault >>= next else next ⟨⟩) = .ok x ↔ ¬c ∧ next ⟨⟩ = .ok x := by
  split_ifs with hc
  · exact iff_of_false nofun fun h => h.1 hc
  · exact (and_iff_right hc).symm

/-- What is related one to one to some items has for each of them something related to it. -/
theorem exists_of_forall₂ {α β : Type} {R : α → β → Prop} {xs : List α} {ys : List β}
    (h : List.Forall₂ R xs ys) {x : α} (hx : x ∈ xs) : ∃ y ∈ ys, R x y := by
  induction h with
  | nil => cases hx
  | @cons first y xs ys hfirst _ ih =>
    rcases List.mem_cons.1 hx with rfl | hx
    · exact ⟨y, List.mem_cons_self, hfirst⟩
    · obtain ⟨z, hz, hR⟩ := ih hx
      exact ⟨z, List.mem_cons_of_mem y hz, hR⟩

/-- A map over a list gives what the items give, one to one. -/
theorem mapM_eq_ok_iff {ε α β : Type} {f : α → Except ε β} {xs : List α} {ys : List β} :
    xs.mapM f = .ok ys ↔ List.Forall₂ (fun x y => f x = .ok y) xs ys := by
  induction xs generalizing ys with
  | nil =>
    rw [List.forall₂_nil_left_iff]
    exact ⟨fun h => by cases h; rfl, fun h => by rw [h]; rfl⟩
  | cons x xs ih =>
    rw [List.mapM_cons, bind_eq_ok_iff, List.forall₂_cons_left_iff]
    constructor
    · rintro ⟨y, hy, hrest⟩
      obtain ⟨others, hothers, hjoined⟩ := bind_eq_ok_iff.1 hrest
      cases hjoined
      exact ⟨y, others, hy, ih.1 hothers, rfl⟩
    · rintro ⟨y, others, hy, hothers, rfl⟩
      refine ⟨y, hy, ?_⟩
      rw [ih.2 hothers]
      rfl

/-- A map over a list gives an error at the first item that does. -/
theorem mapM_eq_error_iff {ε α β : Type} {f : α → Except ε β} {xs : List α} {e : ε} :
    xs.mapM f = .error e ↔ ∃ front x back, xs = front ++ x :: back ∧
      (∀ y ∈ front, ∃ z, f y = .ok z) ∧ f x = .error e := by
  induction xs with
  | nil =>
    constructor
    · intro h
      cases h
    · rintro ⟨front, x, back, h, -⟩
      exact absurd h (by simp)
  | cons first rest ih =>
    rw [List.mapM_cons]
    constructor
    · intro h
      cases hfirst : f first with
      | error e' =>
        rw [hfirst] at h
        cases h
        exact ⟨[], first, rest, rfl, List.forall_mem_nil _, hfirst⟩
      | ok z =>
        cases hrest : rest.mapM f with
        | ok zs =>
          rw [hfirst, hrest] at h
          cases h
        | error e' =>
          rw [hfirst, hrest] at h
          cases h
          obtain ⟨front, x, back, rfl, hfront, hx⟩ := ih.1 hrest
          exact ⟨first :: front, x, back, rfl, List.forall_mem_cons.2 ⟨⟨z, hfirst⟩, hfront⟩, hx⟩
    · rintro ⟨front, x, back, hsplit, hfront, hx⟩
      cases front with
      | nil =>
        cases hsplit
        rw [hx]
        rfl
      | cons first' front =>
        cases hsplit
        obtain ⟨⟨z, hfirst⟩, hfront⟩ := List.forall_mem_cons.1 hfront
        rw [hfirst, ih.2 ⟨front, x, back, rfl, hfront, hx⟩]
        rfl

/-- What a traversal gives comes of its items. -/
theorem mem_of_mapM_eq_ok {ε α β : Type} {f : α → Except ε β} {xs : List α} {ys : List β}
    (h : xs.mapM f = .ok ys) : ∀ y ∈ ys, ∃ x ∈ xs, f x = .ok y :=
  fun _ hy => exists_of_forall₂ (mapM_eq_ok_iff.1 h).flip hy

/-- What always gives something can be left out at the end. -/
theorem exists_bind_eq_ok_iff_left (hf : ∀ x, ∃ y, f x = .ok y) :
    (∃ y, r >>= f = .ok y) ↔ ∃ x, r = .ok x := by
  simp only [bind_eq_ok_iff]
  constructor
  · rintro ⟨y, x, hx, -⟩
    exact ⟨x, hx⟩
  · rintro ⟨x, hx⟩
    obtain ⟨y, hy⟩ := hf x
    exact ⟨y, x, hx, hy⟩

/-- What is asked of a result that is made of another one is asked of that other one. -/
theorem exists_return_iff {α β : Type} {r : Except Exception α} {g : α → β} {P : β → Prop} :
    (∃ y, (do return g (← r) : Except Exception β) = .ok y ∧ P y) ↔ ∃ x, r = .ok x ∧ P (g x) := by
  cases r with
  | error e =>
    constructor
    · rintro ⟨_, ⟨⟩, _⟩
    · rintro ⟨_, ⟨⟩, _⟩
  | ok x =>
    constructor
    · rintro ⟨y, h, hP⟩
      cases h
      exact ⟨x, rfl, hP⟩
    · rintro ⟨x, h, hP⟩
      cases h
      exact ⟨_, rfl, hP⟩

end

/-! ## Traversals -/

/-- A traversal takes a step for each item, with what is known from the items before it, and joins
what the steps give. -/
structure IsTraversal {σ α β γ : Type} (run : σ → List α → Except Exception β)
    (step : σ → α → Except Exception γ) (next : σ → α → σ) (join : γ → β → β) : Prop where
  nil (s : σ) : ∃ y, run s [] = .ok y
  cons (s : σ) (x : α) (xs : List α) :
    run s (x :: xs) = do return join (← step s x) (← run (next s x) xs)

namespace IsTraversal

variable {σ α β γ : Type} {run : σ → List α → Except Exception β}
  {step : σ → α → Except Exception γ} {next : σ → α → σ} {join : γ → β → β}

/-- What is asked of everything that a traversal gives is asked of each step. -/
theorem exists_ok_cons_iff (h : IsTraversal run step next join) {P : β → Prop} {Q : γ → Prop}
    (hjoin : ∀ z y, P (join z y) ↔ Q z ∧ P y) {s : σ} {x : α} {xs : List α} :
    (∃ y, run s (x :: xs) = .ok y ∧ P y) ↔
      (∃ z, step s x = .ok z ∧ Q z) ∧ ∃ y, run (next s x) xs = .ok y ∧ P y := by
  rw [h.cons]
  constructor
  · rintro ⟨y, hy, hP⟩
    obtain ⟨z, hz, hrest⟩ := bind_eq_ok_iff.1 hy
    obtain ⟨y', hy', hjoined⟩ := bind_eq_ok_iff.1 hrest
    cases hjoined
    obtain ⟨hQ, hP⟩ := (hjoin z y').1 hP
    exact ⟨⟨z, hz, hQ⟩, y', hy', hP⟩
  · rintro ⟨⟨z, hz, hQ⟩, y, hy, hP⟩
    refine ⟨join z y, ?_, (hjoin z y).2 ⟨hQ, hP⟩⟩
    rw [hz, hy]
    rfl

/-- A traversal gets past a first item and the others when it gets past each. -/
theorem ok_cons_iff (h : IsTraversal run step next join) {s : σ} {x : α} {xs : List α} :
    (∃ y, run s (x :: xs) = .ok y) ↔
      (∃ z, step s x = .ok z) ∧ ∃ y, run (next s x) xs = .ok y := by
  have hall : (∃ y, run s (x :: xs) = .ok y ∧ True) ↔
      (∃ z, step s x = .ok z ∧ True) ∧ ∃ y, run (next s x) xs = .ok y ∧ True :=
    h.exists_ok_cons_iff fun _ _ => and_self_iff.symm
  simpa only [and_true] using hall

/-- A traversal escapes at an item when its step escapes there, and it got past the items before. -/
theorem escapes_iff (h : IsTraversal run step next join) {s : σ} {xs : List α} :
    Escapes (run s xs) ↔ ∃ front x back, xs = front ++ x :: back ∧
      (∃ y, run s front = .ok y) ∧ Escapes (step (front.foldl next s) x) := by
  induction xs generalizing s with
  | nil =>
    obtain ⟨y, hy⟩ := h.nil s
    rw [hy]
    constructor
    · intro hescapes
      exact absurd hescapes (not_escapes_ok y)
    · rintro ⟨front, x, back, hxs, -⟩
      exact absurd (congrArg List.length hxs) (by simp)
  | cons first xs ih =>
    rw [h.cons, escapes_bind_iff]
    constructor
    · rintro (hstep | ⟨z, hz, hrest⟩)
      · exact ⟨[], first, xs, rfl, h.nil s, hstep⟩
      · rw [escapes_bind_iff_left fun _ => not_escapes_pure _, ih] at hrest
        obtain ⟨front, x, back, rfl, hfront, hstep⟩ := hrest
        exact ⟨first :: front, x, back, rfl, h.ok_cons_iff.2 ⟨⟨z, hz⟩, hfront⟩, hstep⟩
    · rintro ⟨front, x, back, hxs, hfront, hstep⟩
      cases front with
      | nil =>
        cases hxs
        exact .inl hstep
      | cons y front =>
        cases hxs
        obtain ⟨⟨z, hz⟩, hrest⟩ := h.ok_cons_iff.1 hfront
        refine .inr ⟨z, hz, ?_⟩
        rw [escapes_bind_iff_left fun _ => not_escapes_pure _, ih]
        exact ⟨front, x, back, rfl, hrest, hstep⟩

/-- A map over a list is a traversal in which nothing is known from the items before. -/
theorem mapM (f : α → Except Exception β) :
    IsTraversal (fun (_ : Unit) (xs : List α) => xs.mapM f) (fun _ => f) (fun s _ => s)
      List.cons where
  nil _ := ⟨[], rfl⟩
  cons _ _ _ := List.mapM_cons

end IsTraversal

/-- A map over a list asks of each item what is asked of everything that it gives. -/
theorem exists_mapM_and_iff {α β : Type} {f : α → Except Exception β} {Q : β → Prop}
    {xs : List α} :
    (∃ ys, xs.mapM f = .ok ys ∧ ∀ y ∈ ys, Q y) ↔ ∀ x ∈ xs, ∃ y, f x = .ok y ∧ Q y := by
  induction xs with
  | nil => exact iff_of_true ⟨[], rfl, List.forall_mem_nil _⟩ (List.forall_mem_nil _)
  | cons x xs ih =>
    rw [(IsTraversal.mapM f).exists_ok_cons_iff (s := ()) fun _ _ => List.forall_mem_cons, ih,
      List.forall_mem_cons]

/-- A map over a list gives something when it does so for each item. -/
theorem exists_mapM_eq_ok_iff {α β : Type} {f : α → Except Exception β} {xs : List α} :
    (∃ ys, xs.mapM f = .ok ys) ↔ ∀ x ∈ xs, ∃ y, f x = .ok y := by
  simpa using @exists_mapM_and_iff α β f (fun _ => True) xs

theorem escapes_mapM_iff {α β : Type} {f : α → Except Exception β} {xs : List α} :
    Escapes (xs.mapM f) ↔ ∃ front x back, xs = front ++ x :: back ∧
      (∀ y ∈ front, ∃ z, f y = .ok z) ∧ Escapes (f x) := by
  simp only [(IsTraversal.mapM f).escapes_iff (s := ()), exists_mapM_eq_ok_iff]

/-- Where nothing is reported, one item that escapes is enough. -/
theorem escapes_mapM_iff_exists {α β : Type} {f : α → Except Exception β}
    (hf : ∀ x, Escapes (f x) ∨ ∃ y, f x = .ok y) {xs : List α} :
    Escapes (xs.mapM f) ↔ ∃ x ∈ xs, Escapes (f x) := by
  induction xs with
  | nil => exact iff_of_false (not_escapes_pure []) nofun
  | cons x xs ih =>
    rw [List.mapM_cons, escapes_bind_iff, List.exists_mem_cons_iff]
    rcases hf x with hx | ⟨y, hy⟩
    · exact iff_of_true (.inl hx) (.inl hx)
    · refine or_congr_right ?_
      rw [← ih]
      constructor
      · rintro ⟨z, -, hrest⟩
        exact (escapes_bind_iff_left fun _ => not_escapes_pure _).1 hrest
      · intro hxs
        exact ⟨y, hy, (escapes_bind_iff_left fun _ => not_escapes_pure _).2 hxs⟩

/-- Where nothing is reported, a map gives something unless it escapes. -/
theorem exists_mapM_iff_not_escapes {α β : Type} {f : α → Except Exception β}
    (hf : ∀ x, Escapes (f x) ∨ ∃ y, f x = .ok y) {xs : List α} :
    (∃ ys, xs.mapM f = .ok ys) ↔ ¬Escapes (xs.mapM f) := by
  rw [exists_mapM_eq_ok_iff, escapes_mapM_iff_exists hf]
  push Not
  refine forall₂_congr fun x _ => ?_
  constructor
  · rintro ⟨y, hy⟩ hx
    rw [hy] at hx
    exact hx
  · exact (hf x).resolve_left

theorem not_escapes_mapM {α β : Type} {f : α → Except Exception β} (hf : ∀ x, ¬Escapes (f x))
    (xs : List α) : ¬Escapes (xs.mapM f) := by
  rw [escapes_mapM_iff]
  rintro ⟨front, x, back, -, -, hx⟩
  exact hf x hx

end Colloquy
