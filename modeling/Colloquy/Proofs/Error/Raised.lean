import Colloquy.Error.Basic
import Mathlib.Data.List.Forall2

/-!
# What is raised

`Raises P r` says that whatever a result raises satisfies `P`.  The rules below follow
the way results are put together, so what a function raises is found along its
definition.  `Exception.Among` is the property used most: an error of the library is
of one of some classes.  `Exception.Within` says as much of other exceptions.

`Returns Q r` is the counterpart: whatever a result gives satisfies `Q`.
-/

namespace Colloquy

/-- Whatever a result raises has a property. -/
def Raises {α : Type} (P : Exception → Prop) (r : Except Exception α) : Prop :=
  ∀ e, r = .error e → P e

namespace Raises

variable {α β : Type} {P Q : Exception → Prop}

theorem pure (x : α) : Raises P (Pure.pure x : Except Exception α) := by
  intro e h
  cases h

theorem ok (x : α) : Raises P (.ok x : Except Exception α) :=
  pure x

theorem error {e : Exception} (h : P e) : Raises P (.error e : Except Exception α) := by
  intro e' heq
  cases heq
  exact h

theorem mono {r : Except Exception α} (h : Raises P r) (hPQ : ∀ e, P e → Q e) : Raises Q r :=
  fun e he => hPQ e (h e he)

theorem bind {r : Except Exception α} {f : α → Except Exception β} (h : Raises P r)
    (hf : ∀ x, Raises P (f x)) : Raises P (r >>= f) := by
  intro e heq
  cases r with
  | error e' =>
    cases heq
    exact h e rfl
  | ok x => exact hf x e heq

theorem map {r : Except Exception α} (h : Raises P r) (f : α → β) : Raises P (r.map f) := by
  intro e heq
  cases r with
  | error e' =>
    cases heq
    exact h e rfl
  | ok x => cases heq

theorem mapM_of_mem {f : α → Except Exception β} {xs : List α} (hf : ∀ x ∈ xs, Raises P (f x)) :
    Raises P (xs.mapM f) := by
  induction xs with
  | nil => exact pure []
  | cons x xs ih =>
    rw [List.forall_mem_cons] at hf
    rw [List.mapM_cons]
    exact hf.1.bind fun y => (ih hf.2).bind fun ys => pure (y :: ys)

theorem mapM {f : α → Except Exception β} (hf : ∀ x, Raises P (f x)) (xs : List α) :
    Raises P (xs.mapM f) :=
  mapM_of_mem fun x _ => hf x

theorem ite {c : Prop} [Decidable c] {r r' : Except Exception α} (h : Raises P r)
    (h' : Raises P r') : Raises P (if c then r else r') := by
  split
  · exact h
  · exact h'

theorem dite {c : Prop} [Decidable c] {r : c → Except Exception α}
    {r' : ¬c → Except Exception α} (h : ∀ hc, Raises P (r hc)) (h' : ∀ hc, Raises P (r' hc)) :
    Raises P (if hc : c then r hc else r' hc) := by
  split
  · exact h _
  · exact h' _

/-- What a changed exception satisfies is found from the exception. -/
theorem mapError {r : Except Exception α} {f : Exception → Exception} (h : Raises P r)
    (hf : ∀ e, P e → Q (f e)) : Raises Q (r.mapError f) := by
  intro e heq
  cases r with
  | error e' =>
    cases heq
    exact hf e' (h e' rfl)
  | ok x => cases heq

/-- Errors of some other kind are raised as exceptions that all satisfy the property. -/
theorem ofErrors {ε : Type} {f : ε → Exception} (r : Except ε α)
    (hf : ∀ e, r = .error e → P (f e)) :
    Raises P (r.mapError f) := by
  intro e heq
  cases r with
  | error e' =>
    cases heq
    exact hf e' rfl
  | ok x => cases heq

end Raises

/-! ## Results that are given -/

/-- Whatever a result gives has a property. -/
def Returns {α : Type} (Q : α → Prop) (r : Except Exception α) : Prop :=
  ∀ x, r = .ok x → Q x

namespace Returns

variable {α β γ : Type} {P : α → Prop} {Q : β → Prop}

theorem pure {x : α} (h : P x) : Returns P (Pure.pure x : Except Exception α) := by
  intro y heq
  cases heq
  exact h

theorem ok {x : α} (h : P x) : Returns P (.ok x : Except Exception α) :=
  pure h

theorem error (e : Exception) : Returns P (.error e : Except Exception α) := by
  intro x h
  cases h

theorem mono {P' : α → Prop} {r : Except Exception α} (h : Returns P r)
    (hP : ∀ x, P x → P' x) : Returns P' r :=
  fun x hx => hP x (h x hx)

/-- Whatever a result gives is what it gives. -/
theorem self (r : Except Exception α) : Returns (fun x => r = .ok x) r :=
  fun _ => id

theorem bind {r : Except Exception α} {f : α → Except Exception β} (h : Returns P r)
    (hf : ∀ x, P x → Returns Q (f x)) : Returns Q (r >>= f) := by
  intro y heq
  cases r with
  | error e => cases heq
  | ok x => exact hf x (h x rfl) y heq

/-- What was given before need not matter. -/
theorem bind_any {r : Except Exception α} {f : α → Except Exception β}
    (hf : ∀ x, Returns Q (f x)) : Returns Q (r >>= f) :=
  bind (P := fun _ => True) (fun _ _ => trivial) fun x _ => hf x

theorem mapError {r : Except Exception α} (f : Exception → Exception) (h : Returns P r) :
    Returns P (r.mapError f) := by
  intro x heq
  cases r with
  | error e => cases heq
  | ok y => exact h x heq

/-- What each item gives is related to the item, one to one and in order. -/
theorem mapM {R : α → β → Prop} {f : α → Except Exception β} (hf : ∀ x, Returns (R x) (f x))
    (xs : List α) : Returns (List.Forall₂ R xs) (xs.mapM f) := by
  induction xs with
  | nil => exact pure .nil
  | cons x xs ih =>
    rw [List.mapM_cons]
    exact (hf x).bind fun y hy => ih.bind fun ys hys => pure (.cons hy hys)

end Returns

/-- What comes later may count on what was given before. -/
theorem Raises.bind_of_returns {α β : Type} {P : Exception → Prop} {Q : α → Prop}
    {r : Except Exception α} {f : α → Except Exception β} (h : Raises P r) (hr : Returns Q r)
    (hf : ∀ x, Q x → Raises P (f x)) : Raises P (r >>= f) := by
  intro e heq
  cases r with
  | error e' =>
    cases heq
    exact h e rfl
  | ok x => exact hf x (hr x rfl) e heq

/-- A result that is tested for success gives something. -/
theorem exists_of_isOk {ε α : Type} {r : Except ε α} (h : r.isOk = true) :
    ∃ x, r = .ok x := by
  cases r with
  | error e => cases h
  | ok x => exact ⟨x, rfl⟩

theorem eq_ok_of_toOption {ε α : Type} {r : Except ε α} {x : α} (h : r.toOption = some x) :
    r = .ok x := by
  cases r with
  | error e => cases h
  | ok y =>
    cases h
    rfl

/-! ## Classes of exceptions -/

/-- An exception that is not the library's own, or an error of one of some classes. -/
def Exception.Among (classes : List ErrorClass) : Exception → Prop
  | .own e => e.cls ∈ classes
  | .foreign _ _ => True

/-- An error of the library of one of some classes, or another exception of one of some classes. -/
def Exception.Within (classes : List ErrorClass) (kinds : List ForeignClass) : Exception → Prop
  | .own e => e.cls ∈ classes
  | .foreign cls _ => cls ∈ kinds

theorem Exception.Within.among {classes : List ErrorClass} {kinds : List ForeignClass}
    {e : Exception} (h : e.Within classes kinds) : e.Among classes := by
  cases e with
  | own e => exact h
  | foreign cls text => trivial

theorem Exception.Within.mono {classes classes' : List ErrorClass}
    {kinds kinds' : List ForeignClass} {e : Exception} (h : e.Within classes kinds)
    (hclasses : classes ⊆ classes') (hkinds : kinds ⊆ kinds') : e.Within classes' kinds' := by
  cases e with
  | own e => exact hclasses h
  | foreign cls text => exact hkinds h

theorem Raises.foreign {α : Type} {classes : List ErrorClass} (cls : ForeignClass) (text : Text) :
    Raises (Exception.Among classes) (.error (.foreign cls text) : Except Exception α) :=
  .error trivial

theorem Raises.own {α : Type} {classes : List ErrorClass} {e : Error} (h : e.cls ∈ classes) :
    Raises (Exception.Among classes) (.error (.own e) : Except Exception α) :=
  .error h

/-- An error of one of some classes is not of a class besides them. -/
theorem Exception.Among.cls_ne {classes : List ErrorClass} {e : Error} {cls : ErrorClass}
    (h : Exception.Among classes (.own e)) (hcls : cls ∉ classes) : e.cls ≠ cls := by
  rintro rfl
  exact hcls h

end Colloquy
