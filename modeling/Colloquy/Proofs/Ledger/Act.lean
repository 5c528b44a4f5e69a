import Colloquy.Ledger

/-!
# Acts and courses

An act is applied to a ledger.  The lemmas here say what each way to build an act
does there.  They hold of every state, so they serve courses too.

A *course* is an act without numbers: it knows what happened so far and nothing of
the continuations.  `Act.course` is what remains of an act when numbers are left
out, and an act is *blind* when nothing is lost by that.
-/

namespace Colloquy

/-! ## Applying -/

section

variable {σ α β : Type}

theorem pure_apply (x : α) (s : σ) :
    (pure x : ExceptT Exception (StateM σ) α) s = (.ok x, s) := rfl

theorem bind_apply (a : ExceptT Exception (StateM σ) α)
    (f : α → ExceptT Exception (StateM σ) β) (s : σ) :
    (a >>= f) s = match a s with
      | (.ok x, s') => f x s'
      | (.error e, s') => (.error e, s') := by
  cases h : a s with
  | mk r s' =>
    show (ExceptT.bindCont f (a s).1) (a s).2 = _
    rw [h]
    cases r <;> rfl

/-- An act that gives something hands it on. -/
theorem bind_ok {a : ExceptT Exception (StateM σ) α} {f : α → ExceptT Exception (StateM σ) β}
    {s s' : σ} {x : α} (h : a s = (.ok x, s')) : (a >>= f) s = f x s' := by
  rw [bind_apply, h]

/-- An act that fails ends what comes after it. -/
theorem bind_error {a : ExceptT Exception (StateM σ) α}
    {f : α → ExceptT Exception (StateM σ) β} {s s' : σ} {e : Exception}
    (h : a s = (.error e, s')) : (a >>= f) s = (.error e, s') := by
  rw [bind_apply, h]

end

namespace Act

theorem ofExcept_apply {α : Type} (r : Except Exception α) (l : Ledger) :
    ofExcept r l = (r, l) := rfl

theorem record_apply (event : Event) (l : Ledger) :
    record event l = (.ok (), { l with events := l.events ++ [event] }) := rfl

theorem get_apply (l : Ledger) : (get : Act Ledger) l = (.ok l, l) := rfl

/-- A number that is not spent yet is spent. -/
theorem spend_apply {n : Nat} {l : Ledger} (h : n ∉ l.spent) :
    spend n l = (.ok true, { l with spent := n :: l.spent }) := by
  show ((if n ∈ l.spent then _ else _ : Bool × Ledger).1 |> Except.ok,
    (if n ∈ l.spent then _ else _ : Bool × Ledger).2) = _
  rw [if_neg h]

/-- A number that is spent already is refused. -/
theorem spend_refused {n : Nat} {l : Ledger} (h : n ∈ l.spent) : spend n l = (.ok false, l) := by
  show ((if n ∈ l.spent then _ else _ : Bool × Ledger).1 |> Except.ok,
    (if n ∈ l.spent then _ else _ : Bool × Ledger).2) = _
  rw [if_pos h]

end Act

/-! ## Courses -/

/-- What happens and may fail, without regard to continuations. -/
abbrev Course := ExceptT Exception (StateM (List Event))

namespace Course

/-- The course that gives a result or fails as given. -/
def ofExcept {α : Type} (r : Except Exception α) : Course α :=
  fun events => (r, events)

/-- The course in which an event happens. -/
def record (event : Event) : Course Unit :=
  fun events => (.ok (), events ++ [event])

theorem record_apply (event : Event) (events : List Event) :
    record event events = (.ok (), events ++ [event]) := rfl

end Course

/-- The course of an act that begins with no number issued. -/
def Act.course {α : Type} (a : Act α) : Course α := fun events =>
  ((a { events }).1, (a { events }).2.events)

/-- An act that neither looks at the numbers of a ledger nor changes them. -/
def Act.Blind {α : Type} (a : Act α) : Prop :=
  ∀ l : Ledger, a l = ((a.course l.events).1, { l with events := (a.course l.events).2 })

/-! ## What happened -/

/-- The requests among events, in order. -/
def requestsIn (events : List Event) : List Wire.Request :=
  ({ events } : Ledger).requests

/-- The calls among events that were handed to a registry, in order. -/
def invocationsIn (events : List Event) : List ToolCall :=
  ({ events } : Ledger).invocations

/-- The notes among events, in order. -/
def notesIn (events : List Event) : List Text :=
  ({ events } : Ledger).notes

theorem requestsIn_append (events more : List Event) :
    requestsIn (events ++ more) = requestsIn events ++ requestsIn more :=
  List.filterMap_append

theorem invocationsIn_append (events more : List Event) :
    invocationsIn (events ++ more) = invocationsIn events ++ invocationsIn more :=
  List.filterMap_append

theorem notesIn_append (events more : List Event) :
    notesIn (events ++ more) = notesIn events ++ notesIn more :=
  List.filterMap_append

/-! ## Ledgers in order -/

/-- A ledger is in order when only numbers that were issued are spent. -/
structure Ledger.Sound (l : Ledger) : Prop where
  lt_issued : ∀ n ∈ l.spent, n < l.issued

/-- The empty ledger is in order. -/
theorem Ledger.Sound.empty : Ledger.Sound {} where
  lt_issued n hn := by cases hn

end Colloquy
