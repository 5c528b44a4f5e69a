import Colloquy.Proofs.Program.Number

/-!
# Numbers that are kept

`Act.Yields` says what holds of whatever an act gives and of the ledger it leaves.
The rules follow the ways to build an act, and they hold on every ledger, so nothing
has to be known of the numbers on it.

`Ledger.Keeps` is the account of numbers.  Of the numbers that an act owned and of
those that it issued, each is spent or held by what it gives: none is lost.  That
none is spent twice is the matter of `Ledger.Usable`.
-/

namespace Colloquy

/-! ## What an act gives -/

/-- Whatever an act gives on a ledger has a property, together with the ledger it leaves. -/
def Act.Yields {α : Type} (a : Act α) (l : Ledger) (P : α → Ledger → Prop) : Prop :=
  ∀ x l', a l = (.ok x, l') → P x l'

namespace Act.Yields

variable {α β : Type} {a : Act α} {l : Ledger} {P Q : α → Ledger → Prop}

theorem pure {x : α} (h : P x l) : Yields (Pure.pure x) l P := by
  intro y l' heq
  cases heq
  exact h

theorem throw (e : Exception) : Yields (MonadExcept.throw e) l P := by
  intro y l' heq
  cases heq

theorem ofExcept {r : Except Exception α} (h : ∀ x, r = .ok x → P x l) :
    Yields (Act.ofExcept r) l P := by
  intro x l' heq
  cases heq
  exact h x rfl

theorem record {event : Event} {P : Unit → Ledger → Prop}
    (h : P () { l with events := l.events ++ [event] }) : Yields (Act.record event) l P := by
  intro x l' heq
  cases heq
  exact h

theorem mono (h : Yields a l P) (hPQ : ∀ x l', P x l' → Q x l') : Yields a l Q :=
  fun x l' heq => hPQ x l' (h x l' heq)

theorem bind {f : α → Act β} {R : β → Ledger → Prop} (h : Yields a l P)
    (hf : ∀ x l', P x l' → Yields (f x) l' R) : Yields (a >>= f) l R := by
  intro y l'' heq
  rw [bind_apply] at heq
  cases ha : a l with
  | mk r l' =>
    rw [ha] at heq
    cases r with
    | error e => cases heq
    | ok x => exact hf x l' (h x l' ha) y l'' heq

theorem map {f : α → β} {R : β → Ledger → Prop} (h : Yields a l fun x l' => R (f x) l') :
    Yields (do return f (← a)) l R :=
  h.bind fun _ _ hx => .pure hx

/-- A new continuation has the next number. -/
theorem issue {owners : List Owner} {body : Body} {P : Cont → Ledger → Prop}
    (h : P ⟨l.issued, owners, body⟩ { l with issued := l.issued + 1 }) :
    Yields (Cont.issue owners body) l P := by
  intro k l' heq
  cases heq
  exact h

/-- An act that is blind gives what its course gives, and nothing becomes of numbers. -/
theorem of_blind (h : a.Blind) :
    Yields a l fun x l' => (a.course l.events).1 = .ok x ∧ ∃ events, l' = { l with events } := by
  intro x l' heq
  rw [h l] at heq
  exact ⟨congrArg Prod.fst heq, _, (congrArg Prod.snd heq).symm⟩

/-- A continuation that is used up before it goes on. -/
theorem spend {n : Nat} {e : Exception}
    (h : Yields a { l with spent := n :: l.spent } P) :
    Yields (do if ← Act.spend n then a else MonadExcept.throw e) l P := by
  by_cases hn : n ∈ l.spent
  · intro x l' heq
    rw [bind_ok (Act.spend_refused hn)] at heq
    cases heq
  · intro x l' heq
    rw [bind_ok (Act.spend_apply hn)] at heq
    exact h x l' heq

end Act.Yields

/-! ## The account of numbers -/

/-- From a ledger with numbers `ns` in use to a ledger with numbers `ms` in use: what was spent
stays spent, and each number that was in use or was issued since is spent or in use. -/
structure Ledger.Keeps (l : Ledger) (ns : List Nat) (l' : Ledger) (ms : List Nat) : Prop where
  issued : l.issued ≤ l'.issued
  spent : ∀ n ∈ l.spent, n ∈ l'.spent
  kept : ∀ n, n ∈ ns ∨ l.issued ≤ n ∧ n < l'.issued → n ∈ l'.spent ∨ n ∈ ms

namespace Ledger.Keeps

variable {l l' l'' : Ledger} {ns ms ks : List Nat}

/-- Whatever else happens, numbers stay as they are. -/
theorem of_events (l : Ledger) (events : List Event) (ns : List Nat) :
    l.Keeps ns { l with events } ns where
  issued := Nat.le_refl _
  spent _ hn := hn
  kept n hn := by
    rcases hn with hn | ⟨hlow, hhigh⟩
    · exact .inr hn
    · exact absurd hhigh (Nat.not_lt.2 hlow)

theorem refl (l : Ledger) (ns : List Nat) : l.Keeps ns l ns :=
  of_events l l.events ns

theorem trans (h : l.Keeps ns l' ms) (h' : l'.Keeps ms l'' ks) : l.Keeps ns l'' ks where
  issued := Nat.le_trans h.issued h'.issued
  spent n hn := h'.spent n (h.spent n hn)
  kept n hn := by
    have hfirst : n ∈ l'.spent ∨ n ∈ ms ∨ l'.issued ≤ n ∧ n < l''.issued := by
      rcases hn with hn | ⟨hlow, hhigh⟩
      · exact (h.kept n (.inl hn)).imp_right .inl
      · rcases Nat.lt_or_ge n l'.issued with hlt | hge
        · exact (h.kept n (.inr ⟨hlow, hlt⟩)).imp_right .inl
        · exact .inr (.inr ⟨hge, hhigh⟩)
    rcases hfirst with hspent | hheld
    · exact .inl (h'.spent n hspent)
    · exact h'.kept n hheld

/-- Numbers that are not touched stay in use. -/
theorem frame (h : l.Keeps ns l' ms) (ks : List Nat) : l.Keeps (ns ++ ks) l' (ms ++ ks) where
  issued := h.issued
  spent := h.spent
  kept n hn := by
    have hcases : n ∈ ks ∨ n ∈ ns ∨ l.issued ≤ n ∧ n < l'.issued := by
      rcases hn with hn | hn
      · exact (List.mem_append.1 hn).symm.imp_right .inl
      · exact .inr (.inr hn)
    rcases hcases with hn | hn
    · exact .inr (List.mem_append_right ms hn)
    · exact (h.kept n hn).imp_right (List.mem_append_left ks)

/-- The number of a new continuation comes into use. -/
theorem issue (l : Ledger) (ns : List Nat) :
    l.Keeps ns { l with issued := l.issued + 1 } (l.issued :: ns) where
  issued := Nat.le_succ _
  spent _ hn := hn
  kept n hn := by
    rcases hn with hn | ⟨hlow, hhigh⟩
    · exact .inr (List.mem_cons_of_mem _ hn)
    · have heq : n = l.issued := Nat.le_antisymm (Nat.le_of_lt_succ hhigh) hlow
      rw [heq]
      exact .inr List.mem_cons_self

/-- A number in use is spent. -/
theorem spend (l : Ledger) (n : Nat) (ns : List Nat) :
    l.Keeps (n :: ns) { l with spent := n :: l.spent } ns where
  issued := Nat.le_refl _
  spent _ hm := List.mem_cons_of_mem n hm
  kept m hm := by
    rcases hm with hm | ⟨hlow, hhigh⟩
    · rcases List.mem_cons.1 hm with rfl | hm
      · exact .inl List.mem_cons_self
      · exact .inr hm
    · exact absurd hhigh (Nat.not_lt.2 hlow)

end Ledger.Keeps

end Colloquy
