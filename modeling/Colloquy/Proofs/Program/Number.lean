import Colloquy.Program.Build
import Colloquy.Proofs.Ledger.Act

/-!
# Numbers of continuations

Continuations are numbered so that none is used twice.  `Numbered.numbers` lists
the numbers a value holds and `Numbered.bare` is the value without them.

`Tracks` ties an act to a course.  An act that owns some numbers does what the
course does, and all that is left of numbers in its result is owned still: it was
owned before, or it was issued by the act.  The rules below build such ties along
the steps of an act.  The rule for a sequence, `Tracks.bind`, carries numbers that
the first act does not touch over to the second.
-/

namespace Colloquy

/-- A value that may hold continuations: their numbers, and the value without them. -/
class Numbered (α : Type) where
  numbers : α → List Nat
  bare : α → α

export Numbered (numbers bare)

/-! ## Numbers in continuations -/

mutual

/-- The numbers of a continuation and of all continuations within it. -/
def Cont.numbers : Cont → List Nat
  | ⟨number, _, body⟩ => number :: body.numbers

/-- The numbers of the continuations within a body. -/
def Body.numbers : Body → List Nat
  | .callback _ => []
  | .extended k frame => k.numbers ++ frame.numbers
  | .rounds _ k _ => k.numbers
  | .check _ k => k.numbers

/-- The numbers of the continuations within a frame. -/
def Frame.numbers : Frame → List Nat
  | .callback _ => []
  | .answer _ _ => []
  | .record _ _ _ => []
  | .regenerate _ k _ => k.numbers

end

mutual

/-- A continuation without numbers. -/
def Cont.bare : Cont → Cont
  | ⟨_, owners, body⟩ => ⟨0, owners, body.bare⟩

/-- A body without numbers. -/
def Body.bare : Body → Body
  | .callback f => .callback f
  | .extended k frame => .extended k.bare frame.bare
  | .rounds loop k count => .rounds loop k.bare count
  | .check names k => .check names k.bare

/-- A frame without numbers. -/
def Frame.bare : Frame → Frame
  | .callback f => .callback f
  | .answer call policy => .answer call policy
  | .record chat call policy => .record chat call policy
  | .regenerate loop k count => .regenerate loop k.bare count

end

/-- The continuation without a number that goes on as a body says. -/
def Cont.plain (owners : List Owner) (body : Body) : Cont :=
  ⟨0, owners, body⟩

@[simp] theorem Cont.plain_owners (owners : List Owner) (body : Body) :
    (Cont.plain owners body).owners = owners := rfl

@[simp] theorem Cont.bare_owners (k : Cont) : k.bare.owners = k.owners := by
  cases k
  rfl

/-- The numbers of the continuation that a program waits with. -/
def Program.numbers : Program → List Nat
  | .pending (.generate _ k) => k.numbers
  | .pending (.execute _ k) => k.numbers
  | _ => []

/-- A program without numbers. -/
def Program.bare : Program → Program
  | .pending (.generate chat k) => .pending (.generate chat k.bare)
  | .pending (.execute call k) => .pending (.execute call k.bare)
  | .pending (.done result) => .pending (.done result)
  | .final value => .final value
  | .both (.generate chat k) value => .both (.generate chat k.bare) value
  | .both (.execute call k) value => .both (.execute call k.bare) value
  | .both (.done result) value => .both (.done result) value
  | .neither => .neither

instance : Numbered Cont := ⟨Cont.numbers, Cont.bare⟩

instance : Numbered Program := ⟨Program.numbers, Program.bare⟩

instance : Numbered Built where
  numbers
    | .program p => p.numbers
    | .stray _ => []
  bare
    | .program p => .program p.bare
    | .stray value => .stray value

instance : Numbered Outcome := ⟨fun _ => [], id⟩

instance : Numbered Unit := ⟨fun _ => [], id⟩

instance {α : Type} [Numbered α] : Numbered (Option α) where
  numbers o := (o.map Numbered.numbers).getD []
  bare o := o.map Numbered.bare

/-! ## Numbers that can be used -/

/-- Numbers that were issued, are not spent and differ from each other. -/
structure Ledger.Usable (l : Ledger) (ns : List Nat) : Prop where
  nodup : ns.Nodup
  issued : ∀ n ∈ ns, n < l.issued
  unspent : ∀ n ∈ ns, n ∉ l.spent

theorem Ledger.Usable.nil (l : Ledger) : l.Usable [] where
  nodup := List.nodup_nil
  issued n hn := by cases hn
  unspent n hn := by cases hn

theorem Ledger.Usable.left {l : Ledger} {ns ms : List Nat} (h : l.Usable (ns ++ ms)) :
    l.Usable ns where
  nodup := (List.nodup_append.1 h.nodup).1
  issued n hn := h.issued n (List.mem_append_left ms hn)
  unspent n hn := h.unspent n (List.mem_append_left ms hn)

theorem Ledger.Usable.right {l : Ledger} {ns ms : List Nat} (h : l.Usable (ns ++ ms)) :
    l.Usable ms where
  nodup := (List.nodup_append.1 h.nodup).2.1
  issued n hn := h.issued n (List.mem_append_right ns hn)
  unspent n hn := h.unspent n (List.mem_append_right ns hn)

/-- What an act that owns the numbers `ns` may do to a ledger: issue numbers, and spend its own
and those that it issued. -/
structure Ledger.Advances (l : Ledger) (ns : List Nat) (l' : Ledger) : Prop where
  issued : l.issued ≤ l'.issued
  spent : ∀ n ∈ l'.spent, n ∈ l.spent ∨ n ∈ ns ∨ l.issued ≤ n
  sound : l'.Sound

theorem Ledger.Advances.refl {l : Ledger} (hl : l.Sound) (ns : List Nat) :
    l.Advances ns l where
  issued := Nat.le_refl _
  spent _ hn := .inl hn
  sound := hl

theorem Ledger.Advances.mono {l l' : Ledger} {ns ms : List Nat} (h : l.Advances ns l')
    (hsub : ∀ n ∈ ns, n ∈ ms) : l.Advances ms l' where
  issued := h.issued
  spent n hn := (h.spent n hn).imp_right (Or.imp_left (hsub n))
  sound := h.sound

theorem Ledger.Advances.trans {l l' l'' : Ledger} {ns ms : List Nat}
    (h : l.Advances ns l') (hms : ∀ n ∈ ms, n ∈ ns ∨ l.issued ≤ n)
    (h' : l'.Advances ms l'') : l.Advances ns l'' where
  issued := Nat.le_trans h.issued h'.issued
  sound := h'.sound
  spent n hn := by
    rcases h'.spent n hn with hold | hown | hnew
    · exact h.spent n hold
    · exact .inr (hms n hown)
    · exact .inr (.inr (Nat.le_trans h.issued hnew))

/-- Numbers that an act does not own stay usable next to those that its result holds. -/
theorem Ledger.Usable.append_of_advances {l l' : Ledger} {ns ms new : List Nat}
    (hu : l.Usable (ns ++ ms)) (ha : l.Advances ns l') (hnew : l'.Usable new)
    (hold : ∀ n ∈ new, n ∈ ns ∨ l.issued ≤ n) : l'.Usable (new ++ ms) := by
  have hdisjoint : ∀ n ∈ ns, n ∉ ms := fun n hn hm =>
    (List.nodup_append.1 hu.nodup).2.2 n hn n hm rfl
  refine ⟨?_, ?_, ?_⟩
  · refine List.nodup_append.2 ⟨hnew.nodup, hu.right.nodup, ?_⟩
    rintro n hn m hm rfl
    rcases hold n hn with hown | hissued
    · exact hdisjoint n hown hm
    · exact absurd (hu.right.issued n hm) (Nat.not_lt.2 hissued)
  · intro n hn
    rcases List.mem_append.1 hn with hn | hn
    · exact hnew.issued n hn
    · exact Nat.lt_of_lt_of_le (hu.right.issued n hn) ha.issued
  · intro n hn
    rcases List.mem_append.1 hn with hn | hn
    · exact hnew.unspent n hn
    · intro hspent
      rcases ha.spent n hspent with hold | hown | hissued
      · exact hu.right.unspent n hn hold
      · exact hdisjoint n hown hn
      · exact absurd (hu.right.issued n hn) (Nat.not_lt.2 hissued)

/-! ## Acts that are tracked by courses -/

theorem Except.map_eq_ok {α β : Type} {f : α → β} {r : Except Exception α} {y : β}
    (h : r.map f = .ok y) : ∃ x, r = .ok x ∧ f x = y := by
  cases r with
  | error e => cases h
  | ok x =>
    cases h
    exact ⟨x, rfl, rfl⟩

/-- An act that owns the numbers `ns` does on a ledger what a course does on its events, and
gives what the course gives but for the numbers in it. -/
structure Tracks {α : Type} [Numbered α] (a : Act α) (d : Course α) (ns : List Nat)
    (l : Ledger) : Prop where
  result : d l.events = ((a l).1.map bare, (a l).2.events)
  advances : l.Advances ns (a l).2
  usable : ∀ x, (a l).1 = .ok x → (a l).2.Usable (numbers x)
  owned : ∀ x, (a l).1 = .ok x → ∀ n ∈ numbers x, n ∈ ns ∨ l.issued ≤ n

namespace Tracks

variable {α β : Type} [Numbered α] [Numbered β] {l : Ledger} {ns ms : List Nat}

/-- Giving a value that holds usable numbers. -/
theorem give {x : α} (hl : l.Sound) (hx : l.Usable (numbers x)) :
    Tracks (pure x) (pure (bare x)) (numbers x) l where
  result := rfl
  advances := .refl hl _
  usable y hy := by
    cases hy
    exact hx
  owned y hy n hn := by
    cases hy
    exact .inl hn

/-- Failing. -/
theorem fail (e : Exception) (hl : l.Sound) :
    Tracks (α := α) (throw e) (throw e) ns l where
  result := rfl
  advances := .refl hl _
  usable y hy := by cases hy
  owned y hy := by cases hy

/-- An act may own more than it uses. -/
theorem mono {a : Act α} {d : Course α} (h : Tracks a d ns l)
    (hsub : ∀ n ∈ ns, n ∈ ms) : Tracks a d ms l where
  result := h.result
  advances := h.advances.mono hsub
  usable := h.usable
  owned x hx n hn := (h.owned x hx n hn).imp_left (hsub n)

/-- One act after another.  The second owns what the result of the first holds, and the numbers
`ms` that the first leaves alone. -/
theorem bind {a : Act α} {d : Course α} {f : α → Act β} {g : α → Course β}
    (ha : Tracks a d ns l) (hu : l.Usable (ns ++ ms))
    (hf : ∀ x l', l'.Sound → l'.Usable (numbers x ++ ms) →
      Tracks (f x) (g (bare x)) (numbers x ++ ms) l') :
    Tracks (a >>= f) (d >>= g) (ns ++ ms) l := by
  have hadv : l.Advances (ns ++ ms) (a l).2 :=
    ha.advances.mono fun n hn => List.mem_append_left ms hn
  have hres := ha.result
  cases h : a l with
  | mk r l' =>
    rw [h] at hadv hres
    cases r with
    | error e =>
      have hd := bind_error (f := g) hres
      have hact := bind_error (f := f) h
      refine ⟨?_, ?_, ?_, ?_⟩
      · rw [hd, hact]
        rfl
      · rw [hact]
        exact hadv
      · intro y hy
        rw [hact] at hy
        cases hy
      · intro y hy
        rw [hact] at hy
        cases hy
    | ok x =>
      have hx := ha.usable x (by rw [h])
      have hown := ha.owned x (by rw [h])
      have hadv' := ha.advances
      rw [h] at hx hadv'
      have hnext := hf x l' hadv.sound (hu.append_of_advances hadv' hx hown)
      have hd := bind_ok (f := g) hres
      have hact := bind_ok (f := f) h
      have hback : ∀ n ∈ numbers x ++ ms, n ∈ ns ++ ms ∨ l.issued ≤ n := by
        intro n hn
        rcases List.mem_append.1 hn with hn | hn
        · exact (hown n hn).imp_left (List.mem_append_left ms)
        · exact .inl (List.mem_append_right ns hn)
      refine ⟨?_, ?_, ?_, ?_⟩
      · rw [hd, hact]
        exact hnext.result
      · rw [hact]
        exact hadv.trans hback hnext.advances
      · intro y hy
        rw [hact] at hy ⊢
        exact hnext.usable y hy
      · intro y hy n hn
        rw [hact] at hy
        rcases hnext.owned y hy n hn with hn | hn
        · exact hback n hn
        · exact .inr (Nat.le_trans hadv.issued hn)

/-- One act after another, when the first leaves no numbers alone. -/
theorem bind_all {a : Act α} {d : Course α} {f : α → Act β} {g : α → Course β}
    (ha : Tracks a d ns l) (hu : l.Usable ns)
    (hf : ∀ x l', l'.Sound → l'.Usable (numbers x) →
      Tracks (f x) (g (bare x)) (numbers x) l') :
    Tracks (a >>= f) (d >>= g) ns l := by
  have hnil : ∀ xs : List Nat, xs ++ [] = xs := List.append_nil
  have h : Tracks (a >>= f) (d >>= g) (ns ++ []) l := ha.bind (by rwa [hnil]) fun x l' hl' hx => by
    rw [hnil] at hx ⊢
    exact hf x l' hl' hx
  rwa [hnil] at h

/-- Something is made of the result of an act, with the numbers that were in it. -/
theorem map {a : Act α} {d : Course α} {f g : α → β} (h : Tracks a d ns l)
    (hnumbers : ∀ x, numbers (f x) = numbers x) (hbare : ∀ x, bare (f x) = g (bare x)) :
    Tracks (do return f (← a)) (do return g (← d)) ns l := by
  have hact : (a >>= fun x => pure (f x)) l = ((a l).1.map f, (a l).2) := by
    rw [bind_apply]
    cases a l with
    | mk r l' => cases r <;> rfl
  have hcourse : (d >>= fun x => pure (g x)) l.events
      = ((d l.events).1.map g, (d l.events).2) := by
    rw [bind_apply]
    cases d l.events with
    | mk r events => cases r <;> rfl
  refine ⟨?_, ?_, ?_, ?_⟩
  · rw [hact, hcourse, h.result]
    cases (a l).1 with
    | error e => rfl
    | ok x => exact congrArg (fun y => (Except.ok y, (a l).2.events)) (hbare x).symm
  · rw [hact]
    exact h.advances
  · intro y hy
    rw [hact] at hy ⊢
    obtain ⟨x, hx, rfl⟩ := Except.map_eq_ok hy
    rw [hnumbers x]
    exact h.usable x hx
  · intro y hy n hn
    rw [hact] at hy
    obtain ⟨x, hx, rfl⟩ := Except.map_eq_ok hy
    rw [hnumbers x] at hn
    exact h.owned x hx n hn

/-- An act that is blind is tracked by its course. -/
theorem of_blind {a : Act α} (ha : a.Blind) (hl : l.Sound) (hnone : ∀ x : α, numbers x = [])
    (hbare : ∀ x : α, bare x = x) : Tracks a a.course [] l where
  result := by
    have hmap : ∀ r : Except Exception α, r.map bare = r := by
      intro r
      cases r with
      | error e => rfl
      | ok x => exact congrArg Except.ok (hbare x)
    rw [ha l, hmap]
    rfl
  advances := by
    rw [ha l]
    exact ⟨Nat.le_refl _, fun n hn => .inl hn, ⟨hl.lt_issued⟩⟩
  usable x _ := by
    rw [hnone x]
    exact .nil _
  owned x _ n hn := by
    rw [hnone x] at hn
    cases hn

/-- A new continuation takes in the numbers within its body. -/
theorem issue (owners : List Owner) (body : Body) (hl : l.Sound) (hb : l.Usable body.numbers) :
    Tracks (Cont.issue owners body) (pure (.plain owners body.bare)) body.numbers l where
  result := rfl
  advances :=
    { issued := Nat.le_succ _
      spent := fun n hn => .inl hn
      sound := ⟨fun n hn => Nat.lt_succ_of_lt (hl.lt_issued n hn)⟩ }
  usable k hk := by
    cases hk
    refine ⟨?_, ?_, ?_⟩
    · exact List.nodup_cons.2 ⟨fun h => Nat.lt_irrefl _ (hb.issued _ h), hb.nodup⟩
    · intro n hn
      rcases List.mem_cons.1 hn with rfl | hn
      · exact Nat.lt_succ_self _
      · exact Nat.lt_succ_of_lt (hb.issued n hn)
    · intro n hn hspent
      rcases List.mem_cons.1 hn with rfl | hn
      · exact Nat.lt_irrefl _ (hl.lt_issued _ hspent)
      · exact hb.unspent n hn hspent
  owned k hk n hn := by
    cases hk
    rcases List.mem_cons.1 hn with rfl | hn
    · exact .inr (Nat.le_refl _)
    · exact .inl hn

/-- Spending a number that can be used, and then acting. -/
theorem spend {n : Nat} {a : Act α} {d : Course α} {e : Exception} (hl : l.Sound)
    (hu : l.Usable (n :: ms))
    (ha : ∀ l', l'.Sound → l'.Usable ms → Tracks a d ms l') :
    Tracks (do if ← Act.spend n then a else throw e) d (n :: ms) l := by
  have hn : n ∈ n :: ms := List.mem_cons_self
  have hspend := Act.spend_apply (hu.unspent n hn)
  have hadv : l.Advances [n] { l with spent := n :: l.spent } := by
    refine ⟨Nat.le_refl _, ?_, ⟨?_⟩⟩
    · intro m hm
      rcases List.mem_cons.1 hm with rfl | hm
      · exact .inr (.inl (List.mem_singleton.2 rfl))
      · exact .inl hm
    · intro m hm
      rcases List.mem_cons.1 hm with rfl | hm
      · exact hu.issued _ hn
      · exact hl.lt_issued m hm
  have hms : Ledger.Usable { l with spent := n :: l.spent } ms :=
    @Ledger.Usable.append_of_advances l _ [n] ms [] hu hadv (.nil _) fun m hm => by cases hm
  have h := ha _ hadv.sound hms
  have hact : (do if ← Act.spend n then a else throw e : Act α) l
      = a { l with spent := n :: l.spent } := bind_ok hspend
  have hown : ∀ m ∈ ms, m ∈ n :: ms ∨ l.issued ≤ m := fun m hm => .inl (List.mem_cons_of_mem n hm)
  refine ⟨?_, ?_, ?_, ?_⟩
  · rw [hact]
    exact h.result
  · rw [hact]
    exact (hadv.mono fun m hm => by rw [List.mem_singleton.1 hm]; exact hn).trans hown h.advances
  · intro x hx
    rw [hact] at hx ⊢
    exact h.usable x hx
  · intro x hx m hm
    rw [hact] at hx
    rcases h.owned x hx m hm with hm | hm
    · exact hown m hm
    · exact .inr hm

end Tracks

end Colloquy
