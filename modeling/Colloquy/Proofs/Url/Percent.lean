import Colloquy.Proofs.Error.Escape
import Colloquy.Proofs.Text.Pieces
import Colloquy.Proofs.Text.Utf8
import Colloquy.Url.Basic
import Mathlib.Data.List.Forall2

/-!
# Percent encoding

In every component of an address the percent sign stands for itself, so code points are
written one by one (`Url.percentEncode_cons_eq_ok_iff`).  What is written is plain, and a
plain text is written as it is (`Url.plain_of_percentEncode`, `Url.percentEncode_of_plain`).
So encoding a second time changes nothing, and pieces are encoded apart from each other.
-/

namespace Colloquy.Url

variable {safe : CodePoint → Bool} {c : CodePoint} {text out piece : Text}

/-- A code point may stand for itself in a component. -/
def IsPlain (safe : CodePoint → Bool) (c : CodePoint) : Prop :=
  (isUnreserved c || safe c) = true

instance : DecidablePred (IsPlain safe) :=
  fun c => inferInstanceAs (Decidable ((isUnreserved c || safe c) = true))

/-- All code points of a text may stand for themselves. -/
def Plain (safe : CodePoint → Bool) (text : Text) : Prop :=
  ∀ c ∈ text, IsPlain safe c

instance : DecidablePred (Plain safe) :=
  fun text => inferInstanceAs (Decidable (∀ c ∈ text, IsPlain safe c))

/-- A code point of ASCII that is no control. -/
def IsVisible (c : Nat) : Prop :=
  0x20 ≤ c ∧ c < 0x7f

theorem isVisible_of_isUnreserved {c : Nat} (h : isUnreserved c = true) : IsVisible c := by
  simp only [isUnreserved, isAlphanumeric, Text.isAsciiDigit, Bool.or_eq_true, Bool.and_eq_true,
    decide_eq_true_eq] at h
  unfold IsVisible
  rcases h with (((((h | h) | h) | rfl) | rfl) | rfl) | rfl
  · exact ⟨le_trans (by decide) h.1, lt_of_le_of_lt h.2 (by decide)⟩
  · exact ⟨le_trans (by decide) h.1, lt_of_le_of_lt h.2 (by decide)⟩
  · exact ⟨le_trans (by decide) h.1, lt_of_le_of_lt h.2 (by decide)⟩
  all_goals decide

theorem isVisible_of_visibleBut {excluded : Text} {c : Nat} (h : visibleBut excluded c = true) :
    IsVisible c := by
  rw [visibleBut, Bool.and_eq_true, Bool.and_eq_true, decide_eq_true_iff, decide_eq_true_iff] at h
  exact h.1

theorem isVisible_of_hostSafe {c : Nat} (h : hostSafe c = true) : IsVisible c := by
  have hsigns : ∀ c ∈ ("!$&'()*+,;=\"\x60\x7b\x7d%|\\" : Text), IsVisible c := by
    unfold IsVisible
    decide
  exact hsigns c (List.contains_iff_mem.1 h)

/-- What is plain is visible. -/
theorem IsPlain.isVisible {c : Nat} (hsafe : ∀ c, safe c = true → IsVisible c)
    (h : IsPlain safe c) : IsVisible c := by
  rw [IsPlain, Bool.or_eq_true] at h
  exact h.elim isVisible_of_isUnreserved (hsafe c)

/-- A text in which a mark is not plain does not hold it. -/
theorem Plain.notMem {mark : CodePoint} (h : Plain safe text) (hmark : ¬IsPlain safe mark) :
    mark ∉ text :=
  fun hmem => hmark (h mark hmem)

/-! ## Octets by number -/

/-- What is written for an octet: a percent sign, figures and letters. -/
theorem percentOctet_alphanumeric (b : UInt8) :
    ∀ c ∈ percentOctet b, c = 0x25 ∨ isAlphanumeric c = true := by
  have hdigit : ∀ d < 16, isAlphanumeric (if d < 10 then 0x30 + d else 0x37 + d) = true := by
    decide
  have hb := b.toNat_lt
  rw [percentOctet, List.forall_mem_cons, List.forall_mem_cons, List.forall_mem_singleton]
  exact ⟨.inl rfl, .inr (hdigit (b.toNat / 16) (Nat.div_lt_of_lt_mul hb)),
    .inr (hdigit (b.toNat % 16) (Nat.mod_lt _ (by decide)))⟩

/-- What is written for a code point that may not stand for itself. -/
theorem percentPoint_eq_ok (h : percentPoint c = .ok piece) :
    (∃ rest, piece = 0x25 :: rest) ∧ ∀ d ∈ piece, d = 0x25 ∨ isAlphanumeric d = true := by
  unfold percentPoint at h
  split at h
  case h_2 => cases h
  case h_1 octets hoctets =>
    cases h
    obtain ⟨-, rfl⟩ := Utf8.encode_eq_ok hoctets
    have hoctet : ∃ b octets, [c].flatMap Utf8.encodePoint = b :: octets := by
      rw [List.flatMap_singleton, Utf8.encodePoint]
      split_ifs <;> exact ⟨_, _, rfl⟩
    obtain ⟨b, octets, heq⟩ := hoctet
    rw [heq]
    refine ⟨⟨_, rfl⟩, fun d hd => ?_⟩
    obtain ⟨b', -, hd⟩ := List.mem_flatMap.1 hd
    exact percentOctet_alphanumeric b' d hd

/-! ## Code points one by one -/

/-- What is written for a code point: itself where that is safe, and else its octets by number. -/
inductive Writes (safe : CodePoint → Bool) : CodePoint → Text → Prop
  | plain {c : CodePoint} (h : IsPlain safe c) : Writes safe c [c]
  | escaped {c : CodePoint} {piece : Text} (h : ¬IsPlain safe c)
      (hpiece : percentPoint c = .ok piece) : Writes safe c piece

/-- What is written for a code point is plain. -/
theorem Writes.forall_plain (hpercent : safe 0x25 = true) (h : Writes safe c piece) :
    Plain safe piece := by
  cases h with
  | plain h => exact List.forall_mem_singleton.2 h
  | escaped _ hpiece =>
    intro d hd
    rw [IsPlain, Bool.or_eq_true]
    rcases (percentPoint_eq_ok hpiece).2 d hd with rfl | hd
    · exact .inr hpercent
    · left
      rw [isUnreserved, hd]
      rfl

theorem writes_iff_of_plain (h : IsPlain safe c) : Writes safe c piece ↔ piece = [c] := by
  constructor
  · intro hpiece
    cases hpiece with
    | plain => rfl
    | escaped hescaped => exact absurd h hescaped
  · rintro rfl
    exact .plain h

theorem writes_iff_of_not_plain (h : ¬IsPlain safe c) :
    Writes safe c piece ↔ percentPoint c = .ok piece := by
  constructor
  · intro hpiece
    cases hpiece with
    | plain hplain => exact absurd hplain h
    | escaped _ hpoint => exact hpoint
  · exact .escaped h

/-- Code points are written one by one. -/
theorem percentEncode_cons_eq_ok_iff (hpercent : safe 0x25 = true) :
    percentEncode safe (c :: text) = .ok out ↔
      ∃ piece more, Writes safe c piece ∧ percentEncode safe text = .ok more ∧
        out = piece ++ more := by
  have hrest : ∀ piece : Text, (do return piece ++ (← percentEncode safe text)) = .ok out ↔
      ∃ more, percentEncode safe text = .ok more ∧ out = piece ++ more := by
    intro piece
    rw [bind_eq_ok_iff]
    exact exists_congr fun more => and_congr_right fun _ => ⟨fun h => by cases h; rfl,
      fun h => by rw [h]; rfl⟩
  rw [percentEncode.eq_def]
  dsimp only
  by_cases hc : IsPlain safe c
  · rw [if_pos (by rw [show (isUnreserved c || safe c) = true from hc, Bool.true_or])]
    simp only [writes_iff_of_plain hc, exists_eq_left, exists_and_left]
    exact hrest [c]
  · -- An escape begins with a percent sign, which is safe already.
    have hescape : (c == 0x25) = false := by
      refine beq_false_of_ne fun heq => hc ?_
      rw [IsPlain, heq, hpercent, Bool.or_true]
    rw [if_neg (by rwa [hescape, Bool.false_and, Bool.or_false]), bind_eq_ok_iff]
    simp only [writes_iff_of_not_plain hc, exists_and_left]
    exact exists_congr fun piece => and_congr_right fun _ => hrest piece

/-! ## Plain texts -/

/-- What is written for a text is plain. -/
theorem plain_of_percentEncode (hpercent : safe 0x25 = true)
    (h : percentEncode safe text = .ok out) : Plain safe out := by
  induction text generalizing out with
  | nil =>
    cases h
    exact nofun
  | cons c rest ih =>
    obtain ⟨piece, more, hpiece, hmore, rfl⟩ := (percentEncode_cons_eq_ok_iff hpercent).1 h
    exact List.forall_mem_append.2 ⟨hpiece.forall_plain hpercent, ih hmore⟩

/-- A plain text is written as it is. -/
theorem percentEncode_of_plain (hpercent : safe 0x25 = true) (h : Plain safe text) :
    percentEncode safe text = .ok text := by
  induction text with
  | nil => rfl
  | cons c rest ih =>
    obtain ⟨hc, hrest⟩ := List.forall_mem_cons.1 h
    exact (percentEncode_cons_eq_ok_iff hpercent).2 ⟨[c], rest, .plain hc, ih hrest, rfl⟩

/-- A text is written as it is unless some octets are written by number. -/
theorem eq_of_percentEncode (hpercent : safe 0x25 = true)
    (h : percentEncode safe text = .ok out) (hout : 0x25 ∉ out) : out = text := by
  induction text generalizing out with
  | nil =>
    cases h
    rfl
  | cons c rest ih =>
    obtain ⟨piece, more, hpiece, hmore, rfl⟩ := (percentEncode_cons_eq_ok_iff hpercent).1 h
    rw [List.mem_append, not_or] at hout
    cases hpiece with
    | plain => rw [ih hmore hout.2, List.singleton_append]
    | escaped _ hpiece =>
      obtain ⟨⟨tail, rfl⟩, -⟩ := percentPoint_eq_ok hpiece
      exact absurd List.mem_cons_self hout.1

/-! ## Pieces -/

/-- The pieces of a text between plain marks are written apart from each other. -/
theorem splitOn_percentEncode {mark : CodePoint} (hpercent : safe 0x25 = true)
    (hplain : IsPlain safe mark) (hmark : mark ≠ 0x25 ∧ isAlphanumeric mark = false)
    (h : percentEncode safe text = .ok out) :
    List.Forall₂ (fun piece written => percentEncode safe piece = .ok written)
      (Text.splitOn mark text) (Text.splitOn mark out) := by
  induction text generalizing out with
  | nil =>
    cases h
    exact .cons rfl .nil
  | cons c rest ih =>
    obtain ⟨piece, more, hpiece, hmore, rfl⟩ := (percentEncode_cons_eq_ok_iff hpercent).1 h
    have hpieces := ih hmore
    by_cases hc : c = mark
    · subst hc
      cases hpiece with
      | plain =>
        rw [List.singleton_append, Text.splitOn_cons_self, Text.splitOn_cons_self]
        exact .cons rfl hpieces
      | escaped hescaped => exact absurd hplain hescaped
    · have hnone : mark ∉ piece := by
        cases hpiece with
        | plain => simpa using Ne.symm hc
        | escaped _ hpiece =>
          intro hmem
          rcases (percentPoint_eq_ok hpiece).2 mark hmem with hpercent' | halphanumeric
          · exact hmark.1 hpercent'
          · rw [hmark.2] at halphanumeric
            cases halphanumeric
      have hfront : mark ∉ [c] := by simpa using Ne.symm hc
      rw [← List.singleton_append, Text.splitOn_append_of_notMem hfront,
        Text.splitOn_append_of_notMem hnone]
      generalize Text.splitOn mark more = written at hpieces
      cases hrest : Text.splitOn mark rest with
      | nil => exact absurd hrest (Text.splitOn_ne_nil mark rest)
      | cons first others =>
        rw [hrest] at hpieces
        cases hpieces with
        | cons hfirst hothers =>
          refine .cons ?_ hothers
          exact (percentEncode_cons_eq_ok_iff hpercent).2 ⟨piece, _, hpiece, hfirst, rfl⟩

end Colloquy.Url
