import Colloquy.Text.Case
import Mathlib.Data.List.Forall2
import Mathlib.Data.List.Infix

/-!
# Searching in texts

What the search for a piece finds, and what it finds when case is ignored.  The first
occurrence of a piece is told by what stands before it (`Text.splitFirst_eq_some_iff`).  A
letter that is read without its case is one of a few code points (`Text.Spells`), which are
named one by one.
-/

namespace Colloquy.Text

/-! ## Pieces -/

/-- The first occurrence of a piece, when there is one. -/
theorem isSome_splitFirst_iff {mark text : Text} :
    (splitFirst mark text).isSome = true ↔ mark <:+: text := by
  induction text with
  | nil =>
    rw [splitFirst, List.infix_nil]
    split <;> simp_all
  | cons c rest ih =>
    rw [splitFirst, List.infix_cons_iff, ← ih]
    split
    · rename_i hfront
      exact iff_of_true rfl (.inl (List.isPrefixOf_iff_prefix.1 hfront))
    · rename_i hfront
      rw [Option.isSome_map, or_iff_right]
      exact fun h => hfront (List.isPrefixOf_iff_prefix.2 h)

/-- The texts before and after the first occurrence of a piece are all that stands around it. -/
theorem splitFirst_eq_some {mark text before after : Text}
    (h : splitFirst mark text = some (before, after)) : text = before ++ mark ++ after := by
  induction text generalizing before with
  | nil =>
    rw [splitFirst] at h
    split at h <;> simp_all
  | cons c rest ih =>
    rw [splitFirst] at h
    split at h
    · rename_i hfront
      obtain ⟨tail, htail⟩ := List.isPrefixOf_iff_prefix.1 hfront
      rw [← htail, List.drop_left] at h
      cases h
      exact htail.symm
    · obtain ⟨⟨others, rest'⟩, hothers, heq⟩ := Option.map_eq_some_iff.1 h
      cases heq
      rw [ih hothers, List.cons_append, List.cons_append]

/-- A text includes the pieces that stand anywhere in it. -/
theorem includes_iff {text part : Text} : includes text part = true ↔ part <:+: text :=
  isSome_splitFirst_iff

/-! ## First occurrences -/

/-- A piece without some code point ends before it when it stands at the front. -/
theorem prefix_append_cons_iff {part front back : Text} {c : CodePoint} (hc : c ∉ part) :
    part <+: front ++ c :: back ↔ part <+: front := by
  induction front generalizing part with
  | nil =>
    cases part with
    | nil => exact iff_of_true List.nil_prefix List.nil_prefix
    | cons d part =>
      refine iff_of_false (fun h => ?_) (fun h => ?_)
      · exact hc (List.mem_cons.2 (.inl (List.cons_prefix_cons.1 h).1.symm))
      · exact List.cons_ne_nil d part (List.prefix_nil.1 h)
  | cons x front ih =>
    cases part with
    | nil => exact iff_of_true List.nil_prefix List.nil_prefix
    | cons d part =>
      rw [List.cons_append, List.cons_prefix_cons, List.cons_prefix_cons,
        ih fun h => hc (List.mem_cons_of_mem d h)]

/-- A piece stands behind what does not hold the code point that it begins with. -/
theorem infix_append_iff {part front back : Text} {c : CodePoint} (hc : c ∉ front) :
    c :: part <:+: front ++ back ↔ c :: part <:+: back := by
  induction front with
  | nil => exact Iff.rfl
  | cons x front ih =>
    obtain ⟨hx, hfront⟩ := not_or.1 (mt List.mem_cons.2 hc)
    rw [List.cons_append, List.infix_cons_iff, ih hfront, or_iff_right]
    exact fun h => hx (List.cons_prefix_cons.1 h).1

/-- The text before the first occurrence of a piece does not hold the piece.  No occurrence overlaps
another one when the piece has the code point that it begins with nowhere else, and then the first
occurrence is the one that has no other before it. -/
theorem splitFirst_eq_some_iff {c : CodePoint} {part text before after : Text} (hc : c ∉ part) :
    splitFirst (c :: part) text = some (before, after) ↔
      text = before ++ (c :: part) ++ after ∧ ¬c :: part <:+: before := by
  refine ⟨fun h => ⟨splitFirst_eq_some h, ?_⟩, ?_⟩
  · induction text generalizing before with
    | nil => cases h
    | cons x text ih =>
      have htext := splitFirst_eq_some h
      rw [splitFirst] at h
      split at h
      · cases h
        exact fun h => List.cons_ne_nil c part (List.infix_nil.1 h)
      · rename_i hfront
        obtain ⟨⟨others, _⟩, hothers, heq⟩ := Option.map_eq_some_iff.1 h
        cases heq
        rw [List.infix_cons_iff, not_or]
        refine ⟨fun hprefix => hfront (List.isPrefixOf_iff_prefix.2 ?_), ih hothers⟩
        rw [htext, List.append_assoc]
        exact hprefix.trans (List.prefix_append _ _)
  · rintro ⟨rfl, hbefore⟩
    induction before with
    | nil =>
      rw [List.nil_append, List.cons_append, splitFirst, if_pos, ← List.cons_append,
        List.drop_left]
      exact List.isPrefixOf_iff_prefix.2 (List.prefix_append _ _)
    | cons x before ih =>
      rw [List.infix_cons_iff, not_or] at hbefore
      rw [List.cons_append, List.cons_append, splitFirst, if_neg, ih hbefore.2]
      · rfl
      · intro hfront
        -- the piece would begin within what stands before it, and end there as well
        rw [List.append_assoc, List.cons_append] at hfront
        obtain ⟨rfl, hpart⟩ := List.cons_prefix_cons.1 (List.isPrefixOf_iff_prefix.1 hfront)
        exact hbefore.1 (List.cons_prefix_cons.2 ⟨rfl, (prefix_append_cons_iff hc).1 hpart⟩)

/-! ## Letters of either case -/

/-- A code point stands for a small letter of ASCII, or for another sign of ASCII, when case is
ignored. -/
inductive Spells : Nat → Nat → Prop
  | same (p : Nat) : Spells p p
  | capital {p : Nat} (h : 0x61 ≤ p ∧ p ≤ 0x7a) : Spells (p - 0x20) p
  | dottedI : Spells 0x130 0x69
  | dotlessI : Spells 0x131 0x69
  | longS : Spells 0x17f 0x73
  | kelvin : Spells 0x212a 0x6b

/-- The letter that a code point stands for, by its number. -/
theorem fold_eq (c : Nat) : fold c =
    if 0x41 ≤ c ∧ c ≤ 0x5a then c + 0x20
    else if c = 0x130 ∨ c = 0x131 then 0x69
    else if c = 0x17f then 0x73
    else if c = 0x212a then 0x6b
    else c :=
  rfl

/-- A sign of ASCII that is no capital. -/
def IsPlain (p : Nat) : Prop :=
  p < 0x80 ∧ ¬(0x41 ≤ p ∧ p ≤ 0x5a)

instance : DecidablePred IsPlain :=
  fun p => inferInstanceAs (Decidable (p < 0x80 ∧ ¬(0x41 ≤ p ∧ p ≤ 0x5a)))

/-- Code points stand for the same letter just when one spells it. -/
theorem fold_eq_iff {c p : Nat} (hp : IsPlain p) : fold c = p ↔ Spells c p := by
  obtain ⟨hascii, hsmall⟩ := hp
  rw [fold_eq]
  constructor
  · intro h
    split_ifs at h with hcapital hi hs hk
    · have hsmall : c + 0x20 = p := h
      have hback : c = p - 0x20 := by omega
      rw [hback]
      exact .capital (by omega)
    · subst h
      rcases hi with rfl | rfl
      · exact .dottedI
      · exact .dotlessI
    · subst h hs
      exact .longS
    · subst h hk
      exact .kelvin
    · subst h
      exact .same c
  · intro h
    cases h with
    | same =>
      rw [if_neg hsmall, if_neg (by omega), if_neg (by omega), if_neg (by omega)]
    | capital h =>
      rw [if_pos (by omega)]
      exact Nat.sub_add_cancel (by omega)
    | dottedI => rfl
    | dotlessI => rfl
    | longS => rfl
    | kelvin => rfl

theorem map_fold_eq_iff {text part : Text}
    (hpart : ∀ p ∈ part, IsPlain p) :
    text.map fold = part ↔ List.Forall₂ Spells text part := by
  induction part generalizing text with
  | nil => rw [List.map_eq_nil_iff, List.forall₂_nil_right_iff]
  | cons p part ih =>
    obtain ⟨hp, hpart⟩ := List.forall_mem_cons.1 hpart
    cases text with
    | nil => exact iff_of_false nofun nofun
    | cons c text =>
      rw [List.map_cons, List.cons.injEq, List.forall₂_cons, ih hpart, fold_eq_iff hp]

/-- A piece without capitals occurs in a text, in letters of either case. -/
def Mentions (text part : Text) : Prop :=
  ∃ front found back, text = front ++ found ++ back ∧ List.Forall₂ Spells found part

theorem infix_map_fold_iff {text part : Text}
    (hpart : ∀ p ∈ part, IsPlain p) :
    part <:+: text.map fold ↔ Mentions text part := by
  constructor
  · rintro ⟨front, back, h⟩
    obtain ⟨rest, after, rfl, hrest, rfl⟩ := List.map_eq_append_iff.1 h.symm
    obtain ⟨before, found, rfl, rfl, hfound⟩ := List.map_eq_append_iff.1 hrest
    exact ⟨before, found, after, rfl, (map_fold_eq_iff hpart).1 hfound⟩
  · rintro ⟨front, found, back, rfl, hfound⟩
    rw [← (map_fold_eq_iff hpart).2 hfound]
    exact ⟨front.map fold, back.map fold, by simp⟩

end Colloquy.Text
