import Colloquy.Proofs.Decimal.Scientific

/-!
# The range of spelled numbers

A free text is read as a float after its digits were brought to ASCII, its ends were
stripped and its underscores dropped.  It stands for a finite float unless it spells
infinity, or a numeral that lies beyond the range of floats (`isFinite_float?_iff`).
-/

namespace Colloquy.Decimal

/-- The text of a number that is read: with digits of ASCII, and without what may stand around it
and between its digits. -/
def plain? (text : Text) : Option Text :=
  dropUnderscores? false (Text.stripBy isPadding (text.map asciiDigit))

/-- A plain text is a name of infinity, with or without a sign. -/
def SpellsInfinity (plain : Text) : Prop :=
  (takeSign plain).2.map Text.small = "inf" ∨ (takeSign plain).2.map Text.small = "infinity"

/-- The number that a numeral stands for, without its sign. -/
def Numeral.magnitude (n : Numeral) : ℚ :=
  natOfDigits (n.whole ++ n.fraction) * 10 ^ (n.exponent - n.fraction.length)

/-- A text that is read as a number spells infinity, or a number that no finite float is near. -/
def TooLarge (text : Text) : Prop :=
  ∃ plain, plain? text = some plain ∧
    (SpellsInfinity plain ∨ ∃ n, numeral? plain = some n ∧ overflowBound ≤ n.magnitude)

/-! ## Numerals -/

/-- A numeral is rounded to a finite float just when it is below the bound of overflow. -/
theorem Numeral.isFinite_toFloat_iff (n : Numeral) :
    n.toFloat.isFinite = true ↔ n.magnitude < overflowBound := by
  obtain ⟨-, hfinite⟩ := nearestFloat_spec (natOfDigits (n.whole ++ n.fraction))
    (n.exponent - n.fraction.length)
  have hsign : n.toFloat.isFinite = (nearestFloat false (natOfDigits (n.whole ++ n.fraction))
      (n.exponent - n.fraction.length)).isFinite := by
    rw [Numeral.toFloat]
    cases n.negative with
    | false => rfl
    | true => exact isFinite_neg _
  rw [hsign, hfinite, Numeral.magnitude]

theorem Numeral.zero_le_toFloat {n : Numeral} (h : n.negative = false) : 0.0 ≤ n.toFloat := by
  rw [Numeral.toFloat, h]
  exact (nearestFloat_spec _ _).1

/-! ## Names -/

theorem named?_eq_none_iff {plain : Text} :
    named? plain = none ↔ ¬SpellsInfinity plain ∧ (takeSign plain).2.map Text.small ≠ "nan" := by
  unfold named? SpellsInfinity
  dsimp only
  split_ifs <;> simp_all

/-- A name stands for infinity or for no number. -/
theorem named?_eq_some {plain : Text} {x : Float} (h : named? plain = some x) :
    SpellsInfinity plain ∧ x.isFinite = false ∨ x = 0.0 / 0.0 := by
  have hinfinite : (1.0 / 0.0 : Float).isFinite = false ∧
      (-(1.0 / 0.0) : Float).isFinite = false := by
    decide +kernel
  unfold named? at h
  dsimp only at h
  split_ifs at h with hname hsign hnan
  · cases h
    exact .inl ⟨hname, hinfinite.2⟩
  · cases h
    exact .inl ⟨hname, hinfinite.1⟩
  · cases h
    exact .inr rfl

/-! ## Free texts -/

theorem float?_eq_some_iff {text : Text} {x : Float} : float? text = some x ↔
    ∃ plain, plain? text = some plain ∧ (named? plain = some x ∨
      named? plain = none ∧ ∃ n, numeral? plain = some n ∧ n.toFloat = x) := by
  have hread : float? text = (plain? text).bind fun plain =>
      (named? plain).or ((numeral? plain).map Numeral.toFloat) := by
    unfold float?
    dsimp only
    rw [← plain?]
    cases plain? text with
    | none => rfl
    | some plain =>
      simp only [Option.bind_some]
      cases named? plain <;> rfl
  rw [hread, Option.bind_eq_some_iff]
  refine exists_congr fun plain => and_congr_right fun _ => ?_
  rw [Option.or_eq_some_iff, Option.map_eq_some_iff]

/-- What a text is read as is finite unless the text is too large. -/
theorem isFinite_float?_iff {text : Text} {x : Float} (h : float? text = some x) (hx : 0.0 ≤ x) :
    x.isFinite = true ↔ ¬TooLarge text := by
  have hnan : ¬(0.0 : Float) ≤ 0.0 / 0.0 := by decide +kernel
  obtain ⟨plain, hplain, hnamed | ⟨hnone, n, hn, rfl⟩⟩ := float?_eq_some_iff.1 h
  · obtain ⟨hname, hinfinite⟩ | rfl := named?_eq_some hnamed
    · rw [hinfinite]
      exact iff_of_false Bool.false_ne_true (not_not.2 ⟨plain, hplain, .inl hname⟩)
    · exact absurd hx hnan
  · obtain ⟨hname, -⟩ := named?_eq_none_iff.1 hnone
    rw [n.isFinite_toFloat_iff, ← not_le, not_iff_not]
    constructor
    · intro hlarge
      exact ⟨plain, hplain, .inr ⟨n, hn, hlarge⟩⟩
    · rintro ⟨plain', hplain', hspelled | ⟨n', hn', hlarge⟩⟩
      · rw [hplain] at hplain'
        cases hplain'
        exact absurd hspelled hname
      · rw [hplain] at hplain'
        cases hplain'
        rw [hn] at hn'
        cases hn'
        exact hlarge

/-! ## Texts of digits -/

/-- Digits of any script, and points. -/
def IsDigits (text : Text) : Prop :=
  ∀ c ∈ text, Text.isDecimal c = true ∨ c = 0x2e

/-- A digit of any script has a value of one digit. -/
theorem asciiDigit_of_isDecimal {c : CodePoint} (h : Text.isDecimal c = true) :
    ∃ value, value ≤ 9 ∧ asciiDigit c = 0x30 + value := by
  obtain ⟨value, hvalue⟩ := Option.isSome_iff_exists.1 h
  refine ⟨value, ?_, by rw [asciiDigit, hvalue]⟩
  obtain ⟨first, hfirst, rfl⟩ := Option.map_eq_some_iff.1 hvalue
  have hrange := List.find?_some hfirst
  rw [Bool.and_eq_true, decide_eq_true_iff, decide_eq_true_iff] at hrange
  exact Nat.sub_le_iff_le_add'.2 hrange.2

theorem dropUnderscores?_sublist {text plain : Text} {digit : Bool}
    (h : dropUnderscores? digit text = some plain) : plain.Sublist text := by
  fun_induction dropUnderscores? digit text generalizing plain with
  | case1 =>
    cases h
    exact .slnil
  | case2 _ next rest _ ih =>
    obtain ⟨others, hothers, rfl⟩ := Option.map_eq_some_iff.1 h
    exact ((ih hothers).cons_cons next).cons _
  | case3 => cases h
  | case4 => cases h
  | case5 _ c rest _ _ ih =>
    obtain ⟨others, hothers, rfl⟩ := Option.map_eq_some_iff.1 h
    exact (ih hothers).cons_cons c

theorem stripBy_sublist (drop : CodePoint → Bool) (text : Text) :
    (Text.stripBy drop text).Sublist text := by
  have hfront : (text.dropWhile drop).Sublist text := List.dropWhile_sublist drop
  have hback := (List.dropWhile_sublist drop (l := (text.dropWhile drop).reverse)).reverse
  rw [List.reverse_reverse] at hback
  exact hback.trans hfront

/-- The digits of ASCII, and the point. -/
def digitSigns : List CodePoint :=
  [0x2e, 0x30, 0x31, 0x32, 0x33, 0x34, 0x35, 0x36, 0x37, 0x38, 0x39]

/-- What is left of digits and points is digits of ASCII and points. -/
theorem IsDigits.plain {text plain : Text} (h : IsDigits text) (hplain : plain? text = some plain) :
    ∀ c ∈ plain, c ∈ digitSigns := by
  have hvalues : ∀ value ≤ 9, 0x30 + value ∈ digitSigns := by decide
  intro c hc
  have hmem := (dropUnderscores?_sublist hplain).subset hc
  have hmem := (stripBy_sublist _ _).subset hmem
  obtain ⟨original, horiginal, rfl⟩ := List.mem_map.1 hmem
  rcases h original horiginal with hdigit | rfl
  · obtain ⟨value, hvalue, heq⟩ := asciiDigit_of_isDecimal hdigit
    rw [heq]
    exact hvalues value hvalue
  · decide

/-- Digits and points have no sign in front. -/
theorem takeSign_of_digitSigns {plain : Text} (h : ∀ c ∈ plain, c ∈ digitSigns) :
    takeSign plain = (false, plain) := by
  unfold takeSign
  split
  · exact absurd (h 0x2d List.mem_cons_self) (by decide)
  · exact absurd (h 0x2b List.mem_cons_self) (by decide)
  · rfl

theorem numeral?_negative {plain : Text} {n : Numeral} (h : numeral? plain = some n) :
    n.negative = (takeSign plain).1 := by
  unfold numeral? at h
  dsimp only at h
  split_ifs at h
  obtain ⟨e, -, rfl⟩ := Option.map_eq_some_iff.1 h
  rfl

/-- Digits and points are no name. -/
theorem named?_of_digitSigns {plain : Text} (h : ∀ c ∈ plain, c ∈ digitSigns) :
    named? plain = none := by
  have hkept : ∀ c ∈ digitSigns, Text.small c = c := by decide
  have hsmall : plain.map Text.small = plain := by
    rw [List.map_congr_left fun c hc => hkept c (h c hc), List.map_id']
  have hletter : ∀ (c : CodePoint) (name : Text), c ∉ digitSigns → c ∈ name → plain ≠ name := by
    rintro c name hc hname rfl
    exact hc (h c hname)
  rw [named?_eq_none_iff, SpellsInfinity, takeSign_of_digitSigns h, hsmall, not_or]
  exact ⟨⟨hletter 0x69 _ (by decide) (by decide), hletter 0x69 _ (by decide) (by decide)⟩,
    hletter 0x6e _ (by decide) (by decide)⟩

/-- What a text of digits and points is read as is not below zero. -/
theorem zero_le_float? {text : Text} {x : Float} (htext : IsDigits text)
    (h : float? text = some x) : 0.0 ≤ x := by
  obtain ⟨plain, hplain, hnamed | ⟨-, n, hn, rfl⟩⟩ := float?_eq_some_iff.1 h
  · rw [named?_of_digitSigns (htext.plain hplain)] at hnamed
    cases hnamed
  · refine Numeral.zero_le_toFloat ?_
    rw [numeral?_negative hn, takeSign_of_digitSigns (htext.plain hplain)]

end Colloquy.Decimal
