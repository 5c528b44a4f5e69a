import Colloquy.Decimal.Reader
import Colloquy.Proofs.Json.Number
import Colloquy.Proofs.Text.Search
import Mathlib.Algebra.Group.Nat.Defs

/-!
# Integers read back

An integer that was read from a free text is read again from its own text
(`Decimal.readInteger_ofInt`), for it has no more digits than the text had
(`Decimal.length_ofNat_le_of_readInteger`).
-/

namespace Colloquy.Decimal

/-! ## The number of digits -/

/-- A row of digits stands for a number with no more digits. -/
theorem natOfDigits_lt {digits : Text} (h : ∀ c ∈ digits, Text.isAsciiDigit c = true) :
    natOfDigits digits < 10 ^ digits.length := by
  induction digits using List.reverseRecOn with
  | nil => decide
  | append_singleton digits c ih =>
    rw [List.forall_mem_append, List.forall_mem_singleton] at h
    have hvalue : ∀ c : Nat, Text.isAsciiDigit c = true → c - 0x30 < 10 := by
      intro c hc
      rw [Text.isAsciiDigit, Bool.and_eq_true, decide_eq_true_iff, decide_eq_true_iff] at hc
      have hhigh : c ≤ (0x39 : Nat) := hc.2
      omega
    have hfront := ih h.1
    have hlast := hvalue c h.2
    rw [natOfDigits, List.foldl_append, ← natOfDigits, List.length_append, List.length_singleton,
      pow_succ]
    show natOfDigits digits * 10 + (c - 0x30) < 10 ^ digits.length * 10
    omega

theorem length_ofNat_natOfDigits_le {digits : Text} (hnil : digits ≠ [])
    (h : ∀ c ∈ digits, Text.isAsciiDigit c = true) :
    (Text.ofNat (natOfDigits digits)).length ≤ digits.length := by
  rw [Text.ofNat, List.length_map]
  exact (Nat.length_toDigits_le_iff (by decide) (List.length_pos_iff.2 hnil)).2 (natOfDigits_lt h)

theorem isAsciiDigit_of_plainDigits {row digits : Text} (h : plainDigits? row = some digits) :
    ∀ c ∈ digits, Text.isAsciiDigit c = true := by
  unfold plainDigits? at h
  split_ifs at h
  cases h
  exact fun c hc => (List.mem_filter.1 hc).2

/-- An integer that was read has no more digits than may be read. -/
theorem length_ofNat_le_of_readInteger {text : Text} {i : Int} (h : readInteger text = .ok i) :
    (Text.ofNat i.natAbs).length ≤ digitLimit := by
  unfold readInteger at h
  dsimp only at h
  split at h
  case h_1 => cases h
  case h_2 digits hdigits =>
    by_cases hlimit : digitLimit < digits.length
    · rw [if_pos hlimit] at h
      cases h
    · rw [if_neg hlimit] at h
      split at h
      · cases h
      · next hrow =>
        have habs : i.natAbs = natOfDigits digits := by
          cases h
          split <;> simp
        rw [habs]
        exact (length_ofNat_natOfDigits_le (not_or.1 hrow).1
          (isAsciiDigit_of_plainDigits hdigits)).trans (not_lt.1 hlimit)

/-! ## Reading -/

/-- Digits of ASCII, and a minus sign, are read as they are. -/
theorem asciiDigit_of_digit {c : Nat} (h : Text.isAsciiDigit c = true ∨ c = 0x2d) :
    asciiDigit c = c ∧ isPadding c = false := by
  have hsigns : ∀ c < 0x3a, Text.isAsciiDigit c = true ∨ c = 0x2d →
      asciiDigit c = c ∧ isPadding c = false := by
    decide +kernel
  refine hsigns c ?_ h
  rcases h with h | rfl
  · rw [Text.isAsciiDigit, Bool.and_eq_true, decide_eq_true_iff, decide_eq_true_iff] at h
    exact Nat.lt_succ_of_le h.2
  · decide

theorem stripBy_of_forall {drop : CodePoint → Bool} {text : Text}
    (h : ∀ c ∈ text, drop c = false) : Text.stripBy drop text = text := by
  have hkept : ∀ text : Text, (∀ c ∈ text, drop c = false) → text.dropWhile drop = text := by
    intro text h
    cases text with
    | nil => rfl
    | cons c rest => rw [List.dropWhile_cons, h c List.mem_cons_self, if_neg Bool.false_ne_true]
  rw [Text.stripBy, hkept text h, hkept text.reverse fun c hc => h c (List.mem_reverse.1 hc),
    List.reverse_reverse]

/-- A row of digits is read as digits. -/
theorem plainDigits?_of_digits {digits : Text} (h : ∀ c ∈ digits, Text.isAsciiDigit c = true) :
    plainDigits? digits = some digits := by
  have hunderscore : 0x5f ∉ digits := fun hmem => absurd (h 0x5f hmem) (by decide)
  have hhead : digits.head? ≠ some 0x5f := fun heq => hunderscore (List.mem_of_head? heq)
  have hlast : digits.getLast? ≠ some 0x5f := fun heq => hunderscore (List.mem_of_getLast? heq)
  have hpair : Text.includes digits "__" ≠ true :=
    fun heq => hunderscore ((Text.includes_iff.1 heq).subset List.mem_cons_self)
  rw [plainDigits?, if_neg (by simp [hhead, hlast, hpair]), List.filter_eq_self.2 h]

theorem takeSign_ofInt (i : Int) :
    takeSign (Text.ofInt i) = (decide (i < 0), Text.ofNat i.natAbs) := by
  cases i with
  | negSucc n => simp [Text.ofInt, takeSign]
  | ofNat n =>
    have hdigit := Text.isAsciiDigit_of_mem_ofNat n
    have hsign : takeSign (Text.ofNat n) = (false, Text.ofNat n) := by
      unfold takeSign
      split
      case h_1 heq => exact absurd (hdigit 0x2d (by rw [heq]; exact List.mem_cons_self)) (by decide)
      case h_2 heq => exact absurd (hdigit 0x2b (by rw [heq]; exact List.mem_cons_self)) (by decide)
      case h_3 => rfl
    rw [Text.ofInt, hsign]
    simp

theorem ofNat_ne_nil (n : Nat) : Text.ofNat n ≠ [] := by
  rw [Text.ofNat, ne_eq, List.map_eq_nil_iff]
  exact Nat.toDigits_ne_nil

theorem ofInt_ne_nil (i : Int) : Text.ofInt i ≠ [] := by
  cases i with
  | ofNat n => exact ofNat_ne_nil n
  | negSucc n => exact List.cons_ne_nil _ _

/-- The text of an integer consists of digits and perhaps a minus sign. -/
theorem digit_or_minus_of_mem_ofInt (i : Int) :
    ∀ c ∈ Text.ofInt i, Text.isAsciiDigit c = true ∨ c = 0x2d := by
  have hdigits := Text.isAsciiDigit_of_mem_ofNat i.natAbs
  cases i with
  | ofNat n => exact fun c hc => .inl (hdigits c hc)
  | negSucc n => exact List.forall_mem_cons.2 ⟨.inr rfl, fun c hc => .inl (hdigits c hc)⟩

/-- An integer with few digits is read from its own text. -/
theorem readInteger_ofInt {i : Int} (h : (Text.ofNat i.natAbs).length ≤ digitLimit) :
    readInteger (Text.ofInt i) = .ok i := by
  have hdigits := Text.isAsciiDigit_of_mem_ofNat i.natAbs
  have hsigns := digit_or_minus_of_mem_ofInt i
  have hascii : (Text.ofInt i).map asciiDigit = Text.ofInt i := by
    rw [List.map_congr_left fun c hc => (asciiDigit_of_digit (hsigns c hc)).1, List.map_id']
  have hrow : ∀ c ∈ Text.ofNat i.natAbs, (Text.isAsciiDigit c || c == 0x5f) = true := by
    intro c hc
    rw [hdigits c hc, Bool.true_or]
  rw [readInteger, hascii, stripBy_of_forall fun c hc => (asciiDigit_of_digit (hsigns c hc)).2,
    takeSign_ofInt]
  dsimp only
  rw [List.takeWhile_eq_self_iff.2 hrow, List.dropWhile_eq_nil_iff.2 hrow,
    plainDigits?_of_digits hdigits]
  dsimp only
  rw [if_neg (Nat.not_lt.2 h), if_neg (by simp [ofNat_ne_nil]), natOfDigits_ofNat]
  congr 1
  split_ifs with hneg <;> simp at hneg <;> omega

end Colloquy.Decimal
