import Colloquy.Json.Reader
import Mathlib.Data.List.TakeWhile

/-!
# Numbers read back

What the reader takes for a number does not depend on what stands behind it, as long as
that ends the number (`Json.readNumber_append`).  So it is enough to know of the text of a
number alone what it is read as.  For an integer this is the integer itself
(`Json.readNumber_ofInt`).
-/

namespace Colloquy

/-! ## Digits -/

namespace Text

theorem ofNat_of_lt_ten {n : Nat} (h : n < 10) : ofNat n = [0x30 + n] := by
  rw [ofNat, Nat.toDigits_of_lt_base h]
  have hdigits : ∀ n < 10, (Nat.digitChar n).toNat = 0x30 + n := by decide
  exact congrArg (fun c => [c]) (hdigits n h)

theorem ofNat_of_ten_le {n : Nat} (h : 10 ≤ n) : ofNat n = ofNat (n / 10) ++ [0x30 + n % 10] := by
  have hdigits : ∀ n < 10, (Nat.digitChar n).toNat = 0x30 + n := by decide
  rw [ofNat, Nat.toDigits_of_base_le (by decide) h, List.map_append, List.map_singleton,
    hdigits (n % 10) (Nat.mod_lt n (by decide))]
  rfl

theorem isAsciiDigit_of_mem_ofNat (n : Nat) : ∀ c ∈ ofNat n, isAsciiDigit c = true := by
  have hdigit : ∀ d < 10, isAsciiDigit (0x30 + d) = true := by decide
  induction n using Nat.strongRecOn with
  | ind n ih =>
    by_cases h : n < 10
    · rw [ofNat_of_lt_ten h]
      exact List.forall_mem_singleton.2 (hdigit n h)
    · have hten : 10 ≤ n := by omega
      rw [ofNat_of_ten_le hten]
      refine List.forall_mem_append.2 ⟨ih (n / 10) (by omega), List.forall_mem_singleton.2 ?_⟩
      exact hdigit (n % 10) (Nat.mod_lt n (by decide))

/-- The digits of a positive number do not begin with a zero. -/
theorem exists_ofNat_eq_cons {n : Nat} (h : 0 < n) : ∃ c rest, ofNat n = c :: rest ∧ c ≠ 0x30 := by
  induction n using Nat.strongRecOn with
  | ind n ih =>
    by_cases hsmall : n < 10
    · refine ⟨0x30 + n, [], ofNat_of_lt_ten hsmall, ?_⟩
      show (0x30 : Nat) + n ≠ 0x30
      omega
    · have hten : 10 ≤ n := by omega
      obtain ⟨c, rest, heq, hc⟩ := ih (n / 10) (by omega) (by omega)
      refine ⟨c, rest ++ [0x30 + n % 10], ?_, hc⟩
      rw [ofNat_of_ten_le hten, heq]
      rfl

end Text

theorem Decimal.natOfDigits_ofNat (n : Nat) : natOfDigits (Text.ofNat n) = n := by
  induction n using Nat.strongRecOn with
  | ind n ih =>
    by_cases h : n < 10
    · rw [Text.ofNat_of_lt_ten h]
      show 0 * 10 + (0x30 + n - 0x30) = n
      omega
    · have hten : 10 ≤ n := by omega
      have hfront := ih (n / 10) (by omega)
      rw [Text.ofNat_of_ten_le hten, natOfDigits, List.foldl_append, ← natOfDigits, hfront]
      show n / 10 * 10 + (0x30 + n % 10 - 0x30) = n
      omega

namespace Json

/-! ## Parts of numbers -/

/-- What can stand behind a value in a document: nothing, a comma, a closing bracket or a space. -/
def Ends (rest : Text) : Prop :=
  ∀ c ∈ rest.head?, c = 0x2c ∨ c = 0x5d ∨ c = 0x7d ∨ isSpace c = true

theorem Ends.nil : Ends [] :=
  nofun

theorem Ends.cons {c : CodePoint} (h : c = 0x2c ∨ c = 0x5d ∨ c = 0x7d ∨ isSpace c = true)
    (rest : Text) :
    Ends (c :: rest) := by
  intro d hd
  cases hd
  exact h

variable {text rest after : Text} {found : Value}

/-- What ends a value is no part of a number. -/
theorem Ends.cases (h : Ends rest) : rest = [] ∨ ∃ c more, rest = c :: more ∧
    Text.isAsciiDigit c = false ∧ c ≠ 0x2e ∧ c ≠ 0x65 ∧ c ≠ 0x45 ∧ c ≠ 0x2d ∧ c ≠ 0x2b := by
  cases rest with
  | nil => exact .inl rfl
  | cons c more =>
    refine .inr ⟨c, more, rfl, ?_⟩
    rcases h c rfl with rfl | rfl | rfl | hspace
    · decide
    · decide
    · decide
    · simp only [isSpace, Bool.or_eq_true, decide_eq_true_iff] at hspace
      rcases hspace with ((rfl | rfl) | rfl) | rfl <;> decide

/-- A row of digits ends where the value ends. -/
theorem takeWhile_isAsciiDigit_append (h : Ends rest) (text : Text) :
    (text ++ rest).takeWhile Text.isAsciiDigit = text.takeWhile Text.isAsciiDigit := by
  have hrest : rest.takeWhile Text.isAsciiDigit = [] := by
    rcases h.cases with rfl | ⟨c, more, rfl, hdigit, -⟩
    · rfl
    · simp [hdigit]
  rw [List.takeWhile_append, hrest, List.append_nil]
  split
  · rename_i hall
    exact ((List.takeWhile_prefix _).eq_of_length hall).symm
  · rfl

theorem wholeDigits_append (h : Ends rest) (text : Text) :
    wholeDigits (text ++ rest) = wholeDigits text := by
  have hplain : ∀ text : Text, text.head? ≠ some 0x30 →
      wholeDigits text = text.takeWhile Text.isAsciiDigit := by
    intro text hzero
    unfold wholeDigits
    split
    · exact absurd rfl hzero
    · rfl
  cases text with
  | nil =>
    rcases h.cases with rfl | ⟨c, more, rfl, hdigit, -⟩
    · rfl
    · have hc : c ≠ 0x30 := by
        rintro rfl
        cases hdigit
      rw [List.nil_append, hplain (c :: more) (by simpa using hc)]
      simp [hdigit, wholeDigits]
  | cons c text =>
    by_cases hc : c = 0x30
    · rw [hc]
      rfl
    · rw [hplain (c :: text ++ rest) (by simpa using hc), hplain (c :: text) (by simpa using hc)]
      exact takeWhile_isAsciiDigit_append h (c :: text)

theorem wholeDigits_length_le (text : Text) : (wholeDigits text).length ≤ text.length := by
  unfold wholeDigits
  split
  · exact Nat.succ_le_succ (Nat.zero_le _)
  · exact (List.takeWhile_prefix _).length_le

theorem fractionDigits_append (h : Ends rest) (text : Text) :
    fractionDigits (text ++ rest) = fractionDigits text := by
  have hnone : ∀ text : Text, text.head? ≠ some 0x2e → fractionDigits text = [] := by
    intro text hpoint
    unfold fractionDigits
    split
    · exact absurd rfl hpoint
    · rfl
  cases text with
  | nil =>
    rcases h.cases with rfl | ⟨c, more, rfl, -, hpoint, -⟩
    · rfl
    · exact hnone (c :: more) (by simpa using hpoint)
  | cons c text =>
    by_cases hc : c = 0x2e
    · rw [hc]
      exact takeWhile_isAsciiDigit_append h text
    · rw [hnone (c :: text ++ rest) (by simpa using hc), hnone (c :: text) (by simpa using hc)]

/-- The point and the digits of a fraction are a part of the text. -/
theorem fractionDigits_length_le (text : Text) (h : fractionDigits text ≠ []) :
    (fractionDigits text).length + 1 ≤ text.length := by
  unfold fractionDigits at h ⊢
  split
  · exact Nat.succ_le_succ (List.takeWhile_prefix _).length_le
  · rename_i hother
    split at h
    · rename_i digits
      exact absurd rfl (hother digits)
    · exact absurd rfl h

theorem takeSign_append (h : Ends rest) (text : Text) :
    Decimal.takeSign (text ++ rest)
      = ((Decimal.takeSign text).1, (Decimal.takeSign text).2 ++ rest) := by
  have hnone : ∀ text : Text, text.head? ≠ some 0x2d → text.head? ≠ some 0x2b →
      Decimal.takeSign text = (false, text) := by
    intro text hminus hplus
    unfold Decimal.takeSign
    split
    · exact absurd rfl hminus
    · exact absurd rfl hplus
    · rfl
  cases text with
  | nil =>
    rcases h.cases with rfl | ⟨c, more, rfl, -, -, -, -, hminus, hplus⟩
    · rfl
    · exact hnone (c :: more) (by simpa using hminus) (by simpa using hplus)
  | cons c text =>
    by_cases hminus : c = 0x2d
    · rw [hminus]
      rfl
    by_cases hplus : c = 0x2b
    · rw [hplus]
      rfl
    rw [hnone (c :: text ++ rest) (by simpa using hminus) (by simpa using hplus),
      hnone (c :: text) (by simpa using hminus) (by simpa using hplus)]

theorem takeExponent?_append (h : Ends rest) (text : Text) :
    takeExponent? (text ++ rest)
      = (takeExponent? text).map fun (exponent, after) => (exponent, after ++ rest) := by
  cases text with
  | nil =>
    rcases h.cases with rfl | ⟨c, more, rfl, -, -, hsmall, hcapital, -⟩
    · rfl
    · exact if_neg (by rintro (rfl | rfl) <;> contradiction)
  | cons e text =>
    by_cases he : e = 0x65 ∨ e = 0x45
    · have hlength := (List.takeWhile_prefix (p := Text.isAsciiDigit)
        (l := (Decimal.takeSign text).2)).length_le
      simp only [takeExponent?, List.cons_append, if_pos he, takeSign_append h,
        takeWhile_isAsciiDigit_append h, List.drop_append_of_le_length hlength]
      split
      · rfl
      · rfl
    · simp only [takeExponent?, List.cons_append, if_neg he, Option.map_none]

/-! ## Numbers -/

/-- The sign of a number, and what follows it. -/
def takeMinus (text : Text) : Bool × Text :=
  match text with
  | 0x2d :: rest => (true, rest)
  | _ => (false, text)

theorem takeMinus_append (h : Ends rest) (text : Text) :
    takeMinus (text ++ rest) = ((takeMinus text).1, (takeMinus text).2 ++ rest) := by
  have hnone : ∀ text : Text, text.head? ≠ some 0x2d → takeMinus text = (false, text) := by
    intro text hminus
    unfold takeMinus
    split
    · exact absurd rfl hminus
    · rfl
  cases text with
  | nil =>
    rcases h.cases with rfl | ⟨c, more, rfl, -, -, -, -, hminus, -⟩
    · rfl
    · exact hnone (c :: more) (by simpa using hminus)
  | cons c text =>
    by_cases hc : c = 0x2d
    · rw [hc]
      rfl
    · rw [hnone (c :: text ++ rest) (by simpa using hc), hnone (c :: text) (by simpa using hc)]

/-- What follows the digits of a number before and after its point. -/
def afterFraction (unsigned : Text) : Text :=
  let afterWhole := unsigned.drop (wholeDigits unsigned).length
  if fractionDigits afterWhole = [] then afterWhole
  else afterWhole.drop ((fractionDigits afterWhole).length + 1)

/-- The number that follows a sign, with the sign in front of it. -/
def readUnsigned (text : Text) (negative : Bool) (unsigned : Text) :
    Except Stop (Value × Text) :=
  let whole := wholeDigits unsigned
  let afterWhole := unsigned.drop whole.length
  let fraction := fractionDigits afterWhole
  if whole = [] then stop .expectingValue text
  else match takeExponent? (afterFraction unsigned) with
    | some (exponent, rest) =>
      .ok (.float (Decimal.Numeral.toFloat ⟨negative, whole, fraction, exponent⟩), rest)
    | none =>
      if fraction ≠ [] then
        .ok (.float (Decimal.Numeral.toFloat ⟨negative, whole, fraction, 0⟩),
          afterFraction unsigned)
      else if Decimal.digitLimit < whole.length then stop (.tooManyDigits whole.length) text
      else
        let n := Decimal.natOfDigits whole
        .ok (.int (if negative then -n else n), afterWhole)

theorem readNumber_eq (text : Text) :
    readNumber text = readUnsigned text (takeMinus text).1 (takeMinus text).2 := by
  unfold readNumber
  split
  rename_i negative unsigned hsign
  have hminus : takeMinus text = (negative, unsigned) := hsign
  rw [hminus]
  rfl

theorem drop_wholeDigits_append (h : Ends rest) (unsigned : Text) :
    (unsigned ++ rest).drop (wholeDigits (unsigned ++ rest)).length
      = unsigned.drop (wholeDigits unsigned).length ++ rest := by
  rw [wholeDigits_append h, List.drop_append_of_le_length (wholeDigits_length_le unsigned)]

theorem afterFraction_append (h : Ends rest) (unsigned : Text) :
    afterFraction (unsigned ++ rest) = afterFraction unsigned ++ rest := by
  unfold afterFraction
  dsimp only
  rw [drop_wholeDigits_append h, fractionDigits_append h]
  split
  · rfl
  · rename_i hfraction
    exact List.drop_append_of_le_length (fractionDigits_length_le _ hfraction)

/-- What is read as a number, and what remains, whatever stands behind it, as long as that ends a
value. -/
theorem readNumber_toOption_append (h : Ends rest) (text : Text) :
    (readNumber (text ++ rest)).toOption
      = (readNumber text).toOption.map fun (found, after) => (found, after ++ rest) := by
  rw [readNumber_eq, readNumber_eq, takeMinus_append h]
  unfold readUnsigned
  dsimp only
  rw [drop_wholeDigits_append h, afterFraction_append h, takeExponent?_append h,
    fractionDigits_append h, wholeDigits_append h]
  split
  · rfl
  cases takeExponent? (afterFraction (takeMinus text).2) with
  | some found => rfl
  | none =>
    dsimp only [Option.map_none]
    split
    · rfl
    split
    · rfl
    · rfl

theorem toOption_eq_some_iff {ε α : Type} {r : Except ε α} {x : α} :
    r.toOption = some x ↔ r = .ok x := by
  cases r with
  | error e => exact ⟨nofun, nofun⟩
  | ok y => simp [Except.toOption]

/-- A number is read as such whatever stands behind it, as long as that ends a value. -/
theorem readNumber_append (h : Ends rest) (hread : readNumber text = .ok (found, after)) :
    readNumber (text ++ rest) = .ok (found, after ++ rest) := by
  rw [← toOption_eq_some_iff, readNumber_toOption_append h, toOption_eq_some_iff.2 hread]
  rfl

/-- What ends a value can be taken away from behind a number. -/
theorem readNumber_of_append (h : Ends rest)
    (hread : readNumber (text ++ rest) = .ok (found, rest)) :
    readNumber text = .ok (found, []) := by
  rw [← toOption_eq_some_iff, readNumber_toOption_append h, Option.map_eq_some_iff] at hread
  obtain ⟨⟨number, after⟩, hnumber, heq⟩ := hread
  obtain ⟨rfl, hafter⟩ := Prod.mk.inj heq
  rw [List.append_left_eq_self.1 hafter] at hnumber
  exact toOption_eq_some_iff.1 hnumber

/-- What remains behind a number is the end of the text. -/
theorem readNumber_suffix (hread : readNumber text = .ok (found, after)) : after <:+ text := by
  have hsign : (takeMinus text).2 <:+ text := by
    unfold takeMinus
    split
    · exact List.suffix_cons _ _
    · exact List.suffix_rfl
  have hfraction : afterFraction (takeMinus text).2 <:+ (takeMinus text).2 := by
    unfold afterFraction
    dsimp only
    split
    · exact List.drop_suffix _ _
    · exact (List.drop_suffix _ _).trans (List.drop_suffix _ _)
  have hexponent : ∀ {t more : Text} {e : Int}, takeExponent? t = some (e, more) → more <:+ t := by
    intro t more e h
    unfold takeExponent? at h
    split at h
    · rename_i c tail
      have htake : (Decimal.takeSign tail).2 <:+ tail := by
        unfold Decimal.takeSign
        split
        · exact List.suffix_cons _ _
        · exact List.suffix_cons _ _
        · exact List.suffix_rfl
      split at h
      · dsimp only at h
        split at h
        · cases h
        · cases h
          exact (List.drop_suffix _ _).trans (htake.trans (List.suffix_cons _ _))
      · cases h
    · cases h
  rw [readNumber_eq] at hread
  unfold readUnsigned at hread
  dsimp only at hread
  split at hread
  · cases hread
  split at hread
  · rename_i hfound
    cases hread
    exact (hexponent hfound).trans (hfraction.trans hsign)
  split at hread
  · cases hread
    exact hfraction.trans hsign
  split at hread
  · cases hread
  · cases hread
    exact (List.drop_suffix _ _).trans hsign

/-- A number begins with a digit, or with a sign and a digit. -/
theorem exists_digit_of_readNumber (hread : readNumber text = .ok (found, after)) :
    ∃ c rest, Text.isAsciiDigit c = true ∧ (text = c :: rest ∨ text = 0x2d :: c :: rest) := by
  have hdigit : ∀ unsigned : Text, wholeDigits unsigned ≠ [] →
      ∃ c rest, Text.isAsciiDigit c = true ∧ unsigned = c :: rest := by
    intro unsigned hwhole
    cases unsigned with
    | nil => exact absurd rfl hwhole
    | cons c rest =>
      refine ⟨c, rest, ?_, rfl⟩
      by_contra hc
      refine hwhole ?_
      unfold wholeDigits
      split
      · rename_i heq
        cases heq
        exact absurd rfl hc
      · exact List.takeWhile_cons_of_neg hc
  have hwhole : wholeDigits (takeMinus text).2 ≠ [] := by
    intro hnone
    rw [readNumber_eq, readUnsigned, if_pos hnone] at hread
    cases hread
  obtain ⟨c, rest, hc, hunsigned⟩ := hdigit _ hwhole
  refine ⟨c, rest, hc, ?_⟩
  unfold takeMinus at hunsigned
  split at hunsigned
  · exact .inr (congrArg (0x2d :: ·) hunsigned)
  · exact .inl hunsigned

/-! ## Integers -/

theorem wholeDigits_ofNat (n : Nat) : wholeDigits (Text.ofNat n) = Text.ofNat n := by
  rcases Nat.eq_zero_or_pos n with rfl | hpos
  · rfl
  · obtain ⟨c, rest, heq, hc⟩ := Text.exists_ofNat_eq_cons hpos
    have hall : (Text.ofNat n).takeWhile Text.isAsciiDigit = Text.ofNat n :=
      List.takeWhile_eq_self_iff.2 (Text.isAsciiDigit_of_mem_ofNat n)
    rw [heq] at hall ⊢
    unfold wholeDigits
    split
    · rename_i hzero
      cases hzero
      exact absurd rfl hc
    · exact hall

theorem readUnsigned_ofNat (text : Text) (negative : Bool) {n : Nat}
    (hlimit : (Text.ofNat n).length ≤ Decimal.digitLimit) :
    readUnsigned text negative (Text.ofNat n) = .ok (.int (if negative then -n else n), []) := by
  have hne : Text.ofNat n ≠ [] := by
    rw [Text.ofNat, ne_eq, List.map_eq_nil_iff]
    exact Nat.toDigits_ne_nil
  have hfront : (Text.ofNat n).drop (wholeDigits (Text.ofNat n)).length = [] := by
    rw [wholeDigits_ofNat, List.drop_length]
  have hafter : afterFraction (Text.ofNat n) = [] := by
    rw [afterFraction, hfront]
    rfl
  unfold readUnsigned
  dsimp only
  rw [hafter, hfront, wholeDigits_ofNat, if_neg hne, if_neg (Nat.not_lt.2 hlimit),
    Decimal.natOfDigits_ofNat]
  rfl

theorem length_ofNat_le (n : Nat) (h : Decimal.digitCount n ≤ Decimal.digitLimit) :
    (Text.ofNat n).length ≤ Decimal.digitLimit := by
  rw [Text.ofNat, List.length_map]
  unfold Decimal.digitCount at h
  split at h
  · rename_i hzero
    rw [hzero]
    decide
  · exact h

/-- An integer is read back from its text. -/
theorem readNumber_ofInt {i : Int} (h : Decimal.digitCount i.natAbs ≤ Decimal.digitLimit) :
    readNumber (Text.ofInt i) = .ok (.int i, []) := by
  have hlimit := length_ofNat_le i.natAbs h
  rw [readNumber_eq]
  cases i with
  | ofNat n =>
    have hminus : takeMinus (Text.ofNat n) = (false, Text.ofNat n) := by
      unfold takeMinus
      split
      · rename_i rest heq
        have hdigit := Text.isAsciiDigit_of_mem_ofNat n 0x2d (by rw [heq]; exact List.mem_cons_self)
        cases hdigit
      · rfl
    rw [Text.ofInt, hminus]
    exact readUnsigned_ofNat _ false hlimit
  | negSucc n => exact readUnsigned_ofNat _ true hlimit

end Json

end Colloquy
