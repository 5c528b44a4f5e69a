import Mathlib

/-!
# When rounding overflows

A float is made by shifting a mantissa to the exponent that fits its size and rounding it there.
Shifting keeps a round bit and a sticky bit, which together tell where the exact number lies
(`Represents`), so rounding the mantissa is rounding the exact number.  The result is finite
just when the exact number is below the middle between the greatest float and the next power of
two (`fits_roundWithAccuracy_iff`).
-/

namespace Colloquy.Decimal

open Float.Model Float.Model.UnpackedFloat

/-! ## The bits that are shifted out -/

/-- A mantissa with the two bits behind it tells where a number lies. -/
def Represents : ExtendedMantissa → ℚ → Prop
  | ⟨m, false, false⟩, x => x = m
  | ⟨m, false, true⟩, x => m < x ∧ x < m + 1 / 2
  | ⟨m, true, false⟩, x => x = m + 1 / 2
  | ⟨m, true, true⟩, x => m + 1 / 2 < x ∧ x < m + 1

namespace Represents

variable {em : ExtendedMantissa} {x : ℚ}

theorem mantissa_le (h : Represents em x) : em.mantissa ≤ x := by
  obtain ⟨m, _ | _, _ | _⟩ := em <;> simp only [Represents] at h ⊢ <;> linarith

theorem lt_mantissa (h : Represents em x) : x < em.mantissa + 1 := by
  obtain ⟨m, _ | _, _ | _⟩ := em <;> simp only [Represents] at h ⊢ <;> linarith

theorem shiftRightOne (h : Represents em x) : Represents em.shiftRightOne (x / 2) := by
  obtain ⟨m, r, s⟩ := em
  have hdivision : ((m / 2 : ℕ) : ℚ) * 2 + ((m % 2 : ℕ) : ℚ) = m := by
    exact_mod_cast Nat.div_add_mod' m 2
  have hone : ((1 : ℕ) != 0) = true := rfl
  have hzero : ((0 : ℕ) != 0) = false := rfl
  rcases Nat.mod_two_eq_zero_or_one m with hm | hm
  all_goals
    rw [hm] at hdivision
    push_cast at hdivision
    obtain _ | _ := r <;> obtain _ | _ := s <;>
      simp only [Represents, ExtendedMantissa.shiftRightOne, hm, hone, hzero, Bool.or_false,
        Bool.or_true] at h ⊢ <;>
      first | linarith | constructor <;> linarith

theorem shiftRight (h : Represents em x) (n : ℕ) : Represents (em >>> n) (x / 2 ^ n) := by
  show Represents (n.repeat ExtendedMantissa.shiftRightOne em) _
  induction n with
  | zero => simpa [Nat.repeat] using h
  | succ n ih =>
    rw [Nat.repeat, pow_succ, ← div_div]
    exact ih.shiftRightOne

theorem mantissa_le_rounded (em : ExtendedMantissa) : em.mantissa ≤ em.roundedMantissa := by
  obtain ⟨m, _ | _, _ | _⟩ := em <;>
    simp [ExtendedMantissa.roundedMantissa, ExtendedMantissa.accuracy, Accuracy.roundToNearestEven]

theorem rounded_le (em : ExtendedMantissa) : em.roundedMantissa ≤ em.mantissa + 1 := by
  obtain ⟨m, _ | _, _ | _⟩ := em <;>
    simp [ExtendedMantissa.roundedMantissa, ExtendedMantissa.accuracy, Accuracy.roundToNearestEven]
  omega

/-- The middle below an even number is rounded to that number. -/
theorem rounded_lt_iff (h : Represents em x) {n : ℕ} (hn : n % 2 = 0) :
    em.roundedMantissa < n ↔ x < n - 1 / 2 := by
  obtain ⟨m, r, s⟩ := em
  -- Below the middle means below by one, and above the middle means below by two.
  have hlow : m < n ↔ (m : ℚ) + 1 ≤ n := by exact_mod_cast Nat.lt_iff_add_one_le
  have hlow' : m < n ↔ (m : ℚ) < n := by exact_mod_cast Iff.rfl
  have hhigh : m + 1 < n ↔ (m : ℚ) + 2 ≤ n := by exact_mod_cast Nat.lt_iff_add_one_le
  have hhigh' : m + 1 < n ↔ (m : ℚ) + 1 < n := by exact_mod_cast Iff.rfl
  obtain _ | _ := r <;> obtain _ | _ := s <;>
    simp only [Represents, ExtendedMantissa.roundedMantissa, ExtendedMantissa.accuracy,
      Accuracy.roundToNearestEven] at h ⊢
  · rw [h]
    exact ⟨fun hm => by linarith [hlow.1 hm], fun hx => hlow'.2 (by linarith)⟩
  · exact ⟨fun hm => by linarith [hlow.1 hm], fun hx => hlow'.2 (by linarith)⟩
  · have heven : m + m % 2 < n ↔ m + 1 < n := by omega
    rw [h, heven]
    exact ⟨fun hm => by linarith [hhigh.1 hm], fun hx => hhigh'.2 (by linarith)⟩
  · exact ⟨fun hm => by linarith [hhigh.1 hm], fun hx => hhigh'.2 (by linarith)⟩

end Represents

theorem represents_exact (m : ℕ) : Represents (.ofMantissaAndAccuracy m .exact) m :=
  rfl

theorem mantissa_ofMantissaAndAccuracy (m : ℕ) (a : Accuracy) :
    (ExtendedMantissa.ofMantissaAndAccuracy m a).mantissa = m := by
  obtain _ | (_ | _ | _) := a <;> rfl

/-- A quotient with its remainder tells where the exact quotient lies. -/
theorem represents_div {m n : ℕ} (hn : 0 < n) :
    Represents (.ofMantissaAndAccuracy (m / n) (accuracyOfFraction (m % n) n)) (m / n : ℚ) := by
  have hpos : (0 : ℚ) < n := by exact_mod_cast hn
  have hdivision : (n : ℚ) * ((m / n : ℕ) : ℚ) + ((m % n : ℕ) : ℚ) = m := by
    exact_mod_cast Nat.div_add_mod m n
  have hquotient : (m / n : ℚ) = ((m / n : ℕ) : ℚ) + ((m % n : ℕ) : ℚ) / n := by
    rw [← hdivision, add_div, mul_div_cancel_left₀ _ hpos.ne']
  have hless : ((m % n : ℕ) : ℚ) / n < 1 := by
    rw [div_lt_one hpos]
    exact_mod_cast Nat.mod_lt m hn
  rw [hquotient]
  unfold accuracyOfFraction
  split
  · rename_i hexact
    simp [hexact, Represents, ExtendedMantissa.ofMantissaAndAccuracy]
  · rename_i hrest
    have hmore : (0 : ℚ) < ((m % n : ℕ) : ℚ) / n := by
      refine div_pos ?_ hpos
      exact_mod_cast Nat.pos_of_ne_zero hrest
    rcases Nat.lt_trichotomy (2 * (m % n)) n with hlt | heq | hgt
    · have hhalf : ((m % n : ℕ) : ℚ) / n < 1 / 2 := by
        rw [div_lt_div_iff₀ hpos two_pos, one_mul, mul_comm]
        exact_mod_cast hlt
      rw [Nat.compare_eq_lt.2 hlt]
      exact ⟨by linarith, by linarith⟩
    · have hhalf : ((m % n : ℕ) : ℚ) / n = 1 / 2 := by
        rw [div_eq_div_iff hpos.ne' two_ne_zero, one_mul, mul_comm]
        exact_mod_cast heq
      rw [Nat.compare_eq_eq.2 heq]
      show _ = _ + _
      rw [hhalf]
    · have hhalf : 1 / 2 < ((m % n : ℕ) : ℚ) / n := by
        rw [div_lt_div_iff₀ two_pos hpos, one_mul, mul_comm _ (2 : ℚ)]
        exact_mod_cast hgt
      rw [Nat.compare_eq_gt.2 hgt]
      exact ⟨by linarith, by linarith⟩

/-! ## Rounding to the format -/

/-- The exponent at which a number is rounded. -/
def gridExponent (m : ℕ) (e : ℤ) : ℤ :=
  Format.binary64.targetExponent (totalExponent m e)

theorem gridExponent_eq (m : ℕ) (e : ℤ) : gridExponent m e = max (m.log2 + e - 52) (-1074) := by
  simp only [gridExponent, Format.targetExponent, totalExponent, Format.mantissaBits,
    Format.minExponent]
  norm_num
  omega

/-- A result of rounding that the format can hold. -/
def Fits : UnpackedFloat → Prop
  | .zero _ => True
  | .finite _ _ e _ => e ≤ 971
  | .infinity _ | .notANumber => False

theorem mantissa_shiftRight (em : ExtendedMantissa) (k : ℕ) :
    (em >>> k).mantissa = em.mantissa / 2 ^ k := by
  show (k.repeat ExtendedMantissa.shiftRightOne em).mantissa = _
  induction k with
  | zero => simp [Nat.repeat]
  | succ k ih =>
    rw [Nat.repeat, ExtendedMantissa.shiftRightOne, ih, Nat.div_div_eq_div_mul, Nat.pow_succ]

/-- A mantissa of at most 53 bits is already on the grid. -/
theorem shiftToTargetExponent_small {m : ℕ} {e : ℤ} (hm : m < 2 ^ 53) (he : -1074 ≤ e) :
    shiftToTargetExponent Format.binary64 m e .exact = (⟨m, false, false⟩, e) := by
  have hlog : m.log2 ≤ 52 := by
    by_cases hzero : m = 0
    · simp [hzero]
    · have := (Nat.log2_lt hzero).2 hm
      omega
  have hgrid : (gridExponent m e - e).toNat = 0 := by
    rw [gridExponent_eq]
    omega
  rw [shiftToTargetExponent, ← gridExponent, shiftToExponent, hgrid]
  simp [ExtendedMantissa.ofMantissaAndAccuracy, HShiftRight.hShiftRight, Nat.repeat]

/-- A mantissa that was rounded up to the next power of two is shifted once more. -/
theorem shiftToTargetExponent_carry {e : ℤ} (he : -1074 ≤ e) :
    shiftToTargetExponent Format.binary64 (2 ^ 53) e .exact = (⟨2 ^ 52, false, false⟩, e + 1) := by
  have hgrid : (gridExponent (2 ^ 53) e - e).toNat = 1 := by
    rw [gridExponent_eq, Nat.log2_two_pow]
    omega
  rw [shiftToTargetExponent, ← gridExponent, shiftToExponent, hgrid]
  rfl

/-- By how much a mantissa is shifted to the grid. -/
def gridShift (m : ℕ) (e : ℤ) : ℕ :=
  (gridExponent m e - e).toNat

/-- A mantissa that was shifted to the grid and rounded there. -/
def gridMantissa (m : ℕ) (e : ℤ) (a : Accuracy) : ℕ :=
  (ExtendedMantissa.ofMantissaAndAccuracy m a >>> gridShift m e).roundedMantissa

theorem shifted_lt (m : ℕ) (e : ℤ) : m / 2 ^ gridShift m e < 2 ^ 53 := by
  have hlog : m.log2 + 1 ≤ 53 + gridShift m e := by
    rw [gridShift, gridExponent_eq]
    omega
  rw [Nat.div_lt_iff_lt_mul (by positivity), ← Nat.pow_add]
  exact lt_of_lt_of_le Nat.lt_log2_self (Nat.pow_le_pow_right two_pos hlog)

theorem neg_le_add_gridShift (m : ℕ) (e : ℤ) : -1074 ≤ e + gridShift m e := by
  rw [gridShift, gridExponent_eq]
  omega

theorem gridMantissa_le (m : ℕ) (e : ℤ) (a : Accuracy) : gridMantissa m e a ≤ 2 ^ 53 := by
  have hrounded := Represents.rounded_le
    (ExtendedMantissa.ofMantissaAndAccuracy m a >>> gridShift m e)
  rw [mantissa_shiftRight, mantissa_ofMantissaAndAccuracy] at hrounded
  have := shifted_lt m e
  rw [gridMantissa]
  omega

/-- A number is rounded on its grid, and moves to the next one when it reaches a power of two. -/
theorem roundWithAccuracy_eq (s : Sign) (m : ℕ) (e : ℤ) (a : Accuracy) :
    roundWithAccuracy Format.binary64 s m e a =
      if h : gridMantissa m e a = 0 then .zero s
      else if gridMantissa m e a < 2 ^ 53 then
        .finite s (gridMantissa m e a) (e + gridShift m e) (Nat.pos_of_ne_zero h)
      else .finite s (2 ^ 52) (e + gridShift m e + 1) (by decide) := by
  have hfirst : shiftToTargetExponent Format.binary64 m e a =
      (ExtendedMantissa.ofMantissaAndAccuracy m a >>> gridShift m e, e + gridShift m e) :=
    rfl
  have hrounded : (ExtendedMantissa.ofMantissaAndAccuracy m a >>> gridShift m e).roundedMantissa
      = gridMantissa m e a :=
    rfl
  have hlow := neg_le_add_gridShift m e
  unfold roundWithAccuracy
  simp only [hfirst, hrounded]
  rcases (gridMantissa_le m e a).lt_or_eq with hsmall | hcarry
  · simp only [shiftToTargetExponent_small hsmall hlow, hsmall, if_true]
  · simp only [hcarry, shiftToTargetExponent_carry hlow]
    rfl

/-- The result of rounding fits when it is zero, or when the exponent fits that it ends up with. -/
theorem fits_iff_gridShift (s : Sign) (m : ℕ) (e : ℤ) (a : Accuracy) :
    Fits (roundWithAccuracy Format.binary64 s m e a) ↔ gridMantissa m e a = 0 ∨
      e + gridShift m e ≤ 970 ∨ e + gridShift m e = 971 ∧ gridMantissa m e a < 2 ^ 53 := by
  rw [roundWithAccuracy_eq]
  split_ifs with hzero hsmall
  · exact iff_of_true trivial (.inl hzero)
  · show e + gridShift m e ≤ 971 ↔ _
    omega
  · show e + gridShift m e + 1 ≤ 971 ↔ _
    omega

/-- The middle between the greatest float and the next power of two. -/
def overflowBound : ℚ :=
  2 ^ 1024 - 2 ^ 970

theorem overflowBound_eq : overflowBound = (2 ^ 54 - 1) * 2 ^ 970 := by
  have hpower : (2 : ℚ) ^ 1024 = 2 ^ 54 * 2 ^ 970 := by rw [← pow_add]
  rw [overflowBound, hpower, sub_mul, one_mul]

/-- The result of rounding fits just when the exact number is below the middle between the greatest
float and the next power of two. -/
theorem fits_roundWithAccuracy_iff (s : Sign) {m : ℕ} {e : ℤ} {a : Accuracy} {x : ℚ}
    (h : Represents (.ofMantissaAndAccuracy m a) x) (he : e ≤ 971) :
    Fits (roundWithAccuracy Format.binary64 s m e a) ↔ x * 2 ^ e < overflowBound := by
  -- The number in units of its grid, and the grid.
  have hshifted := h.shiftRight (gridShift m e)
  have hvalue : x * 2 ^ e = x / 2 ^ gridShift m e * 2 ^ (e + gridShift m e) := by
    rw [zpow_add₀ two_ne_zero, zpow_natCast, mul_comm ((2 : ℚ) ^ e), ← mul_assoc,
      div_mul_cancel₀ _ (by positivity)]
  have hmiddle : gridMantissa m e a < 2 ^ 53 ↔ x / 2 ^ gridShift m e < 2 ^ 53 - 1 / 2 := by
    have hiff := hshifted.rounded_lt_iff (n := 2 ^ 53) (by decide)
    push_cast at hiff
    exact hiff
  have hless : x / 2 ^ gridShift m e < 2 ^ 53 := by
    have hfloor := hshifted.lt_mantissa
    rw [mantissa_shiftRight, mantissa_ofMantissaAndAccuracy] at hfloor
    have hnat : ((m / 2 ^ gridShift m e : ℕ) : ℚ) + 1 ≤ 2 ^ 53 := by
      exact_mod_cast shifted_lt m e
    linarith
  have hunit : (0 : ℚ) < 2 ^ 970 := by positivity
  rw [fits_iff_gridShift, hvalue, overflowBound_eq]
  rcases lt_trichotomy (e + gridShift m e) 971 with hgrid | hgrid | hgrid
  · refine iff_of_true (.inr (.inl (by omega))) ?_
    have hexponent : (2 : ℚ) ^ (e + gridShift m e) ≤ 2 ^ 970 := by
      rw [← zpow_ofNat]
      exact zpow_le_zpow_right₀ one_le_two (by omega)
    calc x / 2 ^ gridShift m e * 2 ^ (e + gridShift m e)
        < 2 ^ 53 * 2 ^ (e + gridShift m e) := mul_lt_mul_of_pos_right hless (by positivity)
      _ ≤ 2 ^ 53 * 2 ^ 970 := mul_le_mul_of_nonneg_left hexponent (by positivity)
      _ < (2 ^ 54 - 1) * 2 ^ 970 := mul_lt_mul_of_pos_right (by norm_num) hunit
  · have hpower : (2 : ℚ) ^ (971 : ℤ) = 2 * 2 ^ 970 := by rw [zpow_ofNat, ← pow_succ']
    have hdouble (u : ℚ) : (2 ^ 54 - 1) * u = (2 ^ 53 - 1 / 2) * (2 * u) := by ring
    rw [hgrid, hpower, hdouble, mul_lt_mul_iff_left₀ (by positivity), ← hmiddle]
    omega
  · have hlog : m.log2 = 52 + gridShift m e := by
      rw [gridShift, gridExponent_eq] at hgrid ⊢
      omega
    have hpos : m ≠ 0 := by
      rintro rfl
      rw [Nat.log2_zero] at hlog
      omega
    have hfloor : 2 ^ 52 ≤ m / 2 ^ gridShift m e := by
      rw [Nat.le_div_iff_mul_le (by positivity), ← Nat.pow_add, ← hlog]
      exact Nat.log2_self_le hpos
    have hrounded := Represents.mantissa_le_rounded
      (ExtendedMantissa.ofMantissaAndAccuracy m a >>> gridShift m e)
    have hbelow := hshifted.mantissa_le
    rw [mantissa_shiftRight, mantissa_ofMantissaAndAccuracy] at hrounded hbelow
    refine iff_of_false ?_ (not_lt.2 ?_)
    · rw [gridMantissa]
      omega
    · have hexponent : (2 : ℚ) ^ 972 ≤ 2 ^ (e + gridShift m e) := by
        rw [← zpow_ofNat]
        exact zpow_le_zpow_right₀ one_le_two (by omega)
      have hpower : (2 : ℚ) ^ 972 = 4 * 2 ^ 970 := by
        rw [pow_add 2 2 970]
        norm_num
      have hleast : (2 ^ 52 : ℚ) ≤ x / 2 ^ gridShift m e := by
        refine le_trans ?_ hbelow
        exact_mod_cast hfloor
      calc (2 ^ 54 - 1) * 2 ^ 970 ≤ (2 ^ 52 * 4 : ℚ) * 2 ^ 970 :=
            mul_le_mul_of_nonneg_right (by norm_num) hunit.le
        _ = 2 ^ 52 * 2 ^ 972 := by rw [hpower, mul_assoc]
        _ ≤ x / 2 ^ gridShift m e * 2 ^ (e + gridShift m e) := by gcongr

end Colloquy.Decimal
