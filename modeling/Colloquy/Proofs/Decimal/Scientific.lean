import Colloquy.Decimal.Reader
import Colloquy.Proofs.Decimal.Packing

/-!
# The range of decimals

A decimal is rounded to the nearest float through a product or a quotient with a power of
ten.  Whichever way is taken, the float is finite just when the decimal is below the bound
of overflow (`isFinite_nearestFloat_iff`), and a decimal without a sign is not below zero.
-/

namespace Colloquy.Decimal

open Float.Model
open Float.Model.UnpackedFloat hiding pack unpack

/-! ## Products and quotients -/

section

variable {s₁ s₂ : Sign} {m₁ m₂ : ℕ} {e₁ e₂ : ℤ} {h₁ : 0 < m₁} {h₂ : 0 < m₂}

theorem fits_mul_iff (he : e₁ + e₂ ≤ 971) :
    Fits (UnpackedFloat.mul Format.binary64 (.finite s₁ m₁ e₁ h₁) (.finite s₂ m₂ e₂ h₂)) ↔
      (m₁ * 2 ^ e₁ : ℚ) * (m₂ * 2 ^ e₂) < overflowBound := by
  have hproduct : (m₁ * 2 ^ e₁ : ℚ) * (m₂ * 2 ^ e₂) = (m₁ * m₂ : ℕ) * 2 ^ (e₁ + e₂) := by
    push_cast
    rw [zpow_add₀ two_ne_zero]
    ring
  rw [hproduct]
  exact fits_roundWithAccuracy_iff _ (represents_exact _) he

theorem fits_div_iff (he : e₁ - e₂ ≤ 971) :
    Fits (UnpackedFloat.div Format.binary64 (.finite s₁ m₁ e₁ h₁) (.finite s₂ m₂ e₂ h₂)) ↔
      (m₁ * 2 ^ e₁ : ℚ) / (m₂ * 2 ^ e₂) < overflowBound := by
  -- The dividend is widened to this exponent first, so that the quotient has bits enough.
  obtain ⟨t, ht⟩ : ∃ t, t = min (e₁ - e₂) (Format.binary64.targetExponent
    (totalExponent m₁ e₁ - totalExponent m₂ e₂)) := ⟨_, rfl⟩
  have hwidened : UnpackedFloat.div Format.binary64 (.finite s₁ m₁ e₁ h₁) (.finite s₂ m₂ e₂ h₂) =
      roundWithAccuracy Format.binary64 (s₁ / s₂) (m₁ <<< (e₁ - e₂ - t).toNat / m₂) t
        (accuracyOfFraction (m₁ <<< (e₁ - e₂ - t).toNat % m₂) m₂) := by
    rw [ht]
    rfl
  have hquotient : (m₁ * 2 ^ e₁ : ℚ) / (m₂ * 2 ^ e₂)
      = ((m₁ <<< (e₁ - e₂ - t).toNat : ℕ) : ℚ) / m₂ * 2 ^ t := by
    have hnat : ((e₁ - e₂ - t).toNat : ℤ) = e₁ - e₂ - t := Int.toNat_of_nonneg (by omega)
    have hpower : (2 : ℚ) ^ (e₁ - e₂ - t).toNat * 2 ^ t = 2 ^ e₁ / 2 ^ e₂ := by
      rw [← zpow_natCast, hnat, ← zpow_add₀ two_ne_zero, ← zpow_sub₀ two_ne_zero, sub_add_cancel]
    rw [Nat.shiftLeft_eq, Nat.cast_mul, Nat.cast_pow, Nat.cast_ofNat, mul_div_mul_comm, ← hpower]
    ring
  rw [hwidened, hquotient]
  exact fits_roundWithAccuracy_iff _ (represents_div h₂) (by omega)

end

theorem nonnegative_roundWithAccuracy (m : ℕ) (e : ℤ) (a : Accuracy) :
    Nonnegative (roundWithAccuracy Format.binary64 .positive m e a) := by
  rw [roundWithAccuracy_eq]
  split_ifs <;> trivial

/-! ## Powers of ten -/

theorem overflowBound_lt : overflowBound < 10 ^ 320 := by
  have hunit : (0 : ℚ) < 2 ^ 970 := by positivity
  calc overflowBound < 2 ^ 1024 := sub_lt_self _ hunit
    _ = (2 ^ 16) ^ 64 := by rw [← pow_mul]
    _ ≤ (10 ^ 5) ^ 64 := by gcongr; norm_num
    _ = 10 ^ 320 := by rw [← pow_mul]

theorem lt_overflowBound : (2 : ℚ) ^ 200 < overflowBound := by
  have hunit : (0 : ℚ) < 2 ^ 970 := by positivity
  calc (2 : ℚ) ^ 200 ≤ 2 ^ 970 := pow_le_pow_right₀ one_le_two (by decide)
    _ = 1 * 2 ^ 970 := (one_mul _).symm
    _ < (2 ^ 54 - 1) * 2 ^ 970 := mul_lt_mul_of_pos_right (by norm_num) hunit
    _ = overflowBound := overflowBound_eq.symm

theorem overflowBound_le_ten_zpow {e : ℤ} (he : 320 ≤ e) : overflowBound ≤ (10 : ℚ) ^ e := by
  have hpower : (10 : ℚ) ^ (320 : ℤ) ≤ 10 ^ e := zpow_le_zpow_right₀ (by norm_num) he
  rw [zpow_ofNat] at hpower
  exact overflowBound_lt.le.trans hpower

theorem natCast_lt_ten_pow_log2 (m : ℕ) : (m : ℚ) < 10 ^ (m.log2 + 1) := by
  have hpower : m < 10 ^ (m.log2 + 1) :=
    Nat.lt_log2_self.trans_le (Nat.pow_le_pow_left (by decide) _)
  exact_mod_cast hpower

/-- A decimal is rounded to something that fits just when it is below the bound of overflow. -/
theorem fits_ofScientific_iff {m : ℕ} (hm : 0 < m) (e : ℤ) :
    Fits (UnpackedFloat.ofScientific Format.binary64 m e) ↔ (m : ℚ) * 10 ^ e < overflowBound := by
  have hone : (1 : ℚ) ≤ m := by exact_mod_cast hm
  unfold UnpackedFloat.ofScientific
  split_ifs with hzero hlarge hsmall hsign
  · omega
  · have hexponent : 320 ≤ e := by
      have hvalue : e > 2048 := hlarge
      omega
    refine iff_of_false (by simp [Fits]) (not_lt.2 ?_)
    calc overflowBound ≤ 1 * 10 ^ e := by rw [one_mul]; exact overflowBound_le_ten_zpow hexponent
      _ ≤ m * 10 ^ e := by gcongr
  · have hexponent : (m.log2 : ℤ) + 1 ≤ -e := by
      have hvalue : e < -(2048 + m.log2) := hsmall
      omega
    refine iff_of_true trivial ?_
    calc (m : ℚ) * 10 ^ e < 10 ^ (m.log2 + 1) * 10 ^ e := by
          gcongr
          exact natCast_lt_ten_pow_log2 m
      _ = 10 ^ ((m.log2 : ℤ) + 1 + e) := by
          rw [zpow_add₀ (by norm_num : (10 : ℚ) ≠ 0)]
          norm_cast
      _ ≤ 10 ^ (0 : ℤ) := zpow_le_zpow_right₀ (by norm_num) (by omega)
      _ < overflowBound := by
          rw [zpow_zero]
          exact lt_of_le_of_lt (one_le_pow₀ one_le_two) lt_overflowBound
  · have hnat : (10 : ℚ) ^ e = 10 ^ e.toNat := by
      rw [← zpow_natCast, Int.toNat_of_nonneg hsign]
    rw [fits_mul_iff (by decide), Nat.shiftLeft_eq, Nat.cast_mul, Nat.cast_pow, Nat.cast_pow,
      Nat.cast_ofNat, Nat.cast_ofNat, zpow_neg, zpow_natCast, mul_assoc (m : ℚ),
      mul_inv_cancel₀ (by positivity), zpow_zero, mul_one, mul_one, hnat]
  · have hnat : (10 : ℚ) ^ e = (10 ^ (-e).toNat)⁻¹ := by
      rw [← zpow_natCast, Int.toNat_of_nonneg (by omega), zpow_neg, inv_inv]
    rw [fits_div_iff (by decide), zpow_zero, mul_one, mul_one, Nat.cast_pow, Nat.cast_ofNat, hnat,
      div_eq_mul_inv]

theorem nonnegative_ofScientific (m : ℕ) (e : ℤ) :
    Nonnegative (UnpackedFloat.ofScientific Format.binary64 m e) := by
  unfold UnpackedFloat.ofScientific
  split_ifs
  · trivial
  · trivial
  · trivial
  · exact nonnegative_roundWithAccuracy _ _ _
  · exact nonnegative_roundWithAccuracy _ _ _

/-! ## Floats -/

theorem isFinite_pack_iff (x : UnpackedFloat) :
    (Float.ofModel (Float.Model.pack x)).isFinite = true ↔ Fits x :=
  isFinite_unpack_pack_iff x

theorem unpack_zero : (0.0 : Float).toModel.unpack = .zero .positive := by
  have hbits : (0.0 : Float).toModel.toBits = 0 := by decide +kernel
  rw [Float.Model.unpack, hbits]
  rfl

theorem zero_le_iff (x : Float) : 0.0 ≤ x ↔ Nonnegative x.toModel.unpack := by
  show decide ((0.0 : Float).toModel ≤ x.toModel) = true ↔ _
  rw [decide_eq_true_iff]
  show UnpackedFloat.le (0.0 : Float).toModel.unpack x.toModel.unpack = true ↔ _
  rw [unpack_zero]
  rcases x.toModel.unpack with (_ | _) | _ | _ | ⟨_ | _, m, e, h⟩ <;>
    simp [UnpackedFloat.le, UnpackedFloat.compare, Nonnegative]

/-- A number of at most 53 bits becomes a float of that size. -/
theorem moderate_toFloat {m : ℕ} (hm : 0 < m) (hsize : m < 2 ^ 53) :
    Moderate .positive (-1074) 1 m.toUInt64.toFloat.toModel.unpack := by
  have hnat : m.toUInt64.toNat = m := by
    rw [UInt64.toNat_ofNat']
    exact Nat.mod_eq_of_lt (by omega)
  have hnormal : m.toUInt64.toFloat.toModel = Float.Model.pack
      (UnpackedFloat.normalize Format.binary64 (m.toUInt64.toNat : ℤ) 0 .positive) :=
    rfl
  have hcompare : compare (m : ℤ) 0 = .gt := by
    rw [Int.compare_eq_gt]
    exact_mod_cast hm
  have hlog : m.log2 ≤ 52 := by
    have := (Nat.log2_lt hm.ne').2 hsize
    omega
  obtain ⟨k, hk⟩ : ∃ k, k = (0 - gridExponent m 0).toNat := ⟨_, rfl⟩
  have hround : UnpackedFloat.normalize Format.binary64 (m : ℤ) 0 .positive =
      roundWithAccuracy Format.binary64 .positive (m <<< k) (0 - k) .exact := by
    rw [UnpackedFloat.normalize, hcompare, hk]
    rfl
  rw [hnormal, hnat, hround, roundWithAccuracy_eq]
  rw [gridExponent_eq] at hk
  have hwide : (m <<< k).log2 ≤ 52 := by
    have hshifted : m <<< k < 2 ^ 53 := by
      have hk' : m.log2 + 1 + k = 53 := by omega
      rw [Nat.shiftLeft_eq, ← hk', Nat.pow_add]
      exact Nat.mul_lt_mul_of_pos_right Nat.lt_log2_self (by positivity)
    have hne : m <<< k ≠ 0 := by
      rw [Nat.shiftLeft_eq]
      positivity
    have := (Nat.log2_lt hne).2 hshifted
    omega
  have hgrid : (0 - k + gridShift (m <<< k) (0 - k) : ℤ) ≤ 0 := by
    rw [gridShift, gridExponent_eq]
    omega
  have hlow := neg_le_add_gridShift (m <<< k) (0 - k)
  split_ifs with hzero
  · exact .zero
  · exact moderate_unpack_pack (Nat.pos_of_ne_zero hzero) hlow (by omega) (by decide)
  · exact moderate_unpack_pack (by decide) (by omega) (by omega) (by decide)

/-- A float from one up to the greatest power of ten that is a float. -/
def IsPowerSized : UnpackedFloat → Bool
  | .finite .positive m e _ => 2 ^ 52 ≤ m && m < 2 ^ 53 && -52 ≤ e && e ≤ 21
  | _ => false

theorem isPowerSized_powersOfTen : ∀ e : Fin Float.exactlyRepresentablePowersOfTen.size,
    IsPowerSized Float.exactlyRepresentablePowersOfTen[e].toModel.unpack = true := by
  decide +kernel

theorem exists_of_isPowerSized {x : UnpackedFloat} (h : IsPowerSized x = true) :
    ∃ m e h, x = .finite .positive m e h ∧ m < 2 ^ 53 ∧ -52 ≤ e ∧ e ≤ 21 ∧
      (1 : ℚ) ≤ m * 2 ^ e := by
  rcases x with _ | _ | _ | ⟨_ | _, m, e, hpos⟩ <;> simp [IsPowerSized] at h
  obtain ⟨⟨⟨hleast, hm⟩, hlow⟩, hhigh⟩ := h
  refine ⟨m, e, hpos, rfl, hm, hlow, hhigh, ?_⟩
  have hcast : (2 ^ 52 : ℚ) ≤ m := by exact_mod_cast hleast
  calc (1 : ℚ) = 2 ^ 52 * 2 ^ (-52 : ℤ) := by norm_num
    _ ≤ m * 2 ^ e := by
      gcongr
      exact one_le_two

/-- A number of at most 53 bits stays in range when a power of ten is applied to it. -/
theorem fits_scaled {x y : UnpackedFloat} (hx : Moderate .positive (-1074) 1 x)
    (hy : IsPowerSized y = true) :
    (Fits (UnpackedFloat.mul Format.binary64 x y) ∧
        Nonnegative (UnpackedFloat.mul Format.binary64 x y)) ∧
      Fits (UnpackedFloat.div Format.binary64 x y) ∧
        Nonnegative (UnpackedFloat.div Format.binary64 x y) := by
  obtain ⟨m₂, e₂, h₂, rfl, hm₂, hlow₂, hhigh₂, hleast⟩ := exists_of_isPowerSized hy
  cases hx with
  | zero => exact ⟨⟨trivial, trivial⟩, trivial, trivial⟩
  | @finite m₁ e₁ h₁ hm₁ hlow₁ hhigh₁ =>
    have hfirst : (m₁ * 2 ^ e₁ : ℚ) ≤ 2 ^ 54 := by
      have hsize : (m₁ : ℚ) ≤ 2 ^ 53 := by exact_mod_cast hm₁.le
      calc (m₁ * 2 ^ e₁ : ℚ) ≤ 2 ^ 53 * 2 ^ (1 : ℤ) := by
            gcongr
            exact one_le_two
        _ = 2 ^ 54 := by norm_num
    have hsecond : (m₂ * 2 ^ e₂ : ℚ) ≤ 2 ^ 74 := by
      have hsize : (m₂ : ℚ) ≤ 2 ^ 53 := by exact_mod_cast hm₂.le
      calc (m₂ * 2 ^ e₂ : ℚ) ≤ 2 ^ 53 * 2 ^ (21 : ℤ) := by
            gcongr
            exact one_le_two
        _ = 2 ^ 74 := by norm_num
    refine ⟨⟨?_, nonnegative_roundWithAccuracy _ _ _⟩, ?_, nonnegative_roundWithAccuracy _ _ _⟩
    · rw [fits_mul_iff (by omega)]
      refine lt_of_le_of_lt ?_ lt_overflowBound
      calc (m₁ * 2 ^ e₁ : ℚ) * (m₂ * 2 ^ e₂) ≤ 2 ^ 54 * 2 ^ 74 := by gcongr
        _ ≤ 2 ^ 200 := by norm_num
    · rw [fits_div_iff (by omega)]
      refine lt_of_le_of_lt ?_ lt_overflowBound
      calc (m₁ * 2 ^ e₁ : ℚ) / (m₂ * 2 ^ e₂) ≤ m₁ * 2 ^ e₁ := div_le_self (by positivity) hleast
        _ ≤ 2 ^ 54 := hfirst
        _ ≤ 2 ^ 200 := by norm_num

/-- A decimal without a sign is rounded to a float that is not below zero, and that is finite just
when the decimal is below the bound of overflow. -/
theorem ofScientific_spec {m : ℕ} (hm : 0 < m) (s : Bool) (e : ℕ) :
    0.0 ≤ Float.ofScientific m s e ∧ ((Float.ofScientific m s e).isFinite = true ↔
      (m : ℚ) * 10 ^ (if s then -e else e : ℤ) < overflowBound) := by
  rw [zero_le_iff]
  unfold Float.ofScientific
  split
  · rename_i hfast
    have hpower := isPowerSized_powersOfTen ⟨e, by
      simp [Float.exactlyRepresentablePowersOfTen]
      omega⟩
    have hscaled := fits_scaled (moderate_toFloat hm hfast.1) hpower
    have hvalue : (m : ℚ) * 10 ^ (if s then -e else e : ℤ) < overflowBound := by
      refine lt_of_le_of_lt ?_ lt_overflowBound
      have hsize : (m : ℚ) ≤ 2 ^ 53 := by exact_mod_cast hfast.1.le
      calc (m : ℚ) * 10 ^ (if s then -e else e : ℤ) ≤ 2 ^ 53 * 10 ^ (22 : ℤ) := by
            gcongr
            · norm_num
            · split <;> omega
        _ ≤ 2 ^ 200 := by norm_num
    refine ⟨?_, iff_of_true ?_ hvalue⟩
    · split
      · exact nonnegative_unpack_pack hscaled.2.2
      · exact nonnegative_unpack_pack hscaled.1.2
    · split
      · exact (isFinite_pack_iff _).2 hscaled.2.1
      · exact (isFinite_pack_iff _).2 hscaled.1.1
  · have hexponent : (if s then Int.negOfNat e else Int.ofNat e) = (if s then -e else e : ℤ) := by
      split
      · exact Int.negOfNat_eq
      · rfl
    rw [← hexponent, ← fits_ofScientific_iff hm, ← isFinite_pack_iff]
    exact ⟨nonnegative_unpack_pack (nonnegative_ofScientific _ _), Iff.rfl⟩

/-! ## Digits -/

/-- A number lies between the powers of ten that its digits are counted by. -/
theorem digitCount_spec {m : ℕ} (hm : 0 < m) :
    10 ^ (digitCount m - 1) ≤ m ∧ m < 10 ^ digitCount m ∧ 0 < digitCount m := by
  have hcount : digitCount m = (Nat.toDigits 10 m).length := if_neg hm.ne'
  have hpos : 0 < digitCount m := by
    rw [hcount]
    exact Nat.length_toDigits_pos
  refine ⟨?_, (Nat.length_toDigits_le_iff (by decide) hpos).1 hcount.ge, hpos⟩
  by_contra hless
  rcases Nat.eq_zero_or_pos (digitCount m - 1) with hone | hmore
  · rw [hone, pow_zero] at hless
    omega
  · have := (Nat.length_toDigits_le_iff (by decide) hmore).2 (not_le.1 hless)
    omega

/-- What an unsigned decimal is rounded to is not below zero, and it is finite just when the decimal
is below the bound of overflow. -/
theorem nearestFloat_spec (m : ℕ) (e : ℤ) :
    0.0 ≤ nearestFloat false m e ∧
      ((nearestFloat false m e).isFinite = true ↔ (m : ℚ) * 10 ^ e < overflowBound) := by
  have hzero : (0.0 : Float) ≤ 0.0 ∧ (0.0 : Float).isFinite = true := by decide +kernel
  have hinfinite : (0.0 : Float) ≤ 1.0 / 0.0 ∧ (1.0 / 0.0 : Float).isFinite = false := by
    decide +kernel
  have hten : (10 : ℚ) ≠ 0 := by norm_num
  have hone : (1 : ℚ) < overflowBound := lt_of_le_of_lt (one_le_pow₀ one_le_two) lt_overflowBound
  unfold nearestFloat
  simp only [Bool.false_eq_true, if_false]
  split_ifs with hnone hlarge hsmall
  · rw [hnone, Nat.cast_zero, zero_mul]
    exact ⟨hzero.1, iff_of_true hzero.2 (zero_lt_one.trans hone)⟩
  · obtain ⟨hleast, -, hdigits⟩ := digitCount_spec (Nat.pos_of_ne_zero hnone)
    have hcast : (10 : ℚ) ^ (digitCount m - 1) ≤ m := by exact_mod_cast hleast
    refine ⟨hinfinite.1, iff_of_false (by simp [hinfinite.2]) (not_lt.2 ?_)⟩
    calc overflowBound ≤ 10 ^ ((digitCount m - 1 : ℕ) + e : ℤ) :=
          overflowBound_le_ten_zpow (by omega)
      _ = 10 ^ (digitCount m - 1) * 10 ^ e := by rw [zpow_add₀ hten, zpow_natCast]
      _ ≤ m * 10 ^ e := by gcongr
  · obtain ⟨-, hless, -⟩ := digitCount_spec (Nat.pos_of_ne_zero hnone)
    have hcast : (m : ℚ) < 10 ^ digitCount m := by exact_mod_cast hless
    refine ⟨hzero.1, iff_of_true hzero.2 ?_⟩
    calc (m : ℚ) * 10 ^ e < 10 ^ digitCount m * 10 ^ e := by gcongr
      _ = 10 ^ (digitCount m + e : ℤ) := by rw [zpow_add₀ hten, zpow_natCast]
      _ ≤ 10 ^ (0 : ℤ) := zpow_le_zpow_right₀ (by norm_num) (by omega)
      _ < overflowBound := by rwa [zpow_zero]
  · have hpos := Nat.pos_of_ne_zero hnone
    cases e with
    | ofNat e => exact ofScientific_spec hpos false e
    | negSucc e => exact ofScientific_spec hpos true (e + 1)

/-- A sign does not matter for whether a float is finite. -/
theorem isFinite_neg (x : Float) : (-x).isFinite = x.isFinite := by
  have hneg : (-x).isFinite = true ↔ Fits x.toModel.unpack.neg := isFinite_pack_iff _
  have hfits : x.isFinite = true → Fits x.toModel.unpack := fits_unpack
  have hfinite : x.isFinite = x.toModel.unpack.isFinite := rfl
  rw [Bool.eq_iff_iff, hneg, hfinite]
  rw [hfinite] at hfits
  cases hx : x.toModel.unpack with
  | notANumber => simp [UnpackedFloat.neg, Fits, UnpackedFloat.isFinite]
  | infinity s => simp [UnpackedFloat.neg, Fits, UnpackedFloat.isFinite]
  | zero s => simp [UnpackedFloat.neg, Fits, UnpackedFloat.isFinite]
  | finite s m e hpos =>
    rw [hx] at hfits
    exact iff_of_true (hfits rfl) rfl

end Colloquy.Decimal
