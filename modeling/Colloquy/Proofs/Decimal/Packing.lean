import Colloquy.Proofs.Decimal.Rounding

/-!
# Packed floats

A float is stored as a sign, an exponent and a mantissa.  What was rounded can be stored as
a finite float just when it fits (`isFinite_unpack_pack_iff`), and storing keeps the sign.
-/

namespace Colloquy.Decimal

open Float.Model
open Float.Model.UnpackedFloat hiding pack unpack

/-! ## Taking out -/

/-- A zero, or a finite float of some sign whose exponent is bounded. -/
inductive Moderate (s : Sign) (low high : ℤ) : UnpackedFloat → Prop
  | zero : Moderate s low high (.zero s)
  | finite {m : ℕ} {e : ℤ} (hpos : 0 < m) (hm : m < 2 ^ 53) (hlow : low ≤ e) (hhigh : e ≤ high) :
      Moderate s low high (.finite s m e hpos)

/-- What is stored with the greatest exponent is no number that is finite, and everything else is
one. -/
theorem unpack_cases (b : BitVec Format.binary64.numBits) :
    let s := Sign.ofBitVec (unpackSign b)
    let x := UnpackedFloat.unpack Format.binary64 b
    unpackExponent b = -1#_ ∧
        (unpackMantissa b = 0#_ ∧ x = .infinity s ∨ unpackMantissa b ≠ 0#_ ∧ x = .notANumber) ∨
      unpackExponent b ≠ -1#_ ∧ Moderate s (-1074) (max (unpackExponent b).toNat 1 - 1075) x := by
  have hsize : (1#1 ++ unpackMantissa b).toNat < 2 ^ 53 := (1#1 ++ unpackMantissa b).isLt
  have hbias : (Format.binary64.exponentBias + Format.binary64.mantissaBitsWithoutImplicit : ℤ)
      = 1075 := by
    rfl
  unfold UnpackedFloat.unpack
  simp only [hbias]
  split_ifs with htop hnone hbottom hempty
  · exact .inl ⟨htop, .inl ⟨hnone, rfl⟩⟩
  · exact .inl ⟨htop, .inr ⟨hnone, rfl⟩⟩
  · exact .inr ⟨htop, .zero⟩
  · refine .inr ⟨htop, .finite _ ?_ ?_ ?_⟩
    · exact (unpackMantissa b).isLt.trans (by decide)
    · simp [hbottom]
    · simp [hbottom]
  · refine .inr ⟨htop, .finite _ hsize ?_ ?_⟩
    · have hpos : (unpackExponent b).toNat ≠ 0 := fun hzero =>
        hbottom (BitVec.eq_of_toNat_eq hzero)
      omega
    · omega

theorem isFinite_unpack_iff (b : BitVec Format.binary64.numBits) :
    (UnpackedFloat.unpack Format.binary64 b).isFinite = true ↔ unpackExponent b ≠ -1#_ := by
  obtain ⟨htop, ⟨-, h⟩ | ⟨-, h⟩⟩ | ⟨htop, h⟩ := unpack_cases b
  · simp [h, htop, UnpackedFloat.isFinite]
  · simp [h, htop, UnpackedFloat.isFinite]
  · cases hx : UnpackedFloat.unpack Format.binary64 b with
    | zero => exact iff_of_true rfl htop
    | finite => exact iff_of_true rfl htop
    | infinity => rw [hx] at h; cases h
    | notANumber => rw [hx] at h; cases h

/-- A finite float that is taken out fits. -/
theorem fits_unpack {b : BitVec Format.binary64.numBits}
    (h : (UnpackedFloat.unpack Format.binary64 b).isFinite = true) :
    Fits (UnpackedFloat.unpack Format.binary64 b) := by
  have htop := (isFinite_unpack_iff b).1 h
  obtain ⟨hexponent, -⟩ | ⟨-, hmoderate⟩ := unpack_cases b
  · exact absurd hexponent htop
  · have hless : (unpackExponent b).toNat < 2047 := by
      have hlt := (unpackExponent b).isLt
      have hne : (unpackExponent b).toNat ≠ 2047 := fun heq => htop (BitVec.eq_of_toNat_eq heq)
      have hpow : 2 ^ Format.binary64.exponentBits = 2048 := rfl
      omega
    cases hx : UnpackedFloat.unpack Format.binary64 b with
    | zero => trivial
    | finite s m e hpos =>
      rw [hx] at hmoderate
      cases hmoderate with
      | finite _ _ _ hhigh =>
        show e ≤ 971
        omega
    | infinity => rw [hx] at h; cases h
    | notANumber => rw [hx] at h; cases h

/-! ## Storing -/

/-- What was rounded is stored as a finite float just when it fits. -/
theorem isFinite_unpack_pack_iff (x : UnpackedFloat) :
    (UnpackedFloat.unpack Format.binary64 (UnpackedFloat.pack Format.binary64 x)).isFinite = true ↔
      Fits x := by
  rw [isFinite_unpack_iff]
  fun_cases UnpackedFloat.pack Format.binary64 x with
  | case1 => simp [packedNaN, Fits]
  | case2 s => simp [packedInfinity, Fits]
  | case3 s => simp [packedZero, Fits]
  | case4 s m e hpos biased hlarge =>
    have hoverflow : 2048 ≤ (e + 1023 + 52).toNat + 1 := hlarge
    refine iff_of_false (by simp [packedInfinity]) ?_
    show ¬e ≤ 971
    omega
  | case5 s m e hpos bits biased hlarge hnormal =>
    have hfits : ¬2048 ≤ (e + 1023 + 52).toNat + 1 := hlarge
    refine iff_of_true (fun htop => ?_) ?_
    · rw [unpackExponent_packComponents] at htop
      have hvalue : (e + 1023 + 52).toNat % 2048 = 2047 := congrArg BitVec.toNat htop
      omega
    · show e ≤ 971
      omega
  | case6 s m e hpos bits biased hlarge hnormal =>
    have hfits : ¬2048 ≤ (e + 1023 + 52).toNat + 1 := hlarge
    refine iff_of_true (by simp) ?_
    show e ≤ 971
    omega

/-- A float that is not below zero, and not undefined. -/
def Nonnegative : UnpackedFloat → Prop
  | .zero _ | .infinity .positive | .finite .positive _ _ _ => True
  | .infinity .negative | .finite .negative _ _ _ | .notANumber => False

theorem Moderate.nonnegative {low high : ℤ} {x : UnpackedFloat}
    (h : Moderate .positive low high x) : Nonnegative x := by
  cases h <;> trivial

theorem Moderate.mono {s : Sign} {low high high' : ℤ} {x : UnpackedFloat}
    (h : Moderate s low high x) (hhigh : high ≤ high') : Moderate s low high' x := by
  cases h with
  | zero => exact .zero
  | finite hpos hm hlow he => exact .finite hpos hm hlow (he.trans hhigh)

/-- Components with an exponent that is not the greatest are taken out as a finite float. -/
theorem moderate_unpack_packComponents (s : Sign) {e : ℕ} (he : e < 2047)
    (m : BitVec Format.binary64.mantissaBitsWithoutImplicit) :
    Moderate s (-1074) (max e 1 - 1075) (UnpackedFloat.unpack Format.binary64
      (packComponents Format.binary64 s (BitVec.ofNat _ e) m)) := by
  have hexponent : (BitVec.ofNat Format.binary64.exponentBits e).toNat = e := by
    have hless : e < 2048 := by omega
    exact Nat.mod_eq_of_lt hless
  have htop : (BitVec.ofNat Format.binary64.exponentBits e) ≠ -1#_ := by
    intro heq
    have hvalue : e % 2048 = 2047 := congrArg BitVec.toNat heq
    omega
  obtain ⟨hexp, -⟩ | ⟨-, h⟩ := unpack_cases
    (packComponents Format.binary64 s (BitVec.ofNat _ e) m)
  · rw [unpackExponent_packComponents] at hexp
    exact absurd hexp htop
  · rwa [unpackSign_packComponents, Sign.ofBitVec_toBitVec, unpackExponent_packComponents,
      hexponent] at h

/-- Storing a float does not make it negative. -/
theorem nonnegative_unpack_pack {x : UnpackedFloat} (h : Nonnegative x) :
    Nonnegative (UnpackedFloat.unpack Format.binary64 (UnpackedFloat.pack Format.binary64 x)) := by
  cases x with
  | notANumber => exact h.elim
  | infinity s =>
    cases s with
    | negative => exact h.elim
    | positive => trivial
  | zero s => cases s <;> trivial
  | finite s m e hpos =>
    cases s with
    | negative => exact h.elim
    | positive =>
      unfold UnpackedFloat.pack
      dsimp only
      split_ifs with hlarge
      · trivial
      · have hfits : ¬2048 ≤ (e + 1023 + 52).toNat + 1 := hlarge
        exact (moderate_unpack_packComponents .positive (by omega) _).nonnegative
      · exact (moderate_unpack_packComponents .positive (e := 0) (by omega) _).nonnegative

/-- What is stored with a low exponent is taken out with a low one. -/
theorem moderate_unpack_pack {m : ℕ} {e high : ℤ} (hpos : 0 < m) (hlow : -1074 ≤ e)
    (he : e ≤ high) (hhigh : high ≤ 971) :
    Moderate .positive (-1074) high (UnpackedFloat.unpack Format.binary64
      (UnpackedFloat.pack Format.binary64 (.finite .positive m e hpos))) := by
  unfold UnpackedFloat.pack
  dsimp only
  split_ifs with hlarge
  · have hoverflow : 2048 ≤ (e + 1023 + 52).toNat + 1 := hlarge
    omega
  · have hbiased : (e + 1023 + 52).toNat < 2047 := by omega
    refine (moderate_unpack_packComponents .positive hbiased _).mono ?_
    omega
  · refine (moderate_unpack_packComponents .positive (e := 0) (by omega) _).mono ?_
    show (-1074 : ℤ) ≤ high
    omega

end Colloquy.Decimal
