import Colloquy.Proofs.Json.Sendable
import Colloquy.Text.Encoding
import Mathlib.Data.List.Basic

/-!
# Text read back from its octets

The octets of a code point are cut off as one piece, whatever stands behind them
(`Utf8.pieces_encodePoint`), so a text without surrogates is read back from its octets
(`Utf8.decode_encode`).  A document does not say how it is encoded; that its octets are
those of UTF-8 is found from their being no zeros, with one of ASCII in front
(`Encoding.detect_of_nonzero`).
-/

namespace Colloquy

namespace Utf8

variable {a b c d : UInt8} {rest : Bytes} {surrogates : Bool}

/-! ## Pieces -/

theorem toNat_toUInt8_of_lt {n : Nat} (h : n < 0x100) : n.toUInt8.toNat = n :=
  Nat.mod_eq_of_lt h

theorem isContinuation_iff : isContinuation b = true ↔ 0x80 ≤ b.toNat ∧ b.toNat ≤ 0xbf := by
  simp [isContinuation, UInt8.le_iff_toNat_le]

theorem isSecond_iff : isSecond a b = true ↔ isContinuation b = true ∧
    ¬(a.toNat = 0xe0 ∧ b.toNat < 0xa0) ∧ ¬(a.toNat = 0xed ∧ 0xa0 ≤ b.toNat) ∧
    ¬(a.toNat = 0xf0 ∧ b.toNat < 0x90) ∧ ¬(a.toNat = 0xf4 ∧ 0x90 ≤ b.toNat) := by
  simp only [isSecond, Bool.and_eq_true, Bool.not_eq_true', Bool.and_eq_false_iff,
    beq_eq_false_iff_ne, decide_eq_false_iff_not, UInt8.lt_iff_toNat_lt, UInt8.le_iff_toNat_le,
    ne_eq, ← UInt8.toNat_inj, not_and_or, and_assoc]
  exact Iff.rfl

/-- A first octet of several. -/
theorem not_single (hlow : 0xc2 ≤ a.toNat) (hhigh : a.toNat < 0xf5) :
    ¬a < 0x80 ∧ ¬(a < 0xc2 || 0xf5 ≤ a) = true := by
  rw [Bool.or_eq_true, decide_eq_true_iff, decide_eq_true_iff, UInt8.lt_iff_toNat_lt,
    UInt8.lt_iff_toNat_lt, UInt8.le_iff_toNat_le]
  show ¬a.toNat < 0x80 ∧ ¬(a.toNat < 0xc2 ∨ 0xf5 ≤ a.toNat)
  omega

theorem pieces_one (ha : a.toNat < 0x80) :
    pieces surrogates (a :: rest) = .point 1 a.toNat :: pieces surrogates rest := by
  have hascii : a < 0x80 := UInt8.lt_iff_toNat_lt.2 ha
  rw [pieces.eq_def]
  dsimp only
  rw [if_pos hascii]

theorem pieces_two (hlow : 0xc2 ≤ a.toNat) (hhigh : a.toNat < 0xe0)
    (hb : isContinuation b = true) :
    pieces surrogates (a :: b :: rest)
      = .point 2 (tailBits (a.toNat % 0x20) [b]) :: pieces surrogates rest := by
  obtain ⟨hascii, hstart⟩ := not_single hlow (show a.toNat < 0xf5 by omega)
  have htwo : a < 0xe0 := UInt8.lt_iff_toNat_lt.2 hhigh
  rw [pieces.eq_def]
  dsimp only
  rw [if_neg hascii, if_neg hstart, if_pos htwo, if_pos hb]

theorem pieces_three (hlow : 0xe0 ≤ a.toNat) (hhigh : a.toNat < 0xf0)
    (hb : isSecond a b = true) (hc : isContinuation c = true) :
    pieces surrogates (a :: b :: c :: rest)
      = .point 3 (tailBits (a.toNat % 0x10) [b, c]) :: pieces surrogates rest := by
  obtain ⟨hascii, hstart⟩ :=
    not_single (show 0xc2 ≤ a.toNat by omega) (show a.toNat < 0xf5 by omega)
  have htwo : ¬a < 0xe0 := by
    rw [UInt8.lt_iff_toNat_lt]
    exact Nat.not_lt.2 hlow
  have hthree : a < 0xf0 := UInt8.lt_iff_toNat_lt.2 hhigh
  rw [pieces.eq_def]
  dsimp only
  rw [if_neg hascii, if_neg hstart, if_neg htwo, if_pos hthree, hb, Bool.true_or, if_pos rfl,
    if_pos hc]

theorem pieces_four (hlow : 0xf0 ≤ a.toNat) (hhigh : a.toNat < 0xf5)
    (hb : isSecond a b = true) (hc : isContinuation c = true) (hd : isContinuation d = true) :
    pieces surrogates (a :: b :: c :: d :: rest)
      = .point 4 (tailBits (a.toNat % 8) [b, c, d]) :: pieces surrogates rest := by
  obtain ⟨hascii, hstart⟩ := not_single (show 0xc2 ≤ a.toNat by omega) hhigh
  have htwo : ¬a < 0xe0 := by
    rw [UInt8.lt_iff_toNat_lt]
    show ¬a.toNat < 0xe0
    omega
  have hthree : ¬a < 0xf0 := by
    rw [UInt8.lt_iff_toNat_lt]
    exact Nat.not_lt.2 hlow
  rw [pieces.eq_def]
  dsimp only
  rw [if_neg hascii, if_neg hstart, if_neg htwo, if_neg hthree, hb, hc, if_neg (by decide),
    if_neg (by decide), if_pos hd]

/-! ## Code points -/

/-- An octet that carries six bits of a code point. -/
theorem isContinuation_low (n : Nat) : isContinuation (0x80 + n % 0x40).toUInt8 = true := by
  rw [isContinuation_iff, toNat_toUInt8_of_lt (by omega)]
  omega

theorem toNat_low (n : Nat) : (0x80 + n % 0x40).toUInt8.toNat = 0x80 + n % 0x40 :=
  toNat_toUInt8_of_lt (by omega)

section

variable {c : Nat} (rest : Bytes)

theorem pieces_encodeTwo (hlow : 0x80 ≤ c) (hhigh : c < 0x800) :
    pieces surrogates ((0xc0 + c / 0x40).toUInt8 :: (0x80 + c % 0x40).toUInt8 :: rest)
      = .point 2 c :: pieces surrogates rest := by
  have ha : (0xc0 + c / 0x40).toUInt8.toNat = 0xc0 + c / 0x40 := toNat_toUInt8_of_lt (by omega)
  have hpoint : tailBits ((0xc0 + c / 0x40) % 0x20) [(0x80 + c % 0x40).toUInt8] = c := by
    show (0xc0 + c / 0x40) % 0x20 * 0x40 + (0x80 + c % 0x40).toUInt8.toNat % 0x40 = c
    rw [toNat_low]
    omega
  rw [pieces_two (by rw [ha]; omega) (by rw [ha]; omega) (isContinuation_low c), ha, hpoint]

theorem pieces_encodeThree (hclean : isSurrogate c = false) (hlow : 0x800 ≤ c)
    (hhigh : c < 0x10000) :
    pieces surrogates ((0xe0 + c / 0x1000).toUInt8 :: (0x80 + c / 0x40 % 0x40).toUInt8
      :: (0x80 + c % 0x40).toUInt8 :: rest) = .point 3 c :: pieces surrogates rest := by
  have hgap : ¬(0xd800 : Nat) ≤ c ∨ ¬c ≤ (0xdfff : Nat) := by
    rw [isSurrogate, Bool.and_eq_false_iff, decide_eq_false_iff_not, decide_eq_false_iff_not]
      at hclean
    exact hclean
  have ha : (0xe0 + c / 0x1000).toUInt8.toNat = 0xe0 + c / 0x1000 :=
    toNat_toUInt8_of_lt (by omega)
  have hsecond :
      isSecond (0xe0 + c / 0x1000).toUInt8 (0x80 + c / 0x40 % 0x40).toUInt8 = true := by
    rw [isSecond_iff, ha, toNat_low]
    refine ⟨isContinuation_low _, ?_, ?_, ?_, ?_⟩ <;> omega
  have hpoint : tailBits ((0xe0 + c / 0x1000) % 0x10)
      [(0x80 + c / 0x40 % 0x40).toUInt8, (0x80 + c % 0x40).toUInt8] = c := by
    show ((0xe0 + c / 0x1000) % 0x10 * 0x40 + (0x80 + c / 0x40 % 0x40).toUInt8.toNat % 0x40)
      * 0x40 + (0x80 + c % 0x40).toUInt8.toNat % 0x40 = c
    rw [toNat_low, toNat_low]
    omega
  rw [pieces_three (by rw [ha]; omega) (by rw [ha]; omega) hsecond (isContinuation_low c), ha,
    hpoint]

theorem pieces_encodeFour (hlow : 0x10000 ≤ c) (hhigh : c < 0x110000) :
    pieces surrogates ((0xf0 + c / 0x40000).toUInt8 :: (0x80 + c / 0x1000 % 0x40).toUInt8
      :: (0x80 + c / 0x40 % 0x40).toUInt8 :: (0x80 + c % 0x40).toUInt8 :: rest)
      = .point 4 c :: pieces surrogates rest := by
  have ha : (0xf0 + c / 0x40000).toUInt8.toNat = 0xf0 + c / 0x40000 :=
    toNat_toUInt8_of_lt (by omega)
  have hsecond :
      isSecond (0xf0 + c / 0x40000).toUInt8 (0x80 + c / 0x1000 % 0x40).toUInt8 = true := by
    rw [isSecond_iff, ha, toNat_low]
    refine ⟨isContinuation_low _, ?_, ?_, ?_, ?_⟩ <;> omega
  have hpoint : tailBits ((0xf0 + c / 0x40000) % 8) [(0x80 + c / 0x1000 % 0x40).toUInt8,
      (0x80 + c / 0x40 % 0x40).toUInt8, (0x80 + c % 0x40).toUInt8] = c := by
    show (((0xf0 + c / 0x40000) % 8 * 0x40 + (0x80 + c / 0x1000 % 0x40).toUInt8.toNat % 0x40)
      * 0x40 + (0x80 + c / 0x40 % 0x40).toUInt8.toNat % 0x40) * 0x40
      + (0x80 + c % 0x40).toUInt8.toNat % 0x40 = c
    rw [toNat_low, toNat_low, toNat_low]
    omega
  rw [pieces_four (by rw [ha]; omega) (by rw [ha]; omega) hsecond (isContinuation_low _)
    (isContinuation_low c), ha, hpoint]

/-- The octets of a code point that is no surrogate are one piece. -/
theorem pieces_encodePoint (hclean : isSurrogate c = false) (hrange : c < 0x110000) :
    pieces surrogates (encodePoint c ++ rest)
      = .point (encodePoint c).length c :: pieces surrogates rest := by
  unfold encodePoint
  split
  · rename_i hone
    have hone : c < (0x80 : Nat) := hone
    have ha : c.toUInt8.toNat = c := toNat_toUInt8_of_lt (by omega)
    rw [List.singleton_append, pieces_one (by rw [ha]; exact hone), ha]
    rfl
  split
  · rename_i hone htwo
    exact pieces_encodeTwo rest (Nat.not_lt.1 hone) htwo
  split
  · rename_i hone htwo hthree
    exact pieces_encodeThree rest hclean (Nat.not_lt.1 htwo) hthree
  · rename_i hone htwo hthree
    exact pieces_encodeFour rest (Nat.not_lt.1 hthree) hrange

end

/-! ## Texts -/

/-- Pieces that are all code points give the text of them. -/
theorem collect_points (octets : Bytes) (position : Nat) (width : CodePoint → Nat) (text : Text) :
    collect octets position (text.map fun c => .point (width c) c) = .ok text := by
  induction text generalizing position with
  | nil => rfl
  | cons c text ih =>
    rw [List.map_cons, collect, ih]
    rfl

theorem pieces_flatMap_encodePoint {text : Text} (hclean : text.isClean = true)
    (hrange : ∀ c ∈ text, c < 0x110000) :
    pieces surrogates (text.flatMap encodePoint)
      = text.map fun c => .point (encodePoint c).length c := by
  induction text with
  | nil => rfl
  | cons c text ih =>
    rw [Text.isClean, List.all_cons, Bool.and_eq_true, Bool.not_eq_true'] at hclean
    rw [List.forall_mem_cons] at hrange
    rw [List.flatMap_cons, pieces_encodePoint _ hclean.1 hrange.1, ih hclean.2 hrange.2]
    rfl

theorem encode_eq_ok {text : Text} {octets : Bytes} (h : encode text = .ok octets) :
    text.isClean = true ∧ octets = text.flatMap encodePoint := by
  refine ⟨(encode_isOk_iff text).1 ⟨octets, h⟩, ?_⟩
  unfold encode at h
  split at h
  · cases h
    rfl
  · cases h

/-- A text is read back from its octets. -/
theorem decode_encode {text : Text} {octets : Bytes} (hrange : ∀ c ∈ text, c < 0x110000)
    (h : encode text = .ok octets) : decode octets = .ok text := by
  obtain ⟨hclean, rfl⟩ := encode_eq_ok h
  rw [decode, pieces_flatMap_encodePoint hclean hrange]
  exact collect_points _ 0 _ text

theorem toUInt8_ne_zero {n : Nat} (hpos : 0 < n) (h : n < 0x100) : n.toUInt8 ≠ 0 := by
  intro hzero
  have hnat : n.toUInt8.toNat = 0 := congrArg UInt8.toNat hzero
  rw [toNat_toUInt8_of_lt h] at hnat
  omega

/-- No octet of a code point is a zero, unless the code point is. -/
theorem encodePoint_ne_zero {c : Nat} (hpos : 0 < c) (hrange : c < 0x110000) :
    ∀ b ∈ encodePoint c, b ≠ 0 := by
  have hlow : ∀ n : Nat, (0x80 + n % 0x40).toUInt8 ≠ 0 := fun n =>
    toUInt8_ne_zero (by omega) (by omega)
  unfold encodePoint
  split
  · rename_i hone
    have hone : c < (0x80 : Nat) := hone
    simp only [List.forall_mem_singleton]
    exact toUInt8_ne_zero hpos (by omega)
  split
  · rename_i htwo
    have htwo : c < (0x800 : Nat) := htwo
    simp only [List.forall_mem_cons]
    exact ⟨toUInt8_ne_zero (by omega) (by omega), hlow c, List.forall_mem_nil _⟩
  split
  · rename_i hthree
    have hthree : c < (0x10000 : Nat) := hthree
    simp only [List.forall_mem_cons]
    exact ⟨toUInt8_ne_zero (by omega) (by omega), hlow _, hlow c, List.forall_mem_nil _⟩
  · simp only [List.forall_mem_cons]
    exact ⟨toUInt8_ne_zero (by omega) (by omega), hlow _, hlow _, hlow c, List.forall_mem_nil _⟩

end Utf8

/-! ## Documents -/

namespace Encoding

variable {a : UInt8} {octets : Bytes}

/-- No byte order mark begins with an octet of ASCII, unless it is a zero. -/
theorem find?_marks_eq_none (hascii : a < 0x80) (hzero : a ≠ 0x00) :
    marks.find? (fun mark => mark.1.isPrefixOf (a :: octets)) = none := by
  have hmarks : ∀ mark ∈ marks, mark.1 ≠ [] ∧ ∀ b ∈ mark.1.head?, b < 0x80 → b = 0x00 := by
    simp [marks]
  rw [List.find?_eq_none]
  intro mark hmark hprefix
  obtain ⟨hne, hfirst⟩ := hmarks mark hmark
  obtain ⟨more, hmore⟩ := List.isPrefixOf_iff_prefix.1 hprefix
  have hhead : a ∈ mark.1.head? := by
    rw [← List.head?_append_of_ne_nil mark.1 hne, hmore]
    rfl
  exact hzero (hfirst a hhead hascii)

/-- Octets without zeros are taken for UTF-8. -/
theorem ofZeros_of_nonzero (hzero : ∀ b ∈ octets, b ≠ 0x00) : ofZeros octets = .utf8 := by
  have hfalse : (octets.take 4).map (· == 0x00) = List.replicate (octets.take 4).length false := by
    refine List.eq_replicate_iff.2 ⟨List.length_map _, ?_⟩
    simp only [List.forall_mem_map, beq_eq_false_iff_ne]
    exact fun b hb => hzero b (List.mem_of_mem_take hb)
  have hlength : (octets.take 4).length ≤ 4 := List.length_take_le 4 octets
  rw [ofZeros, hfalse]
  match (octets.take 4).length, hlength with
  | 0, _ | 1, _ | 2, _ | 3, _ | 4, _ => rfl

/-- Octets without a zero, of which the first is one of ASCII, are taken for UTF-8. -/
theorem detect_of_nonzero (hascii : a < 0x80) (hzero : ∀ b ∈ a :: octets, b ≠ 0x00) :
    detect (a :: octets) = (.utf8, 0) := by
  rw [detect, find?_marks_eq_none hascii (hzero a List.mem_cons_self)]
  dsimp only
  rw [ofZeros_of_nonzero hzero]

end Encoding

end Colloquy
