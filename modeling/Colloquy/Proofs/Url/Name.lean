import Colloquy.Proofs.Error.Escape
import Colloquy.Proofs.Text.Pieces
import Colloquy.Url.Host
import Mathlib.Data.List.Forall2

/-!
# Written names

A host name in other letters is written in ASCII, and then it consists of small letters,
figures, hyphens and dots (`Url.writeName_signs`).  A label in other letters is written
by number, and a label in ASCII has been checked: as it is, or by what its numbers stand for.
-/

namespace Colloquy

namespace Text

/-! ## Lower case -/

/-- A code point is no capital of ASCII. -/
def IsSmall (c : Nat) : Prop :=
  ¬(0x41 ≤ c ∧ c ≤ 0x5a)

theorem lt_toNat_add {first c : Nat} {shift : Int} (hfirst : first ≤ c)
    (hshift : (0x5a : Int) < first + shift) : 0x5a < ((c : Int) + shift).toNat := by
  omega

theorem lt_shiftByRun {runs : List CaseRun} {c : Nat} (hc : 0x5a < c)
    (hruns : ∀ run ∈ runs, (0x5a : Int) < run.first + run.shift) :
    0x5a < shiftByRun c runs := by
  induction runs with
  | nil => exact hc
  | cons run runs ih =>
    obtain ⟨hrun, hruns⟩ := List.forall_mem_cons.1 hruns
    unfold shiftByRun
    split_ifs with hfirst hlast
    · exact hc
    · exact lt_toNat_add (Nat.le_of_not_lt hfirst) hrun
    · exact ih hruns

/-- The code point in lower case is no capital: the capitals of ASCII are the first run, and the
other runs lead to letters beyond them. -/
theorem isSmall_shiftByRun (c : Nat) : IsSmall (shiftByRun c caseRuns) := by
  have hruns : ∀ run ∈ caseRuns, (0x5a : Int) < run.first + run.shift := by decide +kernel
  by_cases hc : 0x5a < c
  · have hbeyond : (0x5a : Nat) < shiftByRun c caseRuns := lt_shiftByRun hc hruns
    rw [IsSmall]
    omega
  · have hkept : ∀ c ≤ 0x5a, IsSmall (shiftByRun c caseRuns) := by
      unfold IsSmall
      decide +kernel
    exact hkept c (Nat.le_of_not_lt hc)

theorem lowerAfter_small (behind text : Text) : ∀ c ∈ lowerAfter behind text, IsSmall c := by
  have hspecial : ∀ c ∈ [0x69, 0x307, 0x3c2, 0x3c3], IsSmall c := by
    unfold IsSmall
    decide
  induction text generalizing behind with
  | nil => exact nofun
  | cons c rest ih =>
    rw [lowerAfter]
    refine List.forall_mem_append.2 ⟨?_, ih (c :: behind)⟩
    intro d hd
    split_ifs at hd
    · exact hspecial d (List.mem_append_left [0x3c2, 0x3c3] hd)
    · exact hspecial d (by simp_all)
    · exact hspecial d (by simp_all)
    · rw [List.mem_singleton.1 hd]
      exact isSmall_shiftByRun c

/-- No capital of ASCII is left in a text in lower case. -/
theorem lower_small (text : Text) : ∀ c ∈ lower text, IsSmall c :=
  lowerAfter_small [] text

end Text

namespace Url

/-! ## Labels in other letters -/

/-- A small letter, a figure or a hyphen. -/
def IsNameSign (c : Nat) : Prop :=
  c = 0x2d ∨ (0x30 ≤ c ∧ c ≤ 0x39) ∨ (0x61 ≤ c ∧ c ≤ 0x7a)

theorem isNameSign_of_isLabelLetter {c : Nat} (hascii : c < 0x80) (h : isLabelLetter c = true) :
    IsNameSign c := by
  unfold isLabelLetter at h
  rw [if_pos hascii] at h
  simp only [Bool.or_eq_true, beq_iff_eq, Text.isAsciiDigit, Bool.and_eq_true,
    decide_eq_true_eq] at h
  rcases h with (h | h) | h
  · exact .inl h
  · exact .inr (.inl h)
  · exact .inr (.inr h)

theorem ne_of_ascii {c n : Nat} (h : c < 0x80) (hn : 0x80 ≤ n) : c ≠ n := by
  omega

/-- Joiners are beyond ASCII. -/
theorem not_joiner_of_ascii {c : Nat} (h : c < 0x80) : Text.isJoiner c = false := by
  rw [Text.isJoiner, Bool.or_eq_false_iff]
  exact ⟨beq_false_of_ne (ne_of_ascii h (by decide)), beq_false_of_ne (ne_of_ascii h (by decide))⟩

/-- Signs that may stand next to some others are beyond ASCII. -/
theorem signFits?_of_ascii {c : Nat} (h : c < 0x80) (label before after : Text) :
    signFits? label c before after = none := by
  have hfigure : ∀ eastern, isArabicFigure eastern c = false := by
    have hlow : ∀ low : Nat, 0x80 ≤ low → decide (low ≤ c) = false :=
      fun low hlow => decide_eq_false (by omega)
    intro eastern
    rw [isArabicFigure]
    cases eastern
    · exact Bool.and_eq_false_iff.2 (.inl (hlow 0x660 (by decide)))
    · exact Bool.and_eq_false_iff.2 (.inl (hlow 0x6f0 (by decide)))
  have hne : ∀ n : Nat, 0x80 ≤ n → c ≠ n := fun n => ne_of_ascii h
  rw [signFits?, if_neg (hne 0xb7 (by decide)), if_neg (hne 0x375 (by decide)),
    if_neg (not_or.2 ⟨hne 0x5f3 (by decide), hne 0x5f4 (by decide)⟩),
    if_neg (hne 0x30fb (by decide)), hfigure, hfigure]
  rfl

/-- The code points of ASCII in a label that was checked. -/
theorem checkPoints_signs {label before after : Text}
    (h : checkPoints label before after = .ok ()) :
    ∀ c ∈ after, (c : Nat) < 0x80 → IsNameSign c := by
  induction after generalizing before with
  | nil => exact nofun
  | cons c rest ih =>
    unfold checkPoints at h
    dsimp only at h
    split at h
    case h_1 => cases h
    case h_2 hnone =>
      refine List.forall_mem_cons.2 ⟨fun hascii => ?_, ih h⟩
      refine isNameSign_of_isLabelLetter hascii (Bool.of_not_eq_false fun hletter => ?_)
      rw [hletter, not_joiner_of_ascii hascii, signFits?_of_ascii hascii] at hnone
      cases hnone

theorem checkLabel_signs {label : Text} (h : checkLabel label = .ok ()) :
    ∀ c ∈ label, (c : Nat) < 0x80 → IsNameSign c := by
  unfold checkLabel at h
  obtain ⟨-, h⟩ := guard_eq_ok_iff.1 h
  obtain ⟨-, h⟩ := guard_eq_ok_iff.1 h
  obtain ⟨-, h⟩ := guard_eq_ok_iff.1 h
  obtain ⟨-, h⟩ := guard_eq_ok_iff.1 h
  obtain ⟨-, h⟩ := guard_eq_ok_iff.1 h
  obtain ⟨-, h⟩ := guard_eq_ok_iff.1 h
  obtain ⟨_, hpoints, -⟩ := bind_eq_ok_iff.1 h
  exact checkPoints_signs hpoints

/-! ## Labels by number -/

namespace Punycode

theorem isNameSign_digit {d : Nat} (h : d < 36) : IsNameSign (digit d) := by
  have hdigits : ∀ d < 36, IsNameSign (digit d) := by
    unfold IsNameSign
    decide
  exact hdigits d h

theorem threshold_le (k bias : Nat) : threshold k bias ≤ 26 := by
  unfold threshold
  split_ifs <;> omega

/-- A number is written in small letters and figures. -/
theorem writeNumber_signs (bias k q : Nat) : ∀ c ∈ writeNumber bias k q, IsNameSign c := by
  fun_induction writeNumber bias k q with
  | case1 k q t hlast =>
    have hle := threshold_le k bias
    exact List.forall_mem_singleton.2 (isNameSign_digit (by omega))
  | case2 k q t hmore ih =>
    have hpos := threshold_pos k bias
    have hle := threshold_le k bias
    have hmod := Nat.mod_lt (q - t) (show 36 - t > 0 by omega)
    exact List.forall_mem_cons.2 ⟨isNameSign_digit (by omega), ih⟩

/-- What one code point of the label adds to the output. -/
theorem writePoint_signs {n basic : Nat} {label : Text} {state : Writing}
    (h : ∀ c ∈ state.output, IsNameSign c) :
    ∀ c ∈ (writePoint n basic label state).output, IsNameSign c := by
  unfold writePoint
  refine List.foldlRecOn (motive := fun state : Writing => ∀ c ∈ state.output, IsNameSign c)
    _ _ h fun state hstate c _ => ?_
  split_ifs
  · exact hstate
  · exact List.forall_mem_append.2 ⟨hstate, writeNumber_signs _ _ _⟩
  · exact hstate

/-- A label is written in small letters, figures and hyphens if its code points of ASCII are
such. -/
theorem encode_signs {label : Text} (h : ∀ c ∈ label, (c : Nat) < 0x80 → IsNameSign c) :
    ∀ c ∈ encode label, IsNameSign c := by
  have hbasic : ∀ c ∈ label.filter (· < 0x80), IsNameSign c := by
    intro c hc
    obtain ⟨hmem, hascii⟩ := List.mem_filter.1 hc
    exact h c hmem (of_decide_eq_true hascii)
  have hfront : ∀ c ∈ (if label.filter (· < 0x80) = [] then []
      else label.filter (· < 0x80) ++ [0x2d] : Text), IsNameSign c := by
    split_ifs
    · exact nofun
    · exact List.forall_mem_append.2 ⟨hbasic, List.forall_mem_singleton.2 (.inl rfl)⟩
  unfold encode
  exact List.foldlRecOn (motive := fun state : Writing × Nat => ∀ c ∈ state.1.output, IsNameSign c)
    _ _ hfront fun state hstate m _ => writePoint_signs hstate

/-- What is read as a number is digits. -/
theorem readNumber?_digits {bias k weight n : Nat} {text rest : Text}
    (h : readNumber? bias k weight text = some (n, rest)) :
    ∃ digits, text = digits ++ rest ∧ ∀ c ∈ digits, (digitValue? c).isSome = true := by
  induction text generalizing k weight n with
  | nil => cases h
  | cons c tail ih =>
    rw [readNumber?, Option.bind_eq_bind, Option.bind_eq_some_iff] at h
    obtain ⟨d, hd, h⟩ := h
    have hdigit : (digitValue? c).isSome = true := by rw [hd]; rfl
    dsimp only at h
    split_ifs at h
    · cases h
      exact ⟨[c], rfl, List.forall_mem_singleton.2 hdigit⟩
    · obtain ⟨⟨higher, others⟩, hmore, h⟩ := Option.bind_eq_some_iff.1 h
      cases h
      obtain ⟨digits, rfl, hdigits⟩ := ih hmore
      exact ⟨c :: digits, rfl, List.forall_mem_cons.2 ⟨hdigit, hdigits⟩⟩

/-- Points are put into a label by digits, and what was in the label stays there. -/
theorem insertPoints_eq_some {bias n place : Nat} {first : Bool} {label text out : Text}
    (h : insertPoints bias n place first label text = some out) :
    label ⊆ out ∧ ∀ c ∈ text, (digitValue? c).isSome = true := by
  fun_induction insertPoints bias n place first label text with
  | case1 =>
    cases h
    exact ⟨List.Subset.refl _, nofun⟩
  | case2 => cases h
  | case3 => cases h
  | case4 bias _ _ _ label text _ distance rest hread points n place _ ih =>
    obtain ⟨hlabel, hrest⟩ := ih h
    obtain ⟨digits, rfl, hdigits⟩ := readNumber?_digits hread
    refine ⟨fun c hc => hlabel ?_, List.forall_mem_append.2 ⟨hdigits, hrest⟩⟩
    rw [← List.take_append_drop place label, List.mem_append] at hc
    exact List.mem_append.2 (hc.imp_right (List.mem_cons_of_mem _))

theorem isNameSign_of_digitValue {c : Nat} (hsmall : Text.IsSmall c)
    (h : (digitValue? c).isSome = true) : IsNameSign c := by
  have hkept : Text.small c = c := if_neg hsmall
  unfold digitValue? at h
  rw [hkept] at h
  dsimp only at h
  split_ifs at h with hletter hfigure
  · exact .inr (.inr hletter)
  · exact .inr (.inl hfigure)
  · cases h

/-- What stands for a label that was checked, if it is in small letters. -/
theorem decode_signs {text label : Text} (hsmall : ∀ c ∈ text, Text.IsSmall c)
    (h : decode? text = some label) (hlabel : ∀ c ∈ label, (c : Nat) < 0x80 → IsNameSign c)
    (hascii : ∀ c ∈ text, (c : Nat) < 0x80) : ∀ c ∈ text, IsNameSign c := by
  unfold decode? at h
  dsimp only at h
  by_cases hhyphen : 0x2d ∈ text
  · obtain ⟨front, back, rfl, hback⟩ := Text.exists_last hhyphen
    rw [Text.reverse_takeWhile_ne front hback] at h
    obtain ⟨hfront, hdigits⟩ := insertPoints_eq_some h
    rw [List.forall_mem_append, List.forall_mem_cons] at hsmall hascii ⊢
    rw [Text.take_length_sub] at hfront
    refine ⟨fun c hc => hlabel c (hfront hc) (hascii.1 c hc), .inl rfl, fun c hc => ?_⟩
    exact isNameSign_of_digitValue (hsmall.2.2 c hc) (hdigits c hc)
  · rw [Text.reverse_takeWhile_ne_of_notMem hhyphen] at h
    obtain ⟨-, hdigits⟩ := insertPoints_eq_some h
    exact fun c hc => isNameSign_of_digitValue (hsmall c hc) (hdigits c hc)

end Punycode

/-! ## Names -/

theorem numberMark_signs : ∀ c ∈ numberMark, IsNameSign c := by
  unfold IsNameSign
  decide

/-- A label in ASCII that was checked, if it is in small letters. -/
theorem readLabel_signs {label out : Text} (hsmall : ∀ c ∈ label, Text.IsSmall c)
    (hascii : ∀ c ∈ label, (c : Nat) < 0x80) (h : readLabel label = .ok out) :
    ∀ c ∈ label, IsNameSign c := by
  have hkept : label.map Text.small = label := by
    have hpoint : ∀ c ∈ label, Text.small c = c := fun c hc => if_neg (hsmall c hc)
    rw [List.map_congr_left hpoint, List.map_id']
  unfold readLabel at h
  rw [hkept] at h
  dsimp only at h
  by_cases hmark : label.startsWith numberMark = true
  · rw [if_pos hmark] at h
    obtain ⟨-, h⟩ := guard_eq_ok_iff.1 h
    obtain ⟨-, h⟩ := guard_eq_ok_iff.1 h
    obtain ⟨numbers, rfl⟩ := List.isPrefixOf_iff_prefix.1 hmark
    rw [List.drop_left] at h
    rw [List.forall_mem_append] at hsmall hascii ⊢
    split at h
    case h_1 => cases h
    case h_2 label hdecode =>
      obtain ⟨_, hcheck, -⟩ := bind_eq_ok_iff.1 h
      exact ⟨numberMark_signs,
        Punycode.decode_signs hsmall.2 hdecode (checkLabel_signs hcheck) hascii.2⟩
  · rw [if_neg hmark] at h
    obtain ⟨_, hcheck, -⟩ := bind_eq_ok_iff.1 h
    exact fun c hc => checkLabel_signs hcheck c hc (hascii c hc)

/-- A label is written in small letters, figures and hyphens. -/
theorem writeLabel_signs {label out : Text} (hsmall : ∀ c ∈ label, Text.IsSmall c)
    (h : writeLabel label = .ok out) : ∀ c ∈ out, IsNameSign c := by
  unfold writeLabel at h
  dsimp only at h
  by_cases hascii : label.all (· < 0x80) = true
  · rw [if_pos hascii] at h
    obtain ⟨found, hread, h⟩ := bind_eq_ok_iff.1 h
    obtain ⟨written, hwritten, h⟩ := bind_eq_ok_iff.1 h
    cases hwritten
    obtain ⟨-, h⟩ := guard_eq_ok_iff.1 h
    cases h
    refine readLabel_signs hsmall (fun c hc => ?_) hread
    exact of_decide_eq_true (List.all_eq_true.1 hascii c hc)
  · rw [if_neg hascii] at h
    obtain ⟨_, hcheck, h⟩ := bind_eq_ok_iff.1 h
    obtain ⟨written, hwritten, h⟩ := bind_eq_ok_iff.1 h
    cases hwritten
    obtain ⟨-, h⟩ := guard_eq_ok_iff.1 h
    cases h
    have hnumbers := Punycode.encode_signs (checkLabel_signs hcheck)
    simpa [Text.concat] using List.forall_mem_append.2 ⟨numberMark_signs, hnumbers⟩

/-- A name is written in small letters, figures, hyphens and dots. -/
theorem writeName_signs {name out : Text} (hsmall : ∀ c ∈ name, Text.IsSmall c)
    (h : writeName name = .ok out) : ∀ c ∈ out, IsNameSign c ∨ c = 0x2e := by
  obtain ⟨written, hwritten, h⟩ := bind_eq_ok_iff.1 h
  obtain ⟨-, h⟩ := guard_eq_ok_iff.1 h
  cases h
  unfold mapLabels at hwritten
  obtain ⟨-, hwritten⟩ := guard_eq_ok_iff.1 hwritten
  dsimp only at hwritten
  obtain ⟨changed, hchanged, hwritten⟩ := bind_eq_ok_iff.1 hwritten
  cases hwritten
  generalize hdotted : name.map (fun c => if isLabelDot c then 0x2e else c) = dotted at hchanged
  have hpoints : ∀ c ∈ dotted, Text.IsSmall c := by
    have hdot : Text.IsSmall 0x2e := by
      unfold Text.IsSmall
      decide
    rw [← hdotted, List.forall_mem_map]
    intro c hc
    split_ifs
    · exact hdot
    · exact hsmall c hc
  have hlabels : ∀ label ∈ changed, ∀ c ∈ label, IsNameSign c := by
    intro label hlabel
    obtain ⟨original, horiginal, hwrite⟩ := mem_of_mapM_eq_ok hchanged label hlabel
    have hpiece : original ∈ Text.splitOn 0x2e dotted := by
      split_ifs at horiginal
      · exact List.dropLast_subset _ horiginal
      · exact horiginal
    exact writeLabel_signs (fun c hc => hpoints c (Text.mem_of_mem_splitOn hpiece c hc).1) hwrite
  have hdot : ∀ c ∈ ("." : Text), IsNameSign c ∨ c = 0x2e :=
    fun c hc => .inr (List.mem_singleton.1 hc)
  refine Text.forall_mem_join hdot fun label hlabel c hc => ?_
  left
  split_ifs at hlabel
  · rcases List.mem_append.1 hlabel with hlabel | hempty
    · exact hlabels label hlabel c hc
    · rw [List.mem_singleton.1 hempty] at hc
      cases hc
  · exact hlabels label hlabel c hc

end Url

end Colloquy
