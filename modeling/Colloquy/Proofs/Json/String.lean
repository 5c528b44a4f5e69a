import Colloquy.Json.Reader
import Mathlib.Data.List.Basic

/-!
# Strings read back

Inside its quotes a string is written code point by code point, and each of them in one of
three ways: as itself, as a backslash with a letter, or as a backslash with its number
(`Json.escape_cases`).  The reader undoes every one of them, whatever the text is
(`Json.readString_escaped`).
-/

namespace Colloquy.Json

/-! ## Code points -/

/-- All but quotes, backslashes and controls stand for themselves. -/
theorem escape_eq_self {c : Nat} (hcontrol : 0x20 ≤ c) (hquote : c ≠ 0x22)
    (hbackslash : c ≠ 0x5c) : escape c = [c] := by
  unfold escape
  rw [if_neg hquote, if_neg hbackslash, if_neg (show c ≠ 0x08 by omega),
    if_neg (show c ≠ 0x09 by omega), if_neg (show c ≠ 0x0a by omega),
    if_neg (show c ≠ 0x0c by omega), if_neg (show c ≠ 0x0d by omega),
    if_neg (show ¬c < 0x20 by omega)]

/-- How a code point is written. -/
inductive Escaped (c : CodePoint) : Text → Prop
  | itself (hcontrol : 0x20 ≤ c) (hquote : c ≠ 0x22) (hbackslash : c ≠ 0x5c) : Escaped c [c]
  | letter {e : CodePoint} (hletter : e ≠ 0x75) (hstands : simpleEscape? e = some c) :
      Escaped c [0x5c, e]
  | number (hcontrol : c < 0x20) : Escaped c (0x5c :: 0x75 :: Text.hex 4 c)

theorem escape_escaped (c : CodePoint) : Escaped c (escape c) := by
  unfold escape
  split
  · rename_i h
    exact .letter (e := 0x22) (by decide) (by rw [h]; rfl)
  split
  · rename_i h
    exact .letter (e := 0x5c) (by decide) (by rw [h]; rfl)
  split
  · rename_i h
    exact .letter (e := 0x62) (by decide) (by rw [h]; rfl)
  split
  · rename_i h
    exact .letter (e := 0x74) (by decide) (by rw [h]; rfl)
  split
  · rename_i h
    exact .letter (e := 0x6e) (by decide) (by rw [h]; rfl)
  split
  · rename_i h
    exact .letter (e := 0x66) (by decide) (by rw [h]; rfl)
  split
  · rename_i h
    exact .letter (e := 0x72) (by decide) (by rw [h]; rfl)
  split
  · rename_i h
    have hnumber : Text.concat ["\\u", Text.hex 4 c] = 0x5c :: 0x75 :: Text.hex 4 c :=
      congrArg (fun digits => 0x5c :: 0x75 :: digits) (List.append_nil _)
    rw [hnumber]
    exact .number h
  · rename_i hquote hbackslash _ _ _ _ _ hcontrol
    exact .itself (Nat.not_lt.1 hcontrol) hquote hbackslash

theorem Escaped.length_pos {c : CodePoint} {written : Text} (h : Escaped c written) :
    1 ≤ written.length := by
  cases h with
  | itself | letter | number => exact Nat.succ_le_succ (Nat.zero_le _)

/-! ## Numbered escapes -/

/-- Four digits are read the same whatever follows them. -/
theorem hex4?_append {text after : Text} {n : Nat} (h : hex4? text = some (n, after))
    (rest : Text) : hex4? (text ++ rest) = some (n, after ++ rest) := by
  unfold hex4? at h
  split at h
  · rename_i a b c d more
    split at h
    · rename_i ha hb hc hd
      cases h
      simp only [hex4?, List.cons_append, ha, hb, hc, hd]
    · cases h
  · cases h

/-- The number of a control is read back. -/
theorem numberedEscape_hex {c : CodePoint} (h : c < 0x20) {rest : Text} (hrest : rest ≠ []) :
    numberedEscape (Text.hex 4 c ++ rest) = .ok (c, rest) := by
  have hdigits : ∀ c < 0x20, hex4? (Text.hex 4 c) = some (c, []) := by decide
  have hlow : isHigh c = false := by
    have hall : ∀ c < 0x20, isHigh c = false := by decide
    exact hall c h
  have hfour : (Text.hex 4 c ++ rest).drop 4 = rest := List.drop_left' rfl
  have hread : hex4? (Text.hex 4 c ++ rest) = some (c, rest) := hex4?_append (hdigits c h) rest
  have hmore : rest.isEmpty = false := List.isEmpty_eq_false_iff.2 hrest
  unfold numberedEscape
  dsimp only
  rw [hfour, hmore, hread]
  dsimp only
  rw [hlow]
  rfl

/-! ## Strings -/

/-- A written code point is read back, and then what follows it. -/
theorem stringBody_escaped (start fuel : Nat) {c : CodePoint} {written rest : Text}
    (h : Escaped c written) (hrest : rest ≠ []) :
    stringBody start (fuel + 1) (written ++ rest) = do
      let (text, after) ← stringBody start fuel rest
      return (c :: text, after) := by
  cases h with
  | itself hcontrol hquote hbackslash =>
    show stringBody start (fuel + 1) (c :: rest) = _
    rw [stringBody.eq_def]
    dsimp only
    rw [if_neg hquote, if_neg hbackslash, if_neg (Nat.not_lt.2 hcontrol)]
  | @letter e hletter hstands =>
    show stringBody start (fuel + 1) (0x5c :: e :: rest) = _
    rw [stringBody, if_neg (by decide), if_pos rfl]
    dsimp only
    rw [if_neg hletter, hstands]
  | number hcontrol =>
    show stringBody start (fuel + 1) (0x5c :: 0x75 :: (Text.hex 4 c ++ rest)) = _
    rw [stringBody, if_neg (by decide), if_pos rfl]
    dsimp only
    rw [if_pos rfl, numberedEscape_hex hcontrol hrest]
    rfl

/-- The text of a string is read back up to the closing quote. -/
theorem stringBody_flatMap_escape (start : Nat) (text rest : Text) {fuel : Nat}
    (hfuel : text.length < fuel) :
    stringBody start fuel (text.flatMap escape ++ 0x22 :: rest) = .ok (text, rest) := by
  induction text generalizing fuel with
  | nil =>
    cases fuel with
    | zero => cases hfuel
    | succ fuel => rfl
  | cons c text ih =>
    cases fuel with
    | zero => cases hfuel
    | succ fuel =>
      have hmore : text.flatMap escape ++ 0x22 :: rest ≠ [] :=
        List.append_ne_nil_of_right_ne_nil _ (List.cons_ne_nil _ _)
      rw [List.flatMap_cons, List.append_assoc,
        stringBody_escaped start fuel (escape_escaped c) hmore, ih (Nat.lt_of_succ_lt_succ hfuel)]
      rfl

theorem length_le_flatMap_escape (text : Text) : text.length ≤ (text.flatMap escape).length := by
  induction text with
  | nil => exact Nat.le_refl 0
  | cons c text ih =>
    have hone : 1 ≤ (escape c).length := (escape_escaped c).length_pos
    rw [List.flatMap_cons, List.length_append, List.length_cons]
    omega

/-- Whatever a text is, it is read back from the string that it is written as. -/
theorem readString_escaped (text rest : Text) :
    readString (text.flatMap escape ++ 0x22 :: rest) = .ok (text, rest) := by
  refine stringBody_flatMap_escape _ text rest ?_
  have hlength := length_le_flatMap_escape text
  rw [List.length_append, List.length_cons]
  omega

/-- A tab is written as a letter, a bell as a number. -/
example : string [0x61, 0x09, 0x07] = Text.ofString "\"a\\t\\u0007\"" := rfl

end Colloquy.Json
