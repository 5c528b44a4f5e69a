import Colloquy.Proofs.Json.Read

/-!
# Values at the front of a text

The reader takes a value off the front of a text, and what it takes does not depend on
what stands behind it (`Json.readValue_front`).  So an object is a document of its own
without the spaces around it (`Json.exists_of_read_object`).
-/

namespace Colloquy.Json

variable {text after rest used more : Text} {fuel room : Nat} {v : Value}

/-! ## Strings -/

/-- A text is read as the rest of a string up to the closing quote, whatever stands behind. -/
def ReadsRest (used t : Text) : Prop :=
  ∀ start fuel rest, used.length ≤ fuel → stringBody start fuel (used ++ rest) = .ok (t, rest)

theorem ReadsRest.ne_nil {t : Text} (h : ReadsRest used t) : used ≠ [] := by
  rintro rfl
  cases h 0 0 [] (Nat.le_refl 0)

/-- A numbered escape at the front of a string ends within the string. -/
theorem ReadsRest.exists_of_escape {t : Text} (h : ReadsRest used t)
    (heq : used ++ after = 0x5c :: 0x75 :: more) :
    ∃ a b c d e tail, used = 0x5c :: 0x75 :: a :: b :: c :: d :: e :: tail := by
  rcases used with _ | ⟨first, _ | ⟨second, digits⟩⟩
  · exact absurd rfl h.ne_nil
  · cases heq
    cases h 0 1 [] (Nat.le_refl 1)
  · cases heq
    have hread := h 0 (digits.length + 2) [] (Nat.le_refl _)
    rw [List.append_nil, stringBody, if_neg (by decide), if_pos rfl] at hread
    dsimp only at hread
    rw [if_pos rfl] at hread
    rcases digits with _ | ⟨a, _ | ⟨b, _ | ⟨c, _ | ⟨d, _ | ⟨e, tail⟩⟩⟩⟩⟩
    · cases hread
    · cases hread
    · cases hread
    · cases hread
    · cases hread
    · exact ⟨a, b, c, d, e, tail, rfl⟩

/-- Four digits stand at the front. -/
theorem exists_of_hex4? {n : Nat} (h : hex4? text = some (n, after)) :
    ∃ front, text = front ++ after ∧ front.length = 4 ∧ hex4? front = some (n, []) := by
  unfold hex4? at h
  split at h
  · rename_i a b c d tail
    split at h
    · rename_i ha hb hc hd
      cases h
      refine ⟨[a, b, c, d], rfl, rfl, ?_⟩
      simp only [hex4?, ha, hb, hc, hd]
    · cases h
  · cases h

/-- What a first number of a pair stands for, before the text that may have the second one. -/
def joinLow (high : Nat) (rest : Text) : Except Stop (CodePoint × Text) :=
  match rest with
  | 0x5c :: 0x75 :: more =>
    if (more.drop 4).isEmpty then .ok (high, rest)
    else match hex4? more with
      | none => stop .badNumberEscape (0x75 :: more)
      | some (low, rest') =>
        if isLow low then .ok (0x10000 + (high - 0xd800) * 0x400 + (low - 0xdc00), rest')
        else .ok (high, rest)
  | _ => .ok (high, rest)

theorem numberedEscape_eq {n : Nat} (h : hex4? text = some (n, rest)) (hrest : rest ≠ []) :
    numberedEscape text = if isHigh n then joinLow n rest else .ok (n, rest) := by
  obtain ⟨front, htext, hlength, -⟩ := exists_of_hex4? h
  have hdrop : text.drop 4 = rest := by
    rw [htext]
    exact List.drop_left' hlength
  have hmore : rest.isEmpty = false := List.isEmpty_eq_false_iff.2 hrest
  unfold numberedEscape
  dsimp only
  rw [hdrop, hmore, h]
  rfl

/-- A second number that is read is joined with the first one when it is low. -/
theorem joinLow_of_digits {high low : Nat} {digits : Text} (h : hex4? digits = some (low, rest))
    (hrest : rest ≠ []) : joinLow high (0x5c :: 0x75 :: digits) =
      if isLow low then .ok (0x10000 + (high - 0xd800) * 0x400 + (low - 0xdc00), rest)
      else .ok (high, 0x5c :: 0x75 :: digits) := by
  obtain ⟨front, htext, hlength, -⟩ := exists_of_hex4? h
  have hmore : (digits.drop 4).isEmpty = false := by
    rw [htext, List.drop_left' hlength]
    exact List.isEmpty_eq_false_iff.2 hrest
  rw [joinLow, hmore, h]
  rfl

theorem joinLow_front {high : Nat} {point : CodePoint} {t : Text}
    (h : joinLow high text = .ok (point, used ++ after)) (hused : ReadsRest used t) :
    ∃ front, text = front ++ (used ++ after) ∧
      ∀ rest, joinLow high (front ++ (used ++ rest)) = .ok (point, used ++ rest) := by
  unfold joinLow at h
  split at h
  · rename_i digits
    by_cases hshort : (digits.drop 4).isEmpty = true
    · -- the string would have to go on with a numbered escape that has no room
      rw [if_pos hshort] at h
      injection h with h
      obtain ⟨-, heq⟩ := Prod.mk.inj h
      obtain ⟨a, b, c, d, e, tail, rfl⟩ := hused.exists_of_escape heq.symm
      cases heq
      cases hshort
    rw [if_neg hshort] at h
    cases hlow : hex4? digits with
    | none =>
      rw [hlow] at h
      cases h
    | some found =>
      obtain ⟨low, remaining⟩ := found
      obtain ⟨front, hdigits, hlength, hfront⟩ := exists_of_hex4? hlow
      rw [hlow] at h
      dsimp only at h
      split at h
      · rename_i hisLow
        injection h with h
        obtain ⟨hpoint, hremaining⟩ := Prod.mk.inj h
        refine ⟨0x5c :: 0x75 :: front, by rw [hdigits, hremaining]; rfl, fun rest => ?_⟩
        have hne : used ++ rest ≠ [] := List.append_ne_nil_of_left_ne_nil hused.ne_nil rest
        have hread : hex4? (front ++ (used ++ rest)) = some (low, used ++ rest) :=
          hex4?_append hfront _
        show joinLow high (0x5c :: 0x75 :: (front ++ (used ++ rest))) = _
        rw [joinLow_of_digits hread hne, if_pos hisLow, hpoint]
      · rename_i hisLow
        injection h with h
        obtain ⟨hpoint, heq⟩ := Prod.mk.inj h
        refine ⟨[], heq, fun rest => ?_⟩
        obtain ⟨a, b, c, d, e, tail, rfl⟩ := hused.exists_of_escape heq.symm
        cases heq
        have hfour : [a, b, c, d] = front :=
          List.append_inj_left (show [a, b, c, d] ++ (e :: tail ++ after) = front ++ remaining from
            hdigits) hlength.symm
        have hread : hex4? (a :: b :: c :: d :: e :: (tail ++ rest))
            = some (low, e :: (tail ++ rest)) := by
          rw [← hfour] at hfront
          exact hex4?_append hfront (e :: (tail ++ rest))
        show joinLow high (0x5c :: 0x75 :: a :: b :: c :: d :: e :: (tail ++ rest)) = _
        rw [joinLow_of_digits hread (List.cons_ne_nil _ _), if_neg hisLow, hpoint]
        rfl
  · rename_i hother
    injection h with h
    obtain ⟨hpoint, heq⟩ := Prod.mk.inj h
    refine ⟨[], heq, fun rest => ?_⟩
    unfold joinLow
    split
    · rename_i digits hdigits
      obtain ⟨a, b, c, d, e, tail, rfl⟩ := hused.exists_of_escape hdigits
      exact absurd heq (hother _)
    · rw [hpoint]
      rfl

/-- What a numbered escape stands for does not depend on what stands behind the string. -/
theorem numberedEscape_front {point : CodePoint} {t : Text}
    (h : numberedEscape text = .ok (point, used ++ after)) (hused : ReadsRest used t) :
    ∃ front, text = front ++ (used ++ after) ∧
      ∀ rest, numberedEscape (front ++ (used ++ rest)) = .ok (point, used ++ rest) := by
  have hne : ∀ rest, used ++ rest ≠ [] := fun rest =>
    List.append_ne_nil_of_left_ne_nil hused.ne_nil rest
  cases hread : hex4? text with
  | none =>
    unfold numberedEscape at h
    dsimp only at h
    rw [hread] at h
    split at h
    · cases h
    · cases h
  | some found =>
    obtain ⟨n, remaining⟩ := found
    obtain ⟨front, htext, hlength, hfront⟩ := exists_of_hex4? hread
    have hremaining : remaining ≠ [] := by
      rintro rfl
      have hdrop : text.drop 4 = [] := by
        rw [htext]
        exact List.drop_left' hlength
      unfold numberedEscape at h
      dsimp only at h
      rw [hdrop] at h
      cases h
    rw [numberedEscape_eq hread hremaining] at h
    split at h
    · rename_i hhigh
      obtain ⟨pair, hpair, hjoin⟩ := joinLow_front h hused
      refine ⟨front ++ pair, by rw [htext, hpair, List.append_assoc], fun rest => ?_⟩
      have hmore : pair ++ (used ++ rest) ≠ [] :=
        List.append_ne_nil_of_right_ne_nil pair (hne rest)
      have hagain := hex4?_append hfront (pair ++ (used ++ rest))
      rw [List.append_assoc, numberedEscape_eq hagain hmore, if_pos hhigh]
      exact hjoin rest
    · rename_i hhigh
      injection h with h
      obtain ⟨hpoint, heq⟩ := Prod.mk.inj h
      refine ⟨front, by rw [htext, heq], fun rest => ?_⟩
      have hagain := hex4?_append hfront (used ++ rest)
      rw [numberedEscape_eq hagain (hne rest), if_neg hhigh, hpoint]
      rfl

namespace ReadsRest

variable {t : Text} {c e : CodePoint}

theorem cons (h : ∀ start fuel rest, used.length ≤ fuel →
    stringBody start (fuel + 1) (c :: (used ++ rest)) = .ok (t, rest)) :
    ReadsRest (c :: used) t := by
  intro start fuel rest hfuel
  cases fuel with
  | zero => cases hfuel
  | succ fuel => exact h start fuel rest (Nat.le_of_succ_le_succ hfuel)

theorem quote : ReadsRest [0x22] [] :=
  .cons fun _ _ _ _ => rfl

theorem plain (hquote : c ≠ 0x22) (hbackslash : c ≠ 0x5c) (hcontrol : ¬c < 0x20)
    (h : ReadsRest used t) : ReadsRest (c :: used) (c :: t) := by
  refine .cons fun start fuel rest hfuel => ?_
  rw [stringBody.eq_def]
  dsimp only
  rw [if_neg hquote, if_neg hbackslash, if_neg hcontrol, h start fuel rest hfuel]
  rfl

theorem lettered {point : CodePoint} (hletter : e ≠ 0x75) (hstands : simpleEscape? e = some point)
    (h : ReadsRest used t) : ReadsRest (0x5c :: e :: used) (point :: t) := by
  refine .cons fun start fuel rest hfuel => ?_
  rw [List.length_cons] at hfuel
  show stringBody start (fuel + 1) (0x5c :: e :: (used ++ rest)) = _
  rw [stringBody, if_neg (by decide), if_pos rfl]
  dsimp only
  rw [if_neg hletter, hstands]
  dsimp only
  rw [h start fuel rest (by omega)]
  rfl

theorem numbered {point : CodePoint} {front : Text}
    (hfront : ∀ rest, numberedEscape (front ++ (used ++ rest)) = .ok (point, used ++ rest))
    (h : ReadsRest used t) : ReadsRest (0x5c :: 0x75 :: (front ++ used)) (point :: t) := by
  refine .cons fun start fuel rest hfuel => ?_
  simp only [List.length_cons, List.length_append] at hfuel
  have htext : 0x75 :: (front ++ used) ++ rest = 0x75 :: (front ++ (used ++ rest)) := by simp
  rw [htext, stringBody, if_neg (by decide), if_pos rfl]
  dsimp only
  rw [if_pos rfl, hfront rest, ok_bind]
  dsimp only
  rw [h start fuel rest (by omega)]
  rfl

end ReadsRest

/-- What is read as the rest of a string does not depend on what stands behind it. -/
theorem stringBody_front {start : Nat} {t : Text}
    (h : stringBody start fuel text = .ok (t, after)) :
    ∃ used, text = used ++ after ∧ ReadsRest used t := by
  induction fuel generalizing text t with
  | zero =>
    rw [stringBody] at h
    cases h
  | succ fuel ih =>
    cases text with
    | nil =>
      rw [stringBody] at h
      cases h
    | cons c text =>
      rw [stringBody.eq_def] at h
      dsimp only at h
      split at h
      · rename_i hquote
        cases h
        exact ⟨[c], rfl, by rw [hquote]; exact .quote⟩
      rename_i hquote
      split at h
      · rename_i hbackslash
        split at h
        · cases h
        · rename_i e digits
          split at h
          · rename_i hnumber
            obtain ⟨⟨point, more⟩, hpoint, h⟩ := bind_eq_ok_iff.1 h
            obtain ⟨⟨tail, last⟩, htail, h⟩ := bind_eq_ok_iff.1 h
            cases h
            obtain ⟨used, rfl, hused⟩ := ih htail
            obtain ⟨front, rfl, hfront⟩ := numberedEscape_front hpoint hused
            refine ⟨c :: e :: (front ++ used), by simp, ?_⟩
            rw [hbackslash, hnumber]
            exact .numbered hfront hused
          · rename_i hletter
            split at h
            · cases h
            · rename_i point hstands
              obtain ⟨⟨tail, last⟩, htail, h⟩ := bind_eq_ok_iff.1 h
              cases h
              obtain ⟨used, rfl, hused⟩ := ih htail
              refine ⟨c :: e :: used, rfl, ?_⟩
              rw [hbackslash]
              exact .lettered hletter hstands hused
      rename_i hbackslash
      split at h
      · cases h
      · rename_i hcontrol
        obtain ⟨⟨tail, last⟩, htail, h⟩ := bind_eq_ok_iff.1 h
        cases h
        obtain ⟨used, rfl, hused⟩ := ih htail
        exact ⟨c :: used, rfl, .plain hquote hbackslash hcontrol hused⟩

/-- The string at the front of a text is read whatever stands behind it. -/
theorem readString_front {t : Text} (h : readString text = .ok (t, after)) :
    ∃ used, text = used ++ after ∧ ∀ rest, readString (used ++ rest) = .ok (t, rest) := by
  obtain ⟨used, htext, hused⟩ := stringBody_front h
  refine ⟨used, htext, fun rest => hused _ _ rest ?_⟩
  rw [List.length_append]
  omega

/-! ## Spaces -/

/-- What is left when spaces are skipped stands behind them. -/
theorem exists_spaces (h : skip text = rest) : ∃ spaces, Spaces spaces ∧ text = spaces ++ rest := by
  refine ⟨text.takeWhile isSpace, fun c hc => List.mem_takeWhile_imp hc, ?_⟩
  rw [← h]
  exact (List.takeWhile_append_dropWhile).symm

/-- What ends a value stands behind the spaces. -/
theorem exists_skip_eq {c : CodePoint} (h : skip text = c :: rest)
    (hc : c = 0x2c ∨ c = 0x5d ∨ c = 0x7d) :
    ∃ spaces, Spaces spaces ∧ text = spaces ++ c :: rest ∧ Ends text := by
  obtain ⟨spaces, hspaces, htext⟩ := exists_spaces h
  refine ⟨spaces, hspaces, htext, ?_⟩
  rw [htext]
  refine .spaces hspaces (.cons ?_ rest)
  rcases hc with hc | hc | hc
  · exact .inl hc
  · exact .inr (.inl hc)
  · exact .inr (.inr (.inl hc))

/-! ## Values -/

/-- A word at the front of a text is read whatever stands behind it. -/
theorem readWord?_front (h : readWord? text = some (v, after)) (room : Nat) :
    ∃ used, text = used ++ after ∧ ReadsAs room used v := by
  rw [readWord?, Option.map_eq_some_iff] at h
  obtain ⟨⟨word, value⟩, hfound, heq⟩ := h
  cases heq
  have hstarts := List.find?_some hfound
  have hprefix : word <+: text := List.isPrefixOf_iff_prefix.1 hstarts
  refine ⟨word, ?_, .word (List.mem_of_find?_eq_some hfound) room⟩
  exact List.prefix_iff_eq_append.1 hprefix |>.symm

/-- A number at the front of a text is read whatever ends it. -/
theorem readNumber_front (h : readNumber text = .ok (v, after)) (hafter : Ends after)
    (room : Nat) : ∃ used, text = used ++ after ∧ ReadsAs room used v := by
  obtain ⟨used, rfl⟩ := readNumber_suffix h
  exact ⟨used, rfl, .number (readNumber_of_append hafter h) room⟩

/-- A text ends with the brace that closes an object. -/
def Closes (text : Text) : Prop :=
  ∃ front, text = front ++ [0x7d]

theorem Closes.append (h : Closes text) (front : Text) : Closes (front ++ text) := by
  obtain ⟨inner, rfl⟩ := h
  exact ⟨front ++ inner, by rw [List.append_assoc]⟩

/-- A value that needs no room is no object. -/
theorem Fits.ne_object (h : Fits 0 v) (fields : Fields) : v ≠ .object fields := by
  rintro rfl
  exact Nat.not_succ_le_zero _ h.2

/-- What the readers take off the front of a text with so much fuel is read whatever stands behind
it, and an object has its braces around it. -/
structure ReadersTakeFront (fuel : Nat) : Prop where
  value {room : Nat} {text after : Text} {v : Value}
    (h : readValue fuel room text = .ok (v, after)) (hafter : Ends after) :
    ∃ used, text = used ++ after ∧ ReadsAs room used v ∧
      ∀ fields, v = .object fields → ∃ inner, used = 0x7b :: (inner ++ [0x7d])
  items {room : Nat} {text after : Text} {items : List Value}
    (h : readItems fuel room text = .ok (items, after)) :
    ∃ used, text = used ++ after ∧ ReadsItems room used items
  fields {room : Nat} {text after : Text} {before fields : Fields}
    (h : readFields fuel room before text = .ok (fields, after)) :
    ∃ used, text = used ++ after ∧ ReadsFields room before used fields ∧ Closes used

section

variable (ih : ReadersTakeFront fuel)
include ih

theorem ReadersTakeFront.value_succ (h : readValue (fuel + 1) room text = .ok (v, after))
    (hafter : Ends after) : ∃ used, text = used ++ after ∧ ReadsAs room used v ∧
      ∀ fields, v = .object fields → ∃ inner, used = 0x7b :: (inner ++ [0x7d]) := by
  unfold readValue at h
  split at h
  · obtain ⟨⟨t, more⟩, hread, h⟩ := bind_eq_ok_iff.1 h
    cases h
    obtain ⟨used, rfl, hused⟩ := readString_front hread
    exact ⟨0x22 :: used, rfl, .ofString hused room, fun _ heq => by cases heq⟩
  · split at h
    · cases h
    rename_i hroom
    obtain ⟨room, rfl⟩ := Nat.exists_eq_succ_of_ne_zero hroom
    split at h
    · rename_i hskip
      cases h
      obtain ⟨spaces, hspaces, rfl⟩ := exists_spaces hskip
      refine ⟨0x7b :: (spaces ++ [0x7d]), by simp, .nilObject hspaces room, ?_⟩
      exact fun _ _ => ⟨spaces, rfl⟩
    · obtain ⟨⟨fields, more⟩, hread, h⟩ := bind_eq_ok_iff.1 h
      cases h
      obtain ⟨used, htext, hused, hcloses⟩ := ih.fields hread
      obtain ⟨spaces, hspaces, rfl⟩ := exists_spaces htext
      obtain ⟨inner, hinner⟩ := hcloses.append spaces
      refine ⟨0x7b :: (spaces ++ used), by simp, .ofFields hspaces hused, ?_⟩
      exact fun _ _ => ⟨inner, by rw [hinner]⟩
  · split at h
    · cases h
    rename_i hroom
    obtain ⟨room, rfl⟩ := Nat.exists_eq_succ_of_ne_zero hroom
    split at h
    · rename_i hskip
      cases h
      obtain ⟨spaces, hspaces, rfl⟩ := exists_spaces hskip
      refine ⟨0x5b :: (spaces ++ [0x5d]), by simp, .nilList hspaces room, ?_⟩
      exact fun _ heq => by cases heq
    · obtain ⟨⟨items, more⟩, hread, h⟩ := bind_eq_ok_iff.1 h
      cases h
      obtain ⟨used, htext, hused⟩ := ih.items hread
      obtain ⟨spaces, hspaces, rfl⟩ := exists_spaces htext
      refine ⟨0x5b :: (spaces ++ used), by simp, .ofItems hspaces hused, ?_⟩
      exact fun _ heq => by cases heq
  · split at h
    · rename_i hword
      cases h
      obtain ⟨used, htext, hused⟩ := readWord?_front hword room
      exact ⟨used, htext, hused, fun _ hv => absurd hv ((readWord?_fits hword 0).ne_object _)⟩
    · obtain ⟨used, htext, hused⟩ := readNumber_front h hafter room
      exact ⟨used, htext, hused, fun _ hv => absurd hv ((readNumber_fits h 0).ne_object _)⟩

theorem ReadersTakeFront.items_succ {items : List Value}
    (h : readItems (fuel + 1) room text = .ok (items, after)) :
    ∃ used, text = used ++ after ∧ ReadsItems room used items := by
  rw [readItems] at h
  obtain ⟨⟨item, more⟩, hitem, h⟩ := bind_eq_ok_iff.1 h
  dsimp only at h
  split at h
  · rename_i last hskip
    cases h
    obtain ⟨spaces, hspaces, hmore, hends⟩ := exists_skip_eq hskip (by decide)
    obtain ⟨used, rfl, hused, -⟩ := ih.value hitem hends
    refine ⟨used ++ (spaces ++ [0x5d]), ?_, .last hused hspaces⟩
    rw [hmore]
    simp
  · rename_i others hskip
    obtain ⟨⟨rest, last⟩, hothers, h⟩ := bind_eq_ok_iff.1 h
    cases h
    obtain ⟨spaces, hspaces, hmore, hends⟩ := exists_skip_eq hskip (by decide)
    obtain ⟨used, rfl, hused, -⟩ := ih.value hitem hends
    obtain ⟨tail, htail, hreads⟩ := ih.items hothers
    obtain ⟨spaces', hspaces', rfl⟩ := exists_spaces htail
    refine ⟨used ++ (spaces ++ 0x2c :: (spaces' ++ tail)), ?_, .more hused hspaces hspaces' hreads⟩
    rw [hmore]
    simp
  · cases h

theorem ReadersTakeFront.fields_succ {before fields : Fields}
    (h : readFields (fuel + 1) room before text = .ok (fields, after)) :
    ∃ used, text = used ++ after ∧ ReadsFields room before used fields ∧ Closes used := by
  unfold readFields at h
  split at h
  · rename_i inside
    obtain ⟨⟨name, more⟩, hname, h⟩ := bind_eq_ok_iff.1 h
    dsimp only at h
    split at h
    · rename_i colon hcolon
      obtain ⟨⟨v, behind⟩, hv, h⟩ := bind_eq_ok_iff.1 h
      dsimp only at h
      obtain ⟨front, hinside, hfront⟩ := readString_front hname
      obtain ⟨spaces, hspaces, hmore⟩ := exists_spaces hcolon
      have hfield : Ends behind →
          ∃ part, 0x22 :: inside = part ++ behind ∧ ReadsField room (name, v) part := by
        intro hends
        obtain ⟨used, hused, hreads, -⟩ := ih.value hv hends
        obtain ⟨spaces', hspaces', rfl⟩ := exists_spaces hused
        refine ⟨0x22 :: (front ++ (spaces ++ 0x3a :: (spaces' ++ used))), ?_,
          front, spaces, spaces', used, hspaces, hspaces', hreads, hfront, rfl⟩
        rw [hinside, hmore]
        simp
      split at h
      · rename_i last hskip
        cases h
        obtain ⟨closing, hclosing, hbehind, hends⟩ := exists_skip_eq hskip (by decide)
        obtain ⟨part, htext, hfield⟩ := hfield hends
        refine ⟨part ++ (closing ++ [0x7d]), ?_, .last hfield hclosing, part ++ closing, by simp⟩
        rw [htext, hbehind]
        simp
      · rename_i others hskip
        obtain ⟨comma, hcomma, hbehind, hends⟩ := exists_skip_eq hskip (by decide)
        obtain ⟨part, htext, hfield⟩ := hfield hends
        obtain ⟨tail, htail, hreads, hcloses⟩ := ih.fields h
        obtain ⟨comma', hcomma', rfl⟩ := exists_spaces htail
        refine ⟨part ++ (comma ++ 0x2c :: (comma' ++ tail)), ?_,
          .more hfield hcomma hcomma' hreads, ?_⟩
        · rw [htext, hbehind]
          simp
        · have hall := hcloses.append (part ++ (comma ++ 0x2c :: comma'))
          simpa using hall
      · cases h
    · cases h
  · cases h

end

theorem readersTakeFront (fuel : Nat) : ReadersTakeFront fuel := by
  induction fuel with
  | zero =>
    refine ⟨fun h => ?_, fun h => ?_, fun h => ?_⟩
    · rw [readValue] at h
      cases h
    · rw [readItems] at h
      cases h
    · rw [readFields] at h
      cases h
  | succ fuel ih => exact ⟨ih.value_succ, ih.items_succ, ih.fields_succ⟩

/-- The value at the front of a text is read whatever ends it. -/
theorem readValue_front (h : readValue fuel room text = .ok (v, after)) (hafter : Ends after) :
    ∃ used, text = used ++ after ∧ ReadsAs room used v ∧
      ∀ fields, v = .object fields → ∃ inner, used = 0x7b :: (inner ++ [0x7d]) :=
  (readersTakeFront fuel).value h hafter

/-! ## Documents -/

/-- An object that a text holds stands in it between braces, with spaces around it. -/
theorem exists_of_read_object {fields : Fields} (h : read text = .ok (.object fields)) :
    ∃ spaces inner spaces', Spaces spaces ∧ Spaces spaces' ∧
      text = spaces ++ (0x7b :: (inner ++ [0x7d]) ++ spaces') ∧
      read (0x7b :: (inner ++ [0x7d])) = .ok (.object fields) := by
  have hwhole : readWhole text = .ok (.object fields) := by
    rw [read] at h
    split at h
    · cases h
    · exact h
  unfold readWhole at hwhole
  dsimp only at hwhole
  split at hwhole
  · cases hwhole
  · rename_i v after hread
    split at hwhole
    · rename_i hskip
      cases hwhole
      obtain ⟨spaces', hspaces', hafter⟩ := exists_spaces hskip
      rw [List.append_nil] at hafter
      have hends : Ends after := by
        rw [hafter, ← List.append_nil spaces']
        exact .spaces hspaces' .nil
      obtain ⟨used, hused, hreads, hbraces⟩ := readValue_front hread hends
      obtain ⟨inner, rfl⟩ := hbraces fields rfl
      obtain ⟨spaces, hspaces, htext⟩ := exists_spaces hused
      refine ⟨spaces, inner, spaces', hspaces, hspaces', ?_, hreads.read⟩
      rw [htext, hafter]
    · cases hwhole

end Colloquy.Json
