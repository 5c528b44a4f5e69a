import Colloquy.Proofs.Url.Name
import Colloquy.Proofs.Url.Percent

/-!
# Hosts read again

A host in normal form is a numeric address of version 6, or it is plain
(`Url.normalHost_cases`).  It is read as itself again, unless letters of an escape are
capitals, or what was written for its labels looks like a numeric address and is none
(`Url.normalHost_hostText_iff`).
-/

namespace Colloquy.Url

variable {host written : Text}

/-! ## Numeric addresses -/

/-- What looks like an address of version 4 consists of figures and dots. -/
theorem looksLikeAddress4_signs (h : looksLikeAddress4 host = true) :
    ∀ c ∈ host, Text.isAsciiDigit c = true ∨ c = 0x2e := by
  unfold looksLikeAddress4 at h
  dsimp only at h
  rw [Bool.and_eq_true, List.all_eq_true] at h
  rw [← Text.join_splitOn 0x2e host]
  refine Text.forall_mem_join (fun c hc => .inr (List.mem_singleton.1 hc)) fun part hpart c hc => ?_
  have hdigits := h.2 part hpart
  rw [Bool.and_eq_true, List.all_eq_true] at hdigits
  exact .inl (hdigits.2 c hc)

/-- An address of version 6 holds colons. -/
theorem colon_mem_of_isAddress6 (h : isAddress6 host = true) : 0x3a ∈ host := by
  by_contra hcolon
  have haddress : 0x3a ∉ host.takeWhile (· ≠ 0x25) :=
    fun hmem => hcolon ((List.takeWhile_sublist _).subset hmem)
  unfold isAddress6 at h
  dsimp only at h
  rw [Text.splitOn_of_notMem haddress] at h
  simp at h

/-! ## Normal forms -/

theorem IsNameSign.lt {c : Nat} (h : IsNameSign c) : c < 0x80 := by
  unfold IsNameSign at h
  omega

instance : DecidablePred IsNameSign :=
  fun c => inferInstanceAs
    (Decidable (c = 0x2d ∨ (0x30 ≤ c ∧ c ≤ 0x39) ∨ (0x61 ≤ c ∧ c ≤ 0x7a)))

/-- What a name is written in is plain. -/
theorem isPlain_of_isNameSign {c : Nat} (h : IsNameSign c ∨ c = 0x2e) : IsPlain hostSafe c := by
  have hsigns : ∀ c < 0x80, IsNameSign c → IsPlain hostSafe c := by decide +kernel
  rcases h with hsign | rfl
  · exact hsigns c hsign.lt hsign
  · decide

theorem isPlain_of_figure {c : Nat} (h : Text.isAsciiDigit c = true ∨ c = 0x2e) :
    IsPlain hostSafe c := by
  refine isPlain_of_isNameSign (h.imp_left fun hdigit => ?_)
  rw [Text.isAsciiDigit, Bool.and_eq_true, decide_eq_true_iff, decide_eq_true_iff] at hdigit
  exact .inr (.inl hdigit)

/-- A host in brackets. -/
theorem eq_of_isBracketed (h : isBracketed host = true) :
    host = [0x5b] ++ (host.drop 1).dropLast ++ [0x5d] := by
  unfold isBracketed at h
  rw [Bool.and_eq_true, Bool.and_eq_true, decide_eq_true_iff, decide_eq_true_iff,
    decide_eq_true_iff] at h
  obtain ⟨⟨hhead, hlast⟩, hlength⟩ := h
  obtain ⟨rest, rfl⟩ := List.head?_eq_some_iff.1 hhead
  cases rest with
  | nil => exact absurd hlength (by decide)
  | cons c rest =>
    rw [List.getLast?_cons_cons] at hlast
    have hrest := List.dropLast_append_getLast? _ hlast
    rw [List.drop_succ_cons, List.drop_zero, List.append_assoc, hrest]
    rfl

/-- A host in normal form is plain, or an address of version 6 whose brackets were taken away. -/
theorem normalHost_cases (h : normalHost host = .ok written) :
    Plain hostSafe written ∨ host = [0x5b] ++ written ++ [0x5d] ∧ isAddress6 written = true := by
  unfold normalHost at h
  dsimp only at h
  split_ifs at h with hnil hlooks haddress4 hbrackets haddress6
  · cases h
    exact .inl nofun
  · cases h
    exact .inl fun c hc => isPlain_of_figure (looksLikeAddress4_signs hlooks c hc)
  · cases h
    exact .inr ⟨eq_of_isBracketed hbrackets, haddress6⟩
  · exact .inl (plain_of_percentEncode (by decide) h)
  · cases hname : writeName (Text.lower host) with
    | error fault =>
      rw [hname] at h
      cases h
    | ok name =>
      rw [hname] at h
      cases h
      exact .inl fun c hc =>
        isPlain_of_isNameSign (writeName_signs (Text.lower_small host) hname c hc)

/-! ## Hosts in an authority -/

/-- The host as it stands in an authority. -/
def hostText (host : Text) : Text :=
  if host.contains 0x3a then [0x5b] ++ host ++ [0x5d] else host

/-- A host that is read as itself: it is an address of version 6, or all its letters are small
letters and it is an address of version 4 if it looks like one. -/
def Settled (host : Text) : Prop :=
  0x3a ∈ host ∨ lowerAscii host = host ∧ (looksLikeAddress4 host = true → isAddress4 host = true)

theorem hostText_of_plain (h : Plain hostSafe written) : hostText written = written := by
  refine if_neg fun hcolon => ?_
  exact h.notMem (by decide) (List.contains_iff_mem.1 hcolon)

theorem hostText_of_address6 (h : isAddress6 written = true) :
    hostText written = [0x5b] ++ written ++ [0x5d] :=
  if_pos (List.contains_iff_mem.2 (colon_mem_of_isAddress6 h))

theorem lt_of_isPlain {c : Nat} (h : IsPlain hostSafe c) : c < 0x80 :=
  Nat.lt_succ_of_lt (h.isVisible fun _ => isVisible_of_hostSafe).2

/-- Small letters are as plain as the letters that they stand for. -/
theorem Plain.lowerAscii (h : Plain hostSafe written) : Plain hostSafe (lowerAscii written) := by
  have hpoints : ∀ c < 0x80, IsPlain hostSafe c → IsPlain hostSafe (Text.small c) := by
    decide +kernel
  rw [Url.lowerAscii, Plain, List.forall_mem_map]
  exact fun c hc => hpoints c (lt_of_isPlain (h c hc)) (h c hc)

/-- What looks like an address of version 4 has no letters. -/
theorem lowerAscii_of_looksLike (h : looksLikeAddress4 written = true) :
    lowerAscii written = written := by
  have hpoint : ∀ c ∈ written, Text.small c = c := by
    intro c hc
    refine if_neg ?_
    rcases looksLikeAddress4_signs h c hc with hdigit | rfl
    · rw [Text.isAsciiDigit, Bool.and_eq_true, decide_eq_true_iff, decide_eq_true_iff] at hdigit
      exact fun hcapital => absurd (hcapital.1.trans hdigit.2) (by decide)
    · decide
  rw [lowerAscii, List.map_congr_left hpoint, List.map_id']

theorem normalHost_of_plain (h : Plain hostSafe written) (hnil : written ≠ []) :
    normalHost written = if looksLikeAddress4 written then
      if isAddress4 written then .ok written else .error (.address4 written)
    else .ok (lowerAscii written) := by
  have hbracket : isBracketed written = false := by
    refine Bool.eq_false_iff.2 fun hbracketed => ?_
    rw [eq_of_isBracketed hbracketed] at h
    exact h.notMem (by decide) (List.mem_append_left _ (List.mem_append_left _ List.mem_cons_self))
  have hascii : written.all (· < 0x80) = true :=
    List.all_eq_true.2 fun c hc => decide_eq_true (lt_of_isPlain (h c hc))
  rw [normalHost, if_neg hnil, hbracket, if_neg Bool.false_ne_true, if_pos hascii,
    percentEncode_of_plain (by decide) h.lowerAscii]

/-- An address in brackets does not look like one of version 4. -/
theorem normalHost_of_address6 (h : isAddress6 written = true) :
    normalHost ([0x5b] ++ written ++ [0x5d]) = .ok written := by
  have hlooks : looksLikeAddress4 ([0x5b] ++ written ++ [0x5d]) = false := by
    refine Bool.eq_false_iff.2 fun hlooks => ?_
    have hfront := looksLikeAddress4_signs hlooks 0x5b
      (List.mem_append_left _ (List.mem_append_left _ List.mem_cons_self))
    revert hfront
    decide
  have hbracket : isBracketed ([0x5b] ++ written ++ [0x5d]) = true := by
    have hlast : ([0x5b] ++ written ++ [0x5d] : Text).getLast? = some 0x5d := List.getLast?_concat
    rw [isBracketed, hlast]
    simp
  have hinner : (([0x5b] ++ written ++ [0x5d] : Text).drop 1).dropLast = written := by
    simp
  rw [normalHost, if_neg (by simp), hlooks, if_neg Bool.false_ne_true, if_pos hbracket, hinner]
  dsimp only
  rw [if_pos h]

/-- A host in normal form is read as itself just when it is settled. -/
theorem normalHost_hostText_iff (h : normalHost host = .ok written) (hnil : written ≠ []) :
    normalHost (hostText written) = .ok written ↔ Settled written := by
  rcases normalHost_cases h with hplain | ⟨-, haddress⟩
  · have hcolon : 0x3a ∉ written := hplain.notMem (by decide)
    rw [hostText_of_plain hplain, normalHost_of_plain hplain hnil, Settled, or_iff_right hcolon]
    split_ifs with hlooks haddress4
    · simp [lowerAscii_of_looksLike hlooks, haddress4]
    · simp [hlooks, haddress4]
    · simp [hlooks]
  · rw [hostText_of_address6 haddress, normalHost_of_address6 haddress]
    exact iff_of_true rfl (.inl (colon_mem_of_isAddress6 haddress))

end Colloquy.Url
