import Colloquy.Proofs.Error.Escape
import Colloquy.Proofs.Text.Pieces
import Colloquy.Url.Parse

/-!
# The parts of an address

Reading an address first parts the text at its marks (`Url.parts`), and then brings each
part into normal form by itself (`Url.Parts.Normal`).  A text that was put together of parts
without the marks around them is parted into them again.
-/

namespace Colloquy.Url

/-! ## Parting -/

/-- The parts of a text, as they stand there. -/
structure Parts where
  scheme : Text
  userinfo : Text
  host : Text
  port : Text
  path : Text
  query : Option Text
  fragment : Option Text

/-- The parts of an authority: user information, host and port. -/
def authorityParts (authority : Text) : Text × Text × Text :=
  let (userinfo, hostAndPort) := splitUserinfo authority
  (userinfo, splitPort hostAndPort)

/-- The parts that a text is parted into at its marks. -/
def parts (text : Text) : Parts :=
  let (scheme, afterScheme) := splitScheme text
  let (authority, afterAuthority) := splitAuthority afterScheme
  let (path, afterPath) := splitBefore "?#" afterAuthority
  let (query, afterQuery) := splitMarked 0x3f "#" afterPath
  let (fragment, _) := splitMarked 0x23 [] afterQuery
  let (userinfo, host, port) := authorityParts authority
  { scheme, userinfo, host, port, path, query, fragment }

/-- An address has parts in normal form. -/
structure Parts.Normal (p : Parts) (u : Url) : Prop where
  scheme : u.scheme = lowerAscii p.scheme
  userinfo : percentEncode userinfoSafe p.userinfo = .ok u.userinfo
  host : normalHost p.host = .ok u.host
  port : normalPort p.scheme p.port = .ok u.port
  check : checkPath p.path (p.scheme != [])
    (u.userinfo != [] || u.host != [] || u.port.isSome) = .ok ()
  path : percentEncode pathSafe
    (if (p.scheme != []) || (u.userinfo != [] || u.host != [] || u.port.isSome)
      then normalPath p.path else p.path) = .ok u.path
  query : encodeComponent querySafe p.query = .ok u.query
  fragment : encodeComponent fragmentSafe p.fragment = .ok u.fragment

theorem parse_eq (text : Text) : parse text =
    if maxLength < text.length then .error .tooLong
    else match control? text with
      | some (c, position) => .error (.control c position)
      | none => do
        let p := parts text
        let userinfo ← percentEncode userinfoSafe p.userinfo
        let host ← normalHost p.host
        let port ← normalPort p.scheme p.port
        let hasScheme := p.scheme != []
        let hasAuthority := userinfo != [] || host != [] || port.isSome
        checkPath p.path hasScheme hasAuthority
        let path ← percentEncode pathSafe
          (if hasScheme || hasAuthority then normalPath p.path else p.path)
        let query ← encodeComponent querySafe p.query
        let fragment ← encodeComponent fragmentSafe p.fragment
        return { scheme := lowerAscii p.scheme, userinfo, host, port, path, query, fragment } :=
  rfl

/-- A text stands for an address just when it is not too long, has no controls, and its parts are
brought into the normal form. -/
theorem parse_eq_ok_iff {text : Text} {u : Url} : parse text = .ok u ↔
    text.length ≤ maxLength ∧ control? text = none ∧ (parts text).Normal u := by
  rw [parse_eq]
  by_cases hlength : maxLength < text.length
  · rw [if_pos hlength]
    exact iff_of_false nofun fun h => absurd hlength (Nat.not_lt.2 h.1)
  rw [if_neg hlength, and_iff_right (Nat.not_lt.1 hlength)]
  cases hcontrol : control? text with
  | some found => exact iff_of_false nofun fun h => nomatch h.1
  | none =>
    rw [and_iff_right rfl]
    generalize parts text = p
    constructor
    · intro h
      obtain ⟨userinfo, huserinfo, h⟩ := bind_eq_ok_iff.1 h
      obtain ⟨host, hhost, h⟩ := bind_eq_ok_iff.1 h
      obtain ⟨port, hport, h⟩ := bind_eq_ok_iff.1 h
      obtain ⟨_, hcheck, h⟩ := bind_eq_ok_iff.1 h
      obtain ⟨path, hpath, h⟩ := bind_eq_ok_iff.1 h
      obtain ⟨query, hquery, h⟩ := bind_eq_ok_iff.1 h
      obtain ⟨fragment, hfragment, h⟩ := bind_eq_ok_iff.1 h
      cases h
      exact ⟨rfl, huserinfo, hhost, hport, hcheck, hpath, hquery, hfragment⟩
    · intro h
      dsimp only
      rw [h.userinfo, ok_bind, h.host, ok_bind, h.port, ok_bind, h.check, ok_bind, h.path, ok_bind,
        h.query, ok_bind, h.fragment, ok_bind, ← h.scheme]
      rfl

/-! ## Controls -/

theorem control?_eq_none_iff {text : Text} :
    control? text = none ↔ ∀ c ∈ text, ¬((c : Nat) < 0x20 ∨ c = 0x7f) := by
  unfold control?
  rw [List.find?_eq_none]
  constructor
  · intro h c hc
    obtain ⟨i, hi, rfl⟩ := List.getElem_of_mem hc
    simpa using h (text[i], i) (List.mem_zipIdx_iff_getElem?.2 (List.getElem?_eq_getElem hi))
  · rintro h ⟨c, i⟩ hmem
    simpa using h c (List.fst_mem_of_mem_zipIdx hmem)

/-! ## Texts that are put together -/

variable {scheme authority userinfo host port front back rest : Text} {marks : Text}

theorem splitBefore_append (hfront : ∀ c ∈ front, c ∉ marks) (hback : ∀ c ∈ back.head?, c ∈ marks) :
    splitBefore marks (front ++ back) = (front, back) := by
  have hkept : ∀ c ∈ front, (!marks.contains c) = true := by
    intro c hc
    simpa using hfront c hc
  have hstop : back.takeWhile (!marks.contains ·) = [] ∧
      back.dropWhile (!marks.contains ·) = back := by
    cases back with
    | nil => exact ⟨rfl, rfl⟩
    | cons c back =>
      have hc : (!marks.contains c) ≠ true := by simpa using hback c rfl
      exact ⟨List.takeWhile_cons_of_neg hc, List.dropWhile_cons_of_neg hc⟩
  rw [splitBefore, List.takeWhile_append_of_pos hkept, List.dropWhile_append_of_pos hkept,
    hstop.1, hstop.2, List.append_nil]

theorem splitScheme_append (hscheme : isScheme scheme = true) (hcolon : 0x3a ∉ scheme)
    (rest : Text) :
    splitScheme (scheme ++ 0x3a :: rest) = (scheme, rest) := by
  have hsplit : splitBefore ":" (scheme ++ 0x3a :: rest) = (scheme, 0x3a :: rest) := by
    refine splitBefore_append (fun c hc hmark => hcolon ?_) ?_
    · have heq : c = 0x3a := List.mem_singleton.1 hmark
      exact heq ▸ hc
    · rintro c ⟨⟩
      exact List.mem_cons_self
  rw [splitScheme, hsplit]
  dsimp only
  rw [if_pos hscheme]

theorem splitAuthority_append (hauthority : ∀ c ∈ authority, c ∉ ("/?#" : Text))
    (hrest : ∀ c ∈ rest.head?, c ∈ ("/?#" : Text)) :
    splitAuthority ([0x2f, 0x2f] ++ (authority ++ rest)) = (authority, rest) :=
  splitBefore_append hauthority hrest

theorem splitUserinfo_append (hhost : 0x40 ∉ host) :
    splitUserinfo ((if userinfo = [] then [] else userinfo ++ [0x40]) ++ host)
      = (userinfo, host) := by
  unfold splitUserinfo
  dsimp only
  split_ifs with hnil hat hat
  · exact absurd (List.contains_iff_mem.1 hat) hhost
  · rw [hnil, List.nil_append]
  · rw [List.append_assoc, List.singleton_append, Text.reverse_takeWhile_ne userinfo hhost]
    rw [Text.take_length_sub]
  · exact absurd (List.contains_iff_mem.2 (by simp)) hat

/-- A text is parted at the marks by which it was put together. -/
theorem parts_append {path tail : Text} (hscheme : isScheme scheme = true) (hcolon : 0x3a ∉ scheme)
    (hauthority : ∀ c ∈ authority, c ∉ ("/?#" : Text)) (hpath : ∀ c ∈ path, c ∉ ("?#" : Text))
    (hroot : ∀ c ∈ path.head?, c = 0x2f) (htail : ∀ c ∈ tail.head?, c ∈ ("?#" : Text)) :
    let p := parts (scheme ++ 0x3a :: ([0x2f, 0x2f] ++ (authority ++ (path ++ tail))))
    p.scheme = scheme ∧ (p.userinfo, p.host, p.port) = authorityParts authority ∧ p.path = path ∧
      (tail = [] → p.query = none ∧ p.fragment = none) := by
  have hrest : ∀ c ∈ (path ++ tail).head?, c ∈ ("/?#" : Text) := by
    intro c hc
    cases path with
    | nil => exact List.mem_cons_of_mem _ (htail c hc)
    | cons d path =>
      rw [hroot c hc]
      exact List.mem_cons_self
  unfold parts
  rw [splitScheme_append hscheme hcolon]
  dsimp only
  rw [splitAuthority_append hauthority hrest]
  dsimp only
  rw [splitBefore_append hpath htail]
  refine ⟨rfl, rfl, rfl, ?_⟩
  rintro rfl
  exact ⟨rfl, rfl⟩

/-! ## Where parts come from -/

theorem splitScheme_subset (text : Text) : (splitScheme text).2 ⊆ text := by
  have hrest : (splitBefore ":" text).2 ⊆ text := (List.dropWhile_sublist _).subset
  unfold splitScheme
  generalize splitBefore ":" text = split at hrest
  obtain ⟨front, rest⟩ := split
  cases rest with
  | nil => exact List.Subset.refl text
  | cons c after =>
    dsimp only
    split_ifs
    · exact List.subset_of_cons_subset hrest
    · exact List.Subset.refl text

theorem splitAuthority_mem {text : Text} :
    ∀ c ∈ (splitAuthority text).1, c ∈ text ∧ c ∉ ("/?#" : Text) := by
  unfold splitAuthority
  split
  · rename_i rest
    intro c hc
    have hrest := (List.takeWhile_sublist _).subset hc
    refine ⟨List.mem_cons_of_mem _ (List.mem_cons_of_mem _ hrest), ?_⟩
    simpa using List.mem_takeWhile_imp hc
  · exact nofun

theorem splitUserinfo_mem {authority : Text} :
    ∀ c ∈ (splitUserinfo authority).2, c ∈ authority ∧ c ≠ 0x40 := by
  unfold splitUserinfo
  dsimp only
  split_ifs with hat
  · intro c hc
    have hback := List.mem_reverse.1 hc
    refine ⟨List.mem_reverse.1 ((List.takeWhile_sublist _).subset hback), ?_⟩
    simpa using List.mem_takeWhile_imp hback
  · intro c hc
    refine ⟨hc, ?_⟩
    rintro rfl
    exact hat (List.contains_iff_mem.2 hc)

theorem splitPort_subset (text : Text) : (splitPort text).1 ⊆ text := by
  unfold splitPort
  by_cases hbracket : text.head? = some 0x5b ∧ text.contains 0x5d
  · rw [if_pos hbracket]
    dsimp only
    split <;> exact List.take_subset _ _
  · have hhost : (splitBefore ":@" text).1 ⊆ text := (List.takeWhile_sublist _).subset
    rw [if_neg hbracket]
    dsimp only
    split <;> exact hhost

/-- A host comes of the text, and none of the marks around it is in it. -/
theorem parts_host_mem {text : Text} :
    ∀ c ∈ (parts text).host, c ∈ text ∧ c ∉ ("/?#" : Text) ∧ c ≠ 0x40 := by
  intro c hc
  have hc := splitPort_subset _ hc
  obtain ⟨hc, hat⟩ := splitUserinfo_mem c hc
  obtain ⟨hc, hmarks⟩ := splitAuthority_mem c hc
  exact ⟨splitScheme_subset text hc, hmarks, hat⟩

end Colloquy.Url
