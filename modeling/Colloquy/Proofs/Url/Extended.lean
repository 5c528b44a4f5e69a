import Colloquy.Proofs.Url.Reread

/-!
# Addresses with another tail

How an address is read is a matter of the HTTP client, whose rules the modules on addresses
follow.  What is said of endpoints does not go into these rules.  It reads a few facts off an
address of the web that has a host, and `Url.Rereads` is all of them: how the text of the
address is made up, and what is read when its tail is exchanged for a path, or when something
is put behind its query or fragment.  `Url.rereads_of_parse` proves them.
-/

namespace Colloquy.Url

variable {u v : Url} {path text : Text}

/-- What is known of an address of the web with a host: it is written as a front, its path and a
back, and its front can be read with another path and with another back. -/
structure Rereads (u : Url) : Prop where
  written : u.toText = u.front ++ (u.path ++ u.back)
  front_end : ∃ begin c, u.front = begin ++ [c] ∧ c ≠ 0x2f
  plain : Plain pathSafe u.path
  dotless : Dotless u.path
  rooted : Rooted u.path
  /-- With a path instead of its own the address is read as one of the same place just when the
  path has no dots, the port is not the usual one and the host is read as it is written. -/
  repathed {path : Text} (hplain : Plain pathSafe path) (hslash : path.head? = some 0x2f)
    (hlength : (u.front ++ path).length ≤ maxLength) :
    (∃ v, parse (u.front ++ path) = .ok v ∧ v.scheme = u.scheme ∧ v.userinfo = u.userinfo ∧
      v.host = u.host ∧ v.port = u.port ∧ v.path = path) ↔
    Dotless path ∧ u.port ≠ defaultPort? u.scheme ∧ Settled u.host
  /-- A path brings no query and no fragment. -/
  bare {path : Text} {v : Url} (hplain : Plain pathSafe path) (hslash : path.head? = some 0x2f)
    (h : parse (u.front ++ path) = .ok v) : v.query = none ∧ v.fragment = none
  /-- What stands behind the mark of a query or a fragment is not part of the path. -/
  kept {c : CodePoint} {rest : Text} {v : Url} (hmark : c ∈ ("?#" : Text))
    (h : parse (u.front ++ (u.path ++ c :: rest)) = .ok v) : v.path = u.path

/-- Texts that are too long are not read. -/
theorem length_le_of_parse (h : parse text = .ok u) : text.length ≤ maxLength :=
  (parse_eq_ok_iff.1 h).1

/-! ## Sound addresses -/

/-- What is plain in a path does not end it. -/
theorem Plain.not_mark (h : Plain pathSafe path) : ∀ c ∈ path, c ∉ ("?#" : Text) := by
  have hmarks : ∀ c ∈ ("?#" : Text), ¬IsPlain pathSafe c := by decide
  exact fun c hc hmark => hmarks c hmark (h c hc)

namespace Sound

/-- The front of an address ends with its authority, in which there are no slashes. -/
theorem front_end (h : u.Sound) : ∃ begin c, u.front = begin ++ [c] ∧ c ≠ 0x2f := by
  obtain ⟨more, c, hauthority⟩ : ∃ more c, u.authority = more ++ [c] :=
    ⟨_, _, (List.dropLast_append_getLast h.authority_ne_nil).symm⟩
  refine ⟨u.scheme ++ 0x3a :: ([0x2f, 0x2f] ++ more), c, ?_, ?_⟩
  · rw [front, hauthority]
    simp
  · have hc : c ∈ u.authority := by
      rw [hauthority]
      exact List.mem_append_right _ (List.mem_singleton_self c)
    rintro rfl
    exact h.authority_mem 0x2f hc List.mem_cons_self

/-- The path that is read behind the front of an address. -/
theorem normal_path (h : u.Sound) {p : Parts} (hscheme : p.scheme = u.scheme)
    (hnormal : p.Normal v) : percentEncode pathSafe (normalPath p.path) = .ok v.path := by
  have hpath := hnormal.path
  have hne : (p.scheme != []) = true := bne_iff_ne.2 (hscheme ▸ h.scheme_ne_nil)
  rwa [hne, Bool.true_or, if_pos rfl] at hpath

theorem kept (h : u.Sound) {c : CodePoint} {rest : Text} (hmark : c ∈ ("?#" : Text))
    (hv : parse (u.front ++ (u.path ++ c :: rest)) = .ok v) : v.path = u.path := by
  have hrest : ∀ d ∈ (c :: rest : Text).head?, d ∈ ("?#" : Text) := by
    rintro d ⟨⟩
    exact hmark
  obtain ⟨hscheme, -, -, -, hpath, -⟩ := h.parts_front h.path.not_mark h.rooted hrest
  obtain ⟨-, -, hnormal⟩ := parse_eq_ok_iff.1 hv
  have hread := h.normal_path hscheme hnormal
  rw [hpath, normalPath_of_dotless h.dotless, percentEncode_of_plain (by decide) h.path] at hread
  exact (Except.ok.inj hread).symm

/-- The front of an address with a path is parted into the parts of the address and the path. -/
theorem parts_path (h : u.Sound) (hplain : Plain pathSafe path)
    (hslash : path.head? = some 0x2f) :
    let p := parts (u.front ++ path)
    p.scheme = u.scheme ∧ p.userinfo = u.userinfo ∧ p.host = hostText u.host ∧
      p.port = portDigits u.port ∧ p.path = path ∧ p.query = none ∧ p.fragment = none := by
  have hend : ∀ c ∈ ([] : Text).head?, c ∈ ("?#" : Text) := nofun
  have hfront := h.parts_front hplain.not_mark (.inr hslash) hend
  rw [List.append_nil] at hfront
  obtain ⟨hscheme, huserinfo, hhost, hport, hpath, hback⟩ := hfront
  exact ⟨hscheme, huserinfo, hhost, hport, hpath, hback rfl⟩

theorem bare (h : u.Sound) (hplain : Plain pathSafe path) (hslash : path.head? = some 0x2f)
    (hv : parse (u.front ++ path) = .ok v) : v.query = none ∧ v.fragment = none := by
  obtain ⟨-, -, -, -, -, hnoQuery, hnoFragment⟩ := h.parts_path hplain hslash
  obtain ⟨-, -, hnormal⟩ := parse_eq_ok_iff.1 hv
  have hquery := hnormal.query
  have hfragment := hnormal.fragment
  rw [hnoQuery] at hquery
  rw [hnoFragment] at hfragment
  exact ⟨(Except.ok.inj hquery).symm, (Except.ok.inj hfragment).symm⟩

/-- A usual port is not read. -/
theorem port_kept_iff (h : u.Sound) :
    normalPort u.scheme (portDigits u.port) = .ok u.port ↔ u.port ≠ defaultPort? u.scheme := by
  have husual : defaultPort? u.scheme ≠ none := by
    rcases h.scheme with heq | heq <;> rw [heq] <;> decide
  rw [h.normalPort_eq, Except.ok.injEq]
  split_ifs with hport
  · rw [hport]
    exact iff_of_false husual.symm fun hne => hne rfl
  · exact iff_of_true rfl hport

theorem repathed (h : u.Sound) (hplain : Plain pathSafe path) (hslash : path.head? = some 0x2f)
    (hlength : (u.front ++ path).length ≤ maxLength) :
    (∃ v, parse (u.front ++ path) = .ok v ∧ v.scheme = u.scheme ∧ v.userinfo = u.userinfo ∧
      v.host = u.host ∧ v.port = u.port ∧ v.path = path) ↔
    Dotless path ∧ u.port ≠ defaultPort? u.scheme ∧ Settled u.host := by
  have hparts := h.parts_path hplain hslash
  have hcontrol : control? (u.front ++ path) = none := by
    refine control?_eq_none_iff.2 (List.forall_mem_append.2 ⟨h.front_mem, fun c hc => ?_⟩)
    exact not_control_of_isVisible ((hplain c hc).isVisible fun _ => isVisible_of_visibleBut)
  obtain ⟨original, horiginal⟩ := h.host
  rw [← h.port_kept_iff, ← normalHost_hostText_iff horiginal h.host_ne_nil]
  simp only [parse_eq_ok_iff, hlength, hcontrol, true_and]
  generalize parts (u.front ++ path) = p at hparts
  obtain ⟨hscheme, huserinfo, hhost, hport, hpath, hquery, hfragment⟩ := hparts
  constructor
  · rintro ⟨v, hnormal, -, -, hvhost, hvport, hvpath⟩
    have hpathRead := h.normal_path hscheme hnormal
    have hportRead := hnormal.port
    have hhostRead := hnormal.host
    rw [hpath, hvpath] at hpathRead
    rw [hscheme, hport, hvport] at hportRead
    rw [hhost, hvhost] at hhostRead
    exact ⟨(dotless_percentEncode_iff hpathRead).2 (dotless_normalPath _), hportRead, hhostRead⟩
  · rintro ⟨hdotless, hportRead, hhostRead⟩
    refine ⟨{ u with path, query := none, fragment := none }, ?_, rfl, rfl, rfl, rfl, rfl⟩
    exact {
      scheme := by
        rw [hscheme]
        rcases h.scheme with heq | heq <;> rw [heq] <;> decide
      userinfo := by
        rw [huserinfo]
        exact percentEncode_of_plain (by decide) h.userinfo
      host := by rw [hhost]; exact hhostRead
      port := by rw [hscheme, hport]; exact hportRead
      check := by
        have hne : (p.scheme != []) = true := bne_iff_ne.2 (hscheme ▸ h.scheme_ne_nil)
        rw [checkPath, hpath, hslash, hne]
        simp
      path := by
        rw [hpath, normalPath_of_dotless hdotless, ite_self]
        exact percentEncode_of_plain (by decide) hplain
      query := by rw [hquery]; rfl
      fragment := by rw [hfragment]; rfl }

theorem rereads (h : u.Sound) : u.Rereads where
  written := h.toText_eq
  front_end := h.front_end
  plain := h.path
  dotless := h.dotless
  rooted := h.rooted
  repathed := h.repathed
  bare := h.bare
  kept := h.kept

end Sound

/-- An address of the web that was read and has a host can be read with another tail. -/
theorem rereads_of_parse (h : parse text = .ok u)
    (hscheme : u.scheme = "http" ∨ u.scheme = "https") (hhost : u.host ≠ []) : u.Rereads :=
  (sound_of_parse h hscheme hhost).rereads

end Colloquy.Url
