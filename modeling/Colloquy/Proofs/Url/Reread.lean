import Colloquy.Proofs.Decimal.Integer
import Colloquy.Proofs.Url.Host
import Colloquy.Proofs.Url.Parts
import Colloquy.Proofs.Url.Path

/-!
# Addresses read again

The front of an address with a host, that is its scheme and its authority, may be put
before another path.  The text is then parted into the parts that were put together
(`Url.parts_front`), so what it stands for depends on its parts alone.
-/

namespace Colloquy

namespace Url

variable {u v : Url} {text path rest : Text}

/-! ## Sound addresses -/

/-- What holds of the components of an address of the web that was read and has a host. -/
structure Sound (u : Url) : Prop where
  scheme : u.scheme = "http" ∨ u.scheme = "https"
  userinfo : Plain userinfoSafe u.userinfo
  host : ∃ original, normalHost original = .ok u.host
  host_ne_nil : u.host ≠ []
  host_mem : ∀ c ∈ u.host, c ∉ ("/?#" : Text) ∧ c ≠ 0x40 ∧ ¬((c : Nat) < 0x20 ∨ c = 0x7f)
  port : ∀ n ∈ u.port, (Text.ofNat n.natAbs).length ≤ Decimal.digitLimit
  path : Plain pathSafe u.path
  dotless : Dotless u.path
  rooted : Rooted u.path

theorem not_control_of_isVisible {c : Nat} (h : IsVisible c) : ¬(c < 0x20 ∨ c = 0x7f) := by
  unfold IsVisible at h
  omega

/-- The host of an address that was read holds no marks and no controls. -/
theorem Parts.Normal.host_mem (h : (parts text).Normal u) (hcontrol : control? text = none) :
    ∀ c ∈ u.host, c ∉ ("/?#" : Text) ∧ c ≠ 0x40 ∧ ¬((c : Nat) < 0x20 ∨ c = 0x7f) := by
  rcases normalHost_cases h.host with hplain | ⟨heq, -⟩
  · have hmarks : ∀ c ∈ ("/?#@" : Text), ¬IsPlain hostSafe c := by decide
    intro c hc
    have hc := hplain c hc
    refine ⟨fun hmark => hmarks c (List.mem_append_left [0x40] hmark) hc, ?_, ?_⟩
    · rintro rfl
      exact hmarks 0x40 (by decide) hc
    · exact not_control_of_isVisible (hc.isVisible fun _ => isVisible_of_hostSafe)
  · intro c hc
    have hmem : c ∈ (parts text).host := by
      rw [heq]
      exact List.mem_append_left _ (List.mem_append_right _ hc)
    obtain ⟨htext, hmarks, hat⟩ := parts_host_mem c hmem
    exact ⟨hmarks, hat, control?_eq_none_iff.1 hcontrol c htext⟩

theorem normalPort_length {scheme port : Text} {found : Option Int}
    (h : normalPort scheme port = .ok found) :
    ∀ n ∈ found, (Text.ofNat n.natAbs).length ≤ Decimal.digitLimit := by
  unfold normalPort at h
  split_ifs at h
  · cases h
    exact nofun
  · split at h
    case h_1 => cases h
    case h_2 n hread =>
      have hlength := Decimal.length_ofNat_le_of_readInteger hread
      split_ifs at h
      · cases h
        exact nofun
      · cases h
        rintro m ⟨⟩
        exact hlength

theorem sound_of_parse (h : parse text = .ok u) (hscheme : u.scheme = "http" ∨ u.scheme = "https")
    (hhost : u.host ≠ []) : u.Sound := by
  obtain ⟨-, hcontrol, hnormal⟩ := parse_eq_ok_iff.1 h
  have hauthority : (u.userinfo != [] || u.host != [] || u.port.isSome) = true := by
    simp [hhost]
  have hpath := hnormal.path
  have hcheck := hnormal.check
  rw [hauthority, Bool.or_true, if_pos rfl] at hpath
  rw [hauthority] at hcheck
  have hrooted : Rooted (parts text).path := by
    by_contra hnot
    obtain ⟨hnil, hhead⟩ := not_or.1 hnot
    rw [checkPath, if_pos (by simp [hnil, hhead])] at hcheck
    cases hcheck
  exact {
    scheme := hscheme
    userinfo := plain_of_percentEncode (by decide) hnormal.userinfo
    host := ⟨_, hnormal.host⟩
    host_ne_nil := hhost
    host_mem := hnormal.host_mem hcontrol
    port := normalPort_length hnormal.port
    path := plain_of_percentEncode (by decide) hpath
    dotless := (dotless_percentEncode_iff hpath).2 (dotless_normalPath _)
    rooted := hrooted.normalPath.percentEncode hpath }

/-! ## Writing -/

/-- The digits of a port, nothing without a port. -/
def portDigits : Option Int → Text
  | none => []
  | some n => Text.ofInt n

/-- The port as it stands in an authority. -/
def portText : Option Int → Text
  | none => []
  | some n => 0x3a :: Text.ofInt n

/-- An address up to its path. -/
def front (u : Url) : Text :=
  u.scheme ++ 0x3a :: ([0x2f, 0x2f] ++ u.authority)

/-- The query and the fragment of an address with their marks. -/
def back (u : Url) : Text :=
  (match u.query with
    | none => []
    | some query => 0x3f :: query) ++
  (match u.fragment with
    | none => []
    | some fragment => 0x23 :: fragment)

theorem authority_eq (u : Url) : u.authority =
    (if u.userinfo = [] then [] else u.userinfo ++ [0x40]) ++
      (hostText u.host ++ portText u.port) := by
  unfold authority hostAndPort hostText
  cases u.port <;> rfl

theorem Sound.hostText_ne_nil (h : u.Sound) : hostText u.host ≠ [] := by
  unfold hostText
  split_ifs
  · exact List.cons_ne_nil _ _
  · exact h.host_ne_nil

theorem Sound.authority_ne_nil (h : u.Sound) : u.authority ≠ [] := by
  rw [authority_eq]
  simp [h.hostText_ne_nil]

theorem Sound.scheme_ne_nil (h : u.Sound) : u.scheme ≠ [] := by
  rcases h.scheme with hscheme | hscheme <;> rw [hscheme] <;> decide

theorem Sound.toText_eq (h : u.Sound) : u.toText = u.front ++ (u.path ++ u.back) := by
  unfold toText front back
  rw [if_neg h.scheme_ne_nil, if_neg h.authority_ne_nil]
  cases u.query <;> cases u.fragment <;> simp [Text.concat]

/-! ## Reading -/

theorem mem_portText {port : Option Int} {c : CodePoint} (h : c ∈ portText port) :
    c = 0x3a ∨ Text.isAsciiDigit c = true ∨ c = 0x2d := by
  cases port with
  | none => cases h
  | some n => exact (List.mem_cons.1 h).imp_right (Decimal.digit_or_minus_of_mem_ofInt n c)

theorem mem_hostText {host : Text} {c : CodePoint} (h : c ∈ hostText host) :
    c = 0x5b ∨ c = 0x5d ∨ c ∈ host := by
  unfold hostText at h
  split_ifs at h
  · simp at h
    tauto
  · exact .inr (.inr h)

theorem Sound.at_notMem (h : u.Sound) : 0x40 ∉ hostText u.host ++ portText u.port := by
  intro hat
  rcases List.mem_append.1 hat with hat | hat
  · rcases mem_hostText hat with hat | hat | hat
    · exact absurd hat (by decide)
    · exact absurd hat (by decide)
    · exact (h.host_mem _ hat).2.1 rfl
  · exact absurd (mem_portText hat) (by decide)

theorem Sound.authority_mem (h : u.Sound) : ∀ c ∈ u.authority, c ∉ ("/?#" : Text) := by
  have hmarks : ∀ c ∈ ("/?#" : Text), ¬IsPlain userinfoSafe c ∧ c ≠ 0x40 ∧ c ≠ 0x5b ∧ c ≠ 0x5d ∧
      ¬(c = 0x3a ∨ Text.isAsciiDigit c = true ∨ c = 0x2d) := by
    decide
  intro c hc hmark
  obtain ⟨huserinfo, hat, hopen, hclose, hport⟩ := hmarks c hmark
  rw [authority_eq] at hc
  rcases List.mem_append.1 hc with hc | hc
  · split_ifs at hc
    · cases hc
    · rcases List.mem_append.1 hc with hc | hc
      · exact huserinfo (h.userinfo c hc)
      · exact hat (List.mem_singleton.1 hc)
  · rcases List.mem_append.1 hc with hc | hc
    · rcases mem_hostText hc with hc | hc | hc
      · exact hopen hc
      · exact hclose hc
      · exact (h.host_mem c hc).1 hmark
    · exact hport (mem_portText hc)

/-- The front of an address holds no controls. -/
theorem Sound.front_mem (h : u.Sound) : ∀ c ∈ u.front, ¬((c : Nat) < 0x20 ∨ c = 0x7f) := by
  have hscheme : ∀ c ∈ u.scheme, ¬((c : Nat) < 0x20 ∨ c = 0x7f) := by
    rcases h.scheme with hscheme | hscheme <;> rw [hscheme] <;> decide
  have hdigit : ∀ c : Nat, Text.isAsciiDigit c = true → ¬(c < 0x20 ∨ c = 0x7f) := by
    intro c hc
    refine not_control_of_isVisible (isVisible_of_isUnreserved ?_)
    rw [isUnreserved, isAlphanumeric, hc]
    rfl
  unfold front
  rw [authority_eq]
  intro c hc
  simp only [List.mem_append, List.mem_cons, List.not_mem_nil, or_false] at hc
  rcases hc with hc | rfl | (rfl | rfl) | hc | hc | hc
  · exact hscheme c hc
  · decide
  · decide
  · decide
  · split_ifs at hc
    · cases hc
    · rcases List.mem_append.1 hc with hc | hc
      · exact not_control_of_isVisible
          ((h.userinfo c hc).isVisible fun _ => isVisible_of_visibleBut)
      · rw [List.mem_singleton.1 hc]
        decide
  · rcases mem_hostText hc with rfl | rfl | hc
    · decide
    · decide
    · exact (h.host_mem c hc).2.2
  · rcases mem_portText hc with rfl | hc | rfl
    · decide
    · exact hdigit c hc
    · decide

/-- A host and a port are parted again: the host is plain, or it ends at the last bracket. -/
theorem Sound.splitPort_eq (h : u.Sound) :
    splitPort (hostText u.host ++ portText u.port) = (hostText u.host, portDigits u.port) := by
  obtain ⟨original, hnormal⟩ := h.host
  rcases normalHost_cases hnormal with hplain | ⟨-, haddress⟩
  · have hbracket : 0x5b ∉ u.host ++ portText u.port := by
      intro hmem
      rcases List.mem_append.1 hmem with hmem | hmem
      · exact hplain.notMem (by decide) hmem
      · exact absurd (mem_portText hmem) (by decide)
    have hcolon : ∀ c ∈ u.host, c ∉ (":@" : Text) := by
      have hmarks : ∀ c ∈ (":@" : Text), ¬IsPlain hostSafe c := by decide
      exact fun c hc hmark => hmarks c hmark (hplain c hc)
    have hport : ∀ c ∈ (portText u.port).head?, c ∈ (":@" : Text) := by
      cases u.port with
      | none => exact nofun
      | some n =>
        rintro c ⟨⟩
        exact List.mem_cons_self
    rw [hostText_of_plain hplain, splitPort,
      if_neg fun hopen => hbracket (List.mem_of_head? hopen.1), splitBefore_append hcolon hport]
    cases u.port <;> rfl
  · have hclose : 0x5d ∉ portText u.port := fun hmem => absurd (mem_portText hmem) (by decide)
    have htext : hostText u.host ++ portText u.port
        = ([0x5b] ++ u.host) ++ 0x5d :: portText u.port := by
      rw [hostText_of_address6 haddress]
      simp
    have htake : (hostText u.host ++ portText u.port).take
        ((hostText u.host ++ portText u.port).length - (portText u.port).length)
          = hostText u.host := by
      refine List.take_left' ?_
      rw [List.length_append]
      omega
    have hopen : (hostText u.host ++ portText u.port).head? = some 0x5b ∧
        (hostText u.host ++ portText u.port).contains 0x5d = true := by
      rw [htext]
      simp
    rw [splitPort, if_pos hopen]
    dsimp only
    rw [show ((hostText u.host ++ portText u.port).reverse.takeWhile (· ≠ 0x5d)).reverse
        = portText u.port by rw [htext, Text.reverse_takeWhile_ne _ hclose], htake]
    cases u.port <;> rfl

theorem Sound.authorityParts_eq (h : u.Sound) :
    authorityParts u.authority = (u.userinfo, hostText u.host, portDigits u.port) := by
  rw [authorityParts, authority_eq, splitUserinfo_append h.at_notMem]
  dsimp only
  rw [h.splitPort_eq]

/-- Behind the front of an address a text is parted as if it stood alone. -/
theorem Sound.parts_front (h : u.Sound) (hpath : ∀ c ∈ path, c ∉ ("?#" : Text))
    (hroot : Rooted path) (hrest : ∀ c ∈ rest.head?, c ∈ ("?#" : Text)) :
    let p := parts (u.front ++ (path ++ rest))
    p.scheme = u.scheme ∧ p.userinfo = u.userinfo ∧ p.host = hostText u.host ∧
      p.port = portDigits u.port ∧ p.path = path ∧
      (rest = [] → p.query = none ∧ p.fragment = none) := by
  have hscheme : isScheme u.scheme = true ∧ 0x3a ∉ u.scheme := by
    rcases h.scheme with hscheme | hscheme <;> rw [hscheme] <;> decide
  have hslash : ∀ c ∈ path.head?, c = 0x2f := by
    rcases hroot with rfl | hhead
    · exact nofun
    · rw [hhead]
      rintro c ⟨⟩
      rfl
  have htext : u.front ++ (path ++ rest)
      = u.scheme ++ 0x3a :: ([0x2f, 0x2f] ++ (u.authority ++ (path ++ rest))) := by
    simp [front]
  rw [htext]
  obtain ⟨hfront, hauthority, hmiddle, hback⟩ :=
    parts_append hscheme.1 hscheme.2 h.authority_mem hpath hslash hrest
  rw [h.authorityParts_eq] at hauthority
  obtain ⟨huserinfo, hauthority⟩ := Prod.mk.inj hauthority
  obtain ⟨hhost, hport⟩ := Prod.mk.inj hauthority
  exact ⟨hfront, huserinfo, hhost, hport, hmiddle, hback⟩

/-- A port is read again unless it is the usual one. -/
theorem Sound.normalPort_eq (h : u.Sound) : normalPort u.scheme (portDigits u.port) =
    .ok (if u.port = defaultPort? u.scheme then none else u.port) := by
  cases hport : u.port with
  | none =>
    rw [portDigits, normalPort, if_pos rfl]
    split_ifs <;> rfl
  | some n =>
    rw [portDigits, normalPort, if_neg (Decimal.ofInt_ne_nil n),
      Decimal.readInteger_ofInt (h.port n hport)]

end Url

end Colloquy
