import Colloquy.Proofs.Url.Extended
import Colloquy.Provider.Exchange

/-!
# The shape of endpoints

The address of a resource is made by putting text behind text.  What is read from it has the
shape of the base, with the path of the resource behind the path of the base, under
conditions that are exact: the base has no query and no fragment, the path of the resource has
no dots, the text is not too long, and the scheme, the port and the host of the base are read
from its normal form as they were read from the base (`resolveEndpoint_keeps_shape_iff`).

How addresses are read is a matter of the HTTP client and is not looked into.  All that is used
of it is in `Url.Rereads`, and that a text which is read is not too long.
-/

namespace Colloquy

/-! ## Slashes -/

theorem dropTrailingSlashes_append (front back : Text) : dropTrailingSlashes (front ++ back) =
    if dropTrailingSlashes back = [] then dropTrailingSlashes front
    else front ++ dropTrailingSlashes back := by
  unfold dropTrailingSlashes
  rw [List.reverse_append, List.dropWhile_append]
  simp only [List.isEmpty_iff, List.reverse_eq_nil_iff]
  split_ifs <;> simp

theorem dropTrailingSlashes_of_notMem {text : Text} (h : 0x2f ∉ text) :
    dropTrailingSlashes text = text := by
  have hkept : text.reverse.dropWhile (· = 0x2f) = text.reverse := by
    cases hreverse : text.reverse with
    | nil => rfl
    | cons c rest =>
      have hc : c ≠ 0x2f := by
        rintro rfl
        exact h (List.mem_reverse.1 (hreverse ▸ List.mem_cons_self))
      exact List.dropWhile_cons_of_neg (by simpa using hc)
  rw [dropTrailingSlashes, hkept, List.reverse_reverse]

/-- Only slashes are dropped. -/
theorem exists_slashes (text : Text) :
    ∃ n, text = dropTrailingSlashes text ++ List.replicate n 0x2f := by
  have hslashes : text.reverse.takeWhile (· = 0x2f)
      = List.replicate (text.reverse.takeWhile (· = 0x2f)).length 0x2f := by
    refine List.eq_replicate_of_mem fun c hc => ?_
    simpa using List.mem_takeWhile_imp hc
  refine ⟨(text.reverse.takeWhile (· = 0x2f)).length, ?_⟩
  rw [dropTrailingSlashes, ← List.reverse_replicate, ← hslashes, ← List.reverse_append,
    List.takeWhile_append_dropWhile, List.reverse_reverse]

/-- A text behind a slash is more than slashes unless it is made of them. -/
theorem dropTrailingSlashes_append_cons_ne {front : Text} {c : CodePoint} {rest : Text}
    (hc : c ≠ 0x2f) : dropTrailingSlashes front ++ 0x2f :: c :: rest ≠ front := by
  intro heq
  obtain ⟨n, hn⟩ := exists_slashes front
  have hrest := List.append_cancel_left (heq.trans hn)
  have hmem : c ∈ List.replicate n 0x2f := by
    rw [← hrest]
    exact List.mem_cons_of_mem _ List.mem_cons_self
  exact hc (List.eq_of_mem_replicate hmem)

/-! ## Resources -/

/-- The paths at which backends answer. -/
inductive IsResource : Text → Prop
  | chatCompletions : IsResource "chat/completions"
  | messages : IsResource "messages"
  | chat : IsResource "chat"
  | model {model path : Text} (h : Gemini.path model = .ok path) : IsResource path

/-- Every backend but the one that stands in for others is asked at such a path. -/
theorem Backend.endpoint_eq_ok {b : Backend} {model address : Text} (hprovider : b.provider ≠ .mock)
    (h : b.endpoint model = .ok address) :
    ∃ path, IsResource path ∧ resolveEndpoint b.base path = .ok address := by
  unfold Backend.endpoint at h
  split at h
  · exact ⟨_, .chatCompletions, h⟩
  · exact ⟨_, .chatCompletions, h⟩
  · exact ⟨_, .messages, h⟩
  · obtain ⟨path, hpath, h⟩ := bind_eq_ok_iff.1 h
    exact ⟨path, .model hpath, h⟩
  · exact ⟨_, .chat, h⟩
  · next hmock => exact absurd hmock hprovider

/-- A model in a path is plain. -/
theorem Gemini.quoteModel_plain {model quoted : Text} (h : Gemini.quoteModel model = .ok quoted) :
    Url.Plain Url.pathSafe quoted := by
  unfold Gemini.quoteModel at h
  split at h
  case h_2 => cases h
  case h_1 octets _ =>
    cases h
    intro c hc
    obtain ⟨b, -, hc⟩ := List.mem_flatMap.1 hc
    rw [Url.IsPlain, Bool.or_eq_true]
    split_ifs at hc with hplain
    · rw [List.mem_singleton.1 hc]
      rw [Gemini.isPlainOctet, Bool.or_eq_true, decide_eq_true_iff] at hplain
      refine hplain.imp_right fun hslash => ?_
      rw [hslash]
      decide
    · rcases Url.percentOctet_alphanumeric b c hc with rfl | halphanumeric
      · exact .inr (by decide)
      · left
        rw [Url.isUnreserved, halphanumeric]
        rfl

/-- The path of a resource is plain and does not begin with a slash. -/
theorem IsResource.plain {path : Text} (h : IsResource path) :
    Url.Plain Url.pathSafe path ∧ ∃ c rest, path = c :: rest ∧ c ≠ 0x2f := by
  cases h with
  | chatCompletions => exact ⟨by decide, _, _, rfl, by decide⟩
  | messages => exact ⟨by decide, _, _, rfl, by decide⟩
  | chat => exact ⟨by decide, _, _, rfl, by decide⟩
  | model h =>
    obtain ⟨quoted, hquoted, h⟩ := bind_eq_ok_iff.1 h
    cases h
    have hfront : Url.Plain Url.pathSafe "models/" := by decide
    have hback : Url.Plain Url.pathSafe ":generateContent" := by decide
    refine ⟨?_, _, _, rfl, by decide⟩
    intro c hc
    simp only [Text.concat, List.flatten_cons, List.flatten_nil, List.append_nil,
      List.mem_append] at hc
    rcases hc with hc | hc | hc
    · exact hfront c hc
    · exact Gemini.quoteModel_plain hquoted c hc
    · exact hback c hc

/-! ## Addresses of resources -/

namespace Url

variable {u v : Url} {path : Text}

/-- An address has the shape of a base: its scheme, its user information, its host and its port are
those of the base, and its path is the one of the base with another path behind it. -/
structure KeepsShape (v u : Url) (path : Text) : Prop where
  scheme : v.scheme = u.scheme
  userinfo : v.userinfo = u.userinfo
  host : v.host = u.host
  port : v.port = u.port
  path : v.path = dropTrailingSlashes u.path ++ [0x2f] ++ dropLeadingSlashes path

/-- The shape with a path that does not begin with a slash. -/
theorem keepsShape_iff {c : CodePoint} {rest : Text} (hc : c ≠ 0x2f) :
    v.KeepsShape u (c :: rest) ↔ v.scheme = u.scheme ∧ v.userinfo = u.userinfo ∧ v.host = u.host ∧
      v.port = u.port ∧ v.path = dropTrailingSlashes u.path ++ 0x2f :: c :: rest := by
  have hleading : dropLeadingSlashes (c :: rest) = c :: rest :=
    List.dropWhile_cons_of_neg (by simpa using hc)
  have hpath : dropTrailingSlashes u.path ++ [0x2f] ++ dropLeadingSlashes (c :: rest)
      = dropTrailingSlashes u.path ++ 0x2f :: c :: rest := by
    rw [hleading, List.append_assoc, List.singleton_append]
  constructor
  · rintro ⟨hscheme, huserinfo, hhost, hport, heq⟩
    exact ⟨hscheme, huserinfo, hhost, hport, heq.trans hpath⟩
  · rintro ⟨hscheme, huserinfo, hhost, hport, heq⟩
    exact ⟨hscheme, huserinfo, hhost, hport, heq.trans hpath.symm⟩

/-- A path may be put behind the text of an address: nothing stands behind the path of the address,
the path has no dots, and port and host are read as they are written. -/
structure Extendable (u : Url) (path : Text) : Prop where
  query : u.query = none
  fragment : u.fragment = none
  dotless : Dotless path
  port : u.port ≠ defaultPort? u.scheme
  host : Settled u.host

theorem back_eq_nil_iff (u : Url) : u.back = [] ↔ u.query = none ∧ u.fragment = none := by
  unfold back
  cases u.query <;> cases u.fragment <;> simp

theorem head?_back (u : Url) : ∀ c ∈ u.back.head?, c ∈ ("?#" : Text) := by
  unfold back
  cases u.query <;> cases u.fragment <;> simp <;> decide

end Url

open Url

/-- The path of a base with another path behind it. -/
def joinedPath (base path : Text) : Text :=
  dropTrailingSlashes base ++ 0x2f :: path

theorem joinedPath_plain {base path : Text} (hbase : Plain pathSafe base)
    (hpath : Plain pathSafe path) : Plain pathSafe (joinedPath base path) := by
  obtain ⟨n, hn⟩ := exists_slashes base
  rw [hn] at hbase
  refine List.forall_mem_append.2 ⟨(List.forall_mem_append.1 hbase).1, ?_⟩
  exact List.forall_mem_cons.2 ⟨by decide, hpath⟩

theorem joinedPath_dotless_iff {base path : Text} (hbase : Dotless base) :
    Dotless (joinedPath base path) ↔ Dotless path := by
  rw [joinedPath, dotless_append_cons, and_iff_right]
  obtain ⟨n, hn⟩ := exists_slashes base
  cases n with
  | zero =>
    rw [List.replicate_zero, List.append_nil] at hn
    rwa [← hn]
  | succ n =>
    rw [hn, List.replicate_succ, dotless_append_cons] at hbase
    exact hbase.1

theorem joinedPath_rooted {base path : Text} (hbase : Rooted base) :
    (joinedPath base path).head? = some 0x2f := by
  obtain ⟨n, hn⟩ := exists_slashes base
  unfold joinedPath
  cases hfront : dropTrailingSlashes base with
  | nil => rfl
  | cons c rest =>
    rw [hn, hfront] at hbase
    rcases hbase with hnil | hhead
    · cases hnil
    · exact hhead

/-- The front of an address does not end with a slash. -/
theorem Url.Rereads.dropTrailingSlashes_front {u : Url} (h : u.Rereads) :
    dropTrailingSlashes u.front = u.front := by
  obtain ⟨begin, c, hfront, hc⟩ := h.front_end
  have hlast : dropTrailingSlashes [c] = [c] :=
    dropTrailingSlashes_of_notMem (by simpa using hc.symm)
  rw [hfront, dropTrailingSlashes_append, hlast, if_neg (List.cons_ne_nil _ _)]

/-- What stands behind the path of an address is more than slashes. -/
theorem Url.dropTrailingSlashes_back {u : Url} (h : u.back ≠ []) :
    ∃ c rest, dropTrailingSlashes u.back = c :: rest ∧ c ∈ ("?#" : Text) := by
  obtain ⟨n, hn⟩ := exists_slashes u.back
  have hhead := u.head?_back
  cases hback : dropTrailingSlashes u.back with
  | cons c rest =>
    rw [hn, hback] at hhead
    exact ⟨c, rest, rfl, hhead c rfl⟩
  | nil =>
    rw [hback, List.nil_append] at hn
    cases n with
    | zero => exact absurd hn h
    | succ n =>
      rw [hn] at hhead
      exact absurd (hhead 0x2f rfl) (by decide)

/-- Where a resource comes to stand in the text: behind the path of the base, or behind its query
or fragment. -/
theorem Url.Rereads.dropTrailingSlashes_toText {u : Url} (h : u.Rereads) (path : Text) :
    dropTrailingSlashes u.toText ++ 0x2f :: path =
      if u.back = [] then u.front ++ joinedPath u.path path
      else u.front ++ (u.path ++ (dropTrailingSlashes u.back ++ 0x2f :: path)) := by
  rw [h.written]
  by_cases hback : u.back = []
  · rw [if_pos hback, hback, List.append_nil, dropTrailingSlashes_append, joinedPath]
    split_ifs with hnil
    · rw [h.dropTrailingSlashes_front, hnil, List.nil_append]
    · rw [List.append_assoc]
  · obtain ⟨c, rest, hrest, -⟩ := Url.dropTrailingSlashes_back hback
    have hmore : dropTrailingSlashes (u.path ++ u.back) = u.path ++ dropTrailingSlashes u.back := by
      rw [dropTrailingSlashes_append, if_neg (by simp [hrest])]
    rw [if_neg hback, dropTrailingSlashes_append, hmore, if_neg (by simp [hrest]),
      List.append_assoc, List.append_assoc]

/-- Behind a query or a fragment, a resource is not part of the path. -/
theorem Url.Rereads.path_ne {u v : Url} (h : u.Rereads) (hback : u.back ≠ []) {c : CodePoint}
    {rest : Text} (hc : c ≠ 0x2f) (hv : parse (u.front ++
      (u.path ++ (dropTrailingSlashes u.back ++ 0x2f :: c :: rest))) = .ok v) :
    v.path ≠ joinedPath u.path (c :: rest) := by
  obtain ⟨d, more, hmore, hd⟩ := dropTrailingSlashes_back hback
  rw [hmore, List.cons_append] at hv
  rw [h.kept hd hv]
  exact (dropTrailingSlashes_append_cons_ne hc).symm

/-! ## Endpoints -/

/-- A base that is accepted is the text of an address of the web with a host, and the resource is
put behind the normal form of it. -/
theorem resolveEndpoint_eq_ok {base : Value} {path address : Text}
    (h : resolveEndpoint base path = .ok address) : ∃ text u, base = .text text ∧
      parse text = .ok u ∧ u.Rereads ∧
      address = dropTrailingSlashes u.toText ++ [0x2f] ++ dropLeadingSlashes path := by
  unfold resolveEndpoint at h
  split at h
  case h_2 => cases h
  case h_1 text =>
    split at h
    case h_1 => cases h
    case h_2 u hparse =>
      split at h
      case isFalse => cases h
      case isTrue hscheme =>
        obtain ⟨host, hread, h⟩ := bind_eq_ok_iff.1 h
        obtain ⟨hhost, h⟩ := guard_eq_ok_iff.1 h
        cases h
        have hnil : u.host ≠ [] := by
          intro hnil
          rw [readHost, hnil] at hread
          cases hread
          exact hhost rfl
        exact ⟨text, u, rfl, hparse, rereads_of_parse hparse hscheme hnil, rfl⟩

/-- What is read from the address of a resource has the shape of the base just when the base is one
that can be extended and the address is not too long.  Then it has no query and no fragment. -/
theorem resolveEndpoint_keeps_shape_iff {base : Value} {path address : Text}
    (hpath : IsResource path) (h : resolveEndpoint base path = .ok address) :
    ∃ text u, base = .text text ∧ parse text = .ok u ∧
      ((∃ v, parse address = .ok v ∧ v.KeepsShape u path) ↔
        u.Extendable path ∧ address.length ≤ maxLength) ∧
      ∀ v, parse address = .ok v → v.KeepsShape u path → v.query = none ∧ v.fragment = none := by
  obtain ⟨text, u, rfl, hu, hrereads, rfl⟩ := resolveEndpoint_eq_ok h
  obtain ⟨hplain, c, rest, rfl, hc⟩ := hpath.plain
  refine ⟨text, u, rfl, hu, ?_⟩
  have hleading : dropLeadingSlashes (c :: rest) = c :: rest :=
    List.dropWhile_cons_of_neg (by simpa using hc)
  rw [hleading, List.append_assoc, List.singleton_append, hrereads.dropTrailingSlashes_toText]
  by_cases hback : u.back = []
  · obtain ⟨hquery, hfragment⟩ := u.back_eq_nil_iff.1 hback
    have hjoined := joinedPath_plain hrereads.plain hplain
    have hslash : (joinedPath u.path (c :: rest)).head? = some 0x2f :=
      joinedPath_rooted hrereads.rooted
    rw [if_pos hback]
    constructor
    · by_cases hlength : (u.front ++ joinedPath u.path (c :: rest)).length ≤ maxLength
      · rw [and_iff_left hlength]
        have hread := hrereads.repathed hjoined hslash hlength
        rw [joinedPath_dotless_iff hrereads.dotless] at hread
        constructor
        · rintro ⟨v, hv, hshape⟩
          obtain ⟨hdotless, hport, hhost⟩ := hread.1 ⟨v, hv, (keepsShape_iff hc).1 hshape⟩
          exact ⟨hquery, hfragment, hdotless, hport, hhost⟩
        · intro hextendable
          obtain ⟨v, hv, hshape⟩ :=
            hread.2 ⟨hextendable.dotless, hextendable.port, hextendable.host⟩
          exact ⟨v, hv, (keepsShape_iff hc).2 hshape⟩
      · refine iff_of_false ?_ fun h => hlength h.2
        rintro ⟨v, hv, -⟩
        exact hlength (length_le_of_parse hv)
    · exact fun v hv _ => hrereads.bare hjoined hslash hv
  · rw [if_neg hback]
    have hlost : ∀ v, parse (u.front ++ (u.path ++
        (dropTrailingSlashes u.back ++ 0x2f :: c :: rest))) = .ok v →
        ¬v.KeepsShape u (c :: rest) :=
      fun v hv hshape => hrereads.path_ne hback hc hv ((keepsShape_iff hc).1 hshape).2.2.2.2
    constructor
    · refine iff_of_false ?_ fun h => hback (u.back_eq_nil_iff.2 ⟨h.1.query, h.1.fragment⟩)
      rintro ⟨v, hv, hshape⟩
      exact hlost v hv hshape
    · exact fun v hv hshape => absurd hshape (hlost v hv)

theorem resolveEndpoint_keeps_shape_local : ∃ u v,
    parse "http://localhost:11434/api/" = .ok u ∧
    parse "http://localhost:11434/api/chat" = .ok v ∧ v.KeepsShape u "chat" := by
  obtain ⟨text, u, heq, hu, hiff, -⟩ := resolveEndpoint_keeps_shape_iff .chat
    (rfl : resolveEndpoint (.text "http://localhost:11434/api/") "chat"
      = .ok "http://localhost:11434/api/chat")
  cases heq
  have hparse : parse "http://localhost:11434/api/" = .ok
      { scheme := "http", userinfo := [], host := "localhost", port := some 11434, path := "/api/",
        query := none, fragment := none } :=
    rfl
  cases hu.symm.trans hparse
  obtain ⟨v, hv, hshape⟩ := hiff.2
    ⟨⟨rfl, rfl, by decide, by decide, .inr ⟨by decide, by decide⟩⟩, by decide⟩
  exact ⟨_, v, hu, hv, hshape⟩

/-- A base with a query: the resource comes to stand in the query. -/
theorem resource_in_query :
    ∃ u v, parse "https://h/v1?x=1" = .ok u ∧
      resolveEndpoint (.text "https://h/v1?x=1") "chat/completions"
        = .ok "https://h/v1?x=1/chat/completions" ∧
      parse "https://h/v1?x=1/chat/completions" = .ok v ∧
      v.path = "/v1" ∧ v.query = some "x=1/chat/completions" ∧
      ¬v.KeepsShape u "chat/completions" := by
  refine ⟨_, _, rfl, rfl, rfl, rfl, rfl, fun h => absurd h.path (by decide)⟩

end Colloquy
