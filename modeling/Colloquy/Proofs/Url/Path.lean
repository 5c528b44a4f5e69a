import Colloquy.Proofs.Url.Percent

/-!
# Dots in paths

A path in normal form has no segment of one dot or two (`Url.dotless_normalPath`), and such
a path is in normal form already (`Url.normalPath_of_dotless`).  Whether there are such
segments can be told from the segments in front of a slash and those behind it, and from
what is written for the path.
-/

namespace Colloquy.Url

variable {path out : Text}

/-- A segment of a path that is neither one dot nor two. -/
def IsName (segment : Text) : Prop :=
  segment ≠ [0x2e] ∧ segment ≠ [0x2e, 0x2e]

instance : DecidablePred IsName :=
  fun segment => inferInstanceAs (Decidable (segment ≠ [0x2e] ∧ segment ≠ [0x2e, 0x2e]))

/-- A path without segments of one dot or two. -/
def Dotless (path : Text) : Prop :=
  ∀ segment ∈ Text.splitOn 0x2f path, IsName segment

instance : DecidablePred Dotless :=
  fun path => inferInstanceAs (Decidable (∀ segment ∈ Text.splitOn 0x2f path, IsName segment))

/-- A path that is empty or begins with a slash. -/
def Rooted (path : Text) : Prop :=
  path = [] ∨ path.head? = some 0x2f

theorem dotless_append_cons {front back : Text} :
    Dotless (front ++ 0x2f :: back) ↔ Dotless front ∧ Dotless back := by
  rw [Dotless, Text.splitOn_append_cons, List.forall_mem_append]
  rfl

/-! ## Normal forms -/

theorem normalPath_of_dotless (h : Dotless path) : normalPath path = path := by
  refine if_neg fun hany => ?_
  obtain ⟨segment, hmem, hdots⟩ := List.any_eq_true.1 hany
  obtain ⟨hone, htwo⟩ := h segment hmem
  exact (of_decide_eq_true hdots).elim hone htwo

/-- What a segment does to the segments that are kept so far. -/
def keepSegment (kept : List Text) (segment : Text) : List Text :=
  if segment = [0x2e] then kept
  else if segment = [0x2e, 0x2e] then (if kept = [] ∨ kept = [[]] then kept else kept.dropLast)
  else kept ++ [segment]

/-- Segments that are kept are names. -/
theorem keepSegment_names {kept : List Text} {segment : Text}
    (hkept : ∀ s ∈ kept, IsName s ∧ 0x2f ∉ s) (hsegment : 0x2f ∉ segment) :
    ∀ s ∈ keepSegment kept segment, IsName s ∧ 0x2f ∉ s := by
  unfold keepSegment
  split_ifs with hone htwo hfirst
  · exact hkept
  · exact hkept
  · exact fun s hs => hkept s (List.dropLast_subset kept hs)
  · exact List.forall_mem_append.2 ⟨hkept, List.forall_mem_singleton.2 ⟨⟨hone, htwo⟩, hsegment⟩⟩

theorem resolveDots_names {segments : List Text} (h : ∀ s ∈ segments, 0x2f ∉ s) :
    ∀ s ∈ resolveDots segments, IsName s ∧ 0x2f ∉ s :=
  List.foldlRecOn (motive := fun kept => ∀ s ∈ kept, IsName s ∧ 0x2f ∉ s)
    segments keepSegment (List.forall_mem_nil _)
    fun _ hkept segment hsegment => keepSegment_names hkept (h segment hsegment)

/-- The empty segment in front of the first slash is kept. -/
theorem keepSegment_head {kept : List Text} (segment : Text) (h : kept.head? = some []) :
    (keepSegment kept segment).head? = some [] := by
  unfold keepSegment
  split_ifs with hone htwo hfirst
  · exact h
  · exact h
  · obtain ⟨more, rfl⟩ := List.head?_eq_some_iff.1 h
    cases more with
    | nil => exact absurd (.inr rfl) hfirst
    | cons next more => rfl
  · rw [List.head?_append, h]
    rfl

theorem resolveDots_head (segments : List Text) :
    (resolveDots ([] :: segments)).head? = some [] :=
  List.foldlRecOn (motive := fun kept => kept.head? = some [])
    segments keepSegment rfl fun _ hkept segment _ => keepSegment_head segment hkept

/-- A path in normal form has no dots. -/
theorem dotless_normalPath (path : Text) : Dotless (normalPath path) := by
  unfold normalPath
  dsimp only
  split_ifs with hany
  · have hkept := resolveDots_names fun s (hs : s ∈ Text.splitOn 0x2f path) =>
      Text.notMem_of_mem_splitOn hs
    intro segment hsegment
    by_cases hnil : resolveDots (Text.splitOn 0x2f path) = []
    · rw [hnil] at hsegment
      rw [List.mem_singleton.1 hsegment]
      decide
    · have hsplit : Text.splitOn 0x2f (Text.join "/" (resolveDots (Text.splitOn 0x2f path)))
          = resolveDots (Text.splitOn 0x2f path) :=
        Text.splitOn_join hnil fun s hs => (hkept s hs).2
      rw [hsplit] at hsegment
      exact (hkept segment hsegment).1
  · intro segment hsegment
    have hnone := List.any_eq_false.1 (Bool.eq_false_iff.2 hany) segment hsegment
    rw [decide_eq_true_iff] at hnone
    exact not_or.1 hnone

/-- The normal form of a path begins with a slash or is empty if the path does. -/
theorem Rooted.normalPath (h : Rooted path) : Rooted (normalPath path) := by
  unfold Url.normalPath
  dsimp only
  split_ifs with hany
  · rcases h with rfl | h
    · exact .inl rfl
    · obtain ⟨rest, rfl⟩ := List.head?_eq_some_iff.1 h
      obtain ⟨more, hmore⟩ :=
        List.head?_eq_some_iff.1 (resolveDots_head (Text.splitOn 0x2f rest))
      rw [Text.splitOn_cons_self, hmore]
      cases more with
      | nil => exact .inl rfl
      | cons next more => exact .inr rfl
  · exact h

/-! ## Encoding -/

/-- A piece is written as dots only if it is them. -/
theorem isName_percentEncode_iff {segment written : Text}
    (h : percentEncode pathSafe segment = .ok written) : IsName written ↔ IsName segment := by
  have hdots : ∀ dots : Text, Plain pathSafe dots → 0x25 ∉ dots →
      (written = dots ↔ segment = dots) := by
    intro dots hplain hpercent
    constructor
    · rintro rfl
      exact (eq_of_percentEncode rfl h hpercent).symm
    · rintro rfl
      rw [percentEncode_of_plain rfl hplain] at h
      cases h
      rfl
  rw [IsName, IsName, ne_eq, ne_eq, hdots [0x2e] (by decide) (by decide),
    hdots [0x2e, 0x2e] (by decide) (by decide)]

/-- Whether a path has dots can be told from what is written for it. -/
theorem dotless_percentEncode_iff (h : percentEncode pathSafe path = .ok out) :
    Dotless out ↔ Dotless path := by
  have hslash : IsPlain pathSafe 0x2f := by decide
  have hpieces := splitOn_percentEncode rfl hslash (by decide) h
  rw [Dotless, Dotless]
  generalize Text.splitOn 0x2f path = segments at hpieces
  generalize Text.splitOn 0x2f out = written at hpieces
  induction hpieces with
  | nil => rfl
  | cons hfirst _ ih =>
    rw [List.forall_mem_cons, List.forall_mem_cons]
    exact and_congr (isName_percentEncode_iff hfirst) ih

theorem Rooted.percentEncode (hpath : Rooted path) (h : percentEncode pathSafe path = .ok out) :
    Rooted out := by
  rcases hpath with rfl | hpath
  · cases h
    exact .inl rfl
  · obtain ⟨rest, rfl⟩ := List.head?_eq_some_iff.1 hpath
    obtain ⟨piece, more, hpiece, -, rfl⟩ := (percentEncode_cons_eq_ok_iff rfl).1 h
    rw [(writes_iff_of_plain (by decide)).1 hpiece]
    exact .inr rfl

end Colloquy.Url
