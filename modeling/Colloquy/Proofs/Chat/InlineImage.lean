import Colloquy.Chat.InlineImage
import Colloquy.Proofs.Json.Written
import Colloquy.Proofs.Text.Search

/-!
# Addresses that are inline images

An address spells an inline image by the scheme, a header without a mark, the first mark and
the data behind it (`InlineImage.SpelledBy`).  The data may hold further marks.  Every address
can be read (`InlineImage.read_eq`), and what is read is the image that the address spells, if it
spells one (`InlineImage.ofUrl?_eq_some_iff`).
-/

namespace Colloquy.InlineImage

/-- An address spells an inline image: a header that holds no mark is its media type, or it has the
one that is meant where none is named, and its data stand behind the mark. -/
def SpelledBy (image : InlineImage) (url : Text) : Prop :=
  ∃ header, url = scheme ++ header ++ mark ++ image.data ∧ ¬mark <:+: header ∧
    image.mediaType = if header = [] then defaultMediaType else header

/-- The mark begins with a code point that is nowhere else in it, nor in the scheme. -/
theorem mark_eq_cons : ∃ c part, mark = c :: part ∧ c ∉ part ∧ c ∉ scheme :=
  ⟨0x3b, Text.ofString "base64,", by decide, by decide, by decide⟩

/-- A mark anywhere in an address is a mark behind its scheme. -/
theorem includes_mark_iff {rest : Text} :
    (scheme ++ rest).includes mark = true ↔ (Text.splitFirst mark rest).isSome = true := by
  obtain ⟨c, part, hmark, -, hscheme⟩ := mark_eq_cons
  rw [Text.includes_iff, Text.isSome_splitFirst_iff, hmark, Text.infix_append_iff hscheme]

theorem splitFirst_mark_eq_some_iff {rest header data : Text} :
    Text.splitFirst mark rest = some (header, data) ↔
      rest = header ++ mark ++ data ∧ ¬mark <:+: header := by
  obtain ⟨c, part, hmark, hpart, -⟩ := mark_eq_cons
  rw [hmark, Text.splitFirst_eq_some_iff hpart]

theorem startsWith_scheme (rest : Text) : (scheme ++ rest).startsWith scheme = true :=
  List.isPrefixOf_iff_prefix.2 (List.prefix_append _ _)

theorem read_scheme (rest : Text) : read (scheme ++ rest) =
    .ok ((Text.splitFirst mark rest).map fun (header, data) =>
      ⟨if header = [] then defaultMediaType else header, data⟩) := by
  rw [read, startsWith_scheme, Bool.true_and, List.drop_left]
  cases hsplit : Text.splitFirst mark rest with
  | none =>
    have hmark : ¬(scheme ++ rest).includes mark = true := by
      rw [includes_mark_iff, hsplit]
      exact Bool.false_ne_true
    rw [if_neg hmark]
    rfl
  | some found =>
    have hmark : (scheme ++ rest).includes mark = true := by
      rw [includes_mark_iff, hsplit]
      rfl
    rw [if_pos hmark]
    rfl

theorem read_of_not_startsWith {url : Text} (h : ¬url.startsWith scheme = true) :
    read url = .ok none := by
  rw [read, (Bool.not_eq_true _).mp h]
  rfl

theorem eq_scheme_append {url : Text} (h : url.startsWith scheme = true) :
    ∃ rest, url = scheme ++ rest := by
  obtain ⟨rest, hrest⟩ := List.isPrefixOf_iff_prefix.1 h
  exact ⟨rest, hrest.symm⟩

/-- Every address can be read: where the mark is in the address, it is behind the scheme. -/
theorem read_eq (url : Text) : read url = .ok (ofUrl? url) := by
  by_cases h : url.startsWith scheme = true
  · obtain ⟨rest, rfl⟩ := eq_scheme_append h
    rw [ofUrl?, read_scheme]
    rfl
  · rw [ofUrl?, read_of_not_startsWith h]
    rfl

/-- An address is read as the inline image that it spells. -/
theorem ofUrl?_eq_some_iff {url : Text} {image : InlineImage} :
    ofUrl? url = some image ↔ image.SpelledBy url := by
  by_cases h : url.startsWith scheme = true
  · obtain ⟨rest, rfl⟩ := eq_scheme_append h
    rw [ofUrl?, read_scheme]
    show (Text.splitFirst mark rest).map _ = some image ↔ _
    rw [Option.map_eq_some_iff]
    constructor
    · rintro ⟨⟨header, data⟩, hsplit, rfl⟩
      obtain ⟨rfl, hheader⟩ := splitFirst_mark_eq_some_iff.1 hsplit
      exact ⟨header, by simp only [List.append_assoc], hheader, rfl⟩
    · rintro ⟨header, hurl, hheader, htype⟩
      refine ⟨(header, image.data), splitFirst_mark_eq_some_iff.2 ⟨?_, hheader⟩, ?_⟩
      · simp only [List.append_assoc, List.append_cancel_left_eq] at hurl ⊢
        exact hurl
      · show InlineImage.mk _ image.data = image
        rw [← htype]
  · rw [ofUrl?, read_of_not_startsWith h]
    refine iff_of_false nofun ?_
    rintro ⟨header, rfl, -, -⟩
    refine h ?_
    rw [List.append_assoc, List.append_assoc]
    exact startsWith_scheme _

theorem ofUrl?_eq_none_iff {url : Text} :
    ofUrl? url = none ↔ ∀ image : InlineImage, ¬image.SpelledBy url := by
  simp only [← ofUrl?_eq_some_iff, Option.eq_none_iff_forall_ne_some]

/-- An address has no surrogate when neither the media type nor the data that it spells has one. -/
theorem SpelledBy.isClean_iff {image : InlineImage} {url : Text} (h : image.SpelledBy url) :
    url.isClean = true ↔ image.mediaType.isClean = true ∧ image.data.isClean = true := by
  obtain ⟨header, rfl, -, htype⟩ := h
  have hscheme : scheme.isClean = true := by decide
  have hmark : mark.isClean = true := by decide
  have hheader : image.mediaType.isClean = header.isClean := by
    rw [htype]
    split
    · rename_i hempty
      rw [hempty]
      decide
    · rfl
  simp only [Text.isClean_append, hscheme, hmark, hheader, Bool.true_and, Bool.and_true,
    Bool.and_eq_true]

/-- Further marks belong to the data. -/
example : ofUrl? "data:image/png;base64,AA;base64,BB" = some ⟨"image/png", "AA;base64,BB"⟩ := by
  decide

end Colloquy.InlineImage
