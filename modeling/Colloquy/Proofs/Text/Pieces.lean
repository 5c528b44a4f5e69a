import Colloquy.Text.Basic
import Mathlib.Data.List.TakeWhile

/-!
# The pieces of a text

Splitting a text at a mark is `List.splitOn`, and putting pieces together with a separator is
`List.intercalate`, so what is known of these carries over.
-/

namespace Colloquy.Text

variable {mark : CodePoint} {text front : Text}

theorem splitOn_eq (mark : CodePoint) (text : Text) :
    splitOn mark text = List.splitOn mark text := by
  induction text with
  | nil => exact (List.splitOn_nil mark).symm
  | cons c rest ih =>
    obtain ⟨piece, pieces, hpieces⟩ :=
      List.exists_cons_of_ne_nil (List.splitOn_ne_nil mark rest)
    rw [splitOn, ih, List.splitOn_cons_eq_if_modifyHead, hpieces]
    by_cases hc : c = mark <;> simp [hc]

theorem join_eq (separator : Text) (pieces : List Text) :
    join separator pieces = List.intercalate separator pieces := by
  induction pieces with
  | nil => rfl
  | cons piece rest ih =>
    cases rest with
    | nil => simp [join]
    | cons next rest => simp [join, ih]

theorem splitOn_ne_nil (mark : CodePoint) (text : Text) : splitOn mark text ≠ [] := by
  rw [splitOn_eq]
  exact List.splitOn_ne_nil mark text

theorem splitOn_cons_self (mark : CodePoint) (text : Text) :
    splitOn mark (mark :: text) = [] :: splitOn mark text := by
  simp [splitOn_eq, List.splitOn_cons_eq_if_modifyHead]

/-- A mark ends the pieces in front of it. -/
theorem splitOn_append_cons (front back : Text) :
    splitOn mark (front ++ mark :: back) = splitOn mark front ++ splitOn mark back := by
  simp only [splitOn_eq, List.splitOn_append_cons_self]

/-- What stands in front of the first mark belongs to the first piece. -/
theorem splitOn_append_of_notMem (h : mark ∉ front) (back : Text) :
    splitOn mark (front ++ back) = (splitOn mark back).modifyHead (front ++ ·) := by
  simp only [splitOn_eq]
  induction front with
  | nil => exact (congrFun List.modifyHead_id _).symm
  | cons c front ih =>
    obtain ⟨hc, hfront⟩ := not_or.1 (mt List.mem_cons.2 h)
    rw [List.cons_append, List.splitOn_cons_eq_if_modifyHead, ih hfront,
      if_neg (by simpa using Ne.symm hc), List.modifyHead_modifyHead]
    rfl

theorem splitOn_of_notMem (h : mark ∉ text) : splitOn mark text = [text] := by
  rw [splitOn_eq, List.splitOn_eq_singleton h]

/-- Pieces consist of what is no mark in the text. -/
theorem mem_of_mem_splitOn {piece : Text} (h : piece ∈ splitOn mark text) :
    ∀ c ∈ piece, c ∈ text ∧ c ≠ mark := by
  induction text generalizing piece with
  | nil =>
    rw [List.mem_singleton.1 h]
    exact nofun
  | cons c rest ih =>
    obtain ⟨first, pieces, hpieces⟩ := List.exists_cons_of_ne_nil (splitOn_ne_nil mark rest)
    have hrest : ∀ piece ∈ first :: pieces, ∀ d ∈ piece, d ∈ c :: rest ∧ d ≠ mark := by
      intro piece hpiece d hd
      rw [hpieces] at ih
      exact (ih hpiece d hd).imp_left (List.mem_cons_of_mem c)
    rw [splitOn, hpieces] at h
    dsimp only at h
    split_ifs at h with hc
    · rcases List.mem_cons.1 h with rfl | h
      · exact nofun
      · exact hrest piece h
    · rcases List.mem_cons.1 h with rfl | h
      · exact List.forall_mem_cons.2 ⟨⟨List.mem_cons_self, hc⟩, hrest first List.mem_cons_self⟩
      · exact hrest piece (List.mem_cons_of_mem first h)

theorem notMem_of_mem_splitOn {piece : Text} (h : piece ∈ splitOn mark text) : mark ∉ piece :=
  fun hmark => (mem_of_mem_splitOn h mark hmark).2 rfl

theorem join_splitOn (mark : CodePoint) (text : Text) : join [mark] (splitOn mark text) = text := by
  rw [splitOn_eq, join_eq]
  exact List.intercalate_splitOn mark

/-- Pieces that are put together are found again. -/
theorem splitOn_join {pieces : List Text} (hnil : pieces ≠ [])
    (h : ∀ piece ∈ pieces, mark ∉ piece) : splitOn mark (join [mark] pieces) = pieces := by
  rw [splitOn_eq, join_eq]
  exact List.splitOn_intercalate mark h hnil

/-- What holds of the code points of a separator and of parts holds of those of the joined text. -/
theorem forall_mem_join {p : CodePoint → Prop} {separator : Text}
    (hseparator : ∀ c ∈ separator, p c) {parts : List Text}
    (h : ∀ part ∈ parts, ∀ c ∈ part, p c) : ∀ c ∈ join separator parts, p c := by
  induction parts with
  | nil => exact List.forall_mem_nil _
  | cons part parts ih =>
    have hpart := h part List.mem_cons_self
    have hrest := ih fun p hp => h p (List.mem_cons_of_mem part hp)
    cases parts with
    | nil => exact hpart
    | cons next parts =>
      show ∀ c ∈ part ++ separator ++ join separator (next :: parts), p c
      exact List.forall_mem_append.2 ⟨List.forall_mem_append.2 ⟨hpart, hseparator⟩, hrest⟩

/-! ## The last mark -/

/-- A text that holds a mark is parted at the last one. -/
theorem exists_last (h : mark ∈ text) :
    ∃ front back, text = front ++ mark :: back ∧ mark ∉ back := by
  obtain ⟨back, front, hreverse, hback⟩ :=
    List.eq_append_cons_of_mem (List.mem_reverse.2 h)
  refine ⟨front.reverse, back.reverse, ?_, by simpa using hback⟩
  rw [← List.reverse_reverse text, hreverse]
  simp

theorem ne_of_mem_reverse (h : mark ∉ text) : ∀ c ∈ text.reverse, decide (c ≠ mark) = true := by
  intro c hc
  refine decide_eq_true ?_
  rintro rfl
  exact h (List.mem_reverse.1 hc)

/-- What stands behind the last mark. -/
theorem reverse_takeWhile_ne (front : Text) {back : Text} (h : mark ∉ back) :
    ((front ++ mark :: back).reverse.takeWhile (· ≠ mark)).reverse = back := by
  rw [List.reverse_append, List.reverse_cons, List.append_assoc,
    List.takeWhile_append_of_pos (ne_of_mem_reverse h)]
  simp

theorem reverse_takeWhile_ne_of_notMem (h : mark ∉ text) :
    (text.reverse.takeWhile (· ≠ mark)).reverse = text := by
  rw [List.takeWhile_eq_self_iff.2 (ne_of_mem_reverse h), List.reverse_reverse]

/-- What stands in front of the last mark, by the length of what stands behind it. -/
theorem take_length_sub (front back : Text) :
    (front ++ mark :: back).take ((front ++ mark :: back).length - back.length - 1) = front := by
  refine List.take_left' ?_
  rw [List.length_append, List.length_cons]
  omega

end Colloquy.Text
