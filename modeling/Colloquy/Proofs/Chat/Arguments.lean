import Colloquy.Chat.Arguments
import Colloquy.Proofs.Error.Escape
import Colloquy.Proofs.Json.Front
import Colloquy.Wire.Basic

/-!
# Arguments written and read

The arguments of a call are a text from the time that a reply is read until they are
needed.  An object that a reply gives is written as text, and the text holds the same
object (`read_of_dumpText`).  A text that holds an object is read as it, blanks around it
or not (`read_argumentText_of_read`).
-/

namespace Colloquy

/-- A text between blanks that neither begins nor ends with one. -/
theorem Text.strip_blanks {c d : CodePoint} {front middle back : Text} (hc : isBlank c = false)
    (hd : isBlank d = false) (hfront : ∀ b ∈ front, isBlank b = true)
    (hback : ∀ b ∈ back, isBlank b = true) :
    strip (front ++ (c :: (middle ++ [d]) ++ back)) = c :: (middle ++ [d]) := by
  have hleft : (front ++ (c :: (middle ++ [d]) ++ back)).dropWhile isBlank
      = c :: (middle ++ [d]) ++ back := by
    rw [List.dropWhile_append_of_pos hfront, List.cons_append, List.dropWhile_cons_of_neg]
    rw [hc]
    exact Bool.false_ne_true
  have hright : (c :: (middle ++ [d]) ++ back).reverse.dropWhile isBlank
      = (c :: (middle ++ [d])).reverse := by
    have hreverse : ∀ b ∈ back.reverse, isBlank b = true := by
      intro b hb
      exact hback b (List.mem_reverse.1 hb)
    rw [List.reverse_append, List.dropWhile_append_of_pos hreverse, List.reverse_cons,
      List.reverse_append, List.reverse_singleton, List.singleton_append, List.cons_append,
      List.dropWhile_cons_of_neg]
    rw [hd]
    exact Bool.false_ne_true
  rw [strip, stripBy, hleft, hright, List.reverse_reverse]

theorem isBlank_of_isSpace {c : CodePoint} (h : Json.isSpace c = true) : Text.isBlank c = true := by
  simp only [Json.isSpace, Bool.or_eq_true, decide_eq_true_iff] at h
  rcases h with ((rfl | rfl) | rfl) | rfl <;> decide

/-- What stands between braces is taken for arguments without the blanks around it. -/
theorem argumentText_braces {front inner back : Text} (hfront : Json.Spaces front)
    (hback : Json.Spaces back) :
    argumentText (front ++ (0x7b :: (inner ++ [0x7d]) ++ back)) = 0x7b :: (inner ++ [0x7d]) := by
  have hstrip : Text.strip (front ++ (0x7b :: (inner ++ [0x7d]) ++ back))
      = 0x7b :: (inner ++ [0x7d]) :=
    Text.strip_blanks (by decide) (by decide) (fun b hb => isBlank_of_isSpace (hfront b hb))
      fun b hb => isBlank_of_isSpace (hback b hb)
  rw [argumentText, hstrip]

/-- Arguments that hold an object as a document are read as that object. -/
theorem read_argumentText_of_read {fields : Fields} {text : Text}
    (h : Json.read text = .ok (.object fields)) :
    Json.read (argumentText text) = .ok (.object fields) := by
  obtain ⟨front, inner, back, hfront, hback, rfl, hread⟩ := Json.exists_of_read_object h
  rw [argumentText_braces hfront hback]
  exact hread

theorem dumpText_eq_ok_iff {v : Value} {text : Text} : dumpText v = .ok text ↔
    Json.write false v = .ok text ∧ Json.isSendable Json.depthLimit v = true := by
  rw [dumpText, bind_eq_ok_iff, ← Json.encode_isOk_iff]
  simp only [bind_eq_ok_iff, mapError_eq_ok_iff, dumpPayload]
  constructor
  · rintro ⟨written, hwrite, octets, hencode, h⟩
    cases h
    exact ⟨hwrite, octets, hencode⟩
  · rintro ⟨hwrite, octets, hencode⟩
    exact ⟨text, hwrite, octets, hencode, rfl⟩

/-- An object that a reader can give is the same after it was written and read again. -/
theorem read_of_dumpText {fields : Fields} {text : Text}
    (hread : (Value.object fields).Throughout Value.IsRead)
    (hfloats : (Value.object fields).Throughout Value.ReadsBack)
    (h : dumpText (.object fields) = .ok text) : Json.read text = .ok (.object fields) :=
  Json.read_write hread hfloats (dumpText_eq_ok_iff.1 h).1

/-- Arguments are those of an object when their text is read as it. -/
theorem loadArguments_eq_ok_iff {arguments toolName : Text} {fields : Fields} :
    loadArguments arguments toolName = .ok fields ↔
      Json.read (argumentText arguments) = .ok (.object fields) := by
  rw [loadArguments, bind_eq_ok_iff]
  constructor
  · rintro ⟨v, hv, hfields⟩
    cases hread : Json.read (argumentText arguments) with
    | error fault =>
      rw [hread] at hv
      cases hv
    | ok found =>
      rw [hread] at hv
      cases hv
      cases v with
      | object found =>
        cases hfields
        rfl
      | _ => cases hfields
  · intro hread
    rw [hread]
    exact ⟨_, rfl, rfl⟩

theorem ToolCall.argumentFields_eq_ok_iff {call : ToolCall} {fields : Fields} :
    call.argumentFields = .ok fields ↔
      Json.read (argumentText call.arguments) = .ok (.object fields) :=
  loadArguments_eq_ok_iff

end Colloquy
