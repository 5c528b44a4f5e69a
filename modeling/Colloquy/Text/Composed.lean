import Colloquy.Text.Composite
import Colloquy.Text.Mark

/-!
# Composed text

Text is composed when no sequence in it could be written by a composite. Whether it
is shows when it is taken apart, its marks are brought into the order of their
classes, and what remains is put together again: composed text comes back as it was.
-/

namespace Colloquy.Text

/-! ## Taking apart -/

/-- A code point in its parts, the first of which may have parts again, `depth` times at most. -/
def breakPoint (depth : Nat) (c : CodePoint) : Text :=
  match depth with
  | 0 => [c]
  | depth + 1 =>
    match parts? c with
    | some (first, second) => breakPoint depth first ++ [second]
    | none => [c]

/-- A text in which every composite is written by its parts. No composite has more than three
marks. -/
def broken (text : Text) : Text :=
  text.flatMap (breakPoint 3)

/-! ## Order of marks -/

/-- A code point in front of ordered text, moved behind the marks of lower classes. -/
def placeMark (c : CodePoint) : Text → Text
  | [] => [c]
  | mark :: rest =>
    if combiningClass mark ≠ 0 ∧ combiningClass mark < combiningClass c then
      mark :: placeMark c rest
    else c :: mark :: rest

/-- A text with the marks of every letter in the order of their classes; marks of one class keep
their order. -/
def ordered (text : Text) : Text :=
  text.foldr placeMark []

/-! ## Putting together -/

/-- A text on its way to being put together: what is settled, and the last letter with the marks
that have not joined it. -/
structure Composing where
  settled : Text
  letter? : Option CodePoint
  marks : Text

namespace Composing

/-- All that a text holds so far. -/
def toText (state : Composing) : Text :=
  state.settled ++ state.letter?.toList ++ state.marks

/-- Whether nothing stands between the last letter and a code point to come that would keep them
apart: no mark of its class or a higher one. -/
def reaches (state : Composing) (c : CodePoint) : Bool :=
  match state.marks.getLast? with
  | none => true
  | some mark => combiningClass mark < combiningClass c

/-- One more code point, which joins the last letter if it can. -/
def add (state : Composing) (c : CodePoint) : Composing :=
  let joined : Option CodePoint := do
    let letter ← state.letter?
    if state.reaches c then composite? letter c else none
  match joined with
  | some whole => { state with letter? := some whole }
  | none =>
    if combiningClass c = 0 then { settled := state.toText, letter? := some c, marks := [] }
    else { state with marks := state.marks ++ [c] }

end Composing

/-- A text in which every letter has joined the marks after it as far as there are
composites. -/
def joined (text : Text) : Text :=
  (text.foldl Composing.add ⟨[], none, []⟩).toText

/-- Whether a text is composed. -/
def isComposed (text : Text) : Bool :=
  !text.any isAlwaysBroken && joined (ordered (broken text)) == text

end Colloquy.Text
