import Colloquy.Text.Basic

/-!
# Labels by number

A label in other letters is written in ASCII: first its code points of ASCII as they
are, after them the others in increasing order, each by the distance from the one
before, counted in code points and places. The distances are numbers of variable
length, whose digits depend on a bias that follows the distances seen so far. The
package for internationalized names writes and reads labels in this way.
-/

namespace Colloquy.Url.Punycode

/-! ## Numbers of variable length -/

/-- The value below which the digit at place `k` is the last of its number. -/
def threshold (k bias : Nat) : Nat :=
  if k ≤ bias then 1 else if bias + 26 ≤ k then 26 else k - bias

/-- A threshold is not zero, so every further digit leaves less to write. -/
theorem threshold_pos (k bias : Nat) : 0 < threshold k bias := by
  unfold threshold
  split
  · omega
  · split <;> omega

/-- The digit of a value below 36: the letters, then the figures. -/
def digit (d : Nat) : CodePoint :=
  if d < 26 then 0x61 + d else 0x30 + (d - 26)

/-- The value of a digit, which may be a letter of either case. -/
def digitValue? (c : CodePoint) : Option Nat :=
  let small := Text.small c
  if 0x61 ≤ small ∧ small ≤ 0x7a then some (small - 0x61)
  else if 0x30 ≤ c ∧ c ≤ 0x39 then some (c - 0x30 + 26)
  else none

/-- The digits of a number, the lowest in front. -/
def writeNumber (bias k q : Nat) : Text :=
  let t := threshold k bias
  if q < t then [digit q]
  else digit (t + (q - t) % (36 - t)) :: writeNumber bias (k + 36) ((q - t) / (36 - t))
termination_by q
decreasing_by
  have positive := threshold_pos k bias
  have shorter := Nat.div_le_self (q - threshold k bias) (36 - threshold k bias)
  omega

/-- The number at the front of a text and the rest. The digit at place `k` counts `weight`
times. -/
def readNumber? (bias k weight : Nat) : Text → Option (Nat × Text)
  | [] => none
  | c :: rest => do
    let d ← digitValue? c
    let t := threshold k bias
    if d < t then return (d * weight, rest)
    let (higher, rest) ← readNumber? bias (k + 36) (weight * (36 - t)) rest
    return (d * weight + higher, rest)

/-- A number takes up at least one code point. -/
theorem readNumber?_shorter {bias k weight : Nat} {text : Text} {n : Nat} {rest : Text}
    (h : readNumber? bias k weight text = some (n, rest)) : rest.length < text.length := by
  induction text generalizing k weight n with
  | nil => simp [readNumber?] at h
  | cons c tail ih =>
    rw [readNumber?] at h
    cases hd : digitValue? c with
    | none => simp [hd] at h
    | some d =>
      simp only [hd, bind, Option.bind] at h
      split at h
      · simp only [pure, Option.some.injEq, Prod.mk.injEq] at h
        simp [← h.2]
      · split at h
        · simp at h
        · rename_i found hfound
          simp only [pure, Option.some.injEq, Prod.mk.injEq] at h
          have := ih (n := found.1) (by rw [hfound, ← h.2])
          simp only [List.length_cons]
          omega

/-! ## The bias -/

/-- The reduction of a distance before the bias is taken from it. -/
def reduceDistance (distance k : Nat) : Nat :=
  if 455 < distance then reduceDistance (distance / 35) (k + 36)
  else k + 36 * distance / (distance + 38)
termination_by distance
decreasing_by exact Nat.div_lt_self (by omega) (by omega)

/-- The bias after a distance in a label that has `points` code points by then. -/
def adaptBias (distance points : Nat) (first : Bool) : Nat :=
  let part := if first then distance / 700 else distance / 2
  reduceDistance (part + part / points) 0

/-- The bias before the first distance. -/
def firstBias : Nat := 72

/-! ## Writing -/

/-- What is kept while a label is written. -/
structure Writing where
  distance : Nat
  bias : Nat
  handled : Nat
  output : Text

/-- Writes every occurrence of the code point `n` in a label of which `basic` code points are of
ASCII. -/
def writePoint (n basic : Nat) (label : Text) (state : Writing) : Writing :=
  label.foldl
    (fun state c =>
      if c < n then { state with distance := state.distance + 1 }
      else if c = n then
        { distance := 0
          bias := adaptBias state.distance (state.handled + 1) (state.handled == basic)
          handled := state.handled + 1
          output := state.output ++ writeNumber state.bias 36 state.distance }
      else state)
    state

/-- A label in ASCII. -/
def encode (label : Text) : Text :=
  let basic := label.filter (· < 0x80)
  let others := ((label.filter (0x80 ≤ ·)).mergeSort (· ≤ ·)).eraseDups
  let front : Text := if basic = [] then [] else basic ++ [0x2d]
  let start : Writing × Nat := (⟨0, firstBias, basic.length, front⟩, 0x80)
  let (final, _) := others.foldl
    (fun (state, n) m =>
      let ready := { state with distance := state.distance + (m - n) * (state.handled + 1) }
      let written := writePoint m basic.length label ready
      ({ written with distance := written.distance + 1 }, m + 1))
    start
  final.output

/-! ## Reading -/

/-- A label with the code points that `text` tells put into it, from the code point `n` and the
place `place` on. -/
def insertPoints (bias n place : Nat) (first : Bool) (label text : Text) : Option Text :=
  if text = [] then some label
  else match _ : readNumber? bias 36 1 text with
    | none => none
    | some (distance, rest) =>
      let points := label.length + 1
      let n := n + (place + distance) / points
      let place := (place + distance) % points
      if 0x10ffff < n then none
      else insertPoints (adaptBias distance points first) n (place + 1) false
        (label.take place ++ n :: label.drop place) rest
termination_by text.length
decreasing_by exact readNumber?_shorter ‹_›

/-- The label that a text in ASCII stands for. What precedes its last hyphen stands for
itself. -/
def decode? (text : Text) : Option Text :=
  let numbers := (text.reverse.takeWhile (· ≠ 0x2d)).reverse
  let basic := text.take (text.length - numbers.length - 1)
  insertPoints firstBias 0x80 0 true basic numbers

end Colloquy.Url.Punycode
