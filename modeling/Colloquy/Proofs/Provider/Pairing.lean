import Colloquy.Proofs.Provider.Alternation
import Colloquy.Proofs.Turn.Round

/-!
# Results next to their calls

In the format of Anthropic a turn of the assistant with calls has to be followed by a turn
of the user that begins with their results.  A history is `Answered` when its tool
messages follow the messages whose calls they answer, as the rounds of a turn leave it
(`Answered.after`).

There are three groups.

* The calls and the results in a turn of a payload, and `Paired`, which says of a row of
  turns that every result stands where it belongs.
* `Leads`, the invariant that merging keeps: each turn begins with the results for the
  calls of the turn before it.  What is open at the end of a row is what the next turn
  has to answer.
* The history.  A message without calls leaves nothing open (`Leads.with_turn`), and the tool
  messages of a round are merged into one turn that answers all of its calls
  (`Leads.answer`).

The main statement is `Backend.anthropic_pairs`.
-/

namespace Colloquy

/-! ## Answered histories -/

/-- A message is the tool message that answers a call. -/
def ToolCall.AnsweredBy (call : ToolCall) (m : Message) : Prop :=
  ∃ content metadata, m = .tool call.id content metadata call.identified

/-- A history in which every message with calls is followed at once by one tool message for each of
its calls, in their order, and in which there are no other tool messages. -/
inductive Answered : List Message → Prop
  | nil : Answered []
  | plain {m : Message} {history : List Message} (hrole : m.role ≠ .tool) (hcalls : m.calls = [])
      (h : Answered history) : Answered (m :: history)
  | round {turn : AssistantMessage} {results history : List Message} (hcalls : turn.calls ≠ [])
      (hresults : List.Forall₂ ToolCall.AnsweredBy turn.calls results) (h : Answered history) :
      Answered (.assistant turn :: (results ++ history))

namespace Answered

theorem append {history more : List Message} (h : Answered history) (hmore : Answered more) :
    Answered (history ++ more) := by
  induction h with
  | nil => exact hmore
  | plain hrole hcalls _ ih => exact .plain hrole hcalls ih
  | round hcalls hresults _ ih =>
    rw [List.cons_append, List.append_assoc]
    exact .round hcalls hresults ih

/-- The messages of a round are answered. -/
theorem messages (round : Round) : Answered round.messages := by
  have hresults : List.Forall₂ ToolCall.AnsweredBy round.message.calls
      (round.answers.map Answer.message) := by
    rw [← round.complete, List.forall₂_map_left_iff, List.forall₂_map_right_iff, List.forall₂_same]
    intro answer _
    exact ⟨some (.text answer.text), [], rfl⟩
  have h := Answered.round round.called hresults .nil
  rw [List.append_nil] at h
  exact h

/-- Rounds that are added to an answered history leave it answered. -/
theorem after {chat : Chat} (h : Answered chat.history) (rounds : List Round) :
    Answered (chat.after rounds).history := by
  refine h.append ?_
  induction rounds with
  | nil => exact .nil
  | cons round rounds ih => exact (messages round).append ih

end Answered

namespace Anthropic

/-! ## Calls and results in turns -/

/-- The identifier of the call that a block makes. -/
def madeId? (block : Value) : Option Value :=
  if (block.field "type").same (.ofString "tool_use") then some (block.field "id") else none

/-- The identifier of the call whose result a block is. -/
def givenId? (block : Value) : Option Value :=
  if (block.field "type").same (.ofString "tool_result") then some (block.field "tool_use_id")
  else none

/-- The blocks of a turn of a payload. -/
def blocksOf (turn : Value) : List Value :=
  Provider.blocks (turn.field "content")

/-- The identifiers of the calls in a turn of a payload, in order. -/
def madeIn (turn : Value) : List Value :=
  (blocksOf turn).filterMap madeId?

/-- Every turn with calls is one of the assistant, and is followed by a turn of the user whose first
blocks are the results for these calls, in their order; and there are no other results. -/
structure Paired (turns : List Value) : Prop where
  followed {front back : List Value} {turn : Value} (hturn : turns = front ++ turn :: back)
    (hmade : madeIn turn ≠ []) :
    turn.field "role" = .ofString "assistant" ∧
    ∃ next rest, back = next :: rest ∧ next.field "role" = .ofString "user" ∧
      ((blocksOf next).take (madeIn turn).length).map givenId? = (madeIn turn).map some
  nowhere {front back : List Value} {turn block : Value} {i : Nat}
    (hturn : turns = front ++ turn :: back) (hblock : (blocksOf turn)[i]? = some block)
    (hgiven : givenId? block ≠ none) :
    ∃ before asking, front = before ++ [asking] ∧
      asking.field "role" = .ofString "assistant" ∧ i < (madeIn asking).length

/-! ## What a turn leaves open -/

/-- The identifiers of the calls in a turn, in order. -/
def Turn.made (turn : Turn) : List Value :=
  turn.content.toBlocks.filterMap madeId?

theorem blocksOf_toValue (turn : Turn) : blocksOf turn.toValue = turn.content.toBlocks := by
  cases turn with
  | mk side content => cases content <;> rfl

theorem madeIn_toValue (turn : Turn) : madeIn turn.toValue = turn.made := by
  rw [madeIn, blocksOf_toValue, Turn.made]

theorem role_of_side {turn : Turn} {side : Side} (h : turn.side = side) :
    turn.toValue.field "role" = .text side.name := by
  rw [Turn.toValue, h]
  rfl

/-- A turn begins with the results for some calls, and has no other results.  Results are given by
the user, and calls are made by the assistant. -/
structure Turn.Gives (turn : Turn) (ids : List Value) : Prop where
  results : ∃ results others, turn.content.toBlocks = results ++ others ∧
    results.map givenId? = ids.map some ∧ ∀ block ∈ others, givenId? block = none
  user : ids ≠ [] → turn.side = .user
  assistant : turn.made ≠ [] → turn.side = .assistant

/-- Each turn of a row gives the results for the calls of the turn before it.  The first turn
answers the calls that are open before the row, and the calls of the last turn are open after it. -/
def Leads : List Value → List Turn → List Value → Prop
  | ids, [], ids' => ids' = ids
  | ids, turn :: turns, ids' => turn.Gives ids ∧ Leads turn.made turns ids'

namespace Leads

variable {ids ids' : List Value} {turns : List Turn}

theorem append_iff {more : List Turn} :
    Leads ids (turns ++ more) ids' ↔
      ∃ between, Leads ids turns between ∧ Leads between more ids' := by
  induction turns generalizing ids with
  | nil => simp [Leads]
  | cons turn turns ih => simp only [List.cons_append, Leads, ih, and_assoc, exists_and_left]

theorem singleton_iff {turn : Turn} : Leads ids [turn] ids' ↔ turn.Gives ids ∧ ids' = turn.made :=
  Iff.rfl

/-- What is open after a row are the calls of its last turn. -/
theorem open_eq (h : Leads ids turns ids') :
    turns = [] ∧ ids' = ids ∨
      ∃ front last, turns = front ++ [last] ∧ ids' = last.made ∧ ∃ before, last.Gives before := by
  rcases List.eq_nil_or_concat turns with rfl | ⟨front, last, rfl⟩
  · exact .inl ⟨rfl, h⟩
  · rw [List.concat_eq_append] at h
    obtain ⟨before, -, hlast⟩ := append_iff.1 h
    obtain ⟨hgives, hopen⟩ := singleton_iff.1 hlast
    exact .inr ⟨front, last, List.concat_eq_append, hopen, before, hgives⟩

/-- A row that leaves nothing open is paired. -/
theorem paired (h : Leads [] turns []) : Paired (turns.map Turn.toValue) := by
  constructor
  · intro front back turn hturn hmade
    obtain ⟨before, after, rfl, rfl, hafter⟩ := List.map_eq_append_iff.1 hturn
    obtain ⟨turn, after, rfl, rfl, rfl⟩ := List.map_eq_cons_iff.1 hafter
    rw [madeIn_toValue] at hmade ⊢
    obtain ⟨between, -, hasking, hrest⟩ := append_iff.1 h
    refine ⟨role_of_side (hasking.assistant hmade), ?_⟩
    cases after with
    | nil => exact absurd hrest.symm hmade
    | cons next rest =>
      have hgives : next.Gives turn.made := hrest.1
      refine ⟨next.toValue, rest.map Turn.toValue, rfl, role_of_side (hgives.user hmade), ?_⟩
      obtain ⟨results, others, hblocks, hresults, -⟩ := hgives.results
      have hlength : results.length = turn.made.length := by
        simpa using congrArg List.length hresults
      rw [blocksOf_toValue, hblocks, ← hlength, List.take_left, hresults]
  · intro front back turn block i hturn hblock hgiven
    obtain ⟨before, after, rfl, rfl, hafter⟩ := List.map_eq_append_iff.1 hturn
    obtain ⟨turn, after, rfl, rfl, rfl⟩ := List.map_eq_cons_iff.1 hafter
    rw [blocksOf_toValue] at hblock
    obtain ⟨between, hbefore, hgives, -⟩ := append_iff.1 h
    obtain ⟨results, others, hblocks, hresults, hothers⟩ := hgives.results
    have hlength : results.length = between.length := by
      simpa using congrArg List.length hresults
    -- a result stands among the first blocks, because the others are none
    have hi : i < between.length := by
      by_contra hge
      rw [hblocks, List.getElem?_append_right (by omega)] at hblock
      exact hgiven (hothers block (List.mem_of_getElem? hblock))
    have hsome : between ≠ [] := List.ne_nil_of_length_pos (by omega)
    rcases hbefore.open_eq with ⟨-, hnone⟩ | ⟨front, asking, rfl, hmade, _, hasking⟩
    · exact absurd hnone hsome
    · have hside : asking.side = .assistant := hasking.assistant (hmade ▸ hsome)
      refine ⟨front.map Turn.toValue, asking.toValue, List.map_append, role_of_side hside, ?_⟩
      rw [madeIn_toValue, ← hmade]
      exact hi

end Leads

/-! ## Merging -/

theorem addTurn_of_side_eq {front : List Turn} {last turn : Turn} (h : last.side = turn.side) :
    addTurn (front ++ [last]) turn
      = front ++ [⟨turn.side, .blocks (last.content.toBlocks ++ turn.content.toBlocks)⟩] := by
  simp [addTurn, h]

theorem addTurn_of_side_ne {front : List Turn} {last turn : Turn} (h : last.side ≠ turn.side) :
    addTurn (front ++ [last]) turn = front ++ [last] ++ [turn] := by
  simp [addTurn, h]

theorem addTurn_eq_concat (turns : List Turn) (turn : Turn) :
    ∃ front last, addTurn turns turn = front ++ [last] ∧ last.side = turn.side := by
  rcases List.eq_nil_or_concat turns with rfl | ⟨front, last, rfl⟩
  · exact ⟨[], turn, rfl, rfl⟩
  · rw [List.concat_eq_append]
    by_cases hside : last.side = turn.side
    · exact ⟨front, _, addTurn_of_side_eq hside, rfl⟩
    · exact ⟨front ++ [last], turn, addTurn_of_side_ne hside, rfl⟩

/-- A turn without results that is added to a row leaves its own calls open. -/
theorem Leads.with_turn {turns : List Turn} (h : Leads [] turns []) {turn : Turn}
    (hgiven : ∀ block ∈ turn.content.toBlocks, givenId? block = none)
    (hside : turn.made ≠ [] → turn.side = .assistant) :
    Leads [] (addTurn turns turn) turn.made := by
  have hgives : turn.Gives [] := ⟨⟨[], _, rfl, rfl, hgiven⟩, fun hnone => absurd rfl hnone, hside⟩
  rcases List.eq_nil_or_concat turns with rfl | ⟨front, last, rfl⟩
  · exact singleton_iff.2 ⟨hgives, rfl⟩
  · rw [List.concat_eq_append] at h ⊢
    by_cases hsame : last.side = turn.side
    · rw [addTurn_of_side_eq hsame]
      obtain ⟨between, hfront, hlast⟩ := append_iff.1 h
      obtain ⟨hlast, hnone⟩ := singleton_iff.1 hlast
      obtain ⟨results, others, hblocks, hresults, hothers⟩ := hlast.results
      have hmade : Turn.made ⟨turn.side, .blocks (last.content.toBlocks ++
          turn.content.toBlocks)⟩ = turn.made := by
        show (last.content.toBlocks ++ turn.content.toBlocks).filterMap madeId? = turn.made
        rw [List.filterMap_append]
        show last.made ++ turn.made = turn.made
        rw [← hnone, List.nil_append]
      refine append_iff.2 ⟨between, hfront, singleton_iff.2 ⟨⟨?_, ?_, ?_⟩, hmade.symm⟩⟩
      · refine ⟨results, others ++ turn.content.toBlocks, ?_, hresults, ?_⟩
        · show last.content.toBlocks ++ turn.content.toBlocks = _
          rw [hblocks, List.append_assoc]
        · exact List.forall_mem_append.2 ⟨hothers, hgiven⟩
      · intro hids
        exact hsame.symm.trans (hlast.user hids)
      · rw [hmade]
        exact hside
    · rw [addTurn_of_side_ne hsame]
      exact append_iff.2 ⟨[], h, singleton_iff.2 ⟨hgives, rfl⟩⟩

/-- Blocks of the user that come one by one are merged into one turn. -/
theorem foldl_addTurn_user (front : List Turn) (said blocks : List Value) :
    (blocks.map fun block => (⟨.user, .blocks [block]⟩ : Turn)).foldl addTurn
        (front ++ [⟨.user, .blocks said⟩])
      = front ++ [⟨.user, .blocks (said ++ blocks)⟩] := by
  induction blocks generalizing said with
  | nil => rw [List.append_nil]; rfl
  | cons block blocks ih =>
    have hadded : addTurn (front ++ [⟨.user, .blocks said⟩]) ⟨.user, .blocks [block]⟩
        = front ++ [⟨.user, .blocks (said ++ [block])⟩] :=
      addTurn_of_side_eq rfl
    rw [List.map_cons, List.foldl_cons, hadded, ih, List.append_assoc]
    rfl

/-- Results that come one by one behind a turn of the assistant answer its calls. -/
theorem Leads.answer {front : List Turn} {last : Turn} {ids blocks : List Value}
    (h : Leads [] (front ++ [last]) ids) (hside : last.side = .assistant)
    (hgiven : blocks.map givenId? = ids.map some) (hmade : blocks.filterMap madeId? = []) :
    Leads [] ((blocks.map fun block => (⟨.user, .blocks [block]⟩ : Turn)).foldl addTurn
      (front ++ [last])) [] := by
  cases blocks with
  | nil =>
    have hids : ids = [] := List.map_eq_nil_iff.1 hgiven.symm
    rw [hids] at h
    exact h
  | cons block blocks =>
    have hadded : addTurn (front ++ [last]) ⟨.user, .blocks [block]⟩
        = front ++ [last] ++ [⟨.user, .blocks [block]⟩] := by
      refine addTurn_of_side_ne ?_
      rw [hside]
      show Side.assistant ≠ Side.user
      decide
    rw [List.map_cons, List.foldl_cons, hadded, foldl_addTurn_user]
    have hnone : Turn.made ⟨.user, .blocks ([block] ++ blocks)⟩ = [] := hmade
    refine append_iff.2 ⟨ids, h, singleton_iff.2 ⟨⟨?_, fun _ => rfl, ?_⟩, hnone.symm⟩⟩
    · exact ⟨block :: blocks, [], (List.append_nil _).symm, hgiven, List.forall_mem_nil _⟩
    · exact fun hcalls => absurd hnone hcalls

/-! ## Messages -/

theorem CallsAs.blocks {calls : List ToolCall} {blocks : List Value}
    (h : List.Forall₂ CallsAs calls blocks) :
    blocks.filterMap madeId? = calls.map (fun call => Value.text call.id) ∧
      ∀ block ∈ blocks, givenId? block = none := by
  induction h with
  | nil => exact ⟨rfl, List.forall_mem_nil _⟩
  | cons hcall _ ih =>
    obtain ⟨input, -, rfl⟩ := hcall
    refine ⟨?_, List.forall_mem_cons.2 ⟨rfl, ih.2⟩⟩
    rw [List.map_cons, ← ih.1]
    rfl

/-- A part of content is neither a call nor a result. -/
theorem PartAs.blocks {part : Part} {block : Value} (h : PartAs part block) :
    madeId? block = none ∧ givenId? block = none := by
  cases h with
  | text | inline | linked => exact ⟨rfl, rfl⟩

theorem Says.made {m : Message} {said : List Said} (h : Says m said) :
    (said.map Said.piece).filterMap madeId? = m.calls.map fun call => Value.text call.id := by
  cases h with
  | system | userText | tool => rfl
  | userParts _ hparts =>
    rw [List.map_map]
    refine List.filterMap_eq_nil_iff.2 (List.forall_mem_map.2 fun block hblock => ?_)
    obtain ⟨part, -, hpart⟩ := exists_of_forall₂ hparts.flip hblock
    exact hpart.blocks.1
  | silent htext hcalls =>
    rw [List.map_map]
    exact (congrArg _ (List.map_id _)).trans (CallsAs.blocks hcalls).1
  | spoken htext hcalls =>
    rw [List.map_cons, List.map_map]
    exact (congrArg _ (List.map_id _)).trans (CallsAs.blocks hcalls).1

/-- Only tool messages say results. -/
theorem Says.given {m : Message} {said : List Said} (h : Says m said) (hrole : m.role ≠ .tool) :
    ∀ block ∈ said.map Said.piece, givenId? block = none := by
  cases h with
  | system => exact List.forall_mem_nil _
  | userText t => exact List.forall_mem_singleton.2 rfl
  | userParts _ hparts =>
    rw [List.map_map]
    refine List.forall_mem_map.2 fun block hblock => ?_
    obtain ⟨part, -, hpart⟩ := exists_of_forall₂ hparts.flip hblock
    exact hpart.blocks.2
  | tool => exact absurd rfl hrole
  | silent htext hcalls =>
    rw [List.map_map]
    exact List.forall_mem_map.2 (CallsAs.blocks hcalls).2
  | spoken htext hcalls =>
    rw [List.map_cons, List.map_map]
    exact List.forall_mem_cons.2 ⟨rfl, List.forall_mem_map.2 (CallsAs.blocks hcalls).2⟩

theorem Turn.said_piece (turn : Turn) : turn.said.map Said.piece = turn.content.toBlocks := by
  rw [Turn.said, List.map_map]
  exact List.map_id _

/-- The turn of a message makes the calls of the message. -/
theorem made_of_turnOf {m : Message} {turn : Turn} (h : turnOf m = .ok (some turn)) :
    turn.made = m.calls.map fun call => Value.text call.id := by
  have hsays : Says m turn.said := turnOf_returns m _ h
  rw [Turn.made, ← turn.said_piece]
  exact hsays.made

theorem given_of_turnOf {m : Message} {turn : Turn} (h : turnOf m = .ok (some turn))
    (hrole : m.role ≠ .tool) : ∀ block ∈ turn.content.toBlocks, givenId? block = none := by
  have hsays : Says m turn.said := turnOf_returns m _ h
  rw [← turn.said_piece]
  exact hsays.given hrole

/-- Tool messages that answer calls give the results for them. -/
theorem mapM_results {calls : List ToolCall} {results : List Message}
    (h : List.Forall₂ ToolCall.AnsweredBy calls results) : ∃ blocks : List Value,
    results.mapM turnOf = .ok (blocks.map fun block => some (⟨.user, .blocks [block]⟩ : Turn)) ∧
    blocks.map givenId? = (calls.map fun call => Value.text call.id).map some ∧
    blocks.filterMap madeId? = [] := by
  induction h with
  | nil => exact ⟨[], rfl, rfl, rfl⟩
  | @cons call _ _ _ hcall _ ih =>
    obtain ⟨content, metadata, rfl⟩ := hcall
    obtain ⟨blocks, hblocks, hgiven, hmade⟩ := ih
    refine ⟨resultBlock call.id content :: blocks, ?_, ?_, hmade⟩
    · rw [List.mapM_cons, hblocks]
      rfl
    · rw [List.map_cons, hgiven]
      rfl

/-! ## Histories -/

/-- The turns of an answered history, merged with a row that leaves nothing open, leave nothing
open. -/
theorem Leads.with_history {history : List Message} (h : Answered history) {turns : List Turn}
    (hturns : Leads [] turns []) {own : List (Option Turn)} (hown : history.mapM turnOf = .ok own) :
    Leads [] ((own.filterMap id).foldl addTurn turns) [] := by
  induction h generalizing turns own with
  | nil =>
    cases hown
    exact hturns
  | @plain m history hrole hcalls _ ih =>
    rw [List.mapM_cons] at hown
    obtain ⟨turn, hturn, hown⟩ := bind_eq_ok_iff.1 hown
    obtain ⟨others, hothers, hown⟩ := bind_eq_ok_iff.1 hown
    cases hown
    cases turn with
    | none =>
      show Leads [] ((others.filterMap id).foldl addTurn turns) []
      exact ih hturns hothers
    | some turn =>
      have hmade : turn.made = [] := by
        rw [made_of_turnOf hturn, hcalls]
        rfl
      have hadded :=
        hturns.with_turn (given_of_turnOf hturn hrole) fun hcalls => absurd hmade hcalls
      rw [hmade] at hadded
      show Leads [] ((others.filterMap id).foldl addTurn (addTurn turns turn)) []
      exact ih hadded hothers
  | @round asking results history hcalls hresults _ ih =>
    rw [List.mapM_cons, List.mapM_append] at hown
    obtain ⟨turn, hturn, hown⟩ := bind_eq_ok_iff.1 hown
    obtain ⟨both, hboth, hown⟩ := bind_eq_ok_iff.1 hown
    cases hown
    obtain ⟨found, hfound, hboth⟩ := bind_eq_ok_iff.1 hboth
    obtain ⟨others, hothers, hboth⟩ := bind_eq_ok_iff.1 hboth
    cases hboth
    obtain ⟨blocks, hblocks, hgiven, hmade⟩ := mapM_results hresults
    rw [hblocks] at hfound
    cases hfound
    obtain ⟨said, -, hsaid⟩ := bind_eq_ok_iff.1 hturn
    cases hsaid
    have hrole : (Message.assistant asking).role ≠ .tool := by rintro ⟨⟩
    have hasked := hturns.with_turn (given_of_turnOf hturn hrole) fun _ => rfl
    rw [made_of_turnOf hturn] at hasked
    obtain ⟨front, last, hlast, hside⟩ := addTurn_eq_concat turns ⟨.assistant, .blocks said⟩
    rw [hlast] at hasked
    have hanswered := ih (hasked.answer hside hgiven hmade) hothers
    rw [← hlast] at hanswered
    have hkept : (blocks.map fun block => some (⟨.user, .blocks [block]⟩ : Turn)).filterMap id
        = blocks.map fun block => ⟨.user, .blocks [block]⟩ := by
      rw [List.filterMap_map]
      exact congrFun List.filterMap_eq_map _
    show Leads [] ((((blocks.map fun block => some (⟨.user, .blocks [block]⟩ : Turn)) ++
      others).filterMap id).foldl addTurn (addTurn turns ⟨.assistant, .blocks said⟩)) []
    rw [List.filterMap_append, hkept, List.foldl_append]
    exact hanswered

/-- The calls in the turns of a row are those of the messages. -/
theorem made_of_turns {history : List Message} {merged : List Turn}
    (h : turns history = .ok merged) :
    merged.flatMap Turn.made
      = (history.flatMap Message.calls).map fun call => Value.text call.id := by
  obtain ⟨own, hown, hsaid⟩ := turns_eq_ok h
  have hmerged : merged.flatMap Turn.made
      = ((merged.flatMap Turn.said).map Said.piece).filterMap madeId? := by
    rw [List.map_flatMap, List.filterMap_flatMap]
    exact List.flatMap_congr fun turn _ => by rw [turn.said_piece]; rfl
  rw [hmerged, hsaid]
  clear h hsaid hmerged
  induction hown with
  | nil => rfl
  | cons hsays _ ih =>
    rw [List.flatten_cons, List.map_append, List.filterMap_append, hsays.made, ih,
      List.flatMap_cons, List.map_append]

theorem payload_pairs {model : Text} {chat : Chat} (hanswered : Answered chat.history) {v : Value}
    (h : payload model chat = .ok v) :
    Paired (Provider.anthropic.turns v) ∧ (Provider.anthropic.turns v).flatMap madeIn
      = (chat.history.flatMap Message.calls).map fun call => Value.text call.id := by
  rw [payload_eq] at h
  obtain ⟨merged, hmerged, h⟩ := bind_eq_ok_iff.1 h
  obtain ⟨system, -, h⟩ := bind_eq_ok_iff.1 h
  cases h
  rw [Provider.turns_around (show Provider.anthropic.turnsKey ∉
    [Text.ofString "model", Text.ofString "max_tokens"] by decide)]
  constructor
  · obtain ⟨own, hown, hturns⟩ := bind_eq_ok_iff.1 hmerged
    cases hturns
    exact (Leads.with_history hanswered (show Leads [] [] [] from rfl) hown).paired
  · rw [← made_of_turns hmerged, List.flatMap_map]
    exact List.flatMap_congr fun turn _ => madeIn_toValue turn

end Anthropic

namespace Backend

open Anthropic

/-- In a request in the format of Anthropic for an answered history, every turn of the assistant
with calls is followed by a turn of the user that begins with their results, and there are no other
results.  The calls are all those of the history, and rounds that are added to the chat leave its
history answered. -/
theorem anthropic_pairs {b : Backend} (hb : b.provider = .anthropic) {chat : Chat}
    (hanswered : Answered chat.history) :
    (∀ rounds, Answered (chat.after rounds).history) ∧
    ∀ model request, b.buildRequest model chat = .ok request →
      ∃ payload, b.payload model.inText chat = .ok payload ∧
        Json.encode payload = .ok request.body ∧
        Paired (Provider.anthropic.turns payload) ∧
        (Provider.anthropic.turns payload).flatMap madeIn
          = (chat.history.flatMap Message.calls).map fun call => Value.text call.id := by
  refine ⟨hanswered.after, fun model request h => ?_⟩
  obtain ⟨-, -, v, hpayload, hencode⟩ := buildRequest_eq_ok h
  refine ⟨v, hpayload, hencode, ?_⟩
  rw [payload, hb] at hpayload
  exact payload_pairs hanswered hpayload

/-- A call of the tides. -/
def highTide : ToolCall := ⟨"toolu_1", "tides", "\x7b\"at\": \"high\"\x7d", by decide, by decide⟩

/-- Another call of the tides. -/
def lowTide : ToolCall := ⟨"toolu_2", "tides", "\x7b\"at\": \"low\"\x7d", by decide, by decide⟩

/-- A turn with both calls. -/
def tidesTurn : AssistantMessage :=
  ⟨none, [highTide, lowTide], [], .inr (List.cons_ne_nil _ _)⟩

/-- A chat with a message of the assistant before a round of two calls, and with one of the user
behind it. -/
def tidesChat : Chat where
  history := [.user (some (.text "When are the tides?")) [],
    .assistant ⟨some (.text "I will look."), [], [], .inl rfl⟩,
    .assistant tidesTurn,
    .tool highTide.id (some (.text "six")) [] highTide.identified,
    .tool lowTide.id (some (.text "noon")) [] lowTide.identified,
    .user (some (.text "And tomorrow?")) []]
  maxOutputTokens := .count 1 Nat.one_pos

theorem tidesChat_answered : Answered tidesChat.history := by
  have hresults : List.Forall₂ ToolCall.AnsweredBy tidesTurn.calls
      [.tool highTide.id (some (.text "six")) [] highTide.identified,
        .tool lowTide.id (some (.text "noon")) [] lowTide.identified] :=
    .cons ⟨_, _, rfl⟩ (.cons ⟨_, _, rfl⟩ .nil)
  have hback : Answered [.user (some (.text "And tomorrow?")) []] := .plain (by decide) rfl .nil
  have hcalls : tidesTurn.calls ≠ [] := List.cons_ne_nil _ _
  exact .plain (by decide) rfl (.plain (by decide) rfl (.round hcalls hresults hback))

/-- The calls of that chat are in one turn with the text before them, and their results are in one
with the text behind them. -/
theorem anthropic_pairs_tidesChat : ∃ request payload,
    ({ provider := .anthropic } : Backend).buildRequest .null tidesChat = .ok request ∧
    Json.encode payload = .ok request.body ∧
    Paired (Provider.anthropic.turns payload) ∧
    (Provider.anthropic.turns payload).flatMap madeIn
      = [.ofString "toolu_1", .ofString "toolu_2"] := by
  obtain ⟨request, hbuild⟩ : ∃ request,
      ({ provider := .anthropic } : Backend).buildRequest .null tidesChat = .ok request :=
    exists_of_isOk (by decide +kernel)
  obtain ⟨payload, -, hencode, hpaired, hmade⟩ :=
    (anthropic_pairs rfl tidesChat_answered).2 .null request hbuild
  exact ⟨request, payload, hbuild, hencode, hpaired, hmade⟩

end Backend

end Colloquy
