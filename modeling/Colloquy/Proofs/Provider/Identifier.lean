import Colloquy.Proofs.Json.Number
import Colloquy.Proofs.Provider.Call
import Colloquy.Provider.Failure

/-!
# Identifiers of calls

Gemini and Ollama number the calls of a reply.  A call of Gemini that brings an identifier
keeps it, so a number can meet an identifier that another call brought.
`Provider.idsFrom` tells the identifiers of the calls, and `Backend.ids_nodup_iff` says just when
they are distinct.
-/

namespace Colloquy

/-! ## Numbers in place of what is missing -/

section Numbering

variable {α β : Type} {own : α → Option β} {number : Nat → β}

/-- The entries of a list, each with its own mark or else with the number of its place, are
distinct just when the own marks are distinct and no number that was given is one of them. -/
theorem nodup_mapIdx_getD_iff (hnumber : Function.Injective number) (xs : List α) :
    (xs.mapIdx fun i x => (own x).getD (number i)).Nodup ↔
      (xs.filterMap own).Nodup ∧
        ∀ i x, xs[i]? = some x → own x = none → number i ∉ xs.filterMap own := by
  have hplaces : (xs.filterMap own).Nodup ↔ ∀ i j (hi : i < xs.length) (hj : j < xs.length),
      i < j → ∀ b, own xs[i] = some b → ∀ b', own xs[j] = some b' → b ≠ b' := by
    rw [List.Nodup, List.pairwise_filterMap, List.pairwise_iff_getElem]
  rw [hplaces, List.Nodup, List.pairwise_iff_getElem]
  simp only [List.length_mapIdx, List.getElem_mapIdx, List.mem_filterMap]
  constructor
  · intro hids
    refine ⟨fun i j hi hj hij b hb b' hb' heq => hids i j hi hj hij ?_, ?_⟩
    · rw [hb, hb', heq]
      rfl
    · rintro i x hx hown ⟨y, hy, hmark⟩
      obtain ⟨j, hj, rfl⟩ := List.mem_iff_getElem.1 hy
      obtain ⟨hi, rfl⟩ := List.getElem?_eq_some_iff.1 hx
      have heq : (own xs[i]).getD (number i) = (own xs[j]).getD (number j) := by
        rw [hown, hmark]
        rfl
      rcases Nat.lt_trichotomy i j with hij | rfl | hij
      · exact hids i j hi hj hij heq
      · rw [hown] at hmark
        cases hmark
      · exact hids j i hj hi hij heq.symm
  · rintro ⟨hmarks, hfree⟩ i j hi hj hij
    cases hx : own xs[i] with
    | none =>
      cases hy : own xs[j] with
      | none =>
        intro heq
        exact hij.ne (hnumber heq)
      | some mark =>
        intro heq
        refine hfree i _ (List.getElem?_eq_getElem hi) hx ⟨_, List.getElem_mem hj, ?_⟩
        rw [hy]
        exact congrArg some heq.symm
    | some mark =>
      cases hy : own xs[j] with
      | none =>
        intro heq
        refine hfree j _ (List.getElem?_eq_getElem hj) hy ⟨_, List.getElem_mem hi, ?_⟩
        rw [hx]
        exact congrArg some heq
      | some mark' => exact hmarks i j hi hj hij mark hx mark' hy

end Numbering

namespace Provider

/-! ## Identifiers of a reply -/

/-- The identifier that a call brings and keeps, where calls are numbered. -/
def ownId? (p : Provider) (raw : Value) : Option Text :=
  match p with
  | .gemini => ((raw.field "functionCall").field "id").nonEmptyText?
  | .openai | .mistral | .anthropic | .ollama | .mock => none

/-- The identifier of a call that has none of its own, by its number within the reply. -/
def numberedId (p : Provider) (number : Nat) : Text :=
  Text.concat [p.name, "_call_", Text.ofNat number]

/-- The identifiers of calls, after `count` calls. -/
def idsFrom (p : Provider) (count : Nat) (raws : List Value) : List Text :=
  raws.mapIdx fun i raw => (p.ownId? raw).getD (p.numberedId (count + i + 1))

/-- The identifiers that the calls of a reply bring and keep. -/
def ownIds (p : Provider) (document : Value) : List Text :=
  (p.calls document).filterMap p.ownId?

theorem numberedId_injective (p : Provider) : Function.Injective p.numberedId := by
  intro m n h
  simp only [numberedId, Text.concat, List.flatten_cons, List.flatten_nil, List.append_nil,
    List.append_cancel_left_eq] at h
  have hread := congrArg Decimal.natOfDigits h
  rwa [Decimal.natOfDigits_ofNat, Decimal.natOfDigits_ofNat] at hread

theorem idsFrom_append (p : Provider) (count : Nat) (xs ys : List Value) :
    p.idsFrom count (xs ++ ys) = p.idsFrom count xs ++ p.idsFrom (count + xs.length) ys := by
  simp only [idsFrom, List.mapIdx_append]
  congr 1
  refine congrArg (fun f => ys.mapIdx f) (funext fun i => funext fun raw => ?_)
  congr 2
  omega

theorem idsFrom_cons (p : Provider) (count : Nat) (raw : Value) (raws : List Value) :
    p.idsFrom count (raw :: raws) =
      (p.ownId? raw).getD (p.numberedId (count + 1)) :: p.idsFrom (count + 1) raws :=
  p.idsFrom_append count [raw] raws

/-- Identifiers are distinct just when the own ones are, and none of those is the number of
a call that has no own one. -/
theorem nodup_idsFrom_iff (p : Provider) (raws : List Value) :
    (p.idsFrom 0 raws).Nodup ↔ (raws.filterMap p.ownId?).Nodup ∧
      ∀ i raw, raws[i]? = some raw → p.ownId? raw = none →
        p.numberedId (i + 1) ∉ raws.filterMap p.ownId? := by
  have hnumber : Function.Injective fun i => p.numberedId (0 + i + 1) := by
    intro i j h
    have hsucc := p.numberedId_injective h
    omega
  have hiff : (raws.mapIdx fun i raw => (p.ownId? raw).getD (p.numberedId (0 + i + 1))).Nodup ↔ _ :=
    nodup_mapIdx_getD_iff hnumber raws
  simp only [Nat.zero_add] at hiff
  simpa only [idsFrom, Nat.zero_add] using hiff

end Provider

/-! ## Reading -/

namespace Gemini

theorem callId_eq (given : Value) (position : Nat) :
    callId given position = given.nonEmptyText?.getD (Provider.gemini.numberedId position) := by
  rcases given with _ | _ | _ | _ | (_ | ⟨c, id⟩) | _ | _ | _ | _ <;> rfl

theorem callOf?_ids (count : Nat) (part : Fields) : Returns (fun call =>
    call.toList.map ToolCall.id
      = Provider.gemini.idsFrom count (Provider.gemini.callsIn (.object part)))
    (callOf? (count + 1) part) := by
  have hfield : (Value.object part).field "functionCall" = Value.ofField part "functionCall" := rfl
  rw [Provider.callsIn, hfield]
  unfold callOf?
  cases hcall : Value.ofField part "functionCall" with
  | object call =>
    refine .bind_any fun name => .bind_any fun arguments => ?_
    refine .bind (fun _ => ToolCall.make?_eq_ok) fun made hmade => .pure ?_
    obtain ⟨hid, -, -⟩ := hmade
    rw [callId_eq] at hid
    rw [Provider.idsFrom_cons, Provider.ownId?, hfield, hcall]
    exact congrArg (fun id => [id]) (Value.text.inj hid).symm
  | _ => exact .ok rfl

/-- The calls of the parts get the identifiers after those of the calls before. -/
theorem readParts_ids (parts : List Value) (count : Nat) : Returns (fun read =>
    read.2.map ToolCall.id
      = Provider.gemini.idsFrom count (parts.flatMap Provider.gemini.callsIn))
    (readParts count parts) := by
  induction parts generalizing count with
  | nil => exact .ok rfl
  | cons part parts ih =>
    refine .bind (expectObject_returns _ _) fun fields hpart => ?_
    subst hpart
    refine .bind (callOf?_ids _ _) fun call hcall => .bind (ih _) fun read hread => .pure ?_
    have hlength : call.toList.length = (Provider.gemini.callsIn (.object fields)).length := by
      simpa [Provider.idsFrom] using congrArg List.length hcall
    rw [List.map_append, hcall, hread, hlength, List.flatMap_cons, Provider.idsFrom_append]

end Gemini

namespace Ollama

theorem callOf_id (position : Nat) (raw : Value) :
    Returns (fun call => call.id = Provider.ollama.numberedId position) (callOf position raw) := by
  refine .bind_any fun _ => .bind_any fun _ => .bind_any fun _ => .bind_any fun _ => ?_
  intro call hcall
  obtain ⟨hid, -, -⟩ := ToolCall.make?_eq_ok hcall
  exact (Value.text.inj hid).symm

theorem readCalls_ids (raws : List Value) (count : Nat) :
    Returns (fun calls => calls.map ToolCall.id = Provider.ollama.idsFrom count raws)
      (readCalls count raws) := by
  induction raws generalizing count with
  | nil => exact .ok rfl
  | cons raw raws ih =>
    refine .bind (callOf_id _ _) fun call hcall => .bind (ih _) fun calls hcalls => .pure ?_
    rw [List.map_cons, hcall, hcalls, Provider.idsFrom_cons]
    rfl

end Ollama

namespace Backend

/-- The calls of a message that was read have the identifiers of their places. -/
theorem parseResponse_ids {p : Provider} (hp : p = .gemini ∨ p = .ollama) (body : Bytes) :
    Returns (fun m => ∃ document, Json.decode body = .ok document ∧
      m.calls.map ToolCall.id = p.idsFrom 0 (p.calls document)) (parseResponse p body) := by
  refine parseResponse_of_assistantOf (fun payload => ?_) body
  rcases hp with rfl | rfl
  · exact (Gemini.assistantOf_parts payload).mono fun m ⟨_, texts, hread⟩ =>
      Gemini.readParts_ids _ _ _ hread
  · exact (Ollama.assistantOf_calls payload).mono fun m ⟨_, hcalls⟩ =>
      Ollama.readCalls_ids _ _ _ hcalls

/-- The calls of a message that was read have distinct identifiers just when the identifiers that
were kept are distinct and none of them is the one that a numbered call got.  No identifier of
Ollama is kept, so there they are always distinct. -/
theorem ids_nodup_iff {p : Provider} (hp : p = .gemini ∨ p = .ollama) {body : Bytes}
    {m : AssistantMessage} (hparse : parseResponse p body = .ok m) :
    ∃ document, Json.decode body = .ok document ∧
      m.calls.map ToolCall.id = p.idsFrom 0 (p.calls document) ∧
      ((m.calls.map ToolCall.id).Nodup ↔ (p.ownIds document).Nodup ∧
        ∀ i raw, (p.calls document)[i]? = some raw → p.ownId? raw = none →
          p.numberedId (i + 1) ∉ p.ownIds document) ∧
      (p = .ollama → (m.calls.map ToolCall.id).Nodup) := by
  obtain ⟨document, hdocument, hids⟩ := parseResponse_ids hp body m hparse
  have hiff := p.nodup_idsFrom_iff (p.calls document)
  rw [← hids] at hiff
  refine ⟨document, hdocument, hids, hiff, ?_⟩
  rintro rfl
  have hnone : (Provider.ollama.calls document).filterMap Provider.ollama.ownId? = [] :=
    List.filterMap_eq_nil_iff.2 fun _ _ => rfl
  rw [hnone] at hiff
  exact hiff.2 ⟨List.nodup_nil, fun _ _ _ _ => List.not_mem_nil⟩

/-- What is found of a result is found of what it gives. -/
theorem exists_of_toOption_map {ε α β : Type} {r : Except ε α} {f : α → β} {y : β}
    (h : r.toOption.map f = some y) : ∃ x, r = .ok x ∧ f x = y := by
  obtain ⟨x, hx, hy⟩ := Option.map_eq_some_iff.1 h
  exact ⟨x, eq_ok_of_toOption hx, hy⟩

/-- A reply of Gemini with two calls, the first one with an identifier. -/
def tideReply (id : String) : Bytes :=
  (Text.ofString ("\x7b\"candidates\": [\x7b\"content\": \x7b\"parts\": [\x7b\"functionCall\": " ++
    "\x7b\"id\": \"" ++ id ++ "\", \"name\": \"tide\"\x7d\x7d, \x7b\"functionCall\": " ++
    "\x7b\"name\": \"clock\"\x7d\x7d]\x7d\x7d]\x7d")).map Nat.toUInt8

/-- An identifier that is no number of a call is met by none. -/
theorem ids_nodup_iff_tideReply : ∃ m document,
    parseResponse .gemini (tideReply "tide_1") = .ok m ∧
    Json.decode (tideReply "tide_1") = .ok document ∧
    (m.calls.map ToolCall.id).Nodup ∧ (Provider.gemini.ownIds document).Nodup := by
  obtain ⟨m, hparse, hids⟩ : ∃ m, parseResponse .gemini (tideReply "tide_1") = .ok m ∧
      decide (m.calls.map ToolCall.id).Nodup = true :=
    exists_of_toOption_map (by decide +kernel)
  obtain ⟨document, hdocument, -, hiff, -⟩ := ids_nodup_iff (.inl rfl) hparse
  have hnodup := of_decide_eq_true hids
  exact ⟨m, document, hparse, hdocument, hnodup, (hiff.1 hnodup).1⟩

/-- The call of the clock gets the identifier that the other one brought. -/
theorem ids_clash : ∃ m document,
    parseResponse .gemini (tideReply "gemini_call_2") = .ok m ∧
    Json.decode (tideReply "gemini_call_2") = .ok document ∧
    (Provider.gemini.ownIds document).Nodup ∧ ¬(m.calls.map ToolCall.id).Nodup := by
  obtain ⟨m, hparse, hids⟩ : ∃ m, parseResponse .gemini (tideReply "gemini_call_2") = .ok m ∧
      decide (m.calls.map ToolCall.id).Nodup = false :=
    exists_of_toOption_map (by decide +kernel)
  obtain ⟨document, hdocument, hown⟩ : ∃ document,
      Json.decode (tideReply "gemini_call_2") = .ok document ∧
      decide (Provider.gemini.ownIds document).Nodup = true :=
    exists_of_toOption_map (by decide +kernel)
  exact ⟨m, document, hparse, hdocument, of_decide_eq_true hown, of_decide_eq_false hids⟩

end Backend

end Colloquy
