import Colloquy.Proofs.Program.Sequencing
import Colloquy.Proofs.Turn.Watch

/-!
# A watching link put into a chain

A link that watches for tools is put into a chain around its `n` innermost links.  The
links outside it move one place further out, and so do the marks that they left on
continuations (`Owner.shift`).  The new link has the place that no such mark names.

`Cont.Overseen` relates the continuations of the two chains.  They have the same marks
but for the move, and on the right there may be checks by the new link where a
generation is awaited.  Related continuations go on alike with each result that calls
none of the tools (`Cont.Overseen.goesAlike`), and they are related still when the links
of the two chains have taken them over (`Chain.Widened.taken`).  So no link decides
otherwise because the new one is there.
-/

namespace Colloquy

open Course

/-! ## Places that move -/

/-- An owner after a link was put into its chain around the `n` innermost links. -/
def Owner.shift (n : Nat) (owner : Owner) : Owner :=
  { owner with place := if n ≤ owner.place then owner.place + 1 else owner.place }

theorem Owner.shift_of_le {n : Nat} {owner : Owner} (h : n ≤ owner.place) :
    owner.shift n = { owner with place := owner.place + 1 } := by
  rw [shift, if_pos h]

theorem Owner.shift_of_lt {n : Nat} {owner : Owner} (h : owner.place < n) :
    owner.shift n = owner := by
  rw [shift, if_neg (Nat.not_le.2 h)]

/-- No owner moves to the place of the new link. -/
theorem Owner.shift_place_ne (n : Nat) (owner : Owner) : (owner.shift n).place ≠ n := by
  intro h
  rcases Nat.lt_or_ge owner.place n with hlt | hle
  · rw [shift_of_lt hlt] at h
    exact absurd h (Nat.ne_of_lt hlt)
  · rw [shift_of_le hle] at h
    exact absurd h (Nat.ne_of_gt (Nat.lt_succ_of_le hle))

theorem Owner.shift_injective (n : Nat) : Function.Injective (Owner.shift n) := by
  rintro ⟨place, kind⟩ ⟨place', kind'⟩ h
  simp only [shift, Owner.mk.injEq] at h ⊢
  refine ⟨?_, h.2⟩
  have hplace := h.1
  split at hplace <;> split at hplace <;> omega

/-- A loop of tool rounds after the link that drives it has moved. -/
def ToolLoop.shift (n : Nat) (loop : ToolLoop) : ToolLoop :=
  { loop with owner := loop.owner.shift n }

mutual

/-- A continuation after its owners have moved. -/
def Cont.shift (n : Nat) : Cont → Cont
  | ⟨number, owners, body⟩ => ⟨number, owners.map (Owner.shift n), body.shift n⟩

/-- A body after the owners within it have moved. -/
def Body.shift (n : Nat) : Body → Body
  | .callback f => .callback f
  | .extended k frame => .extended (k.shift n) (frame.shift n)
  | .rounds loop k count => .rounds (loop.shift n) (k.shift n) count
  | .check names k => .check names (k.shift n)

/-- A frame after the owners within it have moved. -/
def Frame.shift (n : Nat) : Frame → Frame
  | .callback f => .callback f
  | .answer call policy => .answer call policy
  | .record chat call policy => .record chat call policy
  | .regenerate loop k count => .regenerate (loop.shift n) (k.shift n) count

end

/-- An operation after the owners of its continuation have moved. -/
def Operation.shift (n : Nat) : Operation → Operation
  | .generate chat k => .generate chat (k.shift n)
  | .execute call k => .execute call (k.shift n)
  | .done result => .done result

/-- A program after the owners of its continuation have moved. -/
def Program.shift (n : Nat) : Program → Program
  | .pending operation => .pending (operation.shift n)
  | .both operation value => .both (operation.shift n) value
  | .final value => .final value
  | .neither => .neither

mutual

theorem Cont.numbers_shift (n : Nat) (k : Cont) : (k.shift n).numbers = k.numbers := by
  cases k with
  | mk number owners body =>
    rw [Cont.shift, Cont.numbers, Cont.numbers, body.numbers_shift n]

theorem Body.numbers_shift (n : Nat) (body : Body) : (body.shift n).numbers = body.numbers := by
  cases body with
  | callback f => rfl
  | extended k frame =>
    rw [Body.shift, Body.numbers, Body.numbers, k.numbers_shift n, frame.numbers_shift n]
  | rounds loop k count => exact k.numbers_shift n
  | check names k => exact k.numbers_shift n

theorem Frame.numbers_shift (n : Nat) (frame : Frame) :
    (frame.shift n).numbers = frame.numbers := by
  cases frame with
  | callback | answer | record => rfl
  | regenerate loop k count => exact k.numbers_shift n

end

/-- A program holds the same continuations after their owners have moved. -/
theorem Program.numbers_shift (n : Nat) (p : Program) : (p.shift n).numbers = p.numbers := by
  match p with
  | .pending (.generate _ k) | .pending (.execute _ k) => exact k.numbers_shift n
  | .pending (.done _) | .final _ | .both _ _ | .neither => rfl

/-! ## Marks that correspond -/

/-- The same marks on two continuations, when the owners have moved on the right. -/
def SameMarks (n : Nat) (owners owners' : List Owner) : Prop :=
  ∀ o, o ∈ owners ↔ o.shift n ∈ owners'

namespace SameMarks

variable {n : Nat} {owners owners' : List Owner}

theorem nil (n : Nat) : SameMarks n [] [] := fun _ => by simp

theorem map (n : Nat) (owners : List Owner) :
    SameMarks n owners (owners.map (Owner.shift n)) := fun o => by
  refine ⟨fun h => List.mem_map_of_mem h, fun h => ?_⟩
  obtain ⟨o', ho', heq⟩ := List.mem_map.1 h
  rwa [← Owner.shift_injective n heq]

/-- Links that correspond put the same mark. -/
theorem insert (h : SameMarks n owners owners') (owner : Owner) :
    SameMarks n (owners.insert owner) (owners'.insert (owner.shift n)) := fun o => by
  rw [List.mem_insert_iff, List.mem_insert_iff, (Owner.shift_injective n).eq_iff, h o]

/-- The mark of the new link is no mark of another one. -/
theorem insert_new (h : SameMarks n owners owners') {owner : Owner} (howner : owner.place = n) :
    SameMarks n owners (owners'.insert owner) := fun o => by
  have hne : o.shift n ≠ owner := fun heq => Owner.shift_place_ne n o (heq ▸ howner)
  rw [List.mem_insert_iff, h o, or_iff_right hne]

/-- Links that correspond find their marks on both sides. -/
theorem contains (h : SameMarks n owners owners') (owner : Owner) :
    owners.contains owner = owners'.contains (owner.shift n) := by
  rw [List.contains_eq_mem, List.contains_eq_mem, decide_eq_decide]
  exact h owner

end SameMarks

/-! ## Related continuations -/

/-- A result that calls none of the named tools: a failure, or a chat. -/
inductive Outcome.Quiet (names : List Text) : Outcome → Prop
  | failure (e : Exception) : Quiet names (.failure e)
  | chat {chat : Chat} (h : callsAny names chat.pendingCalls = false) :
      Quiet names (.success (.chat chat))

/-- Two continuations that differ by the checks of a new link at place `n`, which watches for the
named tools.  Such a check stands only where a generation is awaited: the flag says whether the
result of the continuation is one. -/
inductive Cont.Overseen (n : Nat) (names : List Text) : Bool → Cont → Cont → Prop
  | callback {awaited : Bool} {owners owners' : List Owner} (h : SameMarks n owners owners')
      (f : Outcome → Plan) :
      Overseen n names awaited (.plain owners (.callback f)) (.plain owners' (.callback f))
  | followed {awaited : Bool} {owners owners' : List Owner} {k k' : Cont}
      (h : SameMarks n owners owners') (hk : Overseen n names awaited k k') (f : Outcome → Plan) :
      Overseen n names awaited (.plain owners (.extended k (.callback f)))
        (.plain owners' (.extended k' (.callback f)))
  | answer {awaited : Bool} {owners owners' : List Owner} {k k' : Cont}
      (h : SameMarks n owners owners') (hk : Overseen n names awaited k k') (call : ToolCall)
      (policy : ToolErrorPolicy) :
      Overseen n names awaited (.plain owners (.extended k (.answer call policy)))
        (.plain owners' (.extended k' (.answer call policy)))
  | record {awaited : Bool} {owners owners' : List Owner} {k k' : Cont}
      (h : SameMarks n owners owners') (hk : Overseen n names awaited k k') (chat : Chat)
      (call : ToolCall) (policy : ToolErrorPolicy) :
      Overseen n names awaited (.plain owners (.extended k (.record chat call policy)))
        (.plain owners' (.extended k' (.record chat call policy)))
  | regenerate {awaited : Bool} {owners owners' : List Owner} {k k' j j' : Cont}
      (h : SameMarks n owners owners') (hk : Overseen n names awaited k k')
      (hj : Overseen n names true j j') (loop : ToolLoop) (count : Nat) :
      Overseen n names awaited (.plain owners (.extended k (.regenerate loop j count)))
        (.plain owners' (.extended k' (.regenerate (loop.shift n) j' count)))
  | rounds {awaited : Bool} {owners owners' : List Owner} {k k' : Cont}
      (h : SameMarks n owners owners') (hk : Overseen n names awaited k k') (loop : ToolLoop)
      (count : Nat) :
      Overseen n names awaited (.plain owners (.rounds loop k count))
        (.plain owners' (.rounds (loop.shift n) k' count))
  | check {awaited : Bool} {owners owners' : List Owner} {k k' : Cont}
      (h : SameMarks n owners owners') (hk : Overseen n names awaited k k') (others : List Text) :
      Overseen n names awaited (.plain owners (.check others k)) (.plain owners' (.check others k'))
  /-- A check of the new link. -/
  | idle {owners' : List Owner} {k k' : Cont} (h : SameMarks n k.owners owners')
      (hk : Overseen n names true k k') : Overseen n names true k (.plain owners' (.check names k'))

/-- Two programs that do the same next, and go on with related continuations; or neither of them is
a program. -/
inductive Program.Overseen (n : Nat) (names : List Text) : Program → Program → Prop
  | final (value : Outcome) : Overseen n names (.final value) (.final value)
  | generate (chat : Chat) {k k' : Cont} (h : Cont.Overseen n names true k k') :
      Overseen n names (.pending (.generate chat k)) (.pending (.generate chat k'))
  | execute (call : ToolCall) {k k' : Cont} (h : Cont.Overseen n names false k k') :
      Overseen n names (.pending (.execute call k)) (.pending (.execute call k'))
  | done (result : Outcome) : Overseen n names (.pending (.done result)) (.pending (.done result))
  | invalid {p p' : Program} {e : Error} (h : p.validate = .error e) (h' : p'.validate = .error e) :
      Overseen n names p p'

/-- Two programs that were built and are related, or the same stray value. -/
inductive Built.Overseen (n : Nat) (names : List Text) : Built → Built → Prop
  | program {p p' : Program} (h : p.Overseen n names p') :
      Overseen n names (.program p) (.program p')
  | stray (value : Outcome) : Overseen n names (.stray value) (.stray value)

section

variable {n : Nat} {names : List Text}

theorem Cont.Overseen.owners {awaited : Bool} {k k' : Cont} (h : k.Overseen n names awaited k') :
    SameMarks n k.owners k'.owners := by
  cases h with
  | callback h | followed h | answer h | record h | regenerate h | rounds h | check h
  | idle h => exact h

/-- What is related after any result is related after a generation. -/
theorem Cont.Overseen.awaited {awaited : Bool} {k k' : Cont} (h : k.Overseen n names awaited k') :
    k.Overseen n names true k' := by
  induction h with
  | callback h f => exact .callback h f
  | followed h _ f ih => exact .followed h ih f
  | answer h _ call policy ih => exact .answer h ih call policy
  | record h _ chat call policy ih => exact .record h ih chat call policy
  | regenerate h _ hj loop count ih _ => exact .regenerate h ih hj loop count
  | rounds h _ loop count ih => exact .rounds h ih loop count
  | check h _ others ih => exact .check h ih others
  | idle h hk _ => exact .idle h hk

mutual

/-- A continuation is related to itself after its owners have moved. -/
theorem Cont.overseen_shift (k : Cont) (awaited : Bool) :
    k.bare.Overseen n names awaited (k.shift n).bare := by
  cases k with
  | mk number owners body => exact body.overseen_shift (.map n owners) awaited

theorem Body.overseen_shift (body : Body) {owners owners' : List Owner}
    (h : SameMarks n owners owners') (awaited : Bool) :
    Cont.Overseen n names awaited (.plain owners body.bare)
      (.plain owners' (body.shift n).bare) := by
  cases body with
  | callback f => exact .callback h f
  | extended k frame => exact frame.overseen_shift h (k.overseen_shift awaited)
  | rounds loop k count => exact .rounds h (k.overseen_shift awaited) loop count
  | check others k => exact .check h (k.overseen_shift awaited) others

theorem Frame.overseen_shift (frame : Frame) {owners owners' : List Owner}
    (h : SameMarks n owners owners') {awaited : Bool} {k k' : Cont}
    (hk : k.Overseen n names awaited k') :
    Cont.Overseen n names awaited (.plain owners (.extended k frame.bare))
      (.plain owners' (.extended k' (frame.shift n).bare)) := by
  cases frame with
  | callback f => exact .followed h hk f
  | answer call policy => exact .answer h hk call policy
  | record chat call policy => exact .record h hk chat call policy
  | regenerate loop j count => exact .regenerate h hk (j.overseen_shift true) loop count

end

/-- A program is related to itself after the owners of its continuation have moved. -/
theorem Program.overseen_shift (p : Program) : p.bare.Overseen n names (p.shift n).bare := by
  match p with
  | .pending (.generate chat k) => exact .generate chat (k.overseen_shift true)
  | .pending (.execute call k) => exact .execute call (k.overseen_shift false)
  | .pending (.done result) => exact .done result
  | .final value => exact .final value
  | .both (.generate _ _) _ | .both (.execute _ _) _ | .both (.done _) _ => exact .invalid rfl rfl
  | .neither => exact .invalid rfl rfl

/-! ## Related continuations go on alike -/

theorem Program.continued_invalid {p : Program} {e : Error} (h : p.validate = .error e)
    (frame : Frame) (apply : Outcome → Course Program) :
    p.continued frame apply = throw (.own e) := by
  match p, h with
  | .both _ _, h | .neither, h =>
    cases h
    rfl

/-- Related programs are followed by frames alike. -/
theorem Program.Overseen.continued {p p' : Program} (h : p.Overseen n names p')
    {frame frame' : Frame} {apply apply' : Outcome → Course Program}
    (hframe : ∀ awaited k k', k.Overseen n names awaited k' →
      Cont.Overseen n names awaited (.plain [] (.extended k frame))
        (.plain [] (.extended k' frame')))
    (happly : ∀ value, Alike (Program.Overseen n names) (apply value) (apply' value)) :
    Alike (Program.Overseen n names) (p.continued frame apply) (p'.continued frame' apply') := by
  cases h with
  | final value => exact happly value
  | generate chat h => exact .pure (.generate chat (hframe _ _ _ h))
  | execute call h => exact .pure (.execute call (hframe _ _ _ h))
  | done result => exact .pure (.done result)
  | invalid h h' =>
    rw [Program.continued_invalid h, Program.continued_invalid h']
    exact .throw _

theorem Built.Overseen.required {b b' : Built} (h : b.Overseen n names b') (who : Text) :
    Alike (Program.Overseen n names) (b.required who) (b'.required who) := by
  cases h with
  | program h => exact .pure h
  | stray value => exact .throw _

/-- A plan is built into related programs, since no link has marked them yet. -/
theorem Plan.outline_overseen (plan : Plan) :
    Alike (Built.Overseen n names) plan.outline plan.outline := by
  induction plan with
  | pure value => exact .pure (.program (.final value))
  | generate chat => exact .pure (.program (.generate chat (.callback (.nil n) .pure)))
  | execute call => exact .pure (.program (.execute call (.callback (.nil n) .pure)))
  | done result => exact .pure (.program (.done result))
  | neither => exact .pure (.program (.invalid rfl rfl))
  | both result value => exact .pure (.program (.invalid rfl rfl))
  | raise e => exact .throw e
  | stray value => exact .pure (.stray value)
  | note name plan ih => exact .bind_same _ fun _ => ih
  | andThen first next ihFirst ihNext =>
    rw [Plan.outline]
    refine ihFirst.bind fun b b' hb => ?_
    cases hb with
    | stray value => exact .throw _
    | program hp =>
      refine (hp.continued (fun _ _ _ h => .followed (.nil n) h next) fun value => ?_).bind
        fun q q' hq => .pure (.program hq)
      exact (ihNext value).bind fun b b' hb => hb.required _

/-- Wherever a plan is built, its programs are related. -/
theorem Plan.required_overseen (plan : Plan) (who : Text) :
    Alike (Program.Overseen n names) (plan.outline >>= Built.required who)
      (plan.outline >>= Built.required who) :=
  plan.outline_overseen.bind fun _ _ hb => hb.required who

/-- The programs that answer the calls of a message and then go on with related continuations are
related. -/
theorem Cont.Overseen.running {k k' : Cont} (h : k.Overseen n names true k') (loop : ToolLoop)
    (chat : Chat) (call : ToolCall) (others : List ToolCall) (count : Nat) :
    (Program.running call (loop.frames chat call others k count)).Overseen n names
      (Program.running call ((loop.shift n).frames chat call others k' count)) := by
  have hanswers : ∀ (calls : List ToolCall) {j j' : Cont}, j.Overseen n names false j' →
      Cont.Overseen n names false (j.through (calls.map (.answer · loop.policy)))
        (j'.through (calls.map (.answer · loop.policy))) := by
    intro calls
    induction calls with
    | nil => exact id
    | cons call calls ih => exact fun hj => ih (.answer (.nil n) hj call loop.policy)
  have hfirst := hanswers others
    (.record (.nil n) (.callback (.nil n) .pure) chat call loop.policy)
  refine .execute call ?_
  rw [ToolLoop.frames, ToolLoop.frames, Cont.through, Cont.through, List.foldl_append,
    List.foldl_append]
  exact .regenerate (.nil n) hfirst h loop count

/-- Two continuations that go on alike with each result that calls none of the tools, and with every
result where no generation is awaited. -/
def Cont.GoesAlike (n : Nat) (names : List Text) (awaited : Bool) (k k' : Cont) : Prop :=
  ∀ result : Outcome, (awaited = true → result.Quiet names) →
    Alike (Program.Overseen n names) (k.follow result) (k'.follow result)

namespace Cont.GoesAlike

variable {awaited : Bool} {owners owners' : List Owner} {k k' : Cont}

/-- Frames that go on alike may follow. -/
theorem extended {frame frame' : Frame} (hk : k.GoesAlike n names awaited k')
    (hframe : ∀ awaited k k', k.Overseen n names awaited k' →
      Cont.Overseen n names awaited (.plain [] (.extended k frame))
        (.plain [] (.extended k' frame')))
    (hfollow : ∀ value,
      Alike (Program.Overseen n names) (frame.follow value) (frame'.follow value)) :
    Cont.GoesAlike n names awaited (.plain owners (.extended k frame))
      (.plain owners' (.extended k' frame')) :=
  fun result hquiet => (hk result hquiet).bind fun _ _ hp => hp.continued hframe hfollow

/-- The rounds of a link and of the link that it became, with the same count. -/
theorem rounds (hk : k.GoesAlike n names awaited k') (hrelated : k.Overseen n names awaited k')
    (loop : ToolLoop) (count : Nat) :
    Cont.GoesAlike n names awaited (.plain owners (.rounds loop k count))
      (.plain owners' (.rounds (loop.shift n) k' count)) := by
  intro result hquiet
  cases result with
  | plain item => exact .throw _
  | failure e => exact hk _ hquiet
  | success item =>
    cases item with
    | value v => exact .throw _
    | toolResult r => exact .throw _
    | chat chat =>
      simp only [Cont.plain, Cont.follow, Body.follow]
      cases chat.pendingCalls with
      | nil => exact hk _ hquiet
      | cons call others =>
        dsimp only
        show Alike _ (if loop.limit.reached count then _ else _)
          (if loop.limit.reached count then _ else _)
        split
        · exact hk _ fun _ => .failure _
        · exact .pure (hrelated.awaited.running loop chat call others (count + 1))

/-- The same check on both sides. -/
theorem check (hk : k.GoesAlike n names awaited k') (others : List Text) :
    Cont.GoesAlike n names awaited (.plain owners (.check others k))
      (.plain owners' (.check others k')) := by
  intro result hquiet
  cases result with
  | plain item => exact hk _ hquiet
  | failure e => exact hk _ hquiet
  | success item =>
    cases item with
    | value v => exact .throw _
    | toolResult r => exact .throw _
    | chat chat =>
      simp only [Cont.plain, Cont.follow, Body.follow]
      split
      · exact .pure (.done _)
      · exact hk _ hquiet

/-- The check of the new link lets every result through that calls none of its tools. -/
theorem idle (hk : k.GoesAlike n names true k') :
    Cont.GoesAlike n names true k (.plain owners' (.check names k')) := by
  intro result hquiet
  have hpassed : Cont.follow (.plain owners' (.check names k')) result = k'.follow result := by
    cases hquiet rfl with
    | failure e => rfl
    | @chat chat hnone =>
      show (if callsAny names chat.pendingCalls then _ else _) = _
      rw [hnone]
      rfl
  rw [hpassed]
  exact hk _ hquiet

end Cont.GoesAlike

/-- Related continuations go on alike. -/
theorem Cont.Overseen.goesAlike {awaited : Bool} {k k' : Cont}
    (h : k.Overseen n names awaited k') : k.GoesAlike n names awaited k' := by
  induction h with
  | callback h f => exact fun result _ => (f result).required_overseen _
  | followed h _ f ih =>
    exact ih.extended (fun _ _ _ h => .followed (.nil n) h f) fun value =>
      (f value).required_overseen _
  | answer h _ call policy ih =>
    refine ih.extended (fun _ _ _ h => .answer (.nil n) h call policy) fun value => ?_
    match value with
    | .plain _ | .success (.value _) | .success (.toolResult _) => exact .throw _
    | .failure e => exact .pure (.final _)
    | .success (.chat chat) =>
      exact .pure (.execute call
        (.record (.nil n) (.callback (.nil n) .pure) chat call policy))
  | record h _ chat call policy ih =>
    exact ih.extended (fun _ _ _ h => .record (.nil n) h chat call policy) fun value =>
      .bind_same _ fun answered => .pure (.final answered)
  | regenerate h _ hj loop count ih ihj =>
    refine ih.extended (fun _ _ _ h => .regenerate (.nil n) h hj loop count) fun value => ?_
    match value with
    | .plain _ | .success (.value _) | .success (.toolResult _) => exact .throw _
    | .failure e => exact ihj _ fun _ => .failure e
    | .success (.chat chat) =>
      exact .pure (.generate chat (.rounds ((SameMarks.nil n).insert loop.owner) hj loop count))
  | rounds h hk loop count ih => exact ih.rounds hk loop count
  | check h _ others ih => exact ih.check others
  | idle h _ ih => exact ih.idle

end

/-! ## Chains that correspond -/

/-- Two chains of which the second has the new link more.  A link on the left is the same link on
the right, where its place may have moved. -/
inductive Chain.Widened (n : Nat) (names : List Text) : Chain → Chain → Prop
  | nil : Widened n names [] []
  | link {chain chain' : Chain} (link : Link) (h : Widened n names chain chain')
      (howner : (link.owner chain).shift n = link.owner chain') :
      Widened n names (link :: chain) (link :: chain')
  | new {chain : Chain} (h : Widened n names chain chain) (hlength : chain.length = n) :
      Widened n names chain (.breakOn names :: chain)

namespace Chain.Widened

variable {n : Nat} {names : List Text} {chain chain' : Chain}

/-- Nothing changes inside the new link. -/
theorem inside (names : List Text) (h : chain.length ≤ n) : Widened n names chain chain := by
  induction chain with
  | nil => exact .nil
  | cons link inner ih =>
    exact .link link (ih (Nat.le_of_succ_le h)) (Owner.shift_of_lt h)

/-- A chain with a new link around its innermost links. -/
theorem insert (outer inner : Chain) (names : List Text) :
    Widened inner.length names (outer ++ inner) (outer ++ .breakOn names :: inner) := by
  induction outer with
  | nil => exact .new (inside names (Nat.le_refl _)) rfl
  | cons link outer ih =>
    refine .link link ih ?_
    have hplace : inner.length ≤ (link.owner (outer ++ inner)).place := by
      show inner.length ≤ (outer ++ inner).length
      rw [List.length_append]
      exact Nat.le_add_left _ _
    show (link.owner (outer ++ inner)).shift inner.length
      = link.owner (outer ++ .breakOn names :: inner)
    rw [Owner.shift_of_le hplace]
    simp only [Link.owner, List.length_append, List.length_cons, Nat.add_assoc]

theorem generator?_eq (h : Widened n names chain chain') :
    chain.generator? = chain'.generator? := by
  induction h with
  | nil => rfl
  | link link _ _ ih =>
    cases link with
    | terminal | generation => rfl
    | executor | breakOn | forward => exact ih
  | new => rfl

theorem executor?_eq (h : Widened n names chain chain') : chain.executor? = chain'.executor? := by
  induction h with
  | nil => rfl
  | link link _ _ ih =>
    cases link with
    | terminal | executor => rfl
    | generation | breakOn | forward => exact ih
  | new => rfl

theorem finish_eq (h : Widened n names chain chain') (p : Program) :
    chain.finish p = chain'.finish p := by
  induction h with
  | nil => rfl
  | link link _ _ ih =>
    cases link with
    | terminal => rfl
    | executor | generation | breakOn | forward => exact ih
  | new => rfl

/-- Related continuations are related still when the links have taken them over. -/
theorem taken (h : Widened n names chain chain') {k k' : Cont}
    (hk : k.Overseen n names true k') :
    (chain.taken k).Overseen n names true (chain'.taken k') := by
  induction h generalizing k k' with
  | nil => exact hk
  | @link chain chain' link _ howner ih =>
    have howned : k.ownedBy (link.owner chain) = k'.ownedBy (link.owner chain') := by
      rw [← howner]
      exact hk.owners.contains _
    have hmarked : SameMarks n (k.owners.insert (link.owner chain))
        (k'.owners.insert (link.owner chain')) := by
      rw [← howner]
      exact hk.owners.insert _
    cases link with
    | terminal | generation => exact hk
    | forward => exact ih hk
    | breakOn others =>
      rw [Chain.taken, Chain.taken, howned]
      split
      · exact ih hk
      · exact ih (.check hmarked hk others)
    | executor x =>
      have hloop : x.loop ((Link.executor x).owner chain')
          = (x.loop ((Link.executor x).owner chain)).shift n := by
        rw [← howner]
        rfl
      rw [Chain.taken, Chain.taken, howned, hloop]
      split
      · exact ih (.rounds hmarked hk _ 0)
      · exact ih hk
  | new _ hlength ih =>
    rw [Chain.taken]
    split
    · exact ih hk
    · exact ih (.idle (hk.owners.insert_new hlength) hk)

end Chain.Widened

end Colloquy
