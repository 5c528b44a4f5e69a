import Colloquy.Proofs.Chain.Ending
import Colloquy.Proofs.Program.Sequencing

/-!
# Sequencing in runs

The links of a chain rewrite continuations in mid-run: they take them over, and the
loop of tool rounds puts them behind the answers of a message.  `Cont.Like` relates
continuations that were rewritten in the same way around continuations that differ
by the laws of sequencing.

A step of a chain keeps programs related (`Chain.move_like`), so whole runs are the
same (`Chain.drive_like`).  From this the laws follow for every chain, whatever its
backends and tools do.
-/

namespace Colloquy

open Course

/-! ## Related continuations in mid-run -/

/-- Two continuations that were rewritten by links in the same way, around continuations that
differ by the laws of sequencing. -/
inductive Cont.Like : Cont → Cont → Prop
  | law {k k' : Cont} (h : k.Law k') : Like k k'
  | rounds {k k' : Cont} (owners : List Owner) (loop : ToolLoop) (count : Nat) (h : Like k k') :
      Like (.plain owners (.rounds loop k count)) (.plain owners (.rounds loop k' count))
  | check {k k' : Cont} (owners : List Owner) (names : List Text) (h : Like k k') :
      Like (.plain owners (.check names k)) (.plain owners (.check names k'))
  | answer {k k' : Cont} (call : ToolCall) (policy : ToolErrorPolicy) (h : Like k k') :
      Like (.plain [] (.extended k (.answer call policy)))
        (.plain [] (.extended k' (.answer call policy)))
  | record {k k' : Cont} (chat : Chat) (call : ToolCall) (policy : ToolErrorPolicy)
      (h : Like k k') :
      Like (.plain [] (.extended k (.record chat call policy)))
        (.plain [] (.extended k' (.record chat call policy)))
  | regenerate {k k' j j' : Cont} (loop : ToolLoop) (count : Nat) (h : Like k k')
      (hj : Like j j') :
      Like (.plain [] (.extended k (.regenerate loop j count)))
        (.plain [] (.extended k' (.regenerate loop j' count)))

/-- Related continuations were taken over by the same links. -/
theorem Cont.Like.owners {k k' : Cont} (h : k.Like k') : k.owners = k'.owners := by
  cases h with
  | law h => rw [h.owners.1, h.owners.2]
  | rounds | check | answer | record | regenerate => rfl

/-- The continuation of a new operation is related to itself. -/
theorem Cont.Like.fresh : Cont.Like (.plain [] (.callback .pure)) (.plain [] (.callback .pure)) :=
  .law (.callback .pure)

section

variable {k k' : Cont}

/-- Related continuations are related still when answers to tool calls are to follow. -/
theorem Cont.Like.answers (h : k.Like k') (policy : ToolErrorPolicy) (calls : List ToolCall) :
    (k.through (calls.map (.answer · policy))).Like
      (k'.through (calls.map (.answer · policy))) := by
  induction calls generalizing k k' with
  | nil => exact h
  | cons call calls ih => exact ih (.answer call policy h)

/-- The programs that answer the calls of a message and then go on with related continuations are
related. -/
theorem Cont.Like.running (h : k.Like k') (loop : ToolLoop) (chat : Chat) (call : ToolCall)
    (others : List ToolCall) (count : Nat) :
    (Program.running call (loop.frames chat call others k count)).Rel Cont.Like
      (Program.running call (loop.frames chat call others k' count)) := by
  have hanswers := (Cont.Like.fresh.record chat call loop.policy).answers loop.policy others
  refine .execute call ?_
  rw [ToolLoop.frames, ToolLoop.frames, Cont.through, Cont.through, List.foldl_append,
    List.foldl_append]
  exact hanswers.regenerate loop count h

/-- Related continuations go on alike. -/
theorem Cont.Like.follow (h : k.Like k') (result : Outcome) :
    Alike (Program.Rel Cont.Like) (k.follow result) (k'.follow result) := by
  induction h generalizing result with
  | law h => exact (h.follow result).mono fun p p' hp => hp.mono fun _ _ => Cont.Like.law
  | rounds owners loop count h ih =>
    cases result with
    | plain item => exact .throw _
    | failure e => exact ih _
    | success item =>
      cases item with
      | value v => exact .throw _
      | toolResult r => exact .throw _
      | chat chat =>
        simp only [Cont.plain, Cont.follow, Body.follow]
        cases chat.pendingCalls with
        | nil => exact ih _
        | cons call others =>
          dsimp only
          split
          · exact ih _
          · exact .pure (h.running loop chat call others (count + 1))
  | check owners names h ih =>
    cases result with
    | plain item => exact ih _
    | failure e => exact ih _
    | success item =>
      cases item with
      | value v => exact .throw _
      | toolResult r => exact .throw _
      | chat chat =>
        simp only [Cont.plain, Cont.follow, Body.follow]
        split
        · exact .pure (.done _)
        · exact ih _
  | answer call policy _ ih =>
    refine (ih result).bind fun p p' hp =>
      hp.continued (fun _ _ h => .answer call policy h) fun value => ?_
    match value with
    | .plain _ | .success (.value _) | .success (.toolResult _) => exact .throw _
    | .failure e => exact .pure (.final _)
    | .success (.chat chat) => exact .pure (.execute call (Cont.Like.fresh.record chat call policy))
  | record chat call policy _ ih =>
    exact (ih result).bind fun p p' hp =>
      hp.continued (fun _ _ h => .record chat call policy h) fun value =>
        .bind_same _ fun answered => .pure (.final answered)
  | regenerate loop count _ hj ih ihj =>
    refine (ih result).bind fun p p' hp =>
      hp.continued (fun _ _ h => .regenerate loop count h hj) fun value => ?_
    match value with
    | .plain _ | .success (.value _) | .success (.toolResult _) => exact .throw _
    | .failure e => exact ihj _
    | .success (.chat chat) => exact .pure (.generate chat (.rounds [loop.owner] loop count hj))

end

/-! ## Steps and runs -/

/-- What a step makes of two programs: related programs, or nothing of both. -/
abbrev Stepped : Option Program → Option Program → Prop :=
  Option.Rel (Program.Rel Cont.Like)

/-- A link that takes related programs over hands on related programs. -/
theorem Stepped.handed_on {p p' : Program} {d d' : Course (Option Program)}
    (hp : p.Rel Cont.Like p') (h : Alike Stepped d d') :
    Alike Stepped (do return some ((← d).getD p)) (do return some ((← d').getD p')) := by
  refine h.bind fun q q' hq => .pure ?_
  cases hq with
  | some hq => exact .some hq
  | none => exact .some hp

/-- A link that resolves the same operation of related programs makes related programs of them. -/
theorem Stepped.resolved {k k' : Cont} (d : Course Outcome) (h : k.Like k') :
    Alike Stepped (do return some (← k.follow (← d))) (do return some (← k'.follow (← d))) :=
  .bind_same d fun result => (h.follow result).bind fun _ _ hp => .pure (.some hp)

/-- A step makes related programs of related programs. -/
theorem Chain.move_like (chain : Chain) {p p' : Program} (h : p.Rel Cont.Like p') :
    Alike Stepped (chain.move p) (chain.move p') := by
  induction chain generalizing p p' with
  | nil => exact .pure .none
  | cons link inner ih =>
    cases link with
    | terminal => exact .pure .none
    | forward => exact ih h
    | generation g =>
      cases h with
      | generate chat h => exact Stepped.resolved (g.ask chat) h
      | final value => exact ih (.final value)
      | execute call h => exact ih (.execute call h)
      | done result => exact ih (.done result)
    | breakOn names =>
      cases h with
      | @generate chat k k' h =>
        show Alike Stepped (if k.ownedBy _ then _ else _) (if k'.ownedBy _ then _ else _)
        rw [Cont.ownedBy, Cont.ownedBy, h.owners]
        split
        · exact ih (.generate chat h)
        · have htaken := Program.Rel.generate chat (Cont.Like.check
            (k'.owners.insert ((Link.breakOn names).owner inner)) names h)
          exact Stepped.handed_on htaken (ih htaken)
      | final value => exact ih (.final value)
      | execute call h => exact ih (.execute call h)
      | done result => exact ih (.done result)
    | executor x =>
      cases h with
      | @generate chat k k' h =>
        show Alike Stepped (if x.auto && !k.ownedBy _ then _ else _)
          (if x.auto && !k'.ownedBy _ then _ else _)
        rw [Cont.ownedBy, Cont.ownedBy, h.owners]
        split
        · have htaken := Program.Rel.generate chat (Cont.Like.rounds
            (k'.owners.insert ((Link.executor x).owner inner))
            (x.loop ((Link.executor x).owner inner)) 0 h)
          exact Stepped.handed_on htaken (ih htaken)
        · exact ih (.generate chat h)
      | final value => exact ih (.final value)
      | execute call h => exact Stepped.resolved (x.carryOut call) h
      | done result => exact ih (.done result)

theorem Program.Rel.finish {R : Cont → Cont → Prop} {p p' : Program} (h : p.Rel R p')
    (chain : Chain) : chain.finish p = chain.finish p' := by
  induction chain with
  | nil => rfl
  | cons link inner ih =>
    cases link with
    | terminal => cases h <;> rfl
    | executor | breakOn | generation | forward => exact ih

/-- A run of related programs is the same. -/
theorem Chain.drive_like (chain : Chain) (fuel : Nat) {p p' : Program} (h : p.Rel Cont.Like p') :
    Alike Eq (chain.drive fuel p) (chain.drive fuel p') := by
  induction fuel generalizing p p' with
  | zero => exact .pure rfl
  | succ fuel ih =>
    have hvalid : p.validate = p'.validate := by cases h <;> rfl
    have hterminal : p.isTerminal = p'.isTerminal := by cases h <;> rfl
    have hunhandled : unhandled p = unhandled p' := by cases h <;> rfl
    rw [drive, drive, hvalid, hterminal, hunhandled, h.finish chain]
    refine .bind_same _ fun _ => ?_
    split
    · exact .refl _
    · refine (chain.move_like h).bind fun q q' hq => ?_
      cases hq with
      | none => exact .throw _
      | some hq => exact ih hq

/-! ## Plans that run the same -/

/-- Two plans are the same to an observer of a chain: with every number of steps they give the same
value or raise the same exception, and the same happens, whatever happened before. -/
def Chain.SameRuns (chain : Chain) (plan plan' : Plan) : Prop :=
  ∀ before : Ledger, before.Sound → ∀ fuel,
    (chain.perform fuel plan before).1 = (chain.perform fuel plan' before).1 ∧
    (chain.perform fuel plan before).2.events = (chain.perform fuel plan' before).2.events

/-- Plans run the same when their programs differ by the laws of sequencing. -/
theorem Chain.sameRuns_of_alike (chain : Chain) {plan plan' : Plan}
    (h : Alike (Program.Rel Cont.Law) plan.opening plan'.opening) :
    chain.SameRuns plan plan' := by
  intro before hl fuel
  have hplay : chain.play fuel plan = chain.play fuel plan' :=
    (h.bind fun p p' hp => chain.drive_like fuel (hp.mono fun _ _ => .law)).eq
  have hends := chain.play_apply fuel plan hl
  rw [hplay, chain.play_apply fuel plan' hl] at hends
  exact ⟨(congrArg Prod.fst hends).symm, (congrArg Prod.snd hends).symm⟩

/-! ## The laws -/

section

variable {p : Plan} {f g : Outcome → Plan}

theorem Plan.Fresh.opening_grouped (hp : p.Fresh) (hf : ∀ value, (f value).Fresh)
    (hg : ∀ value, (g value).Fresh) :
    Alike (Program.Rel Cont.Law) ((p.andThen f).andThen g).opening
      (p.andThen fun value => (f value).andThen g).opening := by
  rw [Plan.opening, Plan.opening, Plan.outline, Plan.outline, Plan.outline]
  simp only [bind_assoc]
  refine hp.outline.bind fun b b' hb => ?_
  cases hb with
  | program hq =>
    simp only [Built.required, pure_bind, bind_assoc, bind_pure]
    exact hq.grouped hf hg

theorem Plan.Fresh.opening_pure_andThen (hf : ∀ value, (f value).Fresh) (a : Outcome) :
    Alike (Program.Rel Cont.Law) ((Plan.pure a).andThen f).opening (f a).opening := by
  rw [Plan.opening, Plan.opening, Plan.outline, Plan.outline]
  simp only [pure_bind, bind_assoc, Program.continued, Built.required, bind_pure]
  exact (hf a).required _ _

theorem Plan.Fresh.opening_andThen_pure (hp : p.Fresh) :
    Alike (Program.Rel Cont.Law) (p.andThen .pure).opening p.opening := by
  rw [Plan.opening, Plan.opening, Plan.outline, bind_assoc]
  refine hp.outline.bind fun b b' hb => ?_
  cases hb with
  | program hq =>
    simp only [Built.required, pure_bind, bind_assoc, bind_pure]
    exact hq.idle

theorem Plan.Fresh.opening_closed_andThen (hp : p.Fresh) (hclosed : p.Closed) :
    Alike (Program.Rel Cont.Law) (p.andThen f).opening p.opening := by
  rw [Plan.opening, Plan.opening, Plan.outline, bind_assoc]
  refine hp.outline.bind_always hclosed.outline fun b b' hb hend => ?_
  cases hb with
  | program hq =>
    cases hend with
    | program hend =>
      simp only [Built.required, pure_bind, bind_assoc, bind_pure]
      exact hq.absorbed hend

end

/-- A program that is done is built the same, whatever callbacks follow it. -/
theorem Plan.build_done_andThen (result : Outcome) (fs : List (Outcome → Plan)) :
    (fs.foldl Plan.andThen (.done result)).build = (Plan.done result).build := by
  suffices h : ∀ plan : Plan, plan.build = (Plan.done result).build →
      (fs.foldl Plan.andThen plan).build = (Plan.done result).build from h _ rfl
  induction fs with
  | nil => exact fun _ h => h
  | cons f fs ih =>
    intro plan h
    refine ih (plan.andThen f) ?_
    simp only [Plan.build] at h ⊢
    rw [h]
    rfl

/-- The laws of sequencing, for plans of the builders and for every chain.  Callbacks can be grouped
in either way; a value followed by a callback is what the callback gives for it; the callback that
gives its value adds nothing; and what ends anyway absorbs all that follows. -/
theorem Chain.sequencing_laws (chain : Chain) (p : Plan) (f g : Outcome → Plan) (hp : p.Fresh)
    (hf : ∀ value, (f value).Fresh) (hg : ∀ value, (g value).Fresh) :
    chain.SameRuns ((p.andThen f).andThen g) (p.andThen fun value => (f value).andThen g) ∧
    (∀ a, chain.SameRuns ((Plan.pure a).andThen f) (f a)) ∧
    chain.SameRuns (p.andThen .pure) p ∧
    (∀ result (fs : List (Outcome → Plan)),
      (fs.foldl Plan.andThen (.done result)).build = (Plan.done result).build) ∧
    (p.Closed → ∀ next, chain.SameRuns (p.andThen next) p) := by
  refine ⟨?_, ?_, ?_, ?_, ?_⟩
  · exact chain.sameRuns_of_alike (hp.opening_grouped hf hg)
  · intro a
    exact chain.sameRuns_of_alike (Plan.Fresh.opening_pure_andThen hf a)
  · exact chain.sameRuns_of_alike hp.opening_andThen_pure
  · exact Plan.build_done_andThen
  · intro hclosed next
    exact chain.sameRuns_of_alike (hp.opening_closed_andThen hclosed)

/-- A generation that ends with whatever it gave, followed by callbacks that are never reached. -/
theorem Chain.sequencing_laws_done :
    let chain : Chain :=
      [.executor ⟨{}, true, .flag, .continue⟩, .breakOn ["ask_user"],
        .generation ⟨{ provider := .mock }, .null, fun _ _ => .ok ⟨200, [], []⟩⟩, .terminal]
    let p : Plan := (Plan.generate {}).andThen .done
    p.Fresh ∧ p.Closed ∧ (∀ value, (Plan.reply value).Fresh) ∧
    chain.SameRuns ((p.andThen Plan.reply).andThen Plan.reply)
      (p.andThen fun value => (Plan.reply value).andThen Plan.reply) ∧
    chain.SameRuns (p.andThen Plan.reply) p := by
  intro chain p
  have hp : p.Fresh := .andThen (.generate {}) .done
  have hclosed : p.Closed := .next .done
  have h := Chain.sequencing_laws chain p Plan.reply Plan.reply hp .reply .reply
  exact ⟨hp, hclosed, .reply, h.1, h.2.2.2.2 hclosed Plan.reply⟩

end Colloquy
