import Colloquy.Program.Resume
import Colloquy.Proofs.Program.Number

/-!
# Programs without numbers

The same building and going on as in `Colloquy.Program.Build` and
`Colloquy.Program.Resume`, as courses: no numbers are issued and none are spent.
Nothing is refused here because it was used before.

The main statement is `Cont.call_tracks`.  A continuation whose numbers can be used
goes on as the one without numbers does.  So whatever holds of courses holds of the
programs that are run, as long as each continuation is used once.
-/

namespace Colloquy

/-! ## Building -/

/-- The program that was built, where one is required. -/
def Built.required (who : Text) : Built → Course Program
  | .program p => pure p
  | .stray value => throw (.own (.internal
      (Text.concat [who, " returned ", value.typeName, ", expected Program"])))

/-- A program followed by a frame, which `apply` applies to a final value. -/
def Program.continued (p : Program) (frame : Frame) (apply : Outcome → Course Program) :
    Course Program :=
  match p with
  | .final value => apply value
  | .pending (.generate chat k) =>
    return .pending (.generate chat (.plain [] (.extended k frame)))
  | .pending (.execute call k) =>
    return .pending (.execute call (.plain [] (.extended k frame)))
  | .pending (.done result) => return .pending (.done result)
  | .both _ _ => throw (.own (Program.invalid "both"))
  | .neither => throw (.own (Program.invalid "neither"))

/-- What is built for a plan. -/
def Plan.outline : Plan → Course Built
  | .pure value => return .program (.final value)
  | .generate chat =>
    return .program (.pending (.generate chat (.plain [] (.callback .pure))))
  | .execute call =>
    return .program (.pending (.execute call (.plain [] (.callback .pure))))
  | .done result => return .program (.pending (.done result))
  | .andThen first next => do
    match ← first.outline with
    | .stray value => throw (.missingAttribute value.typeName "and_then")
    | .program p =>
      return .program (← p.continued (.callback next) fun value => do
        (← (next value).outline).required "and_then callback")
  | .neither => return .program .neither
  | .both result value => return .program (.both (.done result) value)
  | .raise e => throw e
  | .stray value => return .stray value
  | .note name plan => do
    Course.record (.noted name)
    plan.outline

/-! ## Tool rounds -/

/-- A continuation followed by frames. -/
def Cont.through (k : Cont) (frames : List Frame) : Cont :=
  frames.foldl (fun k frame => .plain [] (.extended k frame)) k

/-- The program that runs a tool call, followed by frames. -/
def Program.running (call : ToolCall) (frames : List Frame) : Program :=
  .pending (.execute call ((Cont.plain [] (.callback .pure)).through frames))

/-- The frames of a round: one call is recorded, the others are answered, and the model is asked
again. -/
def ToolLoop.frames (loop : ToolLoop) (chat : Chat) (call : ToolCall) (others : List ToolCall)
    (k : Cont) (count : Nat) : List Frame :=
  .record chat call loop.policy :: others.map (.answer · loop.policy) ++ [.regenerate loop k count]

/-! ## Going on -/

mutual

/-- How a continuation goes on with the result of an operation. -/
def Cont.follow : Cont → Outcome → Course Program
  | ⟨_, _, body⟩, result => body.follow result

/-- How a body goes on with the result of an operation. -/
def Body.follow : Body → Outcome → Course Program
  | .callback f, result => do (← (f result).outline).required "Continuation"
  | .extended k frame, result => do
    let p ← k.follow result
    p.continued frame fun value => frame.follow value
  | .rounds loop k count, result =>
    match result with
    | .failure _ => k.follow result
    | .success (.chat chat) =>
      match chat.pendingCalls with
      | [] => k.follow result
      | call :: others =>
        if loop.limit.reached count then
          k.follow (.failure (.own (.toolRounds loop.limit.toValue)))
        else return Program.running call (loop.frames chat call others k (count + 1))
    | .success item => throw (.missingAttribute item.typeName "most_recent_message")
    | .plain item => throw (.missingAttribute item.typeName "value")
  | .check names k, result =>
    match result with
    | .success (.chat chat) =>
      if chat.pendingCalls.any fun call => names.contains call.name then
        return .pending (.done result)
      else k.follow result
    | .success item => throw (.missingAttribute item.typeName "most_recent_message")
    | _ => k.follow result

/-- How a frame goes on with the value of the program before it. -/
def Frame.follow : Frame → Outcome → Course Program
  | .callback f, value => do (← (f value).outline).required "and_then callback"
  | .answer call policy, value =>
    match value with
    | .failure _ => return .final value
    | .success (.chat chat) => return Program.running call [.record chat call policy]
    | .success item => throw (.missingAttribute item.typeName "add_message")
    | .plain item => throw (.missingAttribute item.typeName "value")
  | .record chat call policy, value => do
    return .final (← Course.ofExcept (recordAnswer chat call policy value))
  | .regenerate loop k count, value =>
    match value with
    | .failure _ => k.follow value
    | .success (.chat chat) =>
      return .pending (.generate chat (.plain [loop.owner] (.rounds loop k count)))
    | .success item => throw (.missingAttribute item.typeName "history")
    | .plain item => throw (.missingAttribute item.typeName "value")

end

/-! ## Acts of building are tracked -/

section

variable {l : Ledger}

theorem Tracks.record (event : Event) (hl : l.Sound) :
    Tracks (Act.record event) (Course.record event) [] l where
  result := rfl
  advances := ⟨Nat.le_refl _, fun _ hn => .inl hn, ⟨hl.lt_issued⟩⟩
  usable _ _ := .nil _
  owned _ _ n hn := by cases hn

theorem Tracks.ofExcept {r : Except Exception Outcome} (hl : l.Sound) :
    Tracks (Act.ofExcept r) (Course.ofExcept r) [] l := by
  cases r with
  | error e => exact .fail e hl
  | ok value => exact .give hl (.nil _)

theorem Built.expect_tracks (who : Text) (b : Built) (hl : l.Sound)
    (hb : l.Usable (numbers b)) :
    Tracks (b.expect who) ((bare b).required who) (numbers b) l := by
  cases b with
  | program p => exact .give (α := Program) hl hb
  | stray value => exact .fail _ hl

/-- A program followed by a frame: what is done with a final value has to be tracked. -/
theorem Program.sequence_tracks (p : Program) (frame : Frame) {f : Outcome → Act Built}
    {g : Outcome → Course Program} (hl : l.Sound)
    (hp : l.Usable (p.numbers ++ frame.numbers))
    (happly : ∀ value, Tracks (f value >>= Built.expect "and_then callback")
      (g value) frame.numbers l) :
    Tracks (p.sequence frame f) (p.bare.continued frame.bare g)
      (p.numbers ++ frame.numbers) l := by
  cases p with
  | final value => exact happly value
  | pending operation =>
    cases operation with
    | generate chat k =>
      have hk := Tracks.issue [] (.extended k frame) hl hp
      exact hk.map (f := fun k => Program.pending (.generate chat k))
        (g := fun k => Program.pending (.generate chat k)) (fun _ => rfl) (fun _ => rfl)
    | execute call k =>
      have hk := Tracks.issue [] (.extended k frame) hl hp
      exact hk.map (f := fun k => Program.pending (.execute call k))
        (g := fun k => Program.pending (.execute call k)) (fun _ => rfl) (fun _ => rfl)
    | done result =>
      exact (Tracks.give (x := Program.pending (.done result)) hl (.nil _)).mono
        fun n hn => by cases hn
  | both operation value => cases operation <;> exact .fail _ hl
  | neither => exact .fail _ hl

/-- The program that runs a new operation. -/
theorem Tracks.fresh (toProgram : Cont → Program) (hl : l.Sound)
    (hnumbers : ∀ k, (toProgram k).numbers = k.numbers)
    (hbare : ∀ k, (toProgram k).bare = toProgram k.bare) :
    Tracks (do return Built.program (toProgram (← Cont.issue [] (.callback .pure))))
      (do return Built.program (toProgram (.plain [] (.callback .pure)))) [] l := by
  have hk := Tracks.issue [] (.callback .pure) hl (.nil l)
  exact hk.map (f := fun k => Built.program (toProgram k))
    (g := fun k => Built.program (toProgram k)) hnumbers
    (fun k => congrArg Built.program (hbare k))

/-- A plan is built without numbers as it is with them. -/
theorem Plan.build_tracks (plan : Plan) (l : Ledger) (hl : l.Sound) :
    Tracks plan.build plan.outline [] l := by
  induction plan generalizing l with
  | pure value => exact .give (x := Built.program (.final value)) hl (.nil l)
  | generate chat =>
    exact .fresh (fun k => .pending (.generate chat k)) hl (fun _ => rfl)
      (fun _ => rfl)
  | execute call =>
    exact .fresh (fun k => .pending (.execute call k)) hl (fun _ => rfl)
      (fun _ => rfl)
  | done result => exact .give (x := Built.program (.pending (.done result))) hl (.nil l)
  | andThen first next ihFirst ihNext =>
    rw [Plan.build, Plan.outline]
    refine (ihFirst l hl).bind_all (.nil l) ?_
    intro b l' hl' hb
    cases b with
    | stray value => exact .fail (α := Built) _ hl'
    | program p =>
      have hnil : p.numbers ++ (Frame.callback next).numbers = p.numbers := List.append_nil _
      have hp : l'.Usable (p.numbers ++ (Frame.callback next).numbers) := by
        rw [hnil]
        exact hb
      have h := p.sequence_tracks (.callback next) (f := fun value => (next value).build)
        (g := fun value => do
          (← (next value).outline).required "and_then callback") hl' hp fun value =>
        (ihNext value l' hl').bind_all (.nil l') fun b' l'' hl'' hb' =>
          b'.expect_tracks _ hl'' hb'
      rw [hnil] at h
      exact h.map (f := Built.program) (g := Built.program) (fun _ => rfl) (fun _ => rfl)
  | neither => exact .give (x := Built.program .neither) hl (.nil l)
  | both result value =>
    exact .give (x := Built.program (.both (.done result) value)) hl (.nil l)
  | raise e => exact .fail e hl
  | stray value => exact .give (x := Built.stray value) hl (.nil l)
  | note name plan ih =>
    rw [Plan.build, Plan.outline]
    exact (Tracks.record (.noted name) hl).bind_all (.nil l) fun _ l' hl' _ => ih l' hl'

/-- A plan is built into a program, where one is required, without numbers as with them. -/
theorem Plan.expect_tracks (who : Text) (plan : Plan) (hl : l.Sound) :
    Tracks (plan.build >>= Built.expect who) (plan.outline >>= Built.required who) [] l :=
  (plan.build_tracks l hl).bind_all (.nil l) fun b _ hl' hb => b.expect_tracks who hl' hb

/-! ## Acts of going on are tracked -/

/-- The numbers within frames. -/
def framesNumbers (frames : List Frame) : List Nat :=
  frames.flatMap Frame.numbers

/-- A continuation is followed by frames without numbers as with them. -/
theorem Cont.through_tracks (frames : List Frame) (k : Cont) (l : Ledger) (hl : l.Sound)
    (hu : l.Usable (k.numbers ++ framesNumbers frames)) :
    Tracks (frames.foldlM (fun k frame => Cont.issue [] (.extended k frame)) k)
      (pure (k.bare.through (frames.map Frame.bare))) (k.numbers ++ framesNumbers frames) l := by
  induction frames generalizing k l with
  | nil =>
    rw [framesNumbers, List.flatMap_nil, List.append_nil] at hu ⊢
    exact .give (x := k) hl hu
  | cons frame frames ih =>
    have hsplit : k.numbers ++ framesNumbers (frame :: frames)
        = (k.numbers ++ frame.numbers) ++ framesNumbers frames := by
      rw [framesNumbers, List.flatMap_cons, List.append_assoc]
      rfl
    rw [hsplit] at hu ⊢
    have hk := Tracks.issue [] (.extended k frame) hl hu.left
    exact hk.bind (g := fun k => pure (k.through (frames.map Frame.bare))) hu
      fun k' l' hl' hu' => ih k' l' hl' hu'

/-- The program that runs a tool call and goes on with frames. -/
theorem Program.executing_tracks (call : ToolCall) (frames : List Frame) (hl : l.Sound)
    (hu : l.Usable (framesNumbers frames)) :
    Tracks (Program.executing call frames)
      (pure (Program.running call (frames.map Frame.bare))) (framesNumbers frames) l := by
  have hfirst := Tracks.issue [] (.callback .pure) hl (.nil l)
  rw [← List.nil_append (framesNumbers frames)]
  refine hfirst.bind
    (g := fun k => pure (Program.pending (.execute call (k.through (frames.map Frame.bare))))) hu ?_
  intro k l' hl' hu'
  exact (Cont.through_tracks frames k l' hl' hu').map
    (f := fun k => Program.pending (.execute call k))
    (g := fun k => Program.pending (.execute call k)) (fun _ => rfl) (fun _ => rfl)

/-- The program that answers the calls of a message. -/
theorem ToolLoop.answering_tracks (loop : ToolLoop) (chat : Chat) (call : ToolCall)
    (others : List ToolCall) (k : Cont) (count : Nat) (hl : l.Sound) (hu : l.Usable k.numbers) :
    Tracks (loop.answering chat call others k count)
      (pure (Program.running call (loop.frames chat call others k.bare count))) k.numbers l := by
  have hanswers : ∀ calls : List ToolCall,
      framesNumbers (calls.map (.answer · loop.policy)) = [] := by
    intro calls
    induction calls with
    | nil => rfl
    | cons call calls ih => exact ih
  have hnumbers : framesNumbers (loop.frames chat call others k count) = k.numbers := by
    rw [ToolLoop.frames, framesNumbers, List.flatMap_append, List.flatMap_cons]
    show [] ++ framesNumbers (others.map (.answer · loop.policy)) ++ _ = _
    rw [hanswers, List.flatMap_singleton]
    rfl
  have hbare : (loop.frames chat call others k count).map Frame.bare
      = loop.frames chat call others k.bare count := by
    simp only [ToolLoop.frames, List.map_append, List.map_cons, List.map_map, List.map_nil]
    rfl
  have h := Program.executing_tracks call (loop.frames chat call others k count) hl
    (by rwa [hnumbers])
  rw [hnumbers, hbare] at h
  exact h

/-- What gives a program where one is required gives it as it is. -/
theorem Built.expect_program {α : Type} (who : Text) (a : Act α) (f : α → Act Program) :
    ((do let x ← a; return .program (← f x)) >>= Built.expect who) = a >>= f := by
  simp only [bind_assoc, pure_bind, Built.expect, bind_pure]

theorem Built.expect_made (who : Text) (a : Act Program) :
    ((do return .program (← a)) >>= Built.expect who) = a := by
  simp only [bind_assoc, pure_bind, Built.expect, bind_pure]

mutual

/-- A continuation whose numbers can be used goes on as the one without numbers does. -/
theorem Cont.call_tracks (k : Cont) (result : Outcome) (l : Ledger) (hl : l.Sound)
    (hu : l.Usable k.numbers) : Tracks (k.call result) (k.bare.follow result) k.numbers l := by
  cases k with
  | mk number owners body =>
    rw [Cont.call, Cont.bare, Cont.follow]
    exact .spend hl hu fun l' hl' hu' => body.call_tracks result l' hl' hu'

/-- A body goes on without numbers as with them. -/
theorem Body.call_tracks (body : Body) (result : Outcome) (l : Ledger) (hl : l.Sound)
    (hu : l.Usable body.numbers) :
    Tracks (body.call result >>= Built.expect "Continuation") (body.bare.follow result)
      body.numbers l := by
  cases body with
  | callback f => exact (f result).expect_tracks _ hl
  | extended k frame =>
    rw [Body.call, Built.expect_program, Body.bare, Body.follow]
    refine (k.call_tracks result l hl hu.left).bind hu ?_
    intro p l' hl' hu'
    exact p.sequence_tracks frame hl' hu' fun value =>
      frame.call_tracks value l' hl' hu'.right
  | rounds loop k count =>
    cases result with
    | plain item => exact .fail _ hl
    | failure e =>
      rw [Body.call, Built.expect_made, Body.bare, Body.follow]
      exact k.call_tracks _ l hl hu
    | success item =>
      cases item with
      | value v => exact .fail _ hl
      | toolResult r => exact .fail _ hl
      | chat chat =>
        simp only [Body.call, Body.bare, Body.follow]
        cases chat.pendingCalls with
        | nil =>
          rw [Built.expect_made]
          exact k.call_tracks _ l hl hu
        | cons call others =>
          dsimp only
          split
          · rw [Built.expect_made]
            exact k.call_tracks _ l hl hu
          · rw [Built.expect_made]
            exact loop.answering_tracks chat call others k (count + 1) hl hu
  | check names k =>
    cases result with
    | plain item =>
      simp only [Body.call, Built.expect_made, Body.bare, Body.follow]
      exact k.call_tracks _ l hl hu
    | failure e =>
      simp only [Body.call, Built.expect_made, Body.bare, Body.follow]
      exact k.call_tracks _ l hl hu
    | success item =>
      cases item with
      | value v => exact .fail _ hl
      | toolResult r => exact .fail _ hl
      | chat chat =>
        simp only [Body.call, Body.bare, Body.follow]
        split
        · exact (Tracks.give (x := Program.pending (.done (.success (.chat chat)))) hl
            (.nil l)).mono fun n hn => by cases hn
        · rw [Built.expect_made]
          exact k.call_tracks _ l hl hu

/-- A frame goes on without numbers as with them. -/
theorem Frame.call_tracks (frame : Frame) (value : Outcome) (l : Ledger) (hl : l.Sound)
    (hu : l.Usable frame.numbers) :
    Tracks (frame.call value >>= Built.expect "and_then callback") (frame.bare.follow value)
      frame.numbers l := by
  cases frame with
  | callback f => exact (f value).expect_tracks _ hl
  | answer call policy =>
    cases value with
    | plain item => exact .fail _ hl
    | failure e => exact .give (x := Program.final (.failure e)) hl (.nil l)
    | success item =>
      cases item with
      | value v => exact .fail _ hl
      | toolResult r => exact .fail _ hl
      | chat chat =>
        rw [Frame.call, Built.expect_made, Frame.bare, Frame.follow]
        exact Program.executing_tracks call [.record chat call policy] hl (.nil l)
  | record chat call policy =>
    simp only [Frame.call, Frame.bare, Frame.follow, bind_assoc, pure_bind, Built.expect]
    exact (Tracks.ofExcept (r := recordAnswer chat call policy value) hl).map
      (f := Program.final) (g := Program.final) (fun _ => rfl) (fun _ => rfl)
  | regenerate loop k count =>
    cases value with
    | plain item => exact .fail _ hl
    | failure e =>
      rw [Frame.call, Built.expect_made, Frame.bare, Frame.follow]
      exact k.call_tracks _ l hl hu
    | success item =>
      cases item with
      | value v => exact .fail _ hl
      | toolResult r => exact .fail _ hl
      | chat chat =>
        have hk := Tracks.issue [loop.owner] (.rounds loop k count) hl hu
        exact hk.map (f := fun k => Program.pending (.generate chat k))
          (g := fun k => Program.pending (.generate chat k)) (fun _ => rfl) (fun _ => rfl)

end

end

end Colloquy
