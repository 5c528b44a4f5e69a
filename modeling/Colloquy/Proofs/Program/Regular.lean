import Colloquy.Proofs.Ledger.Keeping
import Colloquy.Proofs.Program.Sequencing

/-!
# Regular programs

A program is *regular* when it has an operation or a value, and its continuation is
one that builders and links make: callbacks that give plans of the builders, what
follows them, and the rounds and checks that links put around them.

A regular continuation leads to a regular program, and no number is lost on the way
(`Cont.Regular.call_yields`).  There is one exception: a link that watches for a tool
breaks off, and drops the continuation that it holds.  `Cont.stops` lists the tools
for which that happens.

The answers of a round need a lemma of their own.  The frame that asks the model
again holds a continuation, so a program that ended right there would lose it.  The
continuations before that frame (`Cont.Answers`) never end a program.
-/

namespace Colloquy

/-! ## Continuations that builders and links make -/

/-- A frame that answers a tool call. -/
inductive Frame.Answers : Frame → Prop
  | answer (call : ToolCall) (policy : ToolErrorPolicy) : Answers (.answer call policy)
  | record (chat : Chat) (call : ToolCall) (policy : ToolErrorPolicy) :
      Answers (.record chat call policy)

/-- The continuation of a tool call of a round, up to the frame that asks the model again. -/
inductive Cont.Answers : Cont → Prop
  | start (number : Nat) (owners : List Owner) : Answers ⟨number, owners, .callback .pure⟩
  | followed (number : Nat) (owners : List Owner) {k : Cont} {frame : Frame} (h : Answers k)
      (hframe : frame.Answers) : Answers ⟨number, owners, .extended k frame⟩

/-- A continuation that builders and links make of callbacks, each of which satisfies `F`. -/
inductive Cont.Composed (F : (Outcome → Plan) → Prop) : Cont → Prop
  | answers {k : Cont} (h : k.Answers) : Composed F k
  | callback (number : Nat) (owners : List Owner) {f : Outcome → Plan} (hf : F f) :
      Composed F ⟨number, owners, .callback f⟩
  | followed (number : Nat) (owners : List Owner) {k : Cont} {next : Outcome → Plan}
      (h : Composed F k) (hnext : F next) :
      Composed F ⟨number, owners, .extended k (.callback next)⟩
  | regenerated (number : Nat) (owners : List Owner) {k j : Cont} (loop : ToolLoop) (count : Nat)
      (h : k.Answers) (hj : Composed F j) :
      Composed F ⟨number, owners, .extended k (.regenerate loop j count)⟩
  | rounds (number : Nat) (owners : List Owner) {k : Cont} (loop : ToolLoop) (count : Nat)
      (h : Composed F k) : Composed F ⟨number, owners, .rounds loop k count⟩
  | check (number : Nat) (owners : List Owner) {k : Cont} (names : List Text)
      (h : Composed F k) : Composed F ⟨number, owners, .check names k⟩

/-- A program with either an operation or a value.  Its continuation is composed of callbacks that
satisfy `F`, and the value that it ends with satisfies `V`. -/
inductive Program.Composed (V : Outcome → Prop) (F : (Outcome → Plan) → Prop) : Program → Prop
  | final {value : Outcome} (h : V value) : Composed V F (.final value)
  | generate (chat : Chat) {k : Cont} (h : k.Composed F) :
      Composed V F (.pending (.generate chat k))
  | execute (call : ToolCall) {k : Cont} (h : k.Composed F) :
      Composed V F (.pending (.execute call k))
  | done {result : Outcome} (h : V result) : Composed V F (.pending (.done result))

/-- A callback that gives plans of the builders. -/
def Plan.FreshCallback (f : Outcome → Plan) : Prop :=
  ∀ value, (f value).Fresh

/-- A continuation that is composed of callbacks that give plans of the builders. -/
abbrev Cont.Regular (k : Cont) : Prop :=
  k.Composed Plan.FreshCallback

/-- A program that is composed of callbacks that give plans of the builders. -/
abbrev Program.Regular (p : Program) : Prop :=
  p.Composed (fun _ => True) Plan.FreshCallback

/-- A program within a round: a value that satisfies `V`, or a tool call with answers to come. -/
inductive Program.Midround (V : Outcome → Prop) : Program → Prop
  | final {value : Outcome} (h : V value) : Midround V (.final value)
  | execute (call : ToolCall) {k : Cont} (h : k.Answers) :
      Midround V (.pending (.execute call k))

/-- A program within a round, with any value. -/
abbrev Program.Answering (p : Program) : Prop :=
  p.Midround fun _ => True

theorem Program.Midround.composed {V : Outcome → Prop} {F : (Outcome → Plan) → Prop} {p : Program}
    (h : p.Midround V) : p.Composed V F := by
  cases h with
  | final h => exact .final h
  | execute call h => exact .execute call (.answers h)

theorem Program.Composed.validate {V : Outcome → Prop} {F : (Outcome → Plan) → Prop}
    {p : Program} (h : p.Composed V F) : p.validate = .ok () := by
  cases h <;> rfl

/-! ## Tools that end a run -/

mutual

/-- The tools for which a continuation ends the run, when one of them is called. -/
def Cont.stops : Cont → List Text
  | ⟨_, _, body⟩ => body.stops

/-- The tools for which a body ends the run, when one of them is called. -/
def Body.stops : Body → List Text
  | .callback _ => []
  | .extended k _ => k.stops
  | .rounds _ _ _ => []
  | .check names k => names ++ k.stops

end

/-- Whether a continuation ends the run with a result: a chat that ends with the call of a tool that
is watched for. -/
def Cont.BreaksOn (k : Cont) (result : Outcome) : Prop :=
  ∃ chat, result = .success (.chat chat) ∧ ∃ call ∈ chat.pendingCalls, call.name ∈ k.stops

theorem Cont.BreaksOn.extended {k : Cont} {result : Outcome} (h : k.BreaksOn result)
    (number : Nat) (owners : List Owner) (frame : Frame) :
    Cont.BreaksOn ⟨number, owners, .extended k frame⟩ result :=
  h

theorem Cont.BreaksOn.check {k : Cont} {result : Outcome} (h : k.BreaksOn result)
    (number : Nat) (owners : List Owner) (names : List Text) :
    Cont.BreaksOn ⟨number, owners, .check names k⟩ result := by
  obtain ⟨chat, hresult, call, hcall, hname⟩ := h
  exact ⟨chat, hresult, call, hcall, List.mem_append_right names hname⟩

/-- A failure ends no run early. -/
theorem Cont.not_breaksOn_failure (k : Cont) (e : Exception) : ¬ k.BreaksOn (.failure e) := by
  rintro ⟨chat, hresult, -⟩
  cases hresult

/-- A chat without open calls ends no run early. -/
theorem Cont.not_breaksOn_of_nil (k : Cont) {chat : Chat} (h : chat.pendingCalls = []) :
    ¬ k.BreaksOn (.success (.chat chat)) := by
  rintro ⟨chat', hresult, call, hcall, -⟩
  cases hresult
  rw [h] at hcall
  cases hcall

/-! ## Programs that are accounted for -/

/-- A program of some kind that comes of a ledger with the numbers `ns` in use: none of them is
lost, and none that was issued for it. -/
structure Program.Accounted (S : Program → Prop) (l : Ledger) (ns : List Nat) (p : Program)
    (l' : Ledger) : Prop where
  kind : S p
  keeps : l.Keeps ns l' p.numbers

section

variable {S : Program → Prop} {l l' l'' : Ledger} {ns ms : List Nat} {p : Program}

theorem Program.Accounted.mono {S' : Program → Prop} (h : p.Accounted S l ns l')
    (hS : S p → S' p) : p.Accounted S' l ns l' :=
  ⟨hS h.kind, h.keeps⟩

theorem Program.Accounted.after (h : p.Accounted S l' ms l'') (hkeeps : l.Keeps ns l' ms) :
    p.Accounted S l ns l'' :=
  ⟨h.kind, hkeeps.trans h.keeps⟩

/-- A program with a new continuation, which puts a frame behind the one that was there. -/
theorem Act.Yields.extend (toProgram : Cont → Program) (k : Cont) (frame : Frame)
    (hnumbers : ∀ k, (toProgram k).numbers = k.numbers)
    (hS : ∀ n, S (toProgram ⟨n, [], .extended k frame⟩)) :
    (do return toProgram (← Cont.issue [] (.extended k frame)) : Act Program).Yields l
      (Program.Accounted S l (k.numbers ++ frame.numbers)) := by
  refine .map (.issue ⟨hS _, ?_⟩)
  rw [hnumbers]
  exact .issue l _

end

/-- A regular program that was built, accounted for. -/
def Built.Accounted (l : Ledger) (b : Built) (l' : Ledger) : Prop :=
  ∃ p, b = .program p ∧ p.Accounted Program.Regular l [] l'

/-! ## Building -/

section

variable {l : Ledger}

/-- A regular program followed by a callback. -/
theorem Program.Regular.sequence_yields {p : Program} (h : p.Regular) {next : Outcome → Plan}
    (hnext : Plan.FreshCallback next) {apply : Outcome → Act Built}
    (happly : ∀ value, (apply value >>= Built.expect "and_then callback").Yields l
      (Program.Accounted Program.Regular l [])) :
    (p.sequence (.callback next) apply).Yields l
      (Program.Accounted Program.Regular l p.numbers) := by
  have hnil : ∀ k : Cont, k.numbers ++ (Frame.callback next).numbers = k.numbers := fun k =>
    List.append_nil _
  cases h with
  | @final value _ => exact happly value
  | @generate chat k h =>
    have hk := Act.Yields.extend (S := Program.Regular) (l := l)
      (fun k => .pending (.generate chat k)) k (.callback next) (fun _ => rfl) fun n =>
        .generate chat (.followed n [] h hnext)
    rwa [hnil] at hk
  | @execute call k h =>
    have hk := Act.Yields.extend (S := Program.Regular) (l := l)
      (fun k => .pending (.execute call k)) k (.callback next) (fun _ => rfl) fun n =>
        .execute call (.followed n [] h hnext)
    rwa [hnil] at hk
  | done _ => exact .pure ⟨.done trivial, .refl l _⟩

/-- A new operation holds the one number that is issued for it. -/
theorem Act.Yields.fresh (toProgram : Cont → Program)
    (hnumbers : ∀ k, (toProgram k).numbers = k.numbers)
    (hregular : ∀ n, (toProgram ⟨n, [], .callback .pure⟩).Regular) :
    (do return .program (toProgram (← Cont.issue [] (.callback .pure))) : Act Built).Yields l
      (Built.Accounted l) := by
  refine .map (.issue ⟨_, rfl, hregular _, ?_⟩)
  rw [hnumbers]
  exact .issue l []

/-- What was built is expected to be a program, and it is one. -/
theorem Act.Yields.expect {a : Act Built} (h : a.Yields l (Built.Accounted l)) (who : Text) :
    (a >>= Built.expect who).Yields l (Program.Accounted Program.Regular l []) := by
  refine h.bind fun b l' hb => ?_
  obtain ⟨p, rfl, hp⟩ := hb
  exact .pure hp

/-- A plan of the builders is built into a regular program that holds all numbers that were issued
for it. -/
theorem Plan.Fresh.build_yields {plan : Plan} (h : plan.Fresh) :
    plan.build.Yields l (Built.Accounted l) := by
  induction h generalizing l with
  | pure value => exact .pure ⟨_, rfl, .final trivial, .refl l []⟩
  | generate chat =>
    exact .fresh (fun k => .pending (.generate chat k)) (fun _ => rfl) fun n =>
      .generate chat (.callback n [] .pure)
  | execute call =>
    exact .fresh (fun k => .pending (.execute call k)) (fun _ => rfl) fun n =>
      .execute call (.callback n [] .pure)
  | done result => exact .pure ⟨_, rfl, .done trivial, .refl l []⟩
  | raise e => exact .throw e
  | note name _ ih =>
    rw [Plan.build]
    refine .bind (.record (P := fun _ l' => l.Keeps [] l' []) (.of_events l _ [])) ?_
    intro _ l' hkeeps
    refine ih.mono fun b l'' hb => ?_
    obtain ⟨p, rfl, hp⟩ := hb
    exact ⟨p, rfl, hp.after hkeeps⟩
  | andThen _ hnext ihFirst ihNext =>
    rw [Plan.build]
    refine ihFirst.bind fun b l' hb => ?_
    obtain ⟨p, rfl, hp⟩ := hb
    refine .map ?_
    refine (hp.kind.sequence_yields hnext fun value => (ihNext value).expect _).mono ?_
    exact fun q l'' hq => ⟨q, rfl, hq.after hp.keeps⟩

theorem Plan.Fresh.expect_yields {plan : Plan} (h : plan.Fresh) (who : Text) :
    (plan.build >>= Built.expect who).Yields l (Program.Accounted Program.Regular l []) :=
  h.build_yields.expect who

end

/-! ## Rounds -/

section

variable {l : Ledger}

theorem Frame.Answers.numbers {frame : Frame} (h : frame.Answers) : frame.numbers = [] := by
  cases h <;> rfl

/-- The answers that follow a tool call of a round. -/
theorem Cont.Answers.through_yields {k : Cont} (h : k.Answers) {frames : List Frame}
    (hframes : ∀ frame ∈ frames, frame.Answers) :
    (frames.foldlM (fun k frame => Cont.issue [] (.extended k frame)) k).Yields l
      fun k' l' => k'.Answers ∧ l.Keeps k.numbers l' k'.numbers := by
  induction frames generalizing k l with
  | nil => exact .pure ⟨h, .refl l _⟩
  | cons frame frames ih =>
    have hframe : frame.Answers := hframes frame List.mem_cons_self
    have hextended : l.Keeps k.numbers { l with issued := l.issued + 1 }
        (Cont.numbers ⟨l.issued, [], .extended k frame⟩) := by
      rw [Cont.numbers, Body.numbers, hframe.numbers, List.append_nil]
      exact .issue l _
    rw [List.foldlM_cons]
    refine .bind (.issue (P := fun k' l' => k'.Answers ∧ l.Keeps k.numbers l' k'.numbers)
      ⟨.followed _ _ h hframe, hextended⟩) fun k' l' hk' => ?_
    refine (ih hk'.1 fun frame hmem => hframes frame (List.mem_cons_of_mem _ hmem)).mono ?_
    exact fun k'' l'' hk'' => ⟨hk''.1, hk'.2.trans hk''.2⟩

/-- The frames of a round, up to the one that asks the model again, are answers. -/
theorem ToolLoop.answers_frames (loop : ToolLoop) (chat : Chat) (call : ToolCall)
    (others : List ToolCall) :
    ∀ frame ∈ .record chat call loop.policy :: others.map (.answer · loop.policy),
      Frame.Answers frame := by
  intro frame hmem
  rcases List.mem_cons.1 hmem with rfl | hmem
  · exact .record chat call loop.policy
  · obtain ⟨other, -, rfl⟩ := List.mem_map.1 hmem
    exact .answer other loop.policy

/-- A tool call of a round, up to the last of its answers. -/
theorem Frame.Answers.executing_yields (call : ToolCall) {frames : List Frame}
    (hframes : ∀ frame ∈ frames, frame.Answers) :
    (Program.executing call frames).Yields l (Program.Accounted Program.Answering l []) := by
  refine .bind (.issue (P := fun k l' => k.Answers ∧ l.Keeps [] l' k.numbers)
    ⟨.start _ _, .issue l []⟩) fun k l' hk => .map ?_
  refine (hk.1.through_yields hframes).mono fun k' l'' hk' => ?_
  exact ⟨.execute call hk'.1, hk.2.trans hk'.2⟩

/-- The program that answers the calls of a message and then asks the model again. -/
theorem Cont.Regular.answering_yields {k : Cont} (h : k.Regular) (loop : ToolLoop) (chat : Chat)
    (call : ToolCall) (others : List ToolCall) (count : Nat) :
    (loop.answering chat call others k count).Yields l
      (Program.Accounted Program.Regular l k.numbers) := by
  rw [ToolLoop.answering, Program.executing]
  refine .bind (.issue (P := fun k l' => k.Answers ∧ l.Keeps [] l' k.numbers)
    ⟨.start _ _, .issue l []⟩) fun first l₁ hfirst => ?_
  rw [List.foldlM_append, bind_assoc]
  have hanswers := loop.answers_frames chat call others
  refine (hfirst.1.through_yields hanswers).bind fun last l₂ hlast => ?_
  have hkept : l.Keeps k.numbers l₂ (last.numbers ++ k.numbers) := by
    exact (hfirst.2.trans hlast.2).frame k.numbers
  rw [List.foldlM_cons, bind_assoc]
  refine .bind (.issue (P := fun k' l' => Cont.Regular k' ∧ l.Keeps k.numbers l' k'.numbers)
    ⟨.regenerated _ _ loop count hlast.1 h, hkept.trans (.issue l₂ _)⟩) fun k' l₃ hk' => ?_
  exact .pure ⟨.execute call hk'.1, hk'.2⟩

/-- An answer to a tool call of a round. -/
theorem Frame.Answers.call_yields {frame : Frame} (h : frame.Answers) (value : Outcome) :
    (frame.call value >>= Built.expect "and_then callback").Yields l
      (Program.Accounted Program.Answering l []) := by
  cases h with
  | answer call policy =>
    match value with
    | .plain _ | .success (.value _) | .success (.toolResult _) => exact .throw _
    | .failure e => exact .pure ⟨.final trivial, .refl l []⟩
    | .success (.chat chat) =>
      rw [Frame.call, Built.expect_made]
      refine Frame.Answers.executing_yields call fun frame hmem => ?_
      rw [List.mem_singleton.1 hmem]
      exact .record chat call policy
  | record chat call policy =>
    simp only [Frame.call, bind_assoc, pure_bind, Built.expect]
    exact .map (f := Program.final) (.ofExcept fun _ _ => ⟨.final trivial, .refl l []⟩)

/-- A program within a round followed by an answer. -/
theorem Program.Answering.sequence_yields {p : Program} (h : p.Answering) {frame : Frame}
    (hframe : frame.Answers) {apply : Outcome → Act Built}
    (happly : ∀ value, (apply value >>= Built.expect "and_then callback").Yields l
      (Program.Accounted Program.Answering l [])) :
    (p.sequence frame apply).Yields l (Program.Accounted Program.Answering l p.numbers) := by
  cases h with
  | @final value _ => exact happly value
  | @execute call k h =>
    have hk := Act.Yields.extend (S := Program.Answering) (l := l)
      (fun k => .pending (.execute call k)) k frame (fun _ => rfl) fun n =>
        .execute call (.followed n [] h hframe)
    rwa [hframe.numbers, List.append_nil] at hk

/-- The continuation of a tool call of a round goes on within the round. -/
theorem Cont.Answers.call_yields {k : Cont} (h : k.Answers) (result : Outcome) :
    (k.call result).Yields l (Program.Accounted Program.Answering l k.numbers) := by
  induction h generalizing l with
  | start number owners =>
    rw [Cont.call]
    exact .spend (.pure ⟨.final trivial, .spend l number []⟩)
  | @followed number owners k frame h hframe ih =>
    have hnumbers : Cont.numbers ⟨number, owners, .extended k frame⟩ = number :: k.numbers := by
      rw [Cont.numbers, Body.numbers, hframe.numbers, List.append_nil]
    rw [Cont.call, Body.call, Built.expect_program, hnumbers]
    refine .spend (ih.bind fun p l' hp => ?_)
    refine (hp.kind.sequence_yields hframe fun value => hframe.call_yields value).mono ?_
    exact fun q l'' hq => hq.after ((Ledger.Keeps.spend l number _).trans hp.keeps)

end

/-! ## Going on -/

/-- What a continuation goes on with: a regular program, with no number lost, or the end of the run
when the continuation ends it. -/
def Cont.Leads (k : Cont) (result : Outcome) (l : Ledger) (p : Program) (l' : Ledger) : Prop :=
  p.Accounted Program.Regular l k.numbers l' ∨
    k.BreaksOn result ∧ p = .pending (.done result)

section

variable {l : Ledger}

/-- The end of a round asks the model again, or passes on that the round failed. -/
theorem Program.Answering.regenerate_yields {p : Program} (h : p.Answering) (loop : ToolLoop)
    {k : Cont} (hk : k.Regular) (count : Nat) {apply : Outcome → Act Built}
    (happly : ∀ value, (apply value >>= Built.expect "and_then callback").Yields l
      (Program.Accounted Program.Regular l k.numbers)) :
    (p.sequence (.regenerate loop k count) apply).Yields l
      (Program.Accounted Program.Regular l (p.numbers ++ k.numbers)) := by
  cases h with
  | @final value _ => exact happly value
  | @execute call j h =>
    exact Act.Yields.extend (S := Program.Regular) (fun k => .pending (.execute call k)) j
      (.regenerate loop k count) (fun _ => rfl)
      fun n => .execute call (.regenerated n [] loop count h hk)

/-- A continuation that does not end the run with a result goes on with a regular program. -/
theorem Act.Yields.of_leads {k : Cont} {result : Outcome}
    (h : (k.call result).Yields l (k.Leads result l)) (hbreaks : ¬ k.BreaksOn result) :
    (k.call result).Yields l (Program.Accounted Program.Regular l k.numbers) :=
  h.mono fun _ _ hp => hp.resolve_right fun hends => hbreaks hends.1

/-- A continuation that is used up and goes on as its body does. -/
theorem Act.Yields.leads {number : Nat} {owners : List Owner} {body : Body} {result : Outcome}
    {e : Exception} {a : Act Program}
    (ha : ∀ l', a.Yields l' (Program.Accounted Program.Regular l' body.numbers)) :
    (do if ← Act.spend number then a else MonadExcept.throw e : Act Program).Yields l
      (Cont.Leads ⟨number, owners, body⟩ result l) :=
  .spend ((ha _).mono fun _ _ hp => .inl (hp.after (.spend l number _)))

/-- Asking the model again after a round. -/
theorem Cont.Regular.regenerate_yields {k : Cont} (h : k.Regular) (loop : ToolLoop) (count : Nat)
    (hfailure : ∀ e, (k.call (.failure e)).Yields l (k.Leads (.failure e) l)) (value : Outcome) :
    ((Frame.regenerate loop k count).call value >>= Built.expect "and_then callback").Yields l
      (Program.Accounted Program.Regular l k.numbers) := by
  match value with
  | .plain _ | .success (.value _) | .success (.toolResult _) => exact .throw _
  | .failure e =>
    rw [Frame.call, Built.expect_made]
    exact (hfailure e).of_leads (k.not_breaksOn_failure e)
  | .success (.chat chat) =>
    exact .map (f := fun k => Program.pending (.generate chat k))
      (.issue ⟨.generate chat (.rounds _ _ loop count h), .issue l _⟩)

/-- A regular continuation leads to a regular program, and no number is lost, unless it ends the
run. -/
theorem Cont.Regular.call_yields {k : Cont} (h : k.Regular) (result : Outcome) :
    (k.call result).Yields l (k.Leads result l) := by
  induction h generalizing l result with
  | answers h => exact (h.call_yields result).mono fun p l' hp => .inl (hp.mono (·.composed))
  | callback number owners hf => exact .leads fun l' => (hf result).expect_yields _
  | @followed number owners k next h hnext ih =>
    have hnumbers : Cont.numbers ⟨number, owners, .extended k (.callback next)⟩
        = number :: k.numbers := congrArg (number :: ·) (List.append_nil _)
    rw [Cont.call, Body.call, Built.expect_program]
    refine .spend ((ih result).bind fun p l' hp => ?_)
    rcases hp with hp | ⟨hbreaks, rfl⟩
    · refine (hp.kind.sequence_yields hnext fun value => (hnext value).expect_yields _).mono ?_
      intro q l'' hq
      have hkeeps := (Ledger.Keeps.spend l number k.numbers).trans hp.keeps
      rw [Cont.Leads, hnumbers]
      exact .inl (hq.after hkeeps)
    · exact .pure (.inr ⟨hbreaks.extended number owners _, rfl⟩)
  | @regenerated number owners k j loop count h hj ih =>
    rw [Cont.call, Body.call, Built.expect_program]
    refine .leads fun l₁ => (h.call_yields result).bind fun p l₂ hp => ?_
    have hframe := Cont.Regular.regenerate_yields (l := l₂) hj loop count fun e => ih (.failure e)
    refine (hp.kind.regenerate_yields loop hj count hframe).mono fun q l₃ hq => ?_
    exact hq.after (hp.keeps.frame j.numbers)
  | @rounds number owners k loop count h ih =>
    match result with
    | .plain _ | .success (.value _) | .success (.toolResult _) => exact .leads fun l' => .throw _
    | .failure e =>
      rw [Cont.call, Body.call, Built.expect_made]
      exact .leads fun l' => (ih _).of_leads (k.not_breaksOn_failure e)
    | .success (.chat chat) =>
      rw [Cont.call, Body.call]
      cases hpending : chat.pendingCalls with
      | nil =>
        rw [Built.expect_made]
        exact .leads fun l' => (ih _).of_leads (k.not_breaksOn_of_nil hpending)
      | cons call others =>
        dsimp only
        split
        · rw [Built.expect_made]
          exact .leads fun l' => (ih _).of_leads (k.not_breaksOn_failure _)
        · rw [Built.expect_made]
          exact .leads fun l' => Cont.Regular.answering_yields h loop chat call others (count + 1)
  | @check number owners k names h ih =>
    -- whatever is not ended here is handed to the continuation that was there
    have hpassed : (k.call result).Yields { l with spent := number :: l.spent }
        (fun p l' => Cont.Leads ⟨number, owners, .check names k⟩ result l p l') := by
      refine (ih result).mono fun p l' hp => ?_
      rcases hp with hp | ⟨hbreaks, rfl⟩
      · exact .inl (hp.after (.spend l number _))
      · exact .inr ⟨hbreaks.check number owners names, rfl⟩
    match result with
    | .success (.value _) | .success (.toolResult _) => exact .leads fun l' => .throw _
    | .plain _ | .failure _ =>
      simp only [Cont.call, Body.call, Built.expect_made]
      exact .spend hpassed
    | .success (.chat chat) =>
      rw [Cont.call, Body.call]
      by_cases hany : chat.pendingCalls.any fun call => names.contains call.name
      · rw [if_pos hany]
        obtain ⟨call, hcall, hname⟩ := List.any_eq_true.1 hany
        have hbreaks : Cont.BreaksOn ⟨number, owners, .check names k⟩ (.success (.chat chat)) :=
          ⟨chat, rfl, call, hcall, List.mem_append_left _ (List.contains_iff_mem.1 hname)⟩
        exact .spend (.pure (.inr ⟨hbreaks, rfl⟩))
      · rw [if_neg hany]
        rw [Built.expect_made]
        exact .spend hpassed

end

end Colloquy
