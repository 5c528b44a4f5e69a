import Colloquy.Proofs.Chain.Visit
import Colloquy.Proofs.Turn.Limit

/-!
# The error of a continuation that is used twice

A continuation that is used a second time refuses with `Exception.usedTwice`.  A run
that never does so can raise that error still, when a caller does: a callback may
raise it, or a transport.  Plans and chains that do not are *clear*.  A callback of a
clear plan may pass on a failure that it is given, and raise what the failure carries,
so it is enough that it is clear for outcomes that are.

Without numbers no continuation refuses.  So a clear plan on a clear chain never
raises the error (`Chain.play_clear`).
-/

namespace Colloquy

/-! ## What is clear of the error -/

/-- The error of a continuation that is used a second time. -/
def Exception.usedTwice : Exception :=
  .own (.internal "Continuation invoked more than once")

/-- An outcome other than the failure with the error. -/
def Outcome.Clear (value : Outcome) : Prop :=
  value ≠ .failure .usedTwice

/-- A plan of the builders that does not raise the error, and whose callbacks do not, unless they
are given it. -/
inductive Plan.Clear : Plan → Prop
  | pure {value : Outcome} (h : value.Clear) : Clear (.pure value)
  | generate (chat : Chat) : Clear (.generate chat)
  | execute (call : ToolCall) : Clear (.execute call)
  | done {result : Outcome} (h : result.Clear) : Clear (.done result)
  | andThen {first : Plan} {next : Outcome → Plan} (hfirst : Clear first)
      (hnext : ∀ value, value.Clear → Clear (next value)) : Clear (.andThen first next)
  | raise {e : Exception} (h : e ≠ .usedTwice) : Clear (.raise e)
  | note (name : Text) {plan : Plan} (h : Clear plan) : Clear (.note name plan)

/-- A callback that gives clear plans for clear outcomes. -/
def Plan.ClearCallback (f : Outcome → Plan) : Prop :=
  ∀ value, value.Clear → (f value).Clear

/-- A program that is composed of clear callbacks. -/
abbrev Program.Clear (p : Program) : Prop :=
  p.Composed Outcome.Clear Plan.ClearCallback

/-- A chain whose transports do not raise the error. -/
def Chain.Clear (chain : Chain) : Prop :=
  ∀ g, .generation g ∈ chain → ∀ events request, g.transport events request ≠ .error .usedTwice

/-- An exception that is not the library's own is another one. -/
theorem Exception.foreign_ne_usedTwice (cls : ForeignClass) (text : Text) :
    Exception.foreign cls text ≠ .usedTwice := by
  intro h
  cases h

/-- An exception of classes besides that of the error is another one. -/
theorem Exception.Among.ne_usedTwice {classes : List ErrorClass} {e : Exception}
    (h : e.Among classes) (hclasses : .internal ∉ classes) : e ≠ .usedTwice := by
  rintro rfl
  exact hclasses h

theorem Wire.Response.ofMessage_raises (m : Message) :
    Raises (Exception.Among [.serialization]) (ofMessage m) := by
  rw [ofMessage]
  cases hdump : dumpPayload (Canonical.message m) with
  | ok body => exact .ok _
  | error e => exact .error (dumpPayload_raises _ e hdump).among

/-- A script in which the error does not stand gives it to nobody. -/
theorem Transport.scripted_ne_usedTwice {script : List Reply}
    (hscript : .failure .usedTwice ∉ script) (events : List Event) (request : Wire.Request) :
    Transport.scripted script events request ≠ .error .usedTwice := by
  have hmessage : ∀ m, Wire.Response.ofMessage m ≠ .error .usedTwice := fun m heq =>
    (Wire.Response.ofMessage_raises m _ heq).ne_usedTwice (by decide) rfl
  intro heq
  rw [scripted] at heq
  cases hreply : script[countRequests events]? with
  | none =>
    rw [hreply] at heq
    have hecho : echo request = .error .usedTwice := heq
    rw [echo] at hecho
    cases hdocument : request.document with
    | ok document =>
      rw [hdocument] at hecho
      exact hmessage _ hecho
    | error fault =>
      rw [hdocument] at hecho
      exact Exception.foreign_ne_usedTwice _ _ (Except.error.inj hecho)
  | some reply =>
    rw [hreply] at heq
    cases reply with
    | message m => exact hmessage m heq
    | response r => cases heq
    | failure e =>
      cases heq
      exact hscript (List.mem_of_getElem? hreply)

/-! ## Courses that are clear -/

/-- A result other than the error, which satisfies `P` when it is none. -/
def ClearEnd {α : Type} (P : α → Prop) : Except Exception α → Prop
  | .ok x => P x
  | .error e => e ≠ .usedTwice

/-- A course that does not raise the error, and gives what satisfies `P`. -/
def Course.Clear {α : Type} (P : α → Prop) (d : Course α) : Prop :=
  ∀ events, ClearEnd P (d events).1

namespace Course.Clear

variable {α β : Type} {P Q : α → Prop} {d : Course α}

theorem pure {x : α} (h : P x) : Clear P (Pure.pure x) :=
  fun _ => h

theorem throw {e : Exception} (h : e ≠ .usedTwice) :
    Clear P (MonadExcept.throw e : Course α) :=
  fun _ => h

theorem missing (typeName name : Text) :
    Clear P (MonadExcept.throw (.missingAttribute typeName name) : Course α) :=
  throw (Exception.foreign_ne_usedTwice _ _)

theorem ofExcept {r : Except Exception α} (h : ClearEnd P r) : Clear P (Course.ofExcept r) :=
  fun _ => h

theorem mono (h : Clear P d) (hPQ : ∀ x, P x → Q x) : Clear Q d := by
  intro events
  have hd := h events
  cases hresult : (d events).1 with
  | error e =>
    rw [hresult] at hd
    exact hd
  | ok x =>
    rw [hresult] at hd
    exact hPQ x hd

theorem bind {R : β → Prop} {f : α → Course β} (h : Clear P d)
    (hf : ∀ x, P x → Clear R (f x)) : Clear R (d >>= f) := by
  intro events
  have hd := h events
  rw [bind_apply]
  cases hresult : d events with
  | mk r reached =>
    rw [hresult] at hd
    cases r with
    | error e => exact hd
    | ok x => exact hf x hd reached

end Course.Clear

/-! ## Building -/

/-- A program followed by a clear callback. -/
theorem Program.Clear.continued {p : Program} (h : p.Clear) {next : Outcome → Plan}
    (hnext : Plan.ClearCallback next) {apply : Outcome → Course Program}
    (happly : ∀ value, value.Clear → Course.Clear Program.Clear (apply value)) :
    Course.Clear Program.Clear (p.continued (.callback next) apply) := by
  cases h with
  | final h => exact happly _ h
  | generate chat hk => exact .pure (.generate chat (.followed 0 [] hk hnext))
  | execute call hk => exact .pure (.execute call (.followed 0 [] hk hnext))
  | done h => exact .pure (.done h)

theorem Plan.clearCallback_pure : Plan.ClearCallback .pure :=
  fun _ h => .pure h

/-- A clear plan is built into a clear program. -/
theorem Plan.Clear.outline {plan : Plan} (h : plan.Clear) :
    Course.Clear (fun b => ∃ p, b = .program p ∧ p.Clear) plan.outline := by
  induction h with
  | pure h => exact .pure ⟨_, rfl, .final h⟩
  | generate chat =>
    exact .pure ⟨_, rfl, .generate chat (.callback 0 [] Plan.clearCallback_pure)⟩
  | execute call =>
    exact .pure ⟨_, rfl, .execute call (.callback 0 [] Plan.clearCallback_pure)⟩
  | done h => exact .pure ⟨_, rfl, .done h⟩
  | raise h => exact .throw h
  | note name _ ih => exact Course.Clear.bind (P := fun _ => True) (fun _ => trivial) fun _ _ => ih
  | andThen _ hnext ihFirst ihNext =>
    rw [Plan.outline]
    refine ihFirst.bind fun b hb => ?_
    obtain ⟨p, rfl, hp⟩ := hb
    refine (Program.Clear.continued hp hnext fun value hvalue => ?_).bind fun q hq =>
      .pure ⟨q, rfl, hq⟩
    refine (ihNext value hvalue).bind fun b hb => ?_
    obtain ⟨q, rfl, hq⟩ := hb
    exact .pure hq

/-- A clear plan is built into a clear program, where one is required. -/
theorem Plan.Clear.required {plan : Plan} (h : plan.Clear) (who : Text) :
    Course.Clear Program.Clear (plan.outline >>= Built.required who) := by
  refine h.outline.bind fun b hb => ?_
  obtain ⟨p, rfl, hp⟩ := hb
  exact .pure hp

/-! ## Rounds -/

theorem ToolResult.toMessage?_raises (result : ToolResult) :
    Raises (Exception.Among []) result.toMessage? := by
  rw [toMessage?, Message.tool?]
  exact .dite (fun _ => .pure _) fun _ => .foreign _ _

/-- Recording an answer passes a failure on at most. -/
theorem recordAnswer_clear (chat : Chat) (call : ToolCall) (policy : ToolErrorPolicy)
    {value : Outcome} (h : value.Clear) :
    ClearEnd Outcome.Clear (recordAnswer chat call policy value) := by
  match policy, value with
  | _, .success (.toolResult result) =>
    rw [recordAnswer]
    cases hmessage : result.toMessage? with
    | ok message => exact nofun
    | error e => exact (result.toMessage?_raises e hmessage).ne_usedTwice List.not_mem_nil
  | _, .success (.chat _) | _, .success (.value _) => exact Exception.foreign_ne_usedTwice _ _
  | .continue, .failure e => exact nofun
  | .continue, .plain item => exact Exception.foreign_ne_usedTwice _ _
  | .raise, .failure _ | .raise, .plain _ => exact h

/-- An answer to a tool call of a round. -/
theorem Frame.Answers.follow_clear {frame : Frame} (h : frame.Answers) {value : Outcome}
    (hvalue : value.Clear) :
    Course.Clear (Program.Midround Outcome.Clear) (frame.follow value) := by
  cases h with
  | answer call policy =>
    match value with
    | .plain _ | .success (.value _) | .success (.toolResult _) => exact .missing _ _
    | .failure _ => exact .pure (.final hvalue)
    | .success (.chat chat) =>
      exact .pure (.execute call (.followed 0 [] (.start 0 []) (.record chat call policy)))
  | record chat call policy =>
    exact (Course.Clear.ofExcept (recordAnswer_clear chat call policy hvalue)).bind fun _ h =>
      .pure (.final h)

/-- The continuation of a tool call of a round goes on within the round. -/
theorem Cont.Answers.follow_clear {k : Cont} (h : k.Answers) {result : Outcome}
    (hresult : result.Clear) :
    Course.Clear (Program.Midround Outcome.Clear) (k.follow result) := by
  induction h with
  | start number owners => exact .pure (.final hresult)
  | followed number owners _ hframe ih =>
    refine ih.bind fun p hp => ?_
    cases hp with
    | final hvalue => exact hframe.follow_clear hvalue
    | execute call hk => exact .pure (.execute call (.followed 0 [] hk hframe))

/-- The answers that follow a tool call of a round. -/
theorem Cont.Answers.through {k : Cont} (h : k.Answers) {frames : List Frame}
    (hframes : ∀ frame ∈ frames, frame.Answers) : (k.through frames).Answers := by
  induction frames generalizing k with
  | nil => exact h
  | cons frame frames ih =>
    exact ih (.followed 0 [] h (hframes frame List.mem_cons_self)) fun frame hmem =>
      hframes frame (List.mem_cons_of_mem _ hmem)

/-- The program that answers the calls of a message and then asks the model again. -/
theorem Program.running_composed {V : Outcome → Prop} {F : (Outcome → Plan) → Prop} {k : Cont}
    (h : k.Composed F) (loop : ToolLoop) (chat : Chat) (call : ToolCall) (others : List ToolCall)
    (count : Nat) :
    (Program.running call (loop.frames chat call others k count)).Composed V F := by
  have hanswers := (Cont.Answers.start 0 []).through (loop.answers_frames chat call others)
  refine .execute call ?_
  rw [ToolLoop.frames, Cont.through, List.foldl_append]
  exact .regenerated 0 [] loop count hanswers h

/-! ## Going on -/

theorem RoundLimit.clear_toolRounds (limit : RoundLimit) :
    Outcome.Clear (.failure (.own (.toolRounds limit.toValue))) :=
  nofun

/-- A continuation that is composed of clear callbacks goes on with a clear program. -/
theorem Cont.Composed.follow_clear {k : Cont} (h : k.Composed Plan.ClearCallback)
    {result : Outcome} (hresult : result.Clear) :
    Course.Clear Program.Clear (k.follow result) := by
  induction h generalizing result with
  | answers h => exact (h.follow_clear hresult).mono fun _ hp => hp.composed
  | callback number owners hf => exact (hf result hresult).required _
  | followed number owners _ hnext ih =>
    exact (ih hresult).bind fun p hp =>
      Program.Clear.continued hp hnext fun value hvalue => (hnext value hvalue).required _
  | @regenerated number owners k j loop count h hj ih =>
    refine (h.follow_clear hresult).bind fun p hp => ?_
    cases hp with
    | execute call hk => exact .pure (.execute call (.regenerated 0 [] loop count hk hj))
    | @final value hvalue =>
      match value with
      | .plain _ | .success (.value _) | .success (.toolResult _) => exact .missing _ _
      | .failure _ => exact ih hvalue
      | .success (.chat chat) => exact .pure (.generate chat (.rounds 0 _ loop count hj))
  | @rounds number owners k loop count h ih =>
    match result with
    | .plain _ | .success (.value _) | .success (.toolResult _) => exact .missing _ _
    | .failure _ => exact ih hresult
    | .success (.chat chat) =>
      rw [Cont.follow, Body.follow]
      cases chat.pendingCalls with
      | nil => exact ih hresult
      | cons call others =>
        dsimp only
        split
        · exact ih loop.limit.clear_toolRounds
        · exact .pure (Program.running_composed h loop chat call others (count + 1))
  | @check number owners k names h ih =>
    match result with
    | .success (.value _) | .success (.toolResult _) => exact .missing _ _
    | .plain _ | .failure _ => exact ih hresult
    | .success (.chat chat) =>
      rw [Cont.follow, Body.follow]
      split
      · exact .pure (.done hresult)
      · exact ih hresult

/-! ## Exchanges and tool calls -/

/-- A settled result is clear when what is raised is another exception. -/
theorem Outcome.settle_clear {r : Except Exception Item} (h : r ≠ .error .usedTwice) :
    ClearEnd Outcome.Clear (Outcome.settle r) := by
  match r with
  | .ok item => exact nofun
  | .error (.own e) =>
    intro heq
    cases heq
    exact h rfl
  | .error (.foreign cls text) => exact Exception.foreign_ne_usedTwice cls text

theorem Except.map_ne_error {α β : Type} {f : α → β} {r : Except Exception α} {e : Exception}
    (h : r ≠ .error e) : r.map f ≠ .error e := by
  cases r with
  | ok x => exact nofun
  | error e' =>
    intro heq
    cases heq
    exact h rfl

/-- No exchange gives the error, unless the transport raises it. -/
theorem Generator.ask_clear {g : Generator}
    (hsends : ∀ events request, g.transport events request ≠ .error .usedTwice) (chat : Chat) :
    Course.Clear Outcome.Clear (g.ask chat) := by
  intro events
  rw [g.ask_apply]
  cases hrequest : g.backend.buildRequest g.model chat with
  | error e =>
    have he := (g.backend.buildRequest_raises g.model chat e hrequest).ne_usedTwice (by decide)
    refine Outcome.settle_clear fun heq => ?_
    cases heq
    exact he rfl
  | ok request =>
    refine Outcome.settle_clear (Except.map_ne_error ?_)
    rw [Generator.reply]
    cases htransport : g.transport events request with
    | error e =>
      intro heq
      cases heq
      exact hsends events request htransport
    | ok response =>
      intro hreceive
      exact (g.receive_raises response _ hreceive).ne_usedTwice (by decide) rfl

/-- What a handler raises becomes an error of the call, unless it is not an ordinary exception. -/
theorem Registry.ofHandler_raises (call : ToolCall) (result : Except Exception Output) :
    Raises (Exception.Among callClasses) (ofHandler call result) := by
  refine Raises.mapError (P := fun _ => True) (fun _ _ => trivial) fun e _ => ?_
  cases e with
  | own e => exact List.mem_of_elem_eq_true rfl
  | foreign cls text =>
    split
    · exact List.mem_of_elem_eq_true rfl
    · trivial

theorem Tool.output_raises (tool : Tool) (call : ToolCall) (events : List Event)
    (arguments : ModelInstance) :
    Raises (Exception.Among callClasses) (tool.output call events arguments) := by
  refine .bind (Registry.ofHandler_raises call _) fun output => .bind ?_ fun _ => .pure _
  cases hwritten : tool.written output with
  | ok content => exact .ok content
  | error e =>
    have hcls : e.cls ∈ callClasses := by
      rw [Tool.written_cls hwritten]
      decide
    exact .own hcls

/-- No tool call gives the error, whatever its handler raises. -/
theorem Executor.carryOut_clear (x : Executor) (call : ToolCall) :
    Course.Clear Outcome.Clear (x.carryOut call) := by
  intro events
  rw [x.carryOut_apply]
  cases x.registry.get? call.name with
  | none => exact nofun
  | some tool =>
    dsimp only
    cases harguments : tool.arguments call with
    | error e =>
      intro heq
      cases heq
      cases Tool.arguments_cls harguments
    | ok arguments =>
      refine Outcome.settle_clear (Except.map_ne_error fun heq => ?_)
      exact (tool.output_raises call _ arguments _ heq).ne_usedTwice (by decide) rfl

/-! ## Steps and runs -/

namespace Chain

/-- What a step leads to, when it leads to a program. -/
def ClearStep (o : Option Program) : Prop :=
  ∀ q, o = some q → q.Clear

theorem clearStep_none : ClearStep none := by
  intro q heq
  cases heq

theorem Clear.inner {link : Link} {inner : Chain} (h : Clear (link :: inner)) : Clear inner :=
  fun g hg => h g (List.mem_cons_of_mem link hg)

/-- A link that resolves an operation goes on with a clear program. -/
theorem resolved_clear {k : Cont} (hk : k.Composed Plan.ClearCallback) {d : Course Outcome}
    (hd : Course.Clear Outcome.Clear d) :
    Course.Clear ClearStep (do return some (← k.follow (← d))) := by
  refine hd.bind fun result hresult => (hk.follow_clear hresult).bind fun q hq => ?_
  refine .pure fun q' heq => ?_
  cases heq
  exact hq

/-- A link that takes a continuation over leaves the rest to the links inside. -/
theorem handed_on_clear {p : Program} (hp : p.Clear) {d : Course (Option Program)}
    (hd : Course.Clear ClearStep d) :
    Course.Clear ClearStep (do return some ((← d).getD p)) := by
  refine hd.bind fun o ho => .pure fun q heq => ?_
  cases heq
  cases o with
  | none => exact hp
  | some q => exact ho q rfl

theorem move_clear {chain : Chain} (hchain : chain.Clear) {p : Program} (h : p.Clear) :
    Course.Clear ClearStep (chain.move p) := by
  induction chain generalizing p with
  | nil => exact .pure clearStep_none
  | cons link inner ih =>
    cases link with
    | terminal => exact .pure clearStep_none
    | forward => exact ih hchain.inner h
    | generation g =>
      cases h with
      | generate chat hk =>
        exact resolved_clear hk (Generator.ask_clear (hchain g List.mem_cons_self) chat)
      | execute call hk => exact ih hchain.inner (.execute call hk)
      | done h => exact ih hchain.inner (.done h)
      | final h => exact ih hchain.inner (.final h)
    | breakOn names =>
      cases h with
      | @generate chat k hk =>
        show Course.Clear ClearStep (if k.ownedBy _ then move inner _ else _)
        split
        · exact ih hchain.inner (.generate chat hk)
        · have hp : ∀ owners, Program.Clear
              (.pending (.generate chat (.plain owners (.check names k)))) :=
            fun owners => .generate chat (.check 0 owners names hk)
          exact handed_on_clear (hp _) (ih hchain.inner (hp _))
      | execute call hk => exact ih hchain.inner (.execute call hk)
      | done h => exact ih hchain.inner (.done h)
      | final h => exact ih hchain.inner (.final h)
    | executor x =>
      cases h with
      | @generate chat k hk =>
        show Course.Clear ClearStep (if x.auto && !k.ownedBy _ then _ else move inner _)
        split
        · have hp : ∀ owners loop, Program.Clear
              (.pending (.generate chat (.plain owners (.rounds loop k 0)))) :=
            fun owners loop => .generate chat (.rounds 0 owners loop 0 hk)
          exact handed_on_clear (hp _ _) (ih hchain.inner (hp _ _))
        · exact ih hchain.inner (.generate chat hk)
      | execute call hk => exact resolved_clear hk (x.carryOut_clear call)
      | done h => exact ih hchain.inner (.done h)
      | final h => exact ih hchain.inner (.final h)

/-- A chain without a terminal link gives out nothing, and says so in other words. -/
theorem unterminated_ne_usedTwice :
    Exception.own (.internal "Interpreter chain has no terminal interpreter") ≠ .usedTwice := by
  intro heq
  have hmessage := congrArg Error.message (Exception.own.inj heq)
  revert hmessage
  decide +kernel

/-- What a chain gives out for a program that is at its end is not the error. -/
theorem finish_clear (chain : Chain) {p : Program} (h : p.Clear)
    (hterminal : p.isTerminal = true) :
    ClearEnd (fun _ => True) ((chain.finish p).mapError Exception.own) := by
  induction chain with
  | nil => exact unterminated_ne_usedTwice
  | cons link inner ih =>
    cases link with
    | terminal =>
      cases h with
      | final | done => trivial
      | generate | execute => cases hterminal
    | executor | breakOn | generation | forward => exact ih

theorem unhandled_ne_usedTwice (p : Program) : Exception.own (unhandled p) ≠ .usedTwice := by
  intro heq
  cases congrArg Error.hint (Exception.own.inj heq)

/-- A run of a clear program on a clear chain never raises the error. -/
theorem drive_clear {chain : Chain} (hchain : chain.Clear) (fuel : Nat) {p : Program}
    (h : p.Clear) : Course.Clear (fun _ => True) (chain.drive fuel p) := by
  induction fuel generalizing p with
  | zero => exact .pure trivial
  | succ fuel ih =>
    rw [drive, h.validate]
    show Course.Clear _ (if p.isTerminal then _ else _)
    split
    · rename_i hterminal
      exact (Course.Clear.ofExcept (chain.finish_clear h hterminal)).bind fun _ _ => .pure trivial
    · refine (move_clear hchain h).bind fun o ho => ?_
      cases o with
      | none => exact .throw (unhandled_ne_usedTwice p)
      | some q => exact ih (ho q rfl)

/-- A clear plan on a clear chain never raises the error, when it is run without numbers. -/
theorem play_clear {chain : Chain} (hchain : chain.Clear) (fuel : Nat) {plan : Plan}
    (h : plan.Clear) : Course.Clear (fun _ => True) (chain.play fuel plan) :=
  (h.required "Plan").bind fun _ hp => drive_clear hchain fuel hp

/-- A clear plan on a clear chain never raises the error. -/
theorem perform_ne_usedTwice {chain : Chain} (hchain : chain.Clear) (fuel : Nat) {plan : Plan}
    (h : plan.Clear) {before : Ledger} (hl : before.Sound) :
    (chain.perform fuel plan before).1 ≠ .error .usedTwice := by
  intro heq
  have hend := play_clear hchain fuel h before.events
  rw [chain.play_apply fuel plan hl, heq] at hend
  exact hend rfl

end Chain

end Colloquy
