import Colloquy.Proofs.Chain.Visit

/-!
# One of operation and value

Whatever makes programs makes them with an operation or with a value, and never with
both.  `Program.Made` lists the ways: the builders, a program followed by a callback,
and any step of any chain.  All of them are regular, so nothing else comes of them.

A program in another state can be written down.  `Program.Refused` says what comes of
it: each way to go on with it fails with the same error, and nothing happens before.
-/

namespace Colloquy

/-! ## Programs that can be made -/

mutual

/-- A program that can be made.  Chains, ledgers and callbacks are of any kind; callbacks give plans
of the builders. -/
inductive Program.Made : Program → Prop
  | pure (value : Outcome) : Program.Made (.final value)
  | generate (chat : Chat) {k : Cont} (h : Cont.Made k) : Program.Made (.pending (.generate chat k))
  | execute (call : ToolCall) {k : Cont} (h : Cont.Made k) :
      Program.Made (.pending (.execute call k))
  | done (result : Outcome) : Program.Made (.pending (.done result))
  | built {plan : Plan} {l l' : Ledger} {p : Program} (h : plan.Fresh)
      (hbuild : plan.build l = (.ok (.program p), l')) : Program.Made p
  | followed {p q : Program} {next : Outcome → Plan} {l l' : Ledger} (h : Program.Made p)
      (hnext : ∀ value, (next value).Fresh) (hq : p.andThen next l = (.ok q, l')) : Program.Made q
  | stepped {p q : Program} {chain : Chain} {l l' : Ledger} (h : Program.Made p)
      (hq : chain.step p l = (.ok (some q), l')) : Program.Made q

/-- A continuation that can be made: a new one, or that of a program that can be made. -/
inductive Cont.Made : Cont → Prop
  | new (number : Nat) {f : Outcome → Plan} (hf : ∀ value, (f value).Fresh) :
      Cont.Made ⟨number, [], .callback f⟩
  | generate {chat : Chat} {k : Cont} (h : Program.Made (.pending (.generate chat k))) :
      Cont.Made k
  | execute {call : ToolCall} {k : Cont} (h : Program.Made (.pending (.execute call k))) :
      Cont.Made k

end

section

variable {p q : Program} {l l' : Ledger}

/-- What is built of a plan of the builders is regular. -/
theorem Plan.Fresh.regular {plan : Plan} (h : plan.Fresh)
    (hbuild : plan.build l = (.ok (.program p), l')) : p.Regular := by
  obtain ⟨_, heq, hp⟩ := h.build_yields _ _ hbuild
  cases heq
  exact hp.kind

/-- A regular program followed by a callback is regular. -/
theorem Program.Regular.andThen {next : Outcome → Plan} (h : p.Regular)
    (hnext : ∀ value, (next value).Fresh) (hq : p.andThen next l = (.ok q, l')) : q.Regular :=
  (h.sequence_yields hnext (fun value => (hnext value).expect_yields _) _ _ hq).kind

/-- A step leads from a regular program to a regular program. -/
theorem Program.Regular.step {chain : Chain} (h : p.Regular)
    (hq : chain.step p l = (.ok (some q), l')) : q.Regular := by
  cases chain.step_yields h _ _ hq with
  | changed hq => exact hq.kind
  | stopped hstops => exact .done trivial

end

mutual

theorem Program.Made.regular {p : Program} : p.Made → p.Regular
  | .pure _ => .final trivial
  | .generate chat h => .generate chat h.regular
  | .execute call h => .execute call h.regular
  | .done _ => .done trivial
  | .built h hbuild => h.regular hbuild
  | .followed h hnext hq => Program.Regular.andThen h.regular hnext hq
  | .stepped h hq => Program.Regular.step h.regular hq

theorem Cont.Made.regular {k : Cont} : k.Made → k.Regular
  | .new number hf => .callback number [] hf
  | .generate h => by
    cases h.regular with
    | generate chat hk => exact hk
  | .execute h => by
    cases h.regular with
    | execute call hk => exact hk

end

theorem Program.Regular.exclusive {p : Program} (h : p.Regular) :
    p.operation?.isSome = !p.value?.isSome := by
  cases h <;> rfl

/-! ## Other states -/

/-- Whatever is done with a program fails with the same error.  The ledger is as it was, so nothing
happens before: no callback leaves a note, no request is sent and no handler gets its arguments. -/
structure Program.Refused (p : Program) (e : Error) : Prop where
  andThen (next : Outcome → Plan) (l : Ledger) : p.andThen next l = (.error (.own e), l)
  map (f : Outcome → Except Exception Outcome) (l : Ledger) :
    p.andThen (Plan.lift f) l = (.error (.own e), l)
  build (plan : Plan) (next : Outcome → Plan) (l l' : Ledger)
    (h : plan.build l = (.ok (.program p), l')) :
    (plan.andThen next).build l = (.error (.own e), l')
  run (chain : Chain) (fuel : Nat) (l : Ledger) :
    chain.run (fuel + 1) p l = (.error (.own e), l)
  generation (g : Generator) (inner : Chain) (l : Ledger) :
    Chain.step (.generation g :: inner) p l = (.error (.own e), l)
  executor (x : Executor) (inner : Chain) (l : Ledger) :
    Chain.step (.executor x :: inner) p l = (.error (.own e), l)
  breakOn (names : List Text) (inner : Chain) (l : Ledger) :
    Chain.step (.breakOn names :: inner) p l = (.error (.own e), l)
  finish : p.finish = .error e

/-- A program that is not valid is refused with the error that says so. -/
theorem Program.refused_of_validate {p : Program} {e : Error} (h : p.validate = .error e) :
    p.Refused e := by
  have hsequence : ∀ frame apply l, p.sequence frame apply l = (.error (.own e), l) := by
    intro frame apply l
    cases p with
    | pending operation => cases h
    | final value => cases h
    | both operation value =>
      cases h
      cases operation <;> rfl
    | neither =>
      cases h
      rfl
  have hchecked : ∀ (α : Type) (f : Unit → Act α) (l : Ledger),
      (Act.ofExcept (p.validate.mapError .own) >>= f) l = (.error (.own e), l) := by
    intro α f l
    rw [h]
    rfl
  refine ⟨fun _ l => hsequence _ _ l, fun _ l => hsequence _ _ l, ?_, fun _ _ l => hchecked _ _ l,
    fun _ _ l => hchecked _ _ l, fun _ _ l => hchecked _ _ l, fun _ _ l => hchecked _ _ l, ?_⟩
  · intro plan next l l' hbuild
    rw [Plan.build, bind_ok hbuild]
    exact bind_error (hsequence _ _ l')
  · cases p with
    | pending operation => cases h
    | final value => cases h
    | both operation value =>
      cases h
      cases operation <;> rfl
    | neither =>
      cases h
      rfl

/-- A program is valid when it has either an operation or a value; else the error is an internal
one. -/
theorem Program.exists_validate_error {p : Program}
    (h : p.operation?.isSome = p.value?.isSome) :
    ∃ e, e.cls = .internal ∧ p.validate = .error e := by
  cases p with
  | pending operation => cases h
  | final value => cases h
  | both operation value => exact ⟨_, rfl, rfl⟩
  | neither => exact ⟨_, rfl, rfl⟩

/-! ## Both directions -/

/-- Whatever can be made has a pending operation or a final value, and not both.  A program with
both or with neither is refused with an internal error by all that can be done with it. -/
theorem Program.one_of_operation_and_value :
    (∀ p : Program, p.Made → p.operation?.isSome = !p.value?.isSome) ∧
    ∀ p : Program, p.operation?.isSome = p.value?.isSome →
      ∃ e : Error, e.cls = .internal ∧ p.Refused e := by
  constructor
  · intro p hp
    exact Program.Regular.exclusive hp.regular
  · intro p h
    obtain ⟨e, hcls, hvalidate⟩ := Program.exists_validate_error h
    exact ⟨e, hcls, Program.refused_of_validate hvalidate⟩

/-- A generation followed by a callback, and one step of a chain that takes it over; and two
programs that cannot be made. -/
theorem Program.one_of_operation_and_value_examples :
    let plan : Plan := (Plan.generate {}).andThen Plan.reply
    let chain : Chain := [.breakOn ["ask_user"], .terminal]
    let start : Ledger := { events := [.noted "start"] }
    (∃ p q l l', plan.build start = (.ok (.program p), l) ∧ chain.step p l = (.ok (some q), l') ∧
      q.operation?.isSome = !q.value?.isSome) ∧
    (∃ e : Error, e.cls = .internal ∧ Program.neither.Refused e) ∧
    ∃ e : Error, e.cls = .internal ∧
      (Program.both (.done (.plain (.value .null))) (.plain (.value .null))).Refused e := by
  intro plan chain start
  have hplan : plan.Fresh := .andThen (.generate {}) .reply
  let k : Cont := ⟨1, [], .extended ⟨0, [], .callback .pure⟩ (.callback Plan.reply)⟩
  have hbuild : plan.build start
      = (.ok (.program (.pending (.generate {} k))), { start with issued := 2 }) := by
    rw [Plan.build, Plan.build]
    rfl
  let watched : Cont := ⟨2, [(Link.breakOn ["ask_user"]).owner [.terminal]], .check ["ask_user"] k⟩
  have hstep : chain.step (.pending (.generate {} k)) { start with issued := 2 }
      = (.ok (some (.pending (.generate {} watched))), { start with issued := 3 }) := rfl
  refine ⟨⟨_, _, _, _, hbuild, hstep, ?_⟩, Program.one_of_operation_and_value.2 _ rfl,
    Program.one_of_operation_and_value.2 _ rfl⟩
  exact Program.one_of_operation_and_value.1 _ (.stepped (.built hplan hbuild) hstep)

end Colloquy
