import Colloquy.Proofs.Program.Course

/-!
# Sequencing of programs

Sequencing nests continuations, and where two nestings should be the same the
continuations differ as data.  `Cont.Law` relates the continuations of programs that
differ by the laws of sequencing only:

* one continuation after another can be grouped to the left or to the right;
* the callback that gives its value adds nothing;
* a continuation that always ends with a result adds nothing to what comes before it.

The main statement is `Cont.Law.follow`: continuations that are related go on alike.
The same events happen, and the programs that come of it are related again.
-/

namespace Colloquy

/-! ## Courses that are alike -/

namespace Course

variable {α β γ δ : Type}

/-- Two ends of courses: the same events, and related results or the same exception. -/
inductive SameEnd (R : α → β → Prop) :
    Except Exception α × List Event → Except Exception β × List Event → Prop
  | ok {x : α} {y : β} {events : List Event} (h : R x y) : SameEnd R (.ok x, events) (.ok y, events)
  | error {e : Exception} {events : List Event} : SameEnd R (.error e, events) (.error e, events)

/-- Two courses that have the same events and related results, whatever happened before. -/
def Alike (R : α → β → Prop) (d : Course α) (d' : Course β) : Prop :=
  ∀ events, SameEnd R (d events) (d' events)

/-- Whatever a course gives has a property. -/
def Always (P : α → Prop) (d : Course α) : Prop :=
  ∀ events x reached, d events = (.ok x, reached) → P x

namespace Alike

theorem pure {R : α → β → Prop} {x : α} {y : β} (h : R x y) :
    Alike R (Pure.pure x) (Pure.pure y) :=
  fun _ => .ok h

theorem throw {R : α → β → Prop} (e : Exception) :
    Alike R (MonadExcept.throw e) (MonadExcept.throw e) :=
  fun _ => .error

theorem refl (d : Course α) : Alike Eq d d := by
  intro events
  cases d events with
  | mk r reached =>
    cases r with
    | error e => exact .error
    | ok x => exact .ok rfl

theorem mono {R S : α → β → Prop} {d : Course α} {d' : Course β} (h : Alike R d d')
    (hRS : ∀ x y, R x y → S x y) : Alike S d d' := by
  intro events
  have hend := h events
  generalize d events = r at hend ⊢
  generalize d' events = r' at hend ⊢
  cases hend with
  | ok hxy => exact .ok (hRS _ _ hxy)
  | error => exact .error

/-- Courses that are alike up to equality are equal. -/
theorem eq {d d' : Course α} (h : Alike Eq d d') : d = d' := by
  funext events
  have hend := h events
  generalize d events = r at hend ⊢
  generalize d' events = r' at hend ⊢
  cases hend with
  | ok hxy => rw [hxy]
  | error => rfl

/-- One course after another, when more is known of what the first gives. -/
theorem bind_always {R : α → β → Prop} {S : γ → δ → Prop} {P : α → Prop} {d : Course α}
    {d' : Course β} {f : α → Course γ} {f' : β → Course δ} (h : Alike R d d')
    (hP : Always P d) (hf : ∀ x y, R x y → P x → Alike S (f x) (f' y)) :
    Alike S (d >>= f) (d' >>= f') := by
  intro events
  have hend := h events
  have hgives := hP events
  rw [bind_apply, bind_apply]
  generalize d events = r at hend hgives ⊢
  generalize d' events = r' at hend ⊢
  cases hend with
  | ok hxy => exact hf _ _ hxy (hgives _ _ rfl) _
  | error => exact .error

/-- One course after another. -/
theorem bind {R : α → β → Prop} {S : γ → δ → Prop} {d : Course α} {d' : Course β}
    {f : α → Course γ} {f' : β → Course δ} (h : Alike R d d')
    (hf : ∀ x y, R x y → Alike S (f x) (f' y)) : Alike S (d >>= f) (d' >>= f') :=
  h.bind_always (P := fun _ => True) (fun _ _ _ _ => trivial) fun x y hxy _ => hf x y hxy

/-- The same course, and after it courses that are alike. -/
theorem bind_same {S : γ → δ → Prop} (d : Course α) {f : α → Course γ} {f' : α → Course δ}
    (hf : ∀ x, Alike S (f x) (f' x)) : Alike S (d >>= f) (d >>= f') :=
  (refl d).bind fun x _ hxy => hxy ▸ hf x

end Alike

namespace Always

theorem pure {P : α → Prop} {x : α} (h : P x) : Always P (Pure.pure x) := by
  intro events _ reached heq
  cases heq
  exact h

theorem throw {P : α → Prop} (e : Exception) : Always P (MonadExcept.throw e) := by
  intro events _ _ heq
  cases heq

theorem bind {P : α → Prop} {Q : β → Prop} {d : Course α} {f : α → Course β}
    (h : Always P d) (hf : ∀ x, P x → Always Q (f x)) : Always Q (d >>= f) := by
  intro events y reached heq
  have hgives := h events
  rw [bind_apply] at heq
  generalize d events = r at heq hgives
  cases r with
  | mk r reached' =>
    cases r with
    | error e => cases heq
    | ok x => exact hf x (hgives x reached' rfl) reached' y reached heq

/-- Nothing has to be known of a course when what comes after it has the property anyway. -/
theorem bind_any {Q : β → Prop} {d : Course α} {f : α → Course β}
    (hf : ∀ x, Always Q (f x)) : Always Q (d >>= f) :=
  bind (P := fun _ => True) (fun _ _ _ _ => trivial) fun x _ => hf x

end Always

end Course

open Course

/-! ## Plans of the builders -/

namespace Plan

/-- A plan of the builders alone, with callbacks that give such plans.  Building it may raise and
may leave notes, but what is built is a program with either an operation or a value. -/
inductive Fresh : Plan → Prop
  | pure (value : Outcome) : Fresh (.pure value)
  | generate (chat : Chat) : Fresh (.generate chat)
  | execute (call : ToolCall) : Fresh (.execute call)
  | done (result : Outcome) : Fresh (.done result)
  | andThen {first : Plan} {next : Outcome → Plan} (hfirst : Fresh first)
      (hnext : ∀ value, Fresh (next value)) : Fresh (.andThen first next)
  | raise (e : Exception) : Fresh (.raise e)
  | note (name : Text) {plan : Plan} (h : Fresh plan) : Fresh (.note name plan)

theorem Fresh.lift (f : Outcome → Except Exception Outcome) (value : Outcome) :
    Fresh (Plan.lift f value) := by
  rw [Plan.lift]
  cases f value with
  | error e => exact .raise e
  | ok changed => exact .pure changed

/-- A plan whose value is changed by a function is one of the builders. -/
theorem Fresh.map {plan : Plan} (h : Fresh plan) (f : Outcome → Except Exception Outcome) :
    Fresh (plan.map f) :=
  .andThen h (Fresh.lift f)

theorem Fresh.reply (value : Outcome) : Fresh (Plan.reply value) := by
  unfold Plan.reply
  split
  · exact .generate _
  · exact .pure _

/-- Sending the turn of a user is a plan of the builders. -/
theorem Fresh.send (chat : Chat) (turn : Message) : Fresh (Plan.send chat turn) :=
  .andThen (.pure _) Fresh.reply

/-- A plan that ends with a result on every way, whatever is to come after it. -/
inductive Closed : Plan → Prop
  | done (result : Outcome) : Closed (.done result)
  | raise (e : Exception) : Closed (.raise e)
  | note (name : Text) {plan : Plan} (h : Closed plan) : Closed (.note name plan)
  | first {first : Plan} {next : Outcome → Plan} (h : Closed first) : Closed (.andThen first next)
  | next {first : Plan} {next : Outcome → Plan} (h : ∀ value, Closed (next value)) :
      Closed (.andThen first next)

end Plan

/-! ## Programs that end on every way -/

/-- A continuation that ends with a result on every way. -/
inductive Cont.Closed : Cont → Prop
  | callback {f : Outcome → Plan} (h : ∀ value, (f value).Closed) :
      Closed (.plain [] (.callback f))
  | first {k : Cont} {frame : Frame} (h : Closed k) : Closed (.plain [] (.extended k frame))
  | next {k : Cont} {f : Outcome → Plan} (h : ∀ value, (f value).Closed) :
      Closed (.plain [] (.extended k (.callback f)))

/-- A program that ends with a result on every way. -/
inductive Program.Closed : Program → Prop
  | generate (chat : Chat) {k : Cont} (h : k.Closed) : Closed (.pending (.generate chat k))
  | execute (call : ToolCall) {k : Cont} (h : k.Closed) : Closed (.pending (.execute call k))
  | done (result : Outcome) : Closed (.pending (.done result))

/-- What is built of a plan and ends with a result on every way. -/
inductive Built.Closed : Built → Prop
  | program {p : Program} (h : p.Closed) : Closed (.program p)

theorem Built.Closed.required {b : Built} (h : b.Closed) (who : Text) :
    Always Program.Closed (b.required who) := by
  cases h with
  | program h => exact .pure h

/-- What follows a program that ends anyway is never reached. -/
theorem Program.Closed.continued {p : Program} (h : p.Closed) (frame : Frame)
    (apply : Outcome → Course Program) : Always Program.Closed (p.continued frame apply) := by
  cases h with
  | generate chat h => exact .pure (.generate chat (.first h))
  | execute call h => exact .pure (.execute call (.first h))
  | done result => exact .pure (.done result)

/-- A program followed by a callback that always ends is a program that ends. -/
theorem Program.continued_closed (p : Program) {f : Outcome → Plan}
    {apply : Outcome → Course Program} (hf : ∀ value, (f value).Closed)
    (happly : ∀ value, Always Program.Closed (apply value)) :
    Always Program.Closed (p.continued (.callback f) apply) := by
  cases p with
  | final value => exact happly value
  | pending operation =>
    cases operation with
    | generate chat k => exact .pure (.generate chat (.next hf))
    | execute call k => exact .pure (.execute call (.next hf))
    | done result => exact .pure (.done result)
  | both operation value => exact .throw _
  | neither => exact .throw _

theorem Plan.Closed.outline {plan : Plan} (h : plan.Closed) :
    Always Built.Closed plan.outline := by
  induction h with
  | done result => exact .pure (.program (.done result))
  | raise e => exact .throw e
  | note name _ ih => exact .bind_any fun _ => ih
  | first _ ih =>
    rw [Plan.outline]
    refine ih.bind fun b hb => ?_
    cases hb with
    | program hp => exact (hp.continued _ _).bind fun q hq => .pure (.program hq)
  | next h ih =>
    rw [Plan.outline]
    refine .bind_any fun b => ?_
    cases b with
    | stray value => exact .throw _
    | program p =>
      refine (p.continued_closed h fun value => ?_).bind fun q hq => .pure (.program hq)
      exact (ih value).bind fun b hb => hb.required _

/-- A plan that ends on every way is built into a program that does. -/
theorem Plan.Closed.required {plan : Plan} (h : plan.Closed) (who : Text) :
    Always Program.Closed (plan.outline >>= Built.required who) :=
  h.outline.bind fun _ hb => hb.required who

/-- A continuation that ends on every way goes on with a program that does. -/
theorem Cont.Closed.follow {k : Cont} (h : k.Closed) (result : Outcome) :
    Always Program.Closed (k.follow result) := by
  induction h with
  | callback h => exact (h result).required _
  | first _ ih => exact ih.bind fun p hp => hp.continued _ _
  | next h => exact .bind_any fun p => p.continued_closed h fun value => (h value).required _

/-! ## Related programs -/

/-- Two programs that do the same next, and go on with related continuations. -/
inductive Program.Rel (R : Cont → Cont → Prop) : Program → Program → Prop
  | final (value : Outcome) : Rel R (.final value) (.final value)
  | generate (chat : Chat) {k k' : Cont} (h : R k k') :
      Rel R (.pending (.generate chat k)) (.pending (.generate chat k'))
  | execute (call : ToolCall) {k k' : Cont} (h : R k k') :
      Rel R (.pending (.execute call k)) (.pending (.execute call k'))
  | done (result : Outcome) : Rel R (.pending (.done result)) (.pending (.done result))

/-- Two programs that were built and are related. -/
inductive Built.Rel (R : Cont → Cont → Prop) : Built → Built → Prop
  | program {p p' : Program} (h : p.Rel R p') : Rel R (.program p) (.program p')

theorem Built.Rel.required {R : Cont → Cont → Prop} {b b' : Built} (h : b.Rel R b')
    (who who' : Text) : Alike (Program.Rel R) (b.required who) (b'.required who') := by
  cases h with
  | program h => exact .pure h

theorem Program.Rel.mono {R S : Cont → Cont → Prop} {p p' : Program} (h : p.Rel R p')
    (hRS : ∀ k k', R k k' → S k k') : p.Rel S p' := by
  cases h with
  | final value => exact .final value
  | generate chat h => exact .generate chat (hRS _ _ h)
  | execute call h => exact .execute call (hRS _ _ h)
  | done result => exact .done result

/-- Related programs are followed by frames alike, when the frames extend related continuations to
related ones and are applied alike. -/
theorem Program.Rel.continued {R S : Cont → Cont → Prop} {p p' : Program} {frame frame' : Frame}
    {apply apply' : Outcome → Course Program} (h : p.Rel R p')
    (hextended : ∀ k k', R k k' →
      S (.plain [] (.extended k frame)) (.plain [] (.extended k' frame')))
    (happly : ∀ value, Alike (Program.Rel S) (apply value) (apply' value)) :
    Alike (Program.Rel S) (p.continued frame apply) (p'.continued frame' apply') := by
  cases h with
  | final value => exact happly value
  | generate chat h => exact .pure (.generate chat (hextended _ _ h))
  | execute call h => exact .pure (.execute call (hextended _ _ h))
  | done result => exact .pure (.done result)

/-! ## The laws -/

/-- Two continuations of plans of the builders that differ by the laws of sequencing. -/
inductive Cont.Law : Cont → Cont → Prop
  | callback {f : Outcome → Plan} (hf : ∀ value, (f value).Fresh) :
      Law (.plain [] (.callback f)) (.plain [] (.callback f))
  | extended {k k' : Cont} {f : Outcome → Plan} (h : Law k k') (hf : ∀ value, (f value).Fresh) :
      Law (.plain [] (.extended k (.callback f))) (.plain [] (.extended k' (.callback f)))
  /-- Callbacks can be grouped. -/
  | grouped {k k' : Cont} {f g : Outcome → Plan} (h : Law k k') (hf : ∀ value, (f value).Fresh)
      (hg : ∀ value, (g value).Fresh) :
      Law (.plain [] (.extended (.plain [] (.extended k (.callback f))) (.callback g)))
        (.plain [] (.extended k' (.callback fun value => (f value).andThen g)))
  /-- The callback that gives its value adds nothing. -/
  | idle {k k' : Cont} (h : Law k k') : Law (.plain [] (.extended k (.callback .pure))) k'
  /-- What comes after a continuation that ends anyway adds nothing. -/
  | absorbed {k k' : Cont} {f : Outcome → Plan} (h : Law k k') (hk : k.Closed) :
      Law (.plain [] (.extended k (.callback f))) k'

/-- No link has taken over a continuation that comes of plans alone. -/
theorem Cont.Law.owners {k k' : Cont} (h : k.Law k') : k.owners = [] ∧ k'.owners = [] := by
  induction h with
  | callback hf => exact ⟨rfl, rfl⟩
  | extended h hf ih => exact ⟨rfl, rfl⟩
  | grouped h hf hg ih => exact ⟨rfl, rfl⟩
  | idle h ih => exact ⟨rfl, ih.2⟩
  | absorbed h hk ih => exact ⟨rfl, ih.2⟩

/-- A plan of the builders is built into a program that is related to itself. -/
theorem Plan.Fresh.outline {plan : Plan} (h : plan.Fresh) :
    Alike (Built.Rel Cont.Law) plan.outline plan.outline := by
  induction h with
  | pure value => exact .pure (.program (.final value))
  | generate chat => exact .pure (.program (.generate chat (.callback .pure)))
  | execute call => exact .pure (.program (.execute call (.callback .pure)))
  | done result => exact .pure (.program (.done result))
  | raise e => exact .throw e
  | note name _ ih => exact .bind_same _ fun _ => ih
  | andThen hfirst hnext ihFirst ihNext =>
    rw [Plan.outline]
    refine ihFirst.bind fun b b' hb => ?_
    cases hb with
    | program hp =>
      refine (hp.continued (fun _ _ h => .extended h hnext) fun value => ?_).bind
        fun q q' hq => .pure (.program hq)
      exact (ihNext value).bind fun b b' hb => hb.required _ _

/-- Wherever a plan of the builders is built, its programs are related. -/
theorem Plan.Fresh.required {plan : Plan} (h : plan.Fresh) (who who' : Text) :
    Alike (Program.Rel Cont.Law) (plan.outline >>= Built.required who)
      (plan.outline >>= Built.required who') :=
  h.outline.bind fun _ _ hb => hb.required who who'

section

variable {p p' : Program}

/-- A program followed by one callback and then another is the program followed by both. -/
theorem Program.Rel.grouped {f g : Outcome → Plan} (h : p.Rel Cont.Law p')
    (hf : ∀ value, (f value).Fresh) (hg : ∀ value, (g value).Fresh) :
    Alike (Program.Rel Cont.Law)
      (p.continued (.callback f) (Frame.callback f).follow >>= fun q =>
        q.continued (.callback g) (Frame.callback g).follow)
      (p'.continued (.callback fun value => (f value).andThen g)
        (Frame.follow (.callback fun value => (f value).andThen g))) := by
  cases h with
  | generate chat h => exact .pure (.generate chat (.grouped h hf hg))
  | execute call h => exact .pure (.execute call (.grouped h hf hg))
  | done result => exact .pure (.done result)
  | final value =>
    simp only [Program.continued, Frame.follow, Plan.outline, bind_assoc]
    refine (hf value).outline.bind fun b b' hb => ?_
    cases hb with
    | program hq =>
      simp only [Built.required, pure_bind, bind_assoc, bind_pure]
      exact hq.continued (fun _ _ h => .extended h hg) fun value => (hg value).required _ _

/-- A program followed by the callback that gives its value is the program. -/
theorem Program.Rel.idle (h : p.Rel Cont.Law p') :
    Alike (Program.Rel Cont.Law)
      (p.continued (.callback .pure) (Frame.callback .pure).follow) (pure p') := by
  cases h with
  | generate chat h => exact .pure (.generate chat (.idle h))
  | execute call h => exact .pure (.execute call (.idle h))
  | done result => exact .pure (.done result)
  | final value => exact .pure (.final value)

/-- A program that ends anyway absorbs what follows it. -/
theorem Program.Rel.absorbed {f : Outcome → Plan} {apply : Outcome → Course Program}
    (h : p.Rel Cont.Law p') (hp : p.Closed) :
    Alike (Program.Rel Cont.Law) (p.continued (.callback f) apply) (pure p') := by
  cases h with
  | generate chat h =>
    cases hp with
    | generate _ hk => exact .pure (.generate chat (.absorbed h hk))
  | execute call h =>
    cases hp with
    | execute _ hk => exact .pure (.execute call (.absorbed h hk))
  | done result => exact .pure (.done result)
  | final value => cases hp

end

/-- Continuations that differ by the laws of sequencing go on alike. -/
theorem Cont.Law.follow {k k' : Cont} (h : k.Law k') (result : Outcome) :
    Alike (Program.Rel Cont.Law) (k.follow result) (k'.follow result) := by
  induction h with
  | callback hf => exact (hf result).required _ _
  | extended _ hf ih =>
    exact ih.bind fun p p' hp =>
      hp.continued (fun _ _ h => .extended h hf) fun value => (hf value).required _ _
  | grouped _ hf hg ih =>
    simp only [Cont.plain, Cont.follow, Body.follow, bind_assoc]
    exact ih.bind fun p p' hp => hp.grouped hf hg
  | @idle k k' _ ih =>
    rw [← bind_pure (k'.follow result)]
    exact ih.bind fun p p' hp => hp.idle
  | @absorbed k k' _ _ hk ih =>
    rw [← bind_pure (k'.follow result)]
    exact ih.bind_always (hk.follow result) fun p p' hp hclosed => hp.absorbed hclosed

end Colloquy
