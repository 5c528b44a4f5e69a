import Colloquy.Proofs.Chain.Course

/-!
# What a step does

A step on a generation has the outer links take the continuation over, one inside
the other, and then asks the backend of the first generation link.  A step on a tool
call runs it through the first executor.  `Chain.taken` is the continuation after
all links have taken it over; `move_generate` and `move_execute` say what a step is
in these words.  Nothing else is known of steps further on.
-/

namespace Colloquy

namespace Chain

/-! ## The links that resolve operations -/

/-- The link that resolves generations. -/
def generator? : Chain → Option Generator
  | [] => none
  | .terminal :: _ => none
  | .generation g :: _ => some g
  | _ :: inner => generator? inner

/-- The link that resolves tool calls. -/
def executor? : Chain → Option Executor
  | [] => none
  | .terminal :: _ => none
  | .executor x :: _ => some x
  | _ :: inner => executor? inner

/-- A continuation after the links of a chain have taken it over, as far as the link that
resolves it. -/
def taken : Chain → Cont → Cont
  | [], k => k
  | .terminal :: _, k => k
  | .generation _ :: _, k => k
  | .forward :: inner, k => taken inner k
  | .breakOn names :: inner, k =>
    let owner := (Link.breakOn names).owner inner
    if k.ownedBy owner then taken inner k
    else taken inner (.plain (k.owners.insert owner) (.check names k))
  | .executor x :: inner, k =>
    let owner := (Link.executor x).owner inner
    if x.auto && !k.ownedBy owner then
      taken inner (.plain (k.owners.insert owner) (.rounds (x.loop owner) k 0))
    else taken inner k

/-! ## Steps -/

/-- A link that takes a program over hands on what the links inside made of it. -/
theorem handed_on {p : Program} {d : Course (Option Program)} {d' : Course Program}
    (h : d = (do return some (← d'))) :
    (do return some ((← d).getD p) : Course (Option Program)) = (do return some (← d')) := by
  rw [h]
  simp only [bind_assoc, pure_bind, Option.getD_some]

/-- A step on a generation: one exchange, whose result goes to the continuation that the links
have taken over. -/
theorem move_generate {chain : Chain} {g : Generator} (hg : chain.generator? = some g)
    (chat : Chat) (k : Cont) :
    chain.move (.pending (.generate chat k)) = (do
      return some (← (do (chain.taken k).follow (← g.ask chat)))) := by
  induction chain generalizing k with
  | nil => cases hg
  | cons link inner ih =>
    cases link with
    | terminal => cases hg
    | forward => exact ih hg k
    | generation g' =>
      cases hg
      show (do return some (← k.follow (← g.ask chat))) = _
      simp only [taken, bind_assoc]
    | breakOn names =>
      show (if k.ownedBy _ then move inner _ else _) = _
      rw [taken]
      split
      · exact ih hg k
      · exact handed_on (ih hg _)
    | executor x =>
      show (if x.auto && !k.ownedBy _ then _ else move inner _) = _
      rw [taken]
      split
      · exact handed_on (ih hg _)
      · exact ih hg k

/-- A step on a tool call: the call is carried out, and its result goes to the continuation. -/
theorem move_execute {chain : Chain} {x : Executor} (hx : chain.executor? = some x)
    (call : ToolCall) (k : Cont) :
    chain.move (.pending (.execute call k)) = (do
      return some (← (do k.follow (← x.carryOut call)))) := by
  induction chain with
  | nil => cases hx
  | cons link inner ih =>
    cases link with
    | terminal => cases hx
    | forward => exact ih hx
    | generation g => exact ih hx
    | breakOn names => exact ih hx
    | executor x' =>
      cases hx
      show (do return some (← k.follow (← x.carryOut call))) = _
      simp only [bind_assoc]

end Chain

end Colloquy
