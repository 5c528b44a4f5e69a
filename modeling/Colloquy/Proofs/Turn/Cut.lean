import Colloquy.Proofs.Turn.Break
import Colloquy.Proofs.Turn.Limit
import Colloquy.Proofs.Turn.Midway

/-!
# Sequencing in the middle of a run

A program can be stepped, and a callback be put behind the program that was obtained.
`Chain.GivesCut` is what a run of the result gives.

Within a turn the program that was obtained waits with a continuation that the executor
owns.  Sequencing puts a continuation without owners around it, so the executor takes it
over once more and counts the rounds anew.  That is seen when the turn uses up the rounds
that the limit leaves (`Assembly.RunsOut`): the calls of its last message are executed
although no rounds are left.  In all other cases the run is the one in which the callback
follows from the beginning (`Assembly.sequencing_at_cut`).
-/

namespace Colloquy

open Course

/-! ## Stepping programs -/

namespace Chain

/-- The program after a number of steps.  A step in which the links pass the very same program on
leaves it as it is. -/
def stepped (chain : Chain) : Nat → Program → Act Program
  | 0, p => return p
  | n + 1, p => do stepped chain n (← (do return (← chain.step p).getD p))

/-- The program that is built of a plan, after a number of steps. -/
def cut (chain : Chain) (n : Nat) (plan : Plan) : Act Program := do
  chain.stepped n (← (← plan.build).expect "Plan")

/-- The outcome of a program that is stepped a number of times before a callback is put behind it,
none when more than `fuel` steps would be needed after that. -/
def performCut (chain : Chain) (n fuel : Nat) (plan : Plan) (f : Outcome → Plan) :
    Act (Option Outcome) := do
  chain.run fuel (← (← chain.cut n plan).andThen f)

/-- A program that is stepped a number of times before a callback is put behind it ends with a
result. -/
def GivesCut (chain : Chain) (n : Nat) (plan : Plan) (f : Outcome → Plan) (before : Ledger)
    (result : Except Exception Outcome) (after : Ledger) : Prop :=
  ∃ fuel, chain.performCut n fuel plan f before = (result.map some, after)

variable {chain : Chain} {plan : Plan} {before l : Ledger}

/-- Steps without numbers are as those with them. -/
theorem stepped_tracks (chain : Chain) (n : Nat) (p : Program) (hl : l.Sound)
    (hu : l.Usable p.numbers) :
    Tracks (chain.stepped n p) (chain.moved n p.bare) p.numbers l := by
  induction n generalizing p l with
  | zero => exact .give (x := p) hl hu
  | succ n ih =>
    have hstep := (chain.step_tracks p l hl hu).getD hu fun _ => step_none
    exact hstep.bind_all hu fun q l' hl' hq => ih q hl' hq

theorem cut_tracks (chain : Chain) (n : Nat) (plan : Plan) (hl : l.Sound) :
    Tracks (chain.cut n plan) (do chain.moved n (← plan.opening)) [] l := by
  rw [cut, Plan.opening, ← bind_assoc]
  exact (plan.expect_tracks "Plan" hl).bind_all (.nil l) fun p l' hl' hp =>
    chain.stepped_tracks n p hl' hp

/-- Sequencing without numbers is as with them. -/
theorem andThen_tracks (p : Program) (f : Outcome → Plan) (hl : l.Sound)
    (hu : l.Usable p.numbers) : Tracks (p.andThen f) (p.bare.followedBy f) p.numbers l := by
  have hnil : p.numbers ++ (Frame.callback f).numbers = p.numbers := List.append_nil _
  have h := p.sequence_tracks (.callback f) (f := fun value => (f value).build)
    (g := (Frame.callback f).follow) hl (by rwa [hnil]) fun value =>
      (f value).expect_tracks "and_then callback" hl
  rw [hnil] at h
  exact h

theorem performCut_tracks (chain : Chain) (n fuel : Nat) (plan : Plan) (f : Outcome → Plan)
    (hl : l.Sound) :
    Tracks (chain.performCut n fuel plan f)
      (do chain.drive fuel (← (do
        (← (do chain.moved n (← plan.opening))).followedBy f))) [] l := by
  rw [performCut, ← bind_assoc]
  have hfollowed : Tracks (do (← chain.cut n plan).andThen f)
      (do (← (do chain.moved n (← plan.opening))).followedBy f) [] l :=
    (chain.cut_tracks n plan hl).bind_all (.nil l) fun p l' hl' hp => andThen_tracks p f hl' hp
  exact hfollowed.bind_all (.nil l) fun p l' hl' hp => chain.run_tracks fuel p l' hl' hp

/-- What comes of a program that is stepped before a callback is put behind it is what is settled
without numbers. -/
theorem givesCut_iff (n : Nat) (f : Outcome → Plan) (hl : before.Sound)
    {result : Except Exception Outcome} {events' : List Event} :
    (∃ after, chain.GivesCut n plan f before result after ∧ after.events = events') ↔
      chain.Settles (do (← (do chain.moved n (← plan.opening))).followedBy f) before.events
        result events' := by
  rw [← exists_iff_settles fun fuel => chain.performCut_tracks n fuel plan f hl]
  constructor
  · rintro ⟨after, ⟨fuel, hrun⟩, hevents⟩
    exact ⟨fuel, after, hrun, hevents⟩
  · rintro ⟨fuel, after, hrun, hevents⟩
    exact ⟨after, ⟨fuel, hrun⟩, hevents⟩

/-- Whether a run ended. -/
def ended : Except Exception (Option Outcome) → Bool
  | .ok none => false
  | _ => true

/-- A run that was seen to end gives a result. -/
theorem givesCut_of_ended (chain : Chain) (n fuel : Nat) (plan : Plan) (f : Outcome → Plan)
    (before : Ledger) (h : ended (chain.performCut n fuel plan f before).1 = true) :
    ∃ result, chain.GivesCut n plan f before result (chain.performCut n fuel plan f before).2 := by
  have hends : ∃ result : Except Exception Outcome,
      (chain.performCut n fuel plan f before).1 = result.map some := by
    match (chain.performCut n fuel plan f before).1, h with
    | .ok (some value), _ => exact ⟨.ok value, rfl⟩
    | .error e, _ => exact ⟨.error e, rfl⟩
  obtain ⟨result, hresult⟩ := hends
  exact ⟨result, fuel, Prod.ext hresult rfl⟩

/-- The program that is obtained, without its numbers. -/
theorem moved_of_cut {n : Nat} {q : Program} {m : Ledger} (hl : before.Sound)
    (h : chain.cut n plan before = (.ok q, m)) :
    (do chain.moved n (← plan.opening)) before.events = (.ok q.bare, m.events) := by
  have hresult := (chain.cut_tracks n plan hl).result
  rw [h] at hresult
  exact hresult

theorem exists_cut_of_moved {n : Nat} {p : Program} {reached : List Event} (hl : before.Sound)
    (h : (do chain.moved n (← plan.opening)) before.events = (.ok p, reached)) :
    ∃ q m, chain.cut n plan before = (.ok q, m) ∧ q.bare = p ∧ m.events = reached := by
  have hresult := (chain.cut_tracks n plan hl).result
  rw [h] at hresult
  obtain ⟨hprogram, hevents⟩ := Prod.mk.inj hresult
  obtain ⟨q, hq, hbare⟩ := Except.map_eq_ok hprogram.symm
  exact ⟨q, _, Prod.ext hq rfl, hbare, hevents.symm⟩

end Chain

/-- A callback comes after the frames of a program that runs a tool call. -/
theorem Program.running_followedBy (call : ToolCall) (frames : List Frame) (f : Outcome → Plan) :
    (running call frames).followedBy f = pure (running call (frames ++ [.callback f])) := by
  rw [running, running, Cont.through, Cont.through, List.foldl_append]
  rfl

/-! ## Turns with more rounds -/

/-- A turn that has a reply ends with a chat without open calls. -/
theorem SoloChain.pendingCalls_of_replied {s : SoloChain} {left : Nat} {chat ended : Chat}
    {events events' : List Event}
    (h : s.turn left s.watchedLater chat events = (.ok (.replied ended), events')) :
    ended.pendingCalls = [] := by
  obtain ⟨rounds, reached, -, -, hlast⟩ := turn_eq_ok_iff.1 h
  cases hlast with
  | @replied message _ _ hcalls => rw [Chat.pendingCalls_addMessage, hcalls]

namespace Assembly

variable {a : Assembly} {most left count : Nat} {chat : Chat} {k : Cont} {f : Outcome → Plan}
  {events events' : List Event} {result : Except Exception Outcome}

/-- A turn that does not use up its rounds is the same with more of them. -/
theorem turn_more (h : ∀ rounds last spent, ¬a.Exhausts left chat events rounds last spent)
    (extra : Nat) :
    a.solo.turn (left + extra) a.solo.watchedLater chat events
      = a.solo.turn left a.solo.watchedLater chat events := by
  cases hturn : a.solo.turn left a.solo.watchedLater chat events with
  | mk r spent =>
    obtain ⟨rounds, reached, hlength, hrounds, hcloses⟩ := SoloChain.turn_eq_iff.1 hturn
    refine SoloChain.turn_eq_iff.2 ⟨rounds, reached, by omega, hrounds, ?_⟩
    cases r with
    | error e =>
      cases hcloses with
      | exchange hnext => exact .exchange hnext
      | call hleft hnext hnames hcalls hraised =>
        exact .call (by omega) hnext hnames hcalls hraised
    | ok ending =>
      cases hcloses with
      | unanswered hnext => exact .unanswered hnext
      | stopped hnext hnames => exact .stopped hnext hnames
      | replied hnext hcalls => exact .replied hnext hcalls
      | refused hleft hnext hnames hcalls hrefused =>
        exact .refused (by omega) hnext hnames hcalls hrefused
      | @exhausted last _ hleft hnext hnames hcalls =>
        rw [a.solo_rounds] at hrounds
        rw [a.solo_watchedLater] at hnames
        exact absurd ⟨by omega, reached, hrounds, hnext, hcalls, hnames⟩ (h rounds last spent)

/-! ## Turns that are taken over once more -/

/-- The turn that goes on at a program uses up the rounds that the limit leaves: after them comes
one more message with calls, which no tool ends the turn for.  The last events are those up to
this message. -/
inductive RunsOut (a : Assembly) (most : Nat) : Program → List Event → List Event → Prop
  | asking {chat : Chat} {k : Cont} {count : Nat} {rounds : List Round} {last : AssistantMessage}
      {events spent : List Event} (hcount : 0 < count ∧ count ≤ most)
      (h : a.Exhausts (most - count) chat events rounds last spent) :
      RunsOut a most (.pending (.generate chat (a.midway k count))) events spent
  | answering {chat : Chat} {call : ToolCall} {others : List ToolCall} {k : Cont} {count : Nat}
      {answers : List Answer} {rounds : List Round} {last : AssistantMessage}
      {events reached spent : List Event} (hcount : 0 < count ∧ count ≤ most)
      (hanswers : a.executor.registry.answers a.executor.policy (call :: others) events
        = (.ok (.ok answers), reached))
      (h : a.Exhausts (most - count) (chat.answered answers) reached rounds last spent) :
      RunsOut a most (.running call (a.solo.loop.frames chat call others k count)) events spent

/-- A callback that follows the rounds of a turn is taken over as a new continuation, and all
rounds that the limit allows are left. -/
theorem ends_followed_iff (hmost : a.executor.limit.rounds? = some most) (chat : Chat) (k : Cont)
    (count : Nat) :
    a.chain.Ends (.pending (.generate chat ((a.midway k count).andThen f))) events result events' ↔
      a.chain.Settles (do
        (← a.solo.turn most a.solo.watchedLater chat).proceed ((a.midway k count).andThen f))
        events result events' := by
  rw [a.solo_watchedLater, ← a.solo_watchedFirst]
  exact SoloChain.ends_generate (s := a.solo) (k := (a.midway k count).andThen f) hmost rfl chat

/-- The rounds of a turn that the executor owns go on with those that are left. -/
theorem ends_midway_iff (hmost : a.executor.limit.rounds? = some most) (hcount : count ≤ most)
    (chat : Chat) (k : Cont) :
    a.chain.Ends (.pending (.generate chat (a.midway k count))) events result events' ↔
      a.chain.Settles (do
        (← a.solo.turn (most - count) a.solo.watchedLater chat).proceed k) events result
        events' := by
  rw [Chain.ends_generate a.generator?_chain, taken_midway, a.solo_watchedLater]
  exact SoloChain.settles_turn hmost (.refl k) (most - count) (by omega) (guards_midway k count)
    chat

/-- The end of a turn goes through rounds that come to nothing. -/
theorem proceed_midway {ending : TurnEnd}
    (h : ∀ ended, ending = .replied ended → ended.pendingCalls = []) :
    ending.proceed ((a.midway k count).andThen f) = ending.proceed (k.andThen f) := by
  cases ending with
  | stopped ended => rfl
  | failed e => rfl
  | replied ended =>
    show (do (← (Cont.follow (.plain _ (.rounds a.solo.loop k count)) _)).followedBy f) = _
    rw [Cont.plain, Cont.follow, Body.follow, h ended rfl]
    rfl

/-- A generation that a callback was put behind ends as the one in which the callback waited, unless
the turn uses up its rounds. -/
theorem sameEnds_asking (hmost : a.executor.limit.rounds? = some most) (hcount : count ≤ most)
    (h : ∀ rounds last spent, ¬a.Exhausts (most - count) chat events rounds last spent) :
    a.chain.SameEnds (pure (.pending (.generate chat ((a.midway k count).andThen f)))) events
      (pure (.pending (.generate chat (a.midway (k.andThen f) count)))) events := by
  intro result last
  rw [Chain.settles_pure, Chain.settles_pure, ends_followed_iff hmost, ends_midway_iff hmost hcount]
  have hmore := turn_more h count
  rw [Nat.sub_add_cancel hcount] at hmore
  rw [Chain.settles_congr (by rw [bind_apply, hmore, ← bind_apply])]
  refine Chain.settles_bind_congr_of_ok fun ending reached hturn => ?_
  rw [proceed_midway fun ended heq => SoloChain.pendingCalls_of_replied (heq ▸ hturn)]

/-- A callback that is put behind a round comes after its last frame. -/
theorem settles_running_followed (chat : Chat) (call : ToolCall) (others : List ToolCall) (k : Cont)
    (count : Nat) :
    a.chain.Settles ((Program.running call
        (a.solo.loop.frames chat call others k count)).followedBy f) events result events' ↔
      a.chain.Settles (do
        match ← a.executor.registry.answers a.executor.policy (call :: others) with
        | .ok answers =>
          return .pending (.generate (chat.answered answers) ((a.midway k count).andThen f))
        | .error e => (k.andThen f).follow (.failure (.own e))) events result events' := by
  have hround : (Program.running call (a.solo.loop.frames chat call others k count)).followedBy f
      = (Program.final (.success (.chat chat))).onward
        ((call :: others).map (.answer · a.executor.policy) ++
          [.regenerate a.solo.loop k count, .callback f]) := by
    rw [Program.running_followedBy, List.map_cons, List.cons_append, Program.onward_answer,
      ToolLoop.frames, List.cons_append, List.cons_append, List.append_assoc]
    rfl
  rw [hround, Chain.settles_onward a.executor?_chain]
  refine Chain.settles_bind_congr fun answers reached => ?_
  cases answers with
  | ok answers => rfl
  | error e =>
    show a.chain.Settles (k.follow _ >>= fun p => p.followedBy f >>= pure) _ _ _ ↔ _
    simp only [bind_pure]
    rfl

/-- A callback that is put behind the program at which a run stands comes to what it comes to when
it follows from the beginning, unless the turn that goes on uses up its rounds. -/
theorem Standing.sameEnds (hmost : a.executor.limit.rounds? = some most) {q : Program}
    {d : Course Program} (hq : a.Standing most f q d)
    (h : ∀ spent, ¬a.RunsOut most q events spent) :
    a.chain.SameEnds (q.followedBy f) events d events := by
  cases hq with
  | between hq => exact .refl _ _
  | asking chat hk hcount =>
    exact sameEnds_asking hmost hcount.2 fun rounds last spent hspent =>
      h spent (.asking hcount hspent)
  | answering chat call others hk hcount =>
    intro result last
    rw [settles_running_followed, ToolLoop.running_frames,
      Chain.settles_answers a.executor?_chain]
    refine Chain.settles_bind_congr_of_ok fun answers reached hanswers => ?_
    cases answers with
    | error e => rfl
    | ok answers =>
      exact sameEnds_asking hmost hcount.2 (fun rounds last spent hspent =>
        h spent (.answering hcount hanswers hspent)) result last

/-- A turn that was taken over once more goes past the limit: the calls of the message after which
no rounds are left are answered. -/
theorem Exhausts.passed (hmost : a.executor.limit.rounds? = some most)
    (hcount : 0 < count ∧ count ≤ most) {rounds : List Round} {last : AssistantMessage}
    {spent : List Event} (h : a.Exhausts (most - count) chat events rounds last spent)
    (hends : a.chain.Ends (.pending (.generate chat ((a.midway k count).andThen f))) events result
      events') :
    ∃ call ∈ last.calls, spent ++ [.invoked call] <+: events' := by
  obtain ⟨hlength, reached, hrounds, hnext, hcalls, hnames⟩ := h
  rw [← a.solo_rounds] at hrounds
  rw [← a.solo_watchedLater] at hnames
  obtain ⟨left, rfl⟩ := Nat.exists_eq_add_of_le' hcount.1
  have hturn := hrounds.turn (left + 1)
  rw [hlength, Nat.add_sub_cancel' hcount.2] at hturn
  rw [ends_followed_iff hmost, Chain.settles_congr (by rw [bind_apply, hturn, ← bind_apply])]
    at hends
  exact (SoloChain.answers_of_settles hnext hnames hcalls hends).2

theorem RunsOut.passed (hmost : a.executor.limit.rounds? = some most) {q : Program}
    {spent : List Event} (h : a.RunsOut most q events spent)
    (hsettles : a.chain.Settles (q.followedBy f) events result events') :
    ∃ call, spent ++ [.invoked call] <+: events' := by
  cases h with
  | asking hcount h =>
    obtain ⟨call, -, hcall⟩ := h.passed hmost hcount hsettles
    exact ⟨call, hcall⟩
  | answering hcount hanswers h =>
    rw [settles_running_followed, Chain.settles_bind_of_ok hanswers] at hsettles
    obtain ⟨call, -, hcall⟩ := h.passed hmost hcount hsettles
    exact ⟨call, hcall⟩

/-! ## Callbacks that are put behind later -/

variable {before : Ledger} {plan : Plan}

/-- A callback that is put behind a program after a number of steps comes to what it comes to when
it follows the program from the beginning: the runs give the same value or raise the same
exception, and the same happens in them.  This is so unless the program that is obtained is within
a turn that uses up its rounds.  Then a run goes past the limit: after the last message that the
limit leaves a call is handed to the registry. -/
theorem sequencing_at_cut (hmost : a.executor.limit.rounds? = some most) (hl : before.Sound)
    (hplan : plan.isProgram = true) (f : Outcome → Plan) (n : Nat) :
    ((∀ q m spent, a.chain.cut n plan before = (.ok q, m) →
        ¬a.RunsOut most q.bare m.events spent) →
      ∀ result events',
        (∃ after, a.chain.GivesCut n plan f before result after ∧ after.events = events') ↔
          ∃ after, a.chain.Gives (plan.andThen f) before result after ∧ after.events = events') ∧
    (∀ q m spent, a.chain.cut n plan before = (.ok q, m) → a.RunsOut most q.bare m.events spent →
      ∀ result after, a.chain.GivesCut n plan f before result after →
        ∃ call, spent ++ [.invoked call] <+: after.events) := by
  constructor
  · intro hcut result events'
    have hkeeps : a.Keeps most f (do a.chain.moved n (← plan.opening)) (plan.andThen f).opening
        before.events := by
      rw [Plan.opening_andThen hplan]
      exact (Keeps.followed (plan.required_fresh "Plan")).bind fun q d reached hq =>
        hq.moved hmost n reached
    rw [Chain.givesCut_iff n f hl, Chain.gives_iff hl]
    unfold Keeps at hkeeps
    cases hmoved : (do a.chain.moved n (← plan.opening)) before.events with
    | mk r reached =>
      rw [hmoved] at hkeeps
      cases hkeeps with
      | raised hsame =>
        rw [Chain.settles_bind_of_error hmoved]
        exact (hsame result events').symm
      | stands hq hsame =>
        obtain ⟨q, m, hobtained, rfl, rfl⟩ := Chain.exists_cut_of_moved hl hmoved
        rw [Chain.settles_bind_of_ok hmoved, hsame]
        exact hq.sameEnds hmost (fun spent => hcut q m spent hobtained) result events'
  · intro q m spent hobtained hspent result after hgives
    have hsettles := (Chain.givesCut_iff n f hl).1 ⟨after, hgives, rfl⟩
    rw [Chain.settles_bind_of_ok (Chain.moved_of_cut hl hobtained)] at hsettles
    exact hspent.passed hmost hsettles

/-! ## A backend that never stops asking -/

/-- The assembly whose backend asks for the time in every reply, without a clock. -/
def clockless : Assembly :=
  { insistent with executor := { insistent.executor with registry := ⟨[], List.nodup_nil⟩ } }

/-- Without tools no call is answered. -/
theorem clockless_answers (call : ToolCall) (others : List ToolCall) (answers : List Answer)
    (events reached : List Event) :
    clockless.executor.registry.answers clockless.executor.policy (call :: others) events
      ≠ (.ok (.ok answers), reached) := by
  intro h
  obtain ⟨answer, rest, between, -, hanswer, -⟩ := Registry.answers_cons_eq_ok_iff.1 h
  obtain ⟨-, hwritten | ⟨hpolicy, -⟩⟩ := Registry.answer_eq_ok_iff.1 hanswer
  · have hunknown : clockless.executor.registry.get? call.name = none := rfl
    rw [Registry.written, hunknown] at hwritten
    cases hwritten
  · cases hpolicy

/-- Whether a program that is obtained waits for a tool call. -/
def awaitsTool : Except Exception Program → Bool
  | .ok (.pending (.execute _ _)) => true
  | _ => false

theorem exists_of_awaitsTool {q : Program} (h : awaitsTool (.ok q) = true) :
    ∃ call k, q = .pending (.execute call k) := by
  match q with
  | .pending (.execute call k) => exact ⟨call, k, rfl⟩
  | .pending (.generate _ _) | .pending (.done _) | .final _ | .both _ _ | .neither => cases h

/-- The first step leads to a program that waits for a tool call, which is not answered, so no turn
uses up its rounds from there. -/
theorem clockless_not_runsOut {q : Program} {m : Ledger} {spent : List Event}
    (h : clockless.chain.cut 1 (.generate clockChat) {} = (.ok q, m)) :
    ¬clockless.RunsOut 1 q.bare m.events spent := by
  have hawaits : awaitsTool (clockless.chain.cut 1 (.generate clockChat) {}).1 = true := by
    decide +kernel
  rw [h] at hawaits
  obtain ⟨call, k, rfl⟩ := exists_of_awaitsTool hawaits
  intro hspent
  generalize hp : (Program.pending (.execute call k)).bare = p at hspent
  cases hspent with
  | asking => cases hp
  | answering hcount hanswers h => exact clockless_answers _ _ _ _ _ hanswers

/-- A callback that is put behind the call of the first round comes to what it comes to when it
follows from the beginning: the call fails in both runs. -/
theorem sequencing_at_cut_clockless :
    ∃ result after after',
      clockless.chain.GivesCut 1 (.generate clockChat) .pure {} result after ∧
      clockless.chain.Gives ((Plan.generate clockChat).andThen .pure) {} result after' ∧
      after.events = after'.events := by
  have hmost : clockless.executor.limit.rounds? = some 1 := rfl
  have hplan : (Plan.generate clockChat).isProgram = true := rfl
  have h := (sequencing_at_cut hmost .empty hplan .pure 1).1 fun q m spent hobtained =>
    clockless_not_runsOut hobtained
  obtain ⟨result, after', hgives⟩ :=
    clockless.solo.exists_gives_andThen rfl clockless.terminal_mem .empty clockChat
  obtain ⟨after, hcut, hsame⟩ := (h result after'.events).2 ⟨after', hgives, rfl⟩
  exact ⟨result, after, after', hcut, hgives, hsame⟩

/-- It is not so that a callback which is put behind a program after a number of steps comes to what
it comes to when it follows the program from the beginning: with a limit of one round, a callback
that is put behind the call of the first round lets the model be asked a third time. -/
theorem cut_unlike :
    ¬∀ (a : Assembly) (most : Nat) (before : Ledger) (plan : Plan) (f : Outcome → Plan) (n : Nat),
      a.executor.limit.rounds? = some most → before.Sound → plan.isProgram = true →
      ∀ result after, a.chain.GivesCut n plan f before result after →
        ∃ after', a.chain.Gives (plan.andThen f) before result after' ∧
          after'.requests = after.requests ∧ after'.invocations = after.invocations := by
  intro halike
  obtain ⟨result, hcut⟩ := insistent.chain.givesCut_of_ended 1 5 (.generate clockChat) .pure {}
    (by decide +kernel)
  have hthree : (insistent.chain.performCut 1 5 (.generate clockChat) .pure {}).2.requests.length
      = 3 := by decide +kernel
  obtain ⟨after, hgives, hrequests, -⟩ := halike insistent 1 {} (.generate clockChat) .pure 1 rfl
    .empty rfl result _ hcut
  have htwo := insistent.solo.requests_of_gives_andThen rfl insistent.terminal_mem .empty hgives
  rw [hrequests, hthree] at htwo
  exact absurd htwo (by decide)

end Assembly

end Colloquy
