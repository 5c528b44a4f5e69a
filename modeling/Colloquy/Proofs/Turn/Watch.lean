import Colloquy.Proofs.Turn.Answer

/-!
# Links that watch a turn

Of the links around a generation only an automatic executor answers tool calls.  All
others are passive: they do nothing, or they watch for tools that end the turn.
`Cont.Guards` says what the watching ones make of a continuation, and
`Chain.taken_passive` that passive links make nothing else of it.
-/

namespace Colloquy

/-! ## Calls that end a turn -/

/-- Whether one of the named tools is among calls. -/
def callsAny (names : List Text) (calls : List ToolCall) : Bool :=
  calls.any fun call => names.contains call.name

@[simp] theorem callsAny_nil_names (calls : List ToolCall) : callsAny [] calls = false := by
  unfold callsAny
  simp

@[simp] theorem callsAny_nil (names : List Text) : callsAny names [] = false := rfl

theorem callsAny_append (names more : List Text) (calls : List ToolCall) :
    callsAny (names ++ more) calls = (callsAny names calls || callsAny more calls) := by
  induction calls with
  | nil => rfl
  | cons call calls ih =>
    show ((names ++ more).contains call.name || callsAny (names ++ more) calls)
      = ((names.contains call.name || callsAny names calls)
        || (more.contains call.name || callsAny more calls))
    rw [ih, List.contains_append, Bool.or_assoc, Bool.or_assoc,
      Bool.or_left_comm (more.contains call.name)]

theorem Chat.pendingCalls_addMessage (chat : Chat) (turn : AssistantMessage) :
    (chat.addMessage (.assistant turn)).pendingCalls = turn.calls := by
  have hlast : (chat.addMessage (.assistant turn)).lastMessage? = some (.assistant turn) := by
    rw [Chat.lastMessage?, Chat.addMessage, List.getLast?_append]
    rfl
  rw [Chat.pendingCalls, hlast]
  rfl

/-! ## Guards -/

/-- A continuation that ends the run with a chat whose calls are among some names, and leaves the
rest to another continuation. -/
structure Cont.Guards (k' : Cont) (names : List Text) (k : Cont) : Prop where
  failure : ∀ e, k'.follow (.failure e) = k.follow (.failure e)
  chat : ∀ chat : Chat, k'.follow (.success (.chat chat)) =
    if callsAny names chat.pendingCalls then pure (.pending (.done (.success (.chat chat))))
    else k.follow (.success (.chat chat))

namespace Cont.Guards

variable {k k' k'' : Cont} {names more : List Text}

theorem refl (k : Cont) : k.Guards [] k where
  failure _ := rfl
  chat chat := by rw [callsAny_nil_names, if_neg Bool.false_ne_true]

theorem check (owners : List Owner) (names : List Text) (k : Cont) :
    (Cont.plain owners (.check names k)).Guards names k where
  failure _ := rfl
  chat _ := rfl

theorem trans (h : k''.Guards more k') (h' : k'.Guards names k) :
    k''.Guards (more ++ names) k where
  failure e := (h.failure e).trans (h'.failure e)
  chat chat := by
    rw [h.chat, h'.chat, callsAny_append]
    cases callsAny more chat.pendingCalls <;> rfl

end Cont.Guards

/-! ## Passive links -/

/-- Whether a link neither asks the backend nor answers tool calls by itself. -/
def Link.isPassive : Link → Bool
  | .executor x => !x.auto
  | .breakOn _ => true
  | .forward => true
  | .generation _ => false
  | .terminal => false

namespace Chain

/-- The names of the tools that links watch for. -/
def watched : Chain → List Text
  | [] => []
  | .breakOn names :: inner => watched inner ++ names
  | _ :: inner => watched inner

/-- Passive links take a continuation over by guarding it, when none of them has done so before.
What they do not touch, and their places, are known. -/
theorem taken_passive {outside : Chain} (hpassive : ∀ link ∈ outside, link.isPassive = true)
    (rest : Chain) (k : Cont)
    (hfree : ∀ o ∈ k.owners, o.place < rest.length ∨ (outside ++ rest).length ≤ o.place) :
    ∃ k' : Cont, taken (outside ++ rest) k = taken rest k' ∧ k'.Guards (watched outside) k ∧
      (∀ o ∈ k'.owners, o ∈ k.owners ∨ rest.length ≤ o.place) ∧
      (∀ o ∈ k.owners, o ∈ k'.owners) := by
  induction outside generalizing k with
  | nil => exact ⟨k, rfl, .refl k, fun o ho => .inl ho, fun o ho => ho⟩
  | cons link outside ih =>
    have hinner : ∀ l ∈ outside, l.isPassive = true := fun l hl =>
      hpassive l (List.mem_cons_of_mem link hl)
    have hlink := hpassive link List.mem_cons_self
    have hfree' : ∀ o ∈ k.owners, o.place < rest.length ∨ (outside ++ rest).length < o.place :=
      hfree
    have hskip : ∀ o ∈ k.owners, o.place < rest.length ∨ (outside ++ rest).length ≤ o.place :=
      fun o ho => (hfree' o ho).imp_right Nat.le_of_lt
    cases link with
    | generation g => cases hlink
    | terminal => cases hlink
    | forward => exact ih hinner k hskip
    | executor x =>
      have hmanual : x.auto = false := by simpa [Link.isPassive] using hlink
      have htaken : taken (.executor x :: (outside ++ rest)) k = taken (outside ++ rest) k := by
        rw [taken, hmanual]
        rfl
      rw [List.cons_append, htaken]
      exact ih hinner k hskip
    | breakOn names =>
      let owner := (Link.breakOn names).owner (outside ++ rest)
      have hplace : owner.place = (outside ++ rest).length := rfl
      have hlength : rest.length ≤ (outside ++ rest).length := by
        rw [List.length_append]
        omega
      have hnew : k.ownedBy owner = false := by
        rw [Cont.ownedBy, List.contains_eq_mem, decide_eq_false_iff_not]
        intro hmem
        rcases hfree' owner hmem with hlow | hhigh
        · omega
        · omega
      have htaken : taken (.breakOn names :: (outside ++ rest)) k
          = taken (outside ++ rest) (.plain (k.owners.insert owner) (.check names k)) := by
        rw [taken]
        exact if_neg (by rw [hnew]; exact Bool.false_ne_true)
      obtain ⟨k', hk', hguards, howners, hkept⟩ :=
        ih hinner (.plain (k.owners.insert owner) (.check names k)) (by
          intro o ho
          rcases List.mem_insert_iff.1 ho with rfl | ho
          · exact .inr (Nat.le_refl _)
          · exact hskip o ho)
      refine ⟨k', ?_, ?_, ?_, ?_⟩
      · rw [List.cons_append, htaken, hk']
      · exact hguards.trans (.check _ names k)
      · intro o ho
        rcases howners o ho with ho | ho
        · rcases List.mem_insert_iff.1 ho with rfl | ho
          · exact .inr hlength
          · exact .inl ho
        · exact .inr ho
      · intro o ho
        exact hkept o (List.mem_insert_iff.2 (.inr ho))

end Chain

/-! ## Chains with one automatic executor -/

/-- A chain in which one automatic executor, and no other link, answers the tool calls of the
generator.  What is inside the generator has no part in a turn. -/
structure SoloChain where
  outside : Chain
  executor : Executor
  between : Chain
  generator : Generator
  inside : Chain
  auto : executor.auto = true
  passiveOutside : ∀ link ∈ outside, link.isPassive = true
  passiveBetween : ∀ link ∈ between, link.isPassive = true

namespace SoloChain

variable (s : SoloChain)

/-- The links that are inside the executor. -/
def core : Chain :=
  s.between ++ .generation s.generator :: s.inside

/-- The links of the chain. -/
def chain : Chain :=
  s.outside ++ .executor s.executor :: s.core

/-- The automatic executor as an owner. -/
def owner : Owner :=
  (Link.executor s.executor).owner s.core

/-- The loop that the automatic executor drives. -/
def loop : ToolLoop :=
  s.executor.loop s.owner

/-- The executor that runs the tools: the outermost one. -/
def runner : Executor :=
  (Chain.executor? s.outside).getD s.executor

/-- The tools that end a turn in its first generation. -/
def watchedFirst : List Text :=
  Chain.watched s.between

/-- The tools that end a turn in its later generations. -/
def watchedLater : List Text :=
  Chain.watched s.between ++ Chain.watched s.outside

theorem generator?_chain : s.chain.generator? = some s.generator := by
  have hskip : ∀ links rest : Chain, (∀ link ∈ links, link.isPassive = true) →
      Chain.generator? (links ++ rest) = Chain.generator? rest := by
    intro links rest h
    induction links with
    | nil => rfl
    | cons link links ih =>
      have hlinks := ih fun l hl => h l (List.mem_cons_of_mem link hl)
      have hlink := h link List.mem_cons_self
      cases link with
      | generation g => cases hlink
      | terminal => cases hlink
      | executor | breakOn | forward => exact hlinks
  rw [chain, hskip _ _ s.passiveOutside]
  show Chain.generator? s.core = _
  rw [core, hskip _ _ s.passiveBetween]
  rfl

theorem executor?_chain : s.chain.executor? = some s.runner := by
  have houtside : ∀ outside rest : Chain, (∀ link ∈ outside, link.isPassive = true) →
      Chain.executor? (outside ++ .executor s.executor :: rest)
        = some ((Chain.executor? outside).getD s.executor) := by
    intro outside rest h
    induction outside with
    | nil => rfl
    | cons link outside ih =>
      have hlinks := ih fun l hl => h l (List.mem_cons_of_mem link hl)
      have hlink := h link List.mem_cons_self
      cases link with
      | generation g => cases hlink
      | terminal => cases hlink
      | executor x => rfl
      | breakOn | forward => exact hlinks
  exact houtside s.outside s.core s.passiveOutside

/-- A continuation that the executor owns is only guarded. -/
theorem taken_core {k : Cont} (hfree : ∀ o ∈ k.owners, s.core.length ≤ o.place) :
    ∃ k' : Cont, s.core.taken k = k' ∧ k'.Guards s.watchedFirst k := by
  obtain ⟨k', hk', hguards, -, -⟩ :=
    Chain.taken_passive s.passiveBetween (.generation s.generator :: s.inside) k
      fun o ho => .inr (hfree o ho)
  exact ⟨k', hk', hguards⟩

/-- How a new continuation is taken over: it is guarded, then the executor puts its rounds in front
of it, and these are guarded again. -/
theorem taken_first {k : Cont} (hnew : k.owners = []) :
    ∃ (k₁ k₂ : Cont) (owners : List Owner), s.chain.taken k = k₂ ∧
      k₁.Guards (Chain.watched s.outside) k ∧
      k₂.Guards s.watchedFirst (.plain owners (.rounds s.loop k₁ 0)) := by
  obtain ⟨k₁, hk₁, hguards, howners, -⟩ :=
    Chain.taken_passive s.passiveOutside (.executor s.executor :: s.core) k
      fun o ho => by rw [hnew] at ho; cases ho
  have hplaces : ∀ o ∈ k₁.owners, s.core.length < o.place := by
    intro o ho
    rcases howners o ho with ho | ho
    · rw [hnew] at ho
      cases ho
    · exact ho
  have hfresh : (s.executor.auto && !k₁.ownedBy s.owner) = true := by
    rw [s.auto, Cont.ownedBy, List.contains_eq_mem]
    have hmem : s.owner ∉ k₁.owners := fun h => Nat.lt_irrefl _ (hplaces _ h)
    simp [hmem]
  have htaken : Chain.taken (.executor s.executor :: s.core) k₁
      = s.core.taken (.plain (k₁.owners.insert s.owner) (.rounds s.loop k₁ 0)) := by
    rw [Chain.taken]
    exact if_pos hfresh
  obtain ⟨k₂, hk₂, hguards₂⟩ :=
    s.taken_core (k := .plain (k₁.owners.insert s.owner) (.rounds s.loop k₁ 0)) (by
      intro o ho
      rcases List.mem_insert_iff.1 ho with rfl | ho
      · exact Nat.le_refl _
      · exact Nat.le_of_lt (hplaces o ho))
  exact ⟨k₁, k₂, k₁.owners.insert s.owner, by rw [chain, hk₁, htaken, hk₂], hguards, hguards₂⟩

/-- How the continuation of a later round is taken over: the executor owns it already, and so it is
only guarded. -/
theorem taken_again (body : Body) :
    ∃ k' : Cont, s.chain.taken (.plain [s.owner] body) = k' ∧
      k'.Guards s.watchedLater (.plain [s.owner] body) := by
  obtain ⟨k₁, hk₁, hguards, howners, hkept⟩ :=
    Chain.taken_passive s.passiveOutside (.executor s.executor :: s.core)
      (.plain [s.owner] body) (by
        intro o ho
        rw [Cont.plain_owners, List.mem_singleton] at ho
        subst ho
        exact .inl (Nat.lt_succ_self _))
  have howned : k₁.ownedBy s.owner = true := by
    rw [Cont.ownedBy, List.contains_eq_mem, decide_eq_true_eq]
    exact hkept _ (List.mem_singleton.2 rfl)
  have htaken : Chain.taken (.executor s.executor :: s.core) k₁ = s.core.taken k₁ := by
    rw [Chain.taken]
    exact if_neg (by
      show ¬(s.executor.auto && !k₁.ownedBy s.owner) = true
      rw [howned, Bool.not_true, Bool.and_false]
      exact Bool.false_ne_true)
  obtain ⟨k₂, hk₂, hguards₂⟩ := s.taken_core (k := k₁) (by
    intro o ho
    rcases howners o ho with ho | ho
    · rw [Cont.plain_owners, List.mem_singleton] at ho
      subst ho
      exact Nat.le_refl _
    · exact Nat.le_of_lt ho)
  exact ⟨k₂, by rw [chain, hk₁, htaken, hk₂], hguards₂.trans hguards⟩

end SoloChain

end Colloquy
