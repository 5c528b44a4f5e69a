import Colloquy.Proofs.Turn.Account
import Mathlib.Data.List.Forall2

/-!
# Bounded chains

`Chain.loops` are the loops that the automatic executors around a generator drive.
A chain with one such loop is a `SoloChain`, and so its runs end after at most one
exchange more than the limit of the loop has rounds, whatever its tools and its
backend do.
-/

namespace Colloquy

/-! ## Loops -/

/-- The loops of the automatic executors outside the generator. -/
def Chain.loops : Chain → List ToolLoop
  | [] => []
  | .terminal :: _ => []
  | .generation _ :: _ => []
  | .executor x :: inner =>
    if x.auto then x.loop ((Link.executor x).owner inner) :: loops inner else loops inner
  | .breakOn _ :: inner => loops inner
  | .forward :: inner => loops inner

/-- Links of one kind.  Executors differ in nothing but their tools; backends and the names that
are watched for may differ. -/
inductive Link.Alike : Link → Link → Prop
  | executor (x : Executor) (registry : Registry) :
      Alike (.executor x) (.executor { x with registry })
  | breakOn (names others : List Text) : Alike (.breakOn names) (.breakOn others)
  | generation (g h : Generator) : Alike (.generation g) (.generation h)
  | forward : Alike .forward .forward
  | terminal : Alike .terminal .terminal

/-- Chains of links that are alike. -/
abbrev Chain.Alike : Chain → Chain → Prop :=
  List.Forall₂ Link.Alike

namespace Chain

variable {chain other : Chain}

/-- Chains that are alike have loops with the same limits. -/
theorem Alike.limits (h : chain.Alike other) :
    other.loops.map ToolLoop.limit = chain.loops.map ToolLoop.limit := by
  induction h with
  | nil => rfl
  | @cons link link' inner inner' hlink hinner ih =>
    cases hlink with
    | executor x registry =>
      rw [loops, loops]
      dsimp only
      split
      · rw [List.map_cons, List.map_cons, ih]
        rfl
      · exact ih
    | breakOn | forward => exact ih
    | generation | terminal => rfl

theorem Alike.generator? (h : chain.Alike other) :
    other.generator?.isSome = chain.generator?.isSome := by
  induction h with
  | nil => rfl
  | cons hlink hinner ih =>
    cases hlink with
    | executor | breakOn | forward => exact ih
    | generation | terminal => rfl

theorem Alike.terminal_mem (h : chain.Alike other) (hterminal : .terminal ∈ chain) :
    .terminal ∈ other := by
  induction h with
  | nil => cases hterminal
  | cons hlink hinner ih =>
    cases hterminal with
    | head =>
      cases hlink
      exact List.mem_cons_self
    | tail _ hmem => exact List.mem_cons_of_mem _ (ih hmem)

/-! ## Chains with one loop -/

/-- Outside a generator without loops all links are passive. -/
theorem passive_of_loops_eq_nil {g : Generator} (hloops : chain.loops = [])
    (hg : chain.generator? = some g) :
    ∃ between inside : Chain, chain = between ++ .generation g :: inside ∧
      ∀ link ∈ between, link.isPassive = true := by
  induction chain with
  | nil => cases hg
  | cons link inner ih =>
    have hskip : link.isPassive = true → Chain.loops inner = [] → Chain.generator? inner = some g →
        ∃ between inside : Chain, link :: inner = between ++ .generation g :: inside ∧
          ∀ l ∈ between, l.isPassive = true := by
      intro hlink hinner hg
      obtain ⟨between, inside, rfl, hpassive⟩ := ih hinner hg
      refine ⟨link :: between, inside, rfl, ?_⟩
      intro l hl
      cases hl with
      | head => exact hlink
      | tail _ hl => exact hpassive l hl
    cases link with
    | terminal => cases hg
    | generation g' =>
      cases hg
      exact ⟨[], inner, rfl, nofun⟩
    | breakOn | forward => exact hskip rfl hloops hg
    | executor x =>
      rw [loops] at hloops
      split at hloops
      · cases hloops
      · rename_i hmanual
        exact hskip (by simpa [Link.isPassive] using hmanual) hloops hg

/-- A chain with one loop has one automatic executor that answers the calls of the generator. -/
theorem solo_of_loops_eq_singleton {loop : ToolLoop} (hloops : chain.loops = [loop])
    (hgenerator : chain.generator?.isSome = true) :
    ∃ s : SoloChain, s.chain = chain ∧ s.executor.limit = loop.limit := by
  induction chain with
  | nil => cases hloops
  | cons link inner ih =>
    have hskip : link.isPassive = true → Chain.loops inner = [loop] →
        (Chain.generator? inner).isSome = true →
        ∃ s : SoloChain, s.chain = link :: inner ∧ s.executor.limit = loop.limit := by
      intro hlink hinner hg
      obtain ⟨s, rfl, hlimit⟩ := ih hinner hg
      refine ⟨{ s with outside := link :: s.outside, passiveOutside := ?_ }, rfl, hlimit⟩
      intro l hl
      cases hl with
      | head => exact hlink
      | tail _ hl => exact s.passiveOutside l hl
    cases link with
    | terminal => cases hloops
    | generation g => cases hloops
    | breakOn | forward => exact hskip rfl hloops hgenerator
    | executor x =>
      rw [loops] at hloops
      split at hloops
      · rename_i hauto
        obtain ⟨hloop, hinner⟩ := List.cons.inj hloops
        obtain ⟨g, hg⟩ := Option.isSome_iff_exists.1 hgenerator
        obtain ⟨between, inside, rfl, hpassive⟩ := passive_of_loops_eq_nil hinner hg
        exact ⟨⟨[], x, between, g, inside, hauto, nofun, hpassive⟩, rfl, by rw [← hloop]; rfl⟩
      · rename_i hmanual
        exact hskip (by simpa [Link.isPassive] using hmanual) hloops hgenerator

/-! ## Bounds -/

/-- A run of a generation ends, whatever happened before it, and makes at most a number of
exchanges. -/
def EndsWithin (chain : Chain) (bound : Nat) : Prop :=
  ∀ (chat : Chat) (before : Ledger), before.Sound →
    (∃ result after, chain.Gives (.generate chat) before result after) ∧
    ∀ result after, chain.Gives (.generate chat) before result after →
      after.requests.length ≤ before.requests.length + bound

/-- With one loop its limit bounds the exchanges. -/
theorem endsWithin_of_loops_eq_singleton {loop : ToolLoop} {most : Nat}
    (hloops : chain.loops = [loop]) (hmost : loop.limit.rounds? = some most)
    (hgenerator : chain.generator?.isSome = true) (hterminal : .terminal ∈ chain) :
    chain.EndsWithin (most + 1) := by
  obtain ⟨s, rfl, hlimit⟩ := solo_of_loops_eq_singleton hloops hgenerator
  rw [← hlimit] at hmost
  intro chat before hl
  constructor
  · obtain ⟨after, hgives, -⟩ := (s.gives_generate hmost hterminal hl chat).2 ⟨_, rfl, rfl⟩
    exact ⟨_, after, hgives⟩
  · intro result after h
    obtain ⟨r, hturn, -⟩ := (s.gives_generate hmost hterminal hl chat).1 ⟨after, h, rfl⟩
    have hbound := s.turn_requests most s.watchedFirst chat before.events
    rw [hturn] at hbound
    exact hbound

end Chain

end Colloquy
