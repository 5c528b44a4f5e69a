import Colloquy.Wire.Interruption
import Mathlib.Data.List.Nodup
import Mathlib.Data.List.Perm.Subperm
import Mathlib.Data.List.Range
import Mathlib.Logic.Relation

/-!
# Walks along links

A walk takes turns: it takes the front pending position away, and where that was not
met before it is met now and its links become pending.  `Walk.Sound` is what every
turn keeps, and `Walk.effort` is what every turn lowers, so a walk comes to an end
with each position met that links lead to, each once.
-/

namespace Colloquy.ExceptionGraph

variable {g : ExceptionGraph} {i j : Nat}

/-! ## What can be reached -/

/-- An exception of the graph was raised because of another one, or while that was handled. -/
def Leads (g : ExceptionGraph) (i j : Nat) : Prop :=
  j < g.length ∧ ∃ here, g[i]? = some here ∧ (here.cause = some j ∨ here.context = some j)

/-- Some links, any mix of the two kinds, lead from one exception to another. -/
def Reaches (g : ExceptionGraph) : Nat → Nat → Prop :=
  Relation.ReflTransGen g.Leads

theorem leads_iff_mem_links : g.Leads i j ↔ j < g.length ∧ j ∈ g.links i := by
  unfold Leads links
  cases g[i]? with
  | none => simp
  | some here => simp [or_comm]

theorem length_links_le (g : ExceptionGraph) (i : Nat) : (g.links i).length ≤ 2 := by
  have short (place : Option Nat) : place.toList.length ≤ 1 := by cases place <;> simp
  unfold links
  cases g[i]? with
  | none => simp
  | some here =>
    have first := short here.context
    have second := short here.cause
    simp
    omega

/-! ## Turns -/

/-- A walk underway: the positions met so far, in order, and those to go on with, the next one in
front. -/
structure Walk where
  met : List Nat := []
  pending : List Nat := [0]

namespace Walk

variable {w : Walk} {rest : List Nat}

/-- A turn of a walk, which does nothing when no position is pending. -/
def turn (g : ExceptionGraph) (w : Walk) : Walk :=
  match w.pending with
  | [] => w
  | i :: rest =>
    if i < g.length ∧ i ∉ w.met then { met := w.met ++ [i], pending := g.links i ++ rest }
    else { w with pending := rest }

/-- A walk from the first exception, after some turns. -/
def after (g : ExceptionGraph) : Nat → Walk
  | 0 => {}
  | n + 1 => (after g n).turn g

theorem turn_of_pending_nil (h : w.pending = []) : w.turn g = w := by
  simp [turn, h]

theorem turn_of_fresh (h : w.pending = i :: rest) (inside : i < g.length) (fresh : i ∉ w.met) :
    w.turn g = { met := w.met ++ [i], pending := g.links i ++ rest } := by
  simp [turn, h, inside, fresh]

theorem turn_of_stale (h : w.pending = i :: rest) (stale : ¬ (i < g.length ∧ i ∉ w.met)) :
    w.turn g = { w with pending := rest } := by
  simp only [turn, h]
  rw [if_neg stale]

/-! ## What every turn keeps -/

/-- A walk has met positions of the graph, each once and the first one first; what it has met or
has pending can be reached, and what the links of a met position lead to is met or pending. -/
structure Sound (g : ExceptionGraph) (w : Walk) : Prop where
  once : w.met.Nodup
  inside : ∀ i ∈ w.met, i < g.length
  reached : ∀ i, i ∈ w.met ∨ i ∈ w.pending → i < g.length → g.Reaches 0 i
  closed : ∀ i ∈ w.met, ∀ j, g.Leads i j → j ∈ w.met ∨ j ∈ w.pending
  first : w.met.head? = some 0 ∨ w.met = [] ∧ w.pending = [0]

theorem Sound.start : Sound g {} where
  once := by simp
  inside := by simp
  reached := by
    intro i held _
    simp at held
    rw [held]
    exact Relation.ReflTransGen.refl
  closed := by simp
  first := by simp

/-- Taking away a position that was met before, or that no exception has, keeps a walk sound. -/
theorem Sound.stale (sound : Sound g w) (inhabited : 0 < g.length) (h : w.pending = i :: rest)
    (stale : ¬ (i < g.length ∧ i ∉ w.met)) : Sound g { w with pending := rest } where
  once := sound.once
  inside := sound.inside
  reached := by
    intro j held
    apply sound.reached j
    rw [h]
    exact held.imp_right (List.mem_cons_of_mem i)
  closed := by
    intro k met j leads
    have held := sound.closed k met j leads
    rw [h, List.mem_cons] at held
    by_cases same : j = i
    · -- the position taken away is one of the graph, so it was met before
      left
      by_contra fresh
      exact stale ⟨same ▸ leads.1, same ▸ fresh⟩
    · simpa [same] using held
  first := by
    left
    apply sound.first.resolve_right
    intro untouched
    apply stale
    rw [untouched.2] at h
    simp at h
    simp [untouched.1, ← h.1, inhabited]

/-- Meeting a position and having its links pending keeps a walk sound. -/
theorem Sound.fresh (sound : Sound g w) (h : w.pending = i :: rest) (inside : i < g.length)
    (fresh : i ∉ w.met) : Sound g { met := w.met ++ [i], pending := g.links i ++ rest } where
  once := by
    rw [List.nodup_append]
    refine ⟨sound.once, by simp, ?_⟩
    intro j met k last same
    simp at last
    apply fresh
    rw [← last, ← same]
    exact met
  inside := by
    intro j met
    rw [List.mem_append, List.mem_singleton] at met
    apply met.elim (sound.inside j)
    intro same
    rw [same]
    exact inside
  reached := by
    intro j held within
    have here : g.Reaches 0 i := sound.reached i (by simp [h]) inside
    by_cases linked : j ∈ g.links i
    · exact here.tail (leads_iff_mem_links.mpr ⟨within, linked⟩)
    · apply sound.reached j _ within
      rw [h]
      simp [linked] at held ⊢
      tauto
  closed := by
    intro k met j leads
    by_cases same : k = i
    · rw [same] at leads
      simp [(leads_iff_mem_links.mp leads).2]
    · have before : k ∈ w.met := by simpa [same] using met
      have held := sound.closed k before j leads
      rw [h] at held
      simp at held ⊢
      tauto
  first := by
    left
    apply sound.first.elim
    · intro front
      simp [front]
    · intro untouched
      rw [untouched.2] at h
      simp at h
      simp [untouched.1, h.1]

theorem Sound.turn (sound : Sound g w) (inhabited : 0 < g.length) : Sound g (w.turn g) := by
  match h : w.pending with
  | [] =>
    rw [turn_of_pending_nil h]
    exact sound
  | i :: rest =>
    by_cases new : i < g.length ∧ i ∉ w.met
    · rw [turn_of_fresh h new.1 new.2]
      exact sound.fresh h new.1 new.2
    · rw [turn_of_stale h new]
      exact sound.stale inhabited h new

theorem Sound.after (inhabited : 0 < g.length) (n : Nat) : Sound g (after g n) := by
  induction n with
  | zero => exact .start
  | succ n ih => exact ih.turn inhabited

/-- A walk with nothing pending has met what can be reached. -/
theorem Sound.mem_met_iff (sound : Sound g w) (finished : w.pending = []) :
    j ∈ w.met ↔ g.Reaches 0 j := by
  constructor
  · intro met
    exact sound.reached j (Or.inl met) (sound.inside j met)
  · intro reaches
    induction reaches with
    | refl =>
      apply List.mem_of_mem_head?
      apply sound.first.resolve_right
      simp [finished]
    | tail _ leads ih => simpa [finished] using sound.closed _ ih _ leads

/-! ## How many turns it takes -/

/-- What is left to do: to take away what is pending, and for each position not met yet at most two
links more. -/
def effort (g : ExceptionGraph) (w : Walk) : Nat :=
  w.pending.length + 2 * (g.length - w.met.length)

theorem Sound.effort_turn (sound : Sound g w) (unfinished : w.pending ≠ []) :
    effort g (w.turn g) < effort g w := by
  match h : w.pending with
  | [] => exact absurd h unfinished
  | i :: rest =>
    by_cases new : i < g.length ∧ i ∉ w.met
    · -- a position of the graph not met so far is left, so fewer were met than there are
      have space : (i :: w.met).length ≤ (List.range g.length).length := by
        apply List.Subperm.length_le
        apply List.subperm_of_subset (List.nodup_cons.mpr ⟨new.2, sound.once⟩)
        intro j held
        rw [List.mem_cons] at held
        rw [List.mem_range]
        exact held.elim (fun same => same ▸ new.1) (sound.inside j)
      have links := length_links_le g i
      rw [turn_of_fresh h new.1 new.2]
      simp [effort, h] at space ⊢
      omega
    · rw [turn_of_stale h new]
      simp [effort, h]

theorem finished_or_effort_le (inhabited : 0 < g.length) (n : Nat) :
    (after g n).pending = [] ∨ effort g (after g n) + n ≤ 2 * g.length + 1 := by
  induction n with
  | zero =>
    right
    simp [after, effort]
    omega
  | succ n ih =>
    by_cases finished : (after g n).pending = []
    · left
      rw [after, turn_of_pending_nil finished]
      exact finished
    · right
      have lower := (Sound.after inhabited n).effort_turn finished
      have spent := ih.resolve_left finished
      rw [after]
      omega

/-- A walk has nothing pending after two turns for each exception of the graph and one more. -/
theorem pending_after (inhabited : 0 < g.length) :
    (after g (2 * g.length + 1)).pending = [] := by
  apply (finished_or_effort_le inhabited (2 * g.length + 1)).elim id
  intro spent
  apply List.eq_nil_of_length_eq_zero
  unfold effort at spent
  omega

/-! ## The walk as a whole -/

/-- The positions of the graph that are not among those met. -/
def unmet (g : ExceptionGraph) (met : List Nat) : List Nat :=
  (List.range g.length).filter fun i => i ∉ met

theorem mem_unmet_iff {met : List Nat} : i ∈ unmet g met ↔ i < g.length ∧ i ∉ met := by
  simp [unmet]

theorem erase_unmet (g : ExceptionGraph) (met : List Nat) (i : Nat) :
    (unmet g met).erase i = unmet g (met ++ [i]) := by
  unfold unmet
  rw [(List.nodup_range.filter _).erase_eq_filter, List.filter_filter]
  apply List.filter_congr
  intro j _
  by_cases same : j = i <;> simp [same]

/-- What a walk has met, followed by what is still to come, is settled from the start. -/
theorem met_append_walkFrom_turn (w : Walk) (g : ExceptionGraph) :
    (w.turn g).met ++ g.walkFrom (unmet g (w.turn g).met) (w.turn g).pending =
      w.met ++ g.walkFrom (unmet g w.met) w.pending := by
  match h : w.pending with
  | [] => rw [turn_of_pending_nil h, h]
  | i :: rest =>
    rw [walkFrom]
    by_cases new : i < g.length ∧ i ∉ w.met
    · rw [turn_of_fresh h new.1 new.2, dif_pos (mem_unmet_iff.mpr new), erase_unmet]
      simp
    · rw [turn_of_stale h new, dif_neg (mt mem_unmet_iff.mp new)]

theorem met_append_walkFrom_after (g : ExceptionGraph) (n : Nat) :
    (after g n).met ++ g.walkFrom (unmet g (after g n).met) (after g n).pending = g.walk := by
  induction n with
  | zero => simp [after, unmet, walk]
  | succ n ih =>
    rw [after, met_append_walkFrom_turn]
    exact ih

theorem met_after_eq_walk (inhabited : 0 < g.length) :
    (after g (2 * g.length + 1)).met = g.walk := by
  have whole := met_append_walkFrom_after g (2 * g.length + 1)
  rw [pending_after inhabited, walkFrom, List.append_nil] at whole
  exact whole

end Walk

theorem mem_walk_iff (inhabited : 0 < g.length) : j ∈ g.walk ↔ g.Reaches 0 j := by
  rw [← Walk.met_after_eq_walk inhabited]
  exact (Walk.Sound.after inhabited _).mem_met_iff (Walk.pending_after inhabited)

theorem nodup_walk (inhabited : 0 < g.length) : g.walk.Nodup := by
  rw [← Walk.met_after_eq_walk inhabited]
  exact (Walk.Sound.after inhabited _).once

theorem head?_walk (inhabited : 0 < g.length) : g.walk.head? = some 0 := by
  rw [← Walk.met_after_eq_walk inhabited]
  apply (Walk.Sound.after inhabited _).first.resolve_right
  simp [Walk.pending_after inhabited]

/-- Whether some exception that a walk meets has a property. -/
theorem any_reached_iff (inhabited : 0 < g.length) (p : Exception → Bool) :
    g.reached.any p = true ↔
      ∃ j here, g.Reaches 0 j ∧ g[j]? = some here ∧ p here.exception = true := by
  unfold reached
  rw [List.any_eq_true]
  constructor
  · intro found
    obtain ⟨e, met, holds⟩ := found
    simp only [List.mem_filterMap, mem_walk_iff inhabited, Option.map_eq_some_iff] at met
    obtain ⟨j, reaches, here, placed, same⟩ := met
    exact ⟨j, here, reaches, placed, same ▸ holds⟩
  · intro found
    obtain ⟨j, here, reaches, placed, holds⟩ := found
    refine ⟨here.exception, ?_, holds⟩
    apply List.mem_filterMap.mpr
    exact ⟨j, (mem_walk_iff inhabited).mpr reaches, by simp [placed]⟩

/-! ## Whether a retry may help -/

/-- A failure of the HTTP exchange after which a retry may help is a foreign exception of one of
two classes. -/
theorem isExchangeFailure_iff (e : Exception) :
    e.isExchangeFailure = true ↔
      ∃ c text, e = .foreign c text ∧ (c.isA .httpTimeout ∨ c.isA .httpRequest) := by
  cases e <;> simp [Exception.isExchangeFailure]

/-- What becomes of an exception that is neither an error of an interface nor a cancellation. -/
theorem wrapInterruption_of_other (g : ExceptionGraph) {e : Exception} (provider : Value)
    (kept : e.isCancellation = false) (other : e.isApi = false) :
    wrapInterruption g e provider =
      .ok (.interrupted provider (g.reached.any Exception.isExchangeFailure) e) := by
  unfold wrapInterruption
  match e with
  | .own own =>
    have plain : own.isA .api = false := other
    simp [kept, plain]
  | .foreign _ _ => simp [kept]

/-- A walk through a graph, cyclic or not, ends within two turns for each exception and one more;
it starts with the first exception and meets each exception that links lead to, once, and nothing
else.  So an exception that ends an exchange becomes an error after which a retry may help just
when a failure of the HTTP exchange can be reached from it. -/
theorem walk_meets_reachable_once (g : ExceptionGraph) (inhabited : 0 < g.length)
    (provider : Value) :
    (Walk.after g (2 * g.length + 1)).pending = [] ∧
      (Walk.after g (2 * g.length + 1)).met = g.walk ∧
      g.walk.head? = some 0 ∧ g.walk.Nodup ∧ (∀ j, j ∈ g.walk ↔ g.Reaches 0 j) ∧
      ∀ first, g[0]? = some first → first.exception.isCancellation = false →
        first.exception.isApi = false →
        ∃ error retryable, wrapInterruption g first.exception provider = .ok error ∧
          error.cls = .request ∧ error.retryable = .bool retryable ∧
          (retryable = true ↔ ∃ j here, g.Reaches 0 j ∧ g[j]? = some here ∧
            ∃ c text, here.exception = .foreign c text ∧
              (c.isA .httpTimeout ∨ c.isA .httpRequest)) := by
  refine ⟨Walk.pending_after inhabited, Walk.met_after_eq_walk inhabited, head?_walk inhabited,
    nodup_walk inhabited, fun j => mem_walk_iff inhabited, ?_⟩
  intro first _ kept other
  refine ⟨_, _, wrapInterruption_of_other g provider kept other, rfl, rfl, ?_⟩
  rw [any_reached_iff inhabited]
  simp only [isExchangeFailure_iff]

/-- Two exceptions that refer to each other. -/
def ring : ExceptionGraph :=
  [{ exception := .foreign .value (.ofString "outer"), cause := some 1 },
    { exception := .foreign .readTimeout (.ofString "inner"), context := some 0 }]

theorem walk_meets_reachable_once_ring :
    0 < ring.length ∧ ring.walk.Nodup ∧ 1 ∈ ring.walk ∧
      ∃ error, wrapInterruption ring (.foreign .value (.ofString "outer")) .null = .ok error ∧
        error.retryable = .bool true := by
  have inhabited : 0 < ring.length := by decide
  have whole := walk_meets_reachable_once ring inhabited .null
  obtain ⟨_, _, _, once, met, wrapped⟩ := whole
  have reaches : ring.Reaches 0 1 :=
    Relation.ReflTransGen.single ⟨by decide, _, rfl, Or.inl rfl⟩
  obtain ⟨error, retryable, same, _, mark, iff⟩ := wrapped _ rfl rfl rfl
  have helps : retryable = true :=
    iff.mpr ⟨1, _, reaches, rfl, _, _, rfl, Or.inl (by decide)⟩
  exact ⟨inhabited, once, (met 1).mpr reaches, error, same, helps ▸ mark⟩

end Colloquy.ExceptionGraph
