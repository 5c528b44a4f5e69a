import Colloquy.Error.Basic

/-!
# Linked exceptions

An exception may have been raised because of another one, and while another one
was handled. The links may form any graph, cycles included. A walk starts at one
exception and meets each exception it can reach once.
-/

namespace Colloquy

/-- An exception and where its links lead: to the one that caused it, and to the one that was
being handled when it was raised. -/
structure LinkedException where
  exception : Exception
  cause : Option Nat := none
  context : Option Nat := none

/-- Exceptions that refer to each other by position. -/
abbrev ExceptionGraph := List LinkedException

namespace ExceptionGraph

/-- The positions that the links of an exception lead to, the one visited first in front. -/
def links (g : ExceptionGraph) (i : Nat) : List Nat :=
  match g[i]? with
  | some node => node.context.toList ++ node.cause.toList
  | none => []

/-- The positions that a walk meets, where `unmet` are the positions not met so far and `pending`
those to go on with, the next one in front. -/
def walkFrom (g : ExceptionGraph) (unmet pending : List Nat) : List Nat :=
  match pending with
  | [] => []
  | i :: rest =>
    if _h : i ∈ unmet then i :: walkFrom g (unmet.erase i) (g.links i ++ rest)
    else walkFrom g unmet rest
termination_by (unmet.length, pending.length)
decreasing_by
  · have shorter := List.length_erase_of_mem _h
    have inhabited := List.length_pos_of_mem _h
    exact Prod.Lex.left _ _ (by omega)
  · exact Prod.Lex.right _ (by simp)

/-- The positions of the exceptions that can be reached from the first one, itself in front. -/
def walk (g : ExceptionGraph) : List Nat :=
  g.walkFrom (List.range g.length) [0]

/-- The exceptions that can be reached from the first one. -/
def reached (g : ExceptionGraph) : List Exception :=
  g.walk.filterMap fun i => (g[i]?).map LinkedException.exception

/-- A single exception without links. -/
def single (e : Exception) : ExceptionGraph :=
  [{ exception := e }]

end ExceptionGraph

end Colloquy
