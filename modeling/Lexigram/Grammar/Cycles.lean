import Lexigram.Remaining

/-!
# Cycles of a graph

A depth-first search for cycles. It enters every vertex once and reports the cycles that lead back
to a vertex on its path, at most one for each vertex.
-/

namespace Lexigram.Cycles

variable {α : Type} [DecidableEq α]

/-- A graph: the successors of its vertices. A vertex that is not listed has none. -/
abbrev Graph (α : Type) := List (α × List α)

/-- How far a search is. -/
structure Search (α : Type) where
  /-- The vertices that were entered. -/
  visited : List α := []
  /-- The cycles that were found, each with its first vertex repeated at the end. -/
  found : List (List α) := []

/-- Whether a cycle was reported that begins at a vertex. -/
def Search.reports (st : Search α) (v : α) : Bool := st.found.any fun cycle => cycle.head? == some v

/-- The cycle that leads back to a vertex on a path, the end of which comes first. -/
def cycleAt (v : α) (path : List α) : List α :=
  v :: (path.takeWhile (· != v)).reverse ++ [v]

theorem mem_of_lookup {graph : Graph α} {v : α} {next : List α}
    (h : graph.lookup v = some next) : v ∈ graph.map Prod.fst := by
  obtain ⟨_, _, he, -⟩ := List.lookup_eq_some_iff.1 h
  simp [he]

mutual

/-- Searches on from a vertex to which a path leads. -/
def visit (graph : Graph α) (path : List α) (v : α) (st : Search α) : Search α :=
  if _hp : v ∈ path then
    if st.reports v then st else { st with found := st.found ++ [cycleAt v path] }
  else if v ∈ st.visited then st
  else
    match _hg : graph.lookup v with
    | none => { st with visited := v :: st.visited }
    | some next => visitAll graph (v :: path) next { st with visited := v :: st.visited }
termination_by (remaining (graph.map Prod.fst) path, 0)
decreasing_by exact Prod.Lex.left _ _ (remaining_cons_lt (mem_of_lookup _hg) _hp)

/-- Searches on from each of several vertices to which a path leads. -/
def visitAll (graph : Graph α) (path : List α) (vs : List α) (st : Search α) : Search α :=
  match vs with
  | [] => st
  | v :: vs => visitAll graph path vs (visit graph path v st)
termination_by (remaining (graph.map Prod.fst) path, vs.length)
decreasing_by
  · exact Prod.Lex.right _ (Nat.succ_pos _)
  · exact Prod.Lex.right _ (Nat.lt_succ_self _)

end

/-- The cycles that a search from each of several vertices in turn reports. -/
def search (graph : Graph α) (starts : List α) : List (List α) :=
  (visitAll graph [] starts {}).found

end Lexigram.Cycles
