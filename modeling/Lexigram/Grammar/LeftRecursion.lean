import Lexigram.Grammar
import Lexigram.Grammar.Cycles

/-!
# Left recursion

A rule is left recursive when it can reach itself before any input is consumed. To find such rules,
the references that can stand first in a rule are collected, stepping over atoms that may match
nothing, and the graph of these references is searched for cycles.
-/

namespace Lexigram.LeftRecursion

/-! ## Rules that may match nothing -/

/-- The answers found so far to whether a rule may match nothing. -/
abbrev Memo := List (String × Bool)

theorem findIn?_mem {rules : List Rule} {name : String} {r : Rule}
    (h : Rule.findIn? rules name = some r) : name ∈ rules.map Rule.id := by
  obtain ⟨hr, rfl⟩ := Rule.findIn?_eq_some h
  exact List.mem_map_of_mem hr

mutual

/-- Whether all of some atoms may match nothing. The names in `active` are being answered; a rule
that is met again meanwhile is taken to consume input. -/
def chainNullable (rules : List Rule) (active : List String) (atoms : List Atom) :
    StateM Memo Bool :=
  match atoms with
  | [] => pure true
  | a :: atoms => do
    if a.mark.quantifier.isOptional then chainNullable rules active atoms
    else if ← atomNullable rules active a then chainNullable rules active atoms
    else pure false
termination_by (remaining (rules.map Rule.id) active, sizeOf atoms)
decreasing_by all_goals exact Prod.Lex.right _ (by simp only [List.cons.sizeOf_spec]; omega)

/-- Whether one occurrence of an atom may match nothing. -/
def atomNullable (rules : List Rule) (active : List String) (a : Atom) : StateM Memo Bool :=
  match a with
  | .leaf _ _ => pure false
  | .reference m name => do
    if m.inverted then pure false
    else
      match (← get).lookup name with
      | some answer => pure answer
      | none =>
        if _ha : name ∈ active then pure false
        else
          match _hr : Rule.findIn? rules name with
          | none => pure false
          | some r =>
            let answer ← anyNullable rules (name :: active) r.alternatives
            modify ((name, answer) :: ·)
            pure answer
  | .group m lookahead _ alternatives =>
    if lookahead then pure true
    else if m.inverted then pure false
    else anyNullable rules active alternatives
termination_by (remaining (rules.map Rule.id) active, sizeOf a)
decreasing_by
  · exact Prod.Lex.left _ _ (remaining_cons_lt (findIn?_mem _hr) _ha)
  · exact Prod.Lex.right _ (by simp only [Atom.group.sizeOf_spec]; omega)

/-- Whether one of some alternatives may match nothing. -/
def anyNullable (rules : List Rule) (active : List String) (alternatives : List (List Atom)) :
    StateM Memo Bool :=
  match alternatives with
  | [] => pure false
  | atoms :: alternatives => do
    if ← chainNullable rules active atoms then pure true
    else anyNullable rules active alternatives
termination_by (remaining (rules.map Rule.id) active, sizeOf alternatives)
decreasing_by all_goals exact Prod.Lex.right _ (by simp only [List.cons.sizeOf_spec]; omega)

end

/-! ## References that can stand first -/

/-- The state of collecting references. -/
structure Prefixes where
  memo : Memo
  /-- The names that can stand first, each once. -/
  names : List String

/-- Adds a name that can stand first. -/
def Prefixes.insert (p : Prefixes) (name : String) : Prefixes :=
  if p.names.contains name then p else { p with names := p.names ++ [name] }

mutual

/-- Collects the names that can stand first in some atoms, and answers whether all matches of the
atoms consume input. -/
def collectChain (rules : List Rule) : List Atom → StateM Prefixes Bool
  | [] => pure false
  | a :: atoms => do
    let advances ← collectAtom rules a
    if advances && !a.mark.quantifier.isOptional then pure true else collectChain rules atoms

/-- Collects the names that can stand first in one occurrence of an atom. -/
def collectAtom (rules : List Rule) : Atom → StateM Prefixes Bool
  | .leaf _ _ => pure true
  | .reference m name => do
    if (Rule.findIn? rules name).isSome then modify (·.insert name)
    if m.inverted then pure true
    else
      let p ← get
      let (nullable, memo) := (atomNullable rules [] (.reference m name)).run p.memo
      set { p with memo }
      pure !nullable
  | .group m lookahead _ alternatives => do
    let all ← collectAll rules alternatives
    pure ((all && !alternatives.isEmpty || m.inverted) && !lookahead)

/-- Collects the names that can stand first in some alternatives, and answers whether all matches
of all alternatives consume input. -/
def collectAll (rules : List Rule) : List (List Atom) → StateM Prefixes Bool
  | [] => pure true
  | atoms :: alternatives => do
    let advances ← collectChain rules atoms
    let others ← collectAll rules alternatives
    pure (advances && others)

end

/-- The names that can stand first in each of some rules, collected from rule to rule with one
memory of answers. -/
def prefixGraph (rules : List Rule) : List Rule → StateM Memo (Cycles.Graph String)
  | [] => pure []
  | r :: rest => do
    let (_, p) := (collectAll rules r.alternatives).run ⟨← get, []⟩
    set p.memo
    let graph ← prefixGraph rules rest
    pure ((r.id, p.names) :: graph)

/-- The warnings about left recursion among some rules. -/
def warnings (rules : List Rule) : List Diagnostic :=
  let graph := ((prefixGraph rules rules).run []).1
  (Cycles.search graph (rules.map Rule.id)).map fun cycle =>
    .warning (cycle.headD "") .empty (.leftRecursion cycle)

end Lexigram.LeftRecursion
