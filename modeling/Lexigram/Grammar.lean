import Lexigram.Diagnostic
import Lexigram.Rule.Atom

/-!
# Grammars

A grammar is a list of rules with distinct ids. References inside the rules are by name and mean
the rule that has the name in this grammar, so that a grammar which replaces an inherited rule
replaces it for the inherited rules as well.

Handles number the rules and their atoms. A grammar also keeps the rules that were replaced: their
handles stay in use.
-/

namespace Lexigram

/-- How rules are compiled. -/
structure Settings where
  /-- The greatest count of a range that is open above. -/
  cap : Nat := Quantifier.unbounded
  /-- The id of the rule that accepts a character for which there is no other rule. -/
  unmatchedId : String := "UNMATCHED"
  deriving DecidableEq, Repr

/-- A rule as it is handed over by whoever reads a grammar. -/
structure Definition where
  id : String
  body : String
  order : Option Int := none
  categories : List String := []
  options : List String := []
  deriving DecidableEq, Repr

/-- A built grammar. -/
structure Grammar where
  name : Option String
  /-- The name of the grammar that this one extends. -/
  parent : Option String
  settings : Settings
  /-- All rules that were ever compiled for the grammar, in the order of their handles. -/
  blocks : List Rule
  /-- The rules of the grammar, in the order in which their ids were first defined. -/
  rules : List Rule
  /-- The problems found while the grammar was built. -/
  diagnostics : List Diagnostic
  deriving Repr

/-- The rule that has an id. -/
def Rule.findIn? (rules : List Rule) (id : String) : Option Rule :=
  rules.find? fun r => r.id == id

theorem Rule.findIn?_eq_some {rules : List Rule} {id : String} {r : Rule}
    (h : Rule.findIn? rules id = some r) : r ∈ rules ∧ r.id = id := by
  have hid := List.find?_some h
  rw [beq_iff_eq] at hid
  exact ⟨List.mem_of_find?_eq_some h, hid⟩

/-- The least handle that none of some rules takes. The root and the unmatched rule take the first
two. -/
def Rule.nextHandle (blocks : List Rule) : Nat :=
  2 + blocks.foldr (fun r n => r.size + n) 0

namespace Grammar

/-- The handle of the group of all rules. -/
def root : Nat := 0

/-- The handle of the rule that accepts a character for which there is no other rule. -/
def unmatched : Nat := 1

/-- The rule of a grammar that has an id. -/
def find? (g : Grammar) (id : String) : Option Rule := Rule.findIn? g.rules id

/-- The number of handles in use. -/
def size (g : Grammar) : Nat := Rule.nextHandle g.blocks

/-- Whether a rule had to be left out. -/
def hasErrors (g : Grammar) : Bool := g.diagnostics.any Diagnostic.isError

/-- The rules of a kind that are tried everywhere, those of lower order first. -/
def candidates (g : Grammar) (kind : RuleKind) : List Rule :=
  (g.rules.filter fun r => !r.options.hidden && r.kind == kind).mergeSort
    fun r s => r.order ≤ s.order

/-- The rules that are tried to make a token. -/
def lexerRules (g : Grammar) : List Rule := g.candidates .lexer

/-- The rules that are tried to group tokens. -/
def parserRules (g : Grammar) : List Rule := g.candidates .parser

/-- The atom of the unmatched rule: any character. -/
def unmatchedAtom : Atom :=
  .leaf ⟨unmatched, false, .once⟩ ⟨.expression, ['.'], .any, false⟩

/-- The group of all rules. -/
def rootAtom (g : Grammar) : Atom :=
  .group ⟨root, false, .once⟩ false "<root>".toList (g.rules.map fun r => [r.head])

/-- The id of the rules that stand in for undefined ones. -/
def placeholderId : String := "<unknown>"

/-- The handle of the rule that stands in for undefined ones. -/
def placeholder? (g : Grammar) : Option Nat :=
  ((g.blocks.filter fun r => r.kind == .unknown).getLast?).map Rule.handle

end Grammar

end Lexigram
