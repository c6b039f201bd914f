import Lexigram.Grammar

/-!
# Linking

References are by name, so linking has nothing to store. It says which references are suspect:
those to rules that are not defined, and those across the border between lexer and parser rules.
-/

namespace Lexigram.Grammar

/-- What is suspect about a reference in a rule of some kind. -/
def referenceProblem? (rules : List Rule) (kind : RuleKind) (name : String) : Option Problem :=
  match Rule.findIn? rules name with
  | none => some (.unknownRule name)
  | some target =>
    if kind.isLexer then
      if target.kind = .parser then some (.parserRuleInLexer name) else none
    else if target.kind = .fragment ∧ kind ≠ .unknown then some (.fragmentInParser name)
    else none

/-- The warnings about the references of some blocks, each given once for a rule and a name. -/
def linkWarnings (blocks rules : List Rule) : List Diagnostic :=
  (blocks.flatMap fun r =>
    r.references.filterMap fun name =>
      (referenceProblem? rules r.kind name).map (Diagnostic.warning r.id .empty)).eraseDups

/-- Whether some reference of some blocks is to a rule that is not defined. -/
def hasUnresolved (blocks rules : List Rule) : Bool :=
  blocks.any fun r => r.references.any fun name => (Rule.findIn? rules name).isNone

end Lexigram.Grammar
