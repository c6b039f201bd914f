import Lexigram.Grammar

/-!
# Rules and atoms as nodes

Every handle of a grammar names a node: the root, the unmatched rule, a rule, or an atom of a rule.
`Grammar.nodes` lists them in the order of their handles, each with the handles of the nodes that it
is linked to.
-/

namespace Lexigram

/-- What a node stands for. -/
inductive NodeKind where
  /-- Ordered alternatives. -/
  | composite
  | expression
  | literal
  /-- A reference to a lexer rule. -/
  | lexerRule
  /-- A reference to a fragment. -/
  | lexerFragment
  /-- A reference to a parser rule. -/
  | parserRule
  deriving DecidableEq, Repr

/-- The kind as it is named in trees. -/
def NodeKind.render : NodeKind → String
  | composite => "Composite"
  | expression => "Expression"
  | literal => "Literal"
  | lexerRule => "LexerRule"
  | lexerFragment => "LexerFragment"
  | parserRule => "ParserRule"

/-- A rule or an atom with its links. -/
structure Node where
  handle : Nat
  /-- The id of the rule to which the node belongs. -/
  id : String
  value : List Char
  kind : NodeKind
  ruleKind : RuleKind
  inverted : Bool := false
  anchoredEnd : Bool := false
  lookahead : Bool := false
  order : Int := Rule.lastOrder
  categories : List String := []
  options : RuleOptions := {}
  command : Option Command := none
  quantifier : Quantifier := .once
  /-- The first atoms of the alternatives. -/
  children : List Nat := []
  next : Option Nat := none
  prev : Option Nat := none
  /-- The rule to which an atom belongs. -/
  owner : Option Nat := none
  pattern : Option Pattern := none
  /-- The rule that a reference means. -/
  target : Option Nat := none
  deriving Repr

namespace Grammar

/-- The kind of a reference: that of the rule it means, if that is a lexer rule, and else what its
name suggests. -/
def referenceKind (g : Grammar) (name : String) : NodeKind :=
  match (g.find? name).map Rule.kind with
  | some .fragment => .lexerFragment
  | some .lexer => .lexerRule
  | _ => if (RuleKind.ofId name).isLexer then .lexerRule else .parserRule

/-- The handle of the rule that a reference means. -/
def referenceTarget? (g : Grammar) (name : String) : Option Nat :=
  ((g.find? name).map Rule.handle).or g.placeholder?

/-- The handles with which alternatives begin. -/
def headHandles (alternatives : List (List Atom)) : List Nat :=
  alternatives.filterMap fun atoms => atoms.head?.map Atom.handle

/-- The node of an atom of a rule, between its neighbours. -/
def atomNode (g : Grammar) (r : Rule) (prev next : Option Nat) (a : Atom) : Node :=
  let node (kind : NodeKind) (value : List Char) : Node :=
    { handle := a.handle, id := r.id, value, kind, ruleKind := r.kind,
      inverted := a.mark.inverted, quantifier := a.mark.quantifier, next, prev,
      owner := some r.handle }
  match a with
  | .leaf _ l =>
    { node (if l.kind = .literal then .literal else .expression) l.value with
      anchoredEnd := l.anchoredEnd, pattern := some l.pattern }
  | .reference _ name =>
    { node (g.referenceKind name) name.toList with target := g.referenceTarget? name }
  | .group _ lookahead value alternatives =>
    { node .composite value with lookahead, children := headHandles alternatives }

mutual

/-- The nodes of an atom and of what it holds. -/
def nodesOfAtom (g : Grammar) (r : Rule) (prev next : Option Nat) (a : Atom) : List Node :=
  g.atomNode r prev next a ::
    match a with
    | .leaf _ _ | .reference _ _ => []
    | .group _ _ _ alternatives => nodesOfAlternatives g r alternatives

/-- The nodes of a chain of atoms behind the atom `prev`. -/
def nodesOfChain (g : Grammar) (r : Rule) (prev : Option Nat) : List Atom → List Node
  | [] => []
  | a :: atoms =>
    nodesOfAtom g r prev (atoms.head?.map Atom.handle) a ++
      nodesOfChain g r (some a.handle) atoms

/-- The nodes of alternatives. -/
def nodesOfAlternatives (g : Grammar) (r : Rule) : List (List Atom) → List Node
  | [] => []
  | atoms :: alternatives =>
    nodesOfChain g r none atoms ++ nodesOfAlternatives g r alternatives

end

/-- The nodes of a rule and of its atoms. -/
def nodesOfRule (g : Grammar) (r : Rule) : List Node :=
  { handle := r.handle, id := r.id, value := r.id.toList, kind := .composite, ruleKind := r.kind,
    order := r.order, categories := r.categories, options := r.options, command := r.command,
    children := headHandles r.alternatives } ::
    g.nodesOfAlternatives r r.alternatives

/-- All nodes of a grammar. -/
def nodes (g : Grammar) : List Node :=
  { handle := root, id := "<root>", value := "<root>".toList, kind := .composite,
    ruleKind := .unknown, children := g.rules.map Rule.handle } ::
  { handle := unmatched, id := g.settings.unmatchedId, value := ['.'], kind := .expression,
    ruleKind := .lexer, pattern := some .any } ::
  g.blocks.flatMap g.nodesOfRule

/-! ## The chain of a node -/

/-- The chain of atoms that begins with an atom of some alternatives. -/
def chainIn? (handle : Nat) : List (List Atom) → Option (List Atom)
  | [] => none
  | [] :: alternatives => chainIn? handle alternatives
  | (.group m lookahead value inner :: atoms) :: alternatives =>
    if m.handle = handle then some (.group m lookahead value inner :: atoms)
    else (chainIn? handle inner).or (chainIn? handle (atoms :: alternatives))
  | (a :: atoms) :: alternatives =>
    if a.handle = handle then some (a :: atoms) else chainIn? handle (atoms :: alternatives)

/-- The node of a handle with the atoms behind it. -/
def chain? (g : Grammar) (handle : Nat) : Option (List Atom) :=
  if handle = root then some [g.rootAtom]
  else if handle = unmatched then some [unmatchedAtom]
  else
    g.blocks.findSome? fun r =>
      if r.handle = handle then some [r.head] else chainIn? handle r.alternatives

end Grammar

end Lexigram
