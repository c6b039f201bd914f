import Lexigram.Matching

/-!
# Parsing

The tokens of a text are grouped from the first to the last. Where a group begins, the parser rules
are tried in their order, and the first that consumes something makes the group. A token at which
there is no such rule is stepped over.
-/

namespace Lexigram.Parsing

/-- One step through the tokens. -/
inductive Step where
  /-- A rule matched the next tokens. -/
  | group (rule : Rule) (tree : SyntaxTree Token)
  /-- No rule matched at a token. -/
  | skipped (token : Token)

/-- The step at a token, and the position behind it. -/
def next (g : Grammar) (input : Input Token) (pos : Nat) (token : Token) : Noted (Step × Nat) := do
  match ← Matching.firstAbsolute g input pos g.parserRules with
  | some (r, tree) => pure (.group r tree, tree.stop)
  | none => do
    Noted.note (.unparsed pos token)
    pure (.skipped token, pos + 1)

/-- The steps from a position on, each with what was noticed in it. -/
def stepsFrom (g : Grammar) (input : Input Token) (pos : Nat) : List (Noted Step) :=
  if _hp : pos < input.size then
    match (input.rest? pos).bind List.head? with
    | some token =>
      let step := next g input pos token
      (Prod.fst <$> step) :: stepsFrom g input (max (pos + 1) step.value.2)
    | none => []
  else []
termination_by input.size - pos

/-- The steps through some tokens, each with what was noticed in it. -/
def stepsOf (g : Grammar) (tokens : List Token) : List (Noted Step) :=
  stepsFrom g (.ofUnits tokens) 0

/-- Adds a step to the tree of the steps before it. -/
def addStep (root : SyntaxTree Token) : Step → SyntaxTree Token
  | .group _ tree => root.absorb tree
  | .skipped _ => { root with stop := root.stop + 1 }

/-- The tree of some steps: all groups, below the root of the grammar. -/
def treeOf (steps : List Step) : SyntaxTree Token :=
  (steps.foldl addStep (.begin (some Grammar.root) 0)).settle .resolved

/-- For each token, the rule that grouped it. -/
def groupings (steps : List Step) : List (Option Rule) :=
  steps.flatMap fun
    | .group r tree => List.replicate tree.units.length (some r)
    | .skipped _ => [none]

end Lexigram.Parsing
