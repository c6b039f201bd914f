import Lexigram.Matching
import Lexigram.TokenStream

/-!
# Lexing

A text is cut into tokens from its beginning to its end. Where a token begins, the lexer rules are
tried in their order, and the first that consumes something makes the token. A character for which
there is no such rule becomes a token of the unmatched rule.
-/

namespace Lexigram.Lexing

/-- A piece of the text. -/
structure Lexeme where
  token : Token
  /-- Whether the rule of the token asks for it to be skipped. -/
  skipped : Bool
  deriving Repr

/-- The lexeme that a rule makes of a match, in a text that begins at `base`. -/
def lexemeOf (base : Nat) (r : Rule) (tree : SyntaxTree Char) : Lexeme where
  token :=
    { value := tree.units, rule := r.handle, id := r.id, span := tree.span.shift base,
      unmatched := false, categories := r.categories, options := r.options.tags }
  skipped := r.options.skip

/-- The lexeme that the unmatched rule makes of a match, in a text that begins at `base`. -/
def unmatchedLexeme (g : Grammar) (base : Nat) (tree : SyntaxTree Char) : Lexeme where
  token :=
    { value := tree.units, rule := Grammar.unmatched, id := g.settings.unmatchedId,
      span := tree.span.shift base, unmatched := true, categories := [], options := [] }
  skipped := false

/-- The lexeme that begins at a position, and the position behind it. -/
def next (g : Grammar) (input : Input Char) (base pos : Nat) : Noted (Lexeme × Nat) := do
  match ← Matching.firstAbsolute g input pos g.lexerRules with
  | some (r, tree) => pure (lexemeOf base r tree, tree.stop)
  | none =>
    let tree ← Matching.run g input [Grammar.unmatchedAtom] pos
    Noted.note (.unlexed (tree.start + base))
    pure (unmatchedLexeme g base tree, tree.stop)

/-- The lexemes from a position on. -/
def lexemesFrom (g : Grammar) (input : Input Char) (base pos : Nat) : Noted (List Lexeme) := do
  if pos < input.size then
    let (lexeme, stop) ← next g input base pos
    let rest ← lexemesFrom g input base (max (pos + 1) stop)
    pure (lexeme :: rest)
  else pure []
termination_by input.size - pos

end Lexigram.Lexing

namespace Lexigram

namespace TokenStream

open Lexing (Lexeme)

/-- The stream of the lexemes of a text that begins at `base` in the outermost text. -/
def ofLexemes (text : List Char) (base : Nat) (ls : List Lexeme) : TokenStream where
  text
  base
  tokens := (ls.filter fun l => !l.skipped).map Lexeme.token
  trivia := (ls.filter fun l => l.skipped).map Lexeme.token

/-- The tokens of a text that begins at `base` in the outermost text. -/
def ofText (g : Grammar) (text : List Char) (base : Nat) : Noted TokenStream := do
  pure (ofLexemes text base (← Lexing.lexemesFrom g (.ofUnits text) base 0))

end TokenStream

end Lexigram
