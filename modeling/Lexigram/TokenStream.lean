import Lexigram.Token

/-!
# Token streams

The outcome of reading a text: its tokens, and apart from them the matches of rules that are to be
skipped. Both together cover the text.
-/

namespace Lexigram

/-- The tokens of a text. -/
structure TokenStream where
  text : List Char
  /-- The offset of the text in the outermost text. -/
  base : Nat
  tokens : List Token
  /-- Matches of rules that make no tokens. -/
  trivia : List Token
  deriving Repr

namespace TokenStream

/-- Tokens and trivia in the order of the text. -/
def all (s : TokenStream) : List Token :=
  (s.tokens ++ s.trivia).mergeSort fun t u => t.span.start ≤ u.span.start

/-- A stream with one token on each line. -/
def render (s : TokenStream) (withTrivia : Bool) : String :=
  String.join ((if withTrivia then s.all else s.tokens).map fun t => t.render ++ "\n")

end TokenStream

end Lexigram
