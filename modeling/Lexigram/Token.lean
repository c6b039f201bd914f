import Lexigram.Span
import Lexigram.Text.Quoted

/-!
# Tokens

A token is a piece of text with the rule that made it. Its span counts the bytes of the outermost
text, also for tokens that were made from the inside of another token.
-/

namespace Lexigram

/-- One piece of a text. -/
structure Token where
  value : List Char
  /-- The handle of the rule that made the token. -/
  rule : Nat
  /-- The id of the rule that made the token. -/
  id : String
  span : Span
  /-- Whether the token is a character that no rule matched. -/
  unmatched : Bool
  categories : List String
  options : List String
  deriving DecidableEq, Repr

namespace Token

def hasCategory (t : Token) (name : String) : Bool := t.categories.contains name

def hasOption (t : Token) (name : String) : Bool := t.options.contains name

/-- A token on one line. -/
def render (t : Token) : String :=
  s!"{t.id} {Text.quoted (String.ofList t.value)} ({t.span.start},{t.span.stop})"

end Token

end Lexigram
