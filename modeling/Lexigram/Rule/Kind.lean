import Lexigram.Text.Alphabetic

/-!
# Kinds of rules

A rule describes either tokens or groups of tokens. The case of its id decides which.
-/

namespace Lexigram

/-- What a rule is for. -/
inductive RuleKind where
  /-- Tokens are made by the rule. -/
  | lexer
  /-- Only other lexer rules use the rule. -/
  | fragment
  /-- Tokens are grouped by the rule. -/
  | parser
  /-- The rule stands in for one that is not defined. -/
  | unknown
  deriving DecidableEq, Repr

namespace RuleKind

/-- A rule whose id begins with a capital describes tokens, every other rule groups them. -/
def ofId (id : String) : RuleKind :=
  match id.toList with
  | c :: _ => if Text.isUppercase c then .lexer else .parser
  | [] => .parser

def isLexer : RuleKind → Bool
  | .lexer | .fragment => true
  | .parser | .unknown => false

def isParser : RuleKind → Bool
  | .parser => true
  | .lexer | .fragment | .unknown => false

/-- The kind as it is named in messages. -/
def render : RuleKind → String
  | .lexer => "lexer"
  | .fragment => "fragment"
  | .parser => "parser"
  | .unknown => "unknown"

end RuleKind

end Lexigram
