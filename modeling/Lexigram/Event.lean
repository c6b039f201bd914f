import Lexigram.Token

/-!
# Events

What happens while a text is processed, in the order in which it happens.
-/

namespace Lexigram

/-- Something that happens while a text is processed. -/
inductive Event where
  /-- A lexer rule made a token. -/
  | token (t : Token)
  /-- No lexer rule matched at a character, which became a token. -/
  | unmatched (t : Token)
  /-- A parser rule grouped some tokens. -/
  | grouped (rule : Option Nat) (ts : List Token)
  /-- No parser rule matched at a token. -/
  | skipped (t : Token)
  /-- The processing of a text begins. -/
  | entered (offset length depth : Nat)
  deriving DecidableEq, Repr

/-- The span of the text that some tokens cover. -/
def Event.coveredSpan (ts : List Token) : Span :=
  match ts.head?, ts.getLast? with
  | some first, some last => first.span.join last.span
  | _, _ => .empty

/-- An event on one line. -/
def Event.render : Event → String
  | token t => s!"token {t.render}"
  | unmatched t => s!"unmatched {t.render}"
  | grouped _ ts => s!"tree of {ts.length} tokens ({(coveredSpan ts).render})"
  | skipped t => s!"skipped {t.render}"
  | entered offset length depth => s!"block at {offset} of {length} bytes, depth {depth}"

end Lexigram
