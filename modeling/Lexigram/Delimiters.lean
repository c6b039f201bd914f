/-!
# Delimiters

A text that is to be read again stands between delimiters: brackets that fit each other, or the same
ASCII punctuation on both sides.
-/

namespace Lexigram.Delimiters

/-- Whether a character is ASCII punctuation. -/
def isPunctuation (c : Char) : Bool := '!' ≤ c && c ≤ '~' && !c.isAlphanum

/-- The delimiter that closes what a delimiter opens. -/
def closing? (c : Char) : Option Char :=
  match c with
  | '\x7b' => some '\x7d'
  | '(' => some ')'
  | '[' => some ']'
  | '<' => some '>'
  | ')' | ']' | '\x7d' | '>' => none
  | c => if isPunctuation c then some c else none

/-- The text between a pair of delimiters. -/
def strip? : List Char → Option (List Char)
  | first :: rest =>
    match closing? first, rest.getLast? with
    | some close, some last => if last = close then some rest.dropLast else none
    | _, _ => none
  | [] => none

end Lexigram.Delimiters
