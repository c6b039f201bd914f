import Lexigram.CharClass.Named

/-!
# Expressions

An expression describes texts: characters of classes one after another, choices and repetitions,
and conditions on the place where the reading is. A choice prefers its first side, and a repetition
prefers to go on if it is greedy and to stop if it is not.
-/

namespace Lexigram

/-! ## Anchors -/

/-- A condition on the two characters around a place, by whether they belong to words. -/
inductive WordEdge where
  /-- A word begins or ends here. -/
  | edge
  /-- No word begins or ends here. -/
  | noEdge
  | start
  | stop
  /-- No character of a word stands before. -/
  | halfStart
  /-- No character of a word follows. -/
  | halfStop
  deriving DecidableEq, Repr

/-- Whether the condition holds between two characters that belong to words or do not. -/
def WordEdge.holds (before after : Bool) : WordEdge → Bool
  | edge => before != after
  | noEdge => before == after
  | start => !before && after
  | stop => before && !after
  | halfStart => !before
  | halfStop => !after

/-- A condition on a place in a text. -/
inductive Anchor where
  | textStart
  | textEnd
  /-- A line begins here. With `returns`, lines end with a carriage return, a line feed or both. -/
  | lineStart (returns : Bool)
  /-- A line ends here. -/
  | lineEnd (returns : Bool)
  /-- The characters of words are those of a class. -/
  | wordEdge (w : CharClass) (e : WordEdge)
  deriving DecidableEq, Repr

/-- Whether the condition holds between two characters, which are absent at the ends of the text. -/
def Anchor.holds (before after : Option Char) : Anchor → Bool
  | textStart => before.isNone
  | textEnd => after.isNone
  | lineStart false => before.isNone || before == some '\n'
  | lineEnd false => after.isNone || after == some '\n'
  | lineStart true =>
    before.isNone || before == some '\n' || (before == some '\r' && after != some '\n')
  | lineEnd true =>
    after.isNone || after == some '\r' || (after == some '\n' && before != some '\r')
  | wordEdge w e => e.holds (before.any w.contains) (after.any w.contains)

/-! ## Expressions -/

/-- A description of texts. -/
inductive Expression where
  | empty
  /-- One character of a class. -/
  | one (a : CharClass)
  | anchor (p : Anchor)
  | sequence (e f : Expression)
  | choice (e f : Expression)
  | repeated (e : Expression) (least : Nat) (most : Option Nat) (greedy : Bool)
  /-- A part that can be referred to. -/
  | group (e : Expression)
  deriving Repr

namespace Expression

/-- Whether an expression can only be about a place and never takes up any text. -/
def isWidthless : Expression → Bool
  | empty => true
  | one _ => false
  | anchor _ => true
  | sequence e f => e.isWidthless && f.isWidthless
  | choice e f => e.isWidthless && f.isWidthless
  | repeated e _ _ _ => e.isWidthless
  | group e => e.isWidthless

/-- Whether an expression always takes up some text. -/
def consumes : Expression → Bool
  | empty => false
  | one _ => true
  | anchor _ => false
  | sequence e f => e.consumes || f.consumes
  | choice e f => e.consumes && f.consumes
  | repeated e least _ _ => least != 0 && e.consumes
  | group e => e.consumes

/-- Whether an expression can only be matched from the beginning of a text. -/
def isAnchored : Expression → Bool
  | anchor .textStart => true
  | sequence e _ => e.isAnchored
  | choice e f => e.isAnchored && f.isAnchored
  | group e => e.isAnchored
  | _ => false

/-- One expression after another. -/
def followedBy : Expression → Expression → Expression
  | empty, f => f
  | e, empty => e
  | e, f => sequence e f

/-- Expressions one after another. -/
def ofSequence (es : List Expression) : Expression := es.foldr followedBy empty

/-- The classes of expressions that each describe one character, if they all do. -/
def classes? (es : List Expression) : Option (List CharClass) :=
  es.mapM fun
    | one a => some a
    | _ => none

/-- A choice among expressions, of which the first is preferred. Single characters make a class. -/
def ofChoices (es : List Expression) : Expression :=
  match classes? es with
  | some (a :: as) => one (as.foldl .union a)
  | _ =>
    match es.reverse with
    | [] => one .empty
    | last :: front => front.foldl (fun f e => choice e f) last

/-- A repetition. What takes up no text is not repeated more than once. -/
def times (e : Expression) (least : Nat) (most : Option Nat) (greedy : Bool) : Expression :=
  let least := if e.isWidthless then min least 1 else least
  let most := if e.isWidthless then some (min (most.getD 1) 1) else most
  if most = some 0 then empty
  else if least = 1 && most = some 1 then e
  else repeated e least most greedy

end Expression

end Lexigram
