import Lexigram.Expression.Escape

/-!
# Classes in brackets

The written form of a class stands between brackets. It holds characters, ranges, escapes, named
classes and further classes in brackets, and `^` in front makes it a complement. The operators `&&`,
`--` and `~~` intersect, subtract and take the symmetric difference of what stands on their two
sides; they bind equally and to the left. Where case does not count, every set of characters is
taken in either case before it is negated or operated on.

How deep brackets, lists and operators lie in each other is counted along with the reading.
-/

namespace Lexigram.Brackets

/-- A class and how deep its written form is. -/
structure Nested where
  value : CharClass
  depth : Nat
  deriving Repr

/-! ## Items and ranges -/

/-- Whether a character may stand in a class: where classes are those of ASCII, others may not. -/
def admits (f : Flags) (c : Char) : Bool := f.wide || c.toNat < 0x80

/-- Reads one character or named class. -/
def readItem? (f : Flags) (s : List Char) : Option (Primitive × List Char) :=
  match s with
  | '\\' :: s => Primitive.readEscape? f s
  | c :: s => some (.char c, s)
  | [] => none

/-- The class of an item on its own. -/
def ofItem? (f : Flags) : Primitive → Option CharClass
  | .char c => if admits f c then some (.single c) else none
  | .oneOf a => some a
  | .anchor _ => none

/-- The character behind a hyphen that decides whether the hyphen makes a range. Where blanks and
comments do not count, the sign of a comment is passed over but not the text of the comment. -/
def afterHyphen? (f : Flags) (s : List Char) : Option Char :=
  if f.spaced then
    match s.dropWhile Text.isBlank with
    | '#' :: rest => ((rest.dropWhile Text.isBlank).head?).or s.head?
    | c :: _ => some c
    | [] => s.head?
  else s.head?

/-- Reads an item or a range between two characters in ascending order. A hyphen before a closing
bracket or another hyphen makes no range. -/
def readRange? (f : Flags) (s : List Char) : Option (CharClass × List Char) := do
  let (low, s) ← readItem? f s
  match f.skip s with
  | '-' :: rest =>
    if afterHyphen? f rest = some ']' || afterHyphen? f rest = some '-' then
      (ofItem? f low).map (·, '-' :: rest)
    else
      let (high, rest) ← readItem? f (f.skip rest)
      match low, high with
      | .char lo, .char hi =>
        if lo ≤ hi && admits f lo && admits f hi then some (.range lo hi, rest) else none
      | _, _ => none
  | s => (ofItem? f low).map (·, s)

/-- Reads a named class of ASCII characters behind its opening bracket. The first part of the answer
says whether it is negated. -/
def readAsciiClass? (s : List Char) : Option (Bool × CharClass × List Char) :=
  match s with
  | ':' :: s =>
    let negated := s.head? = some '^'
    let s := if negated then s.drop 1 else s
    let name := s.takeWhile (· != ':')
    match s.drop name.length with
    | ':' :: ']' :: rest =>
      (CharClass.asciiClasses.lookup (String.ofList name)).map fun a => (negated, a, rest)
    | _ => none
  | _ => none

/-! ## Brackets -/

/-- An operator between two operands of a class. -/
inductive Operator where
  | intersection | difference | symmetricDifference
  deriving DecidableEq, Repr

/-- The class that an operator makes of two. -/
def Operator.apply : Operator → CharClass → CharClass → CharClass
  | intersection => .intersection
  | difference => .difference
  | symmetricDifference => .symmetricDifference

/-- A pair of brackets that is still open. -/
structure Frame where
  negated : Bool
  /-- The operator before the current operand, with what stands on its left. -/
  left : Option (Operator × Nested)
  /-- The union of the items of the current operand, with the depth of the deepest. -/
  operand : Nested
  /-- How many items the current operand has. -/
  count : Nat

namespace Frame

/-- Adds an item to the current operand. -/
def add (g : Frame) (a : Nested) : Frame :=
  { g with
    operand := ⟨.union g.operand.value a.value, max g.operand.depth a.depth⟩
    count := g.count + 1 }

/-- The current operand: several items form a list, which is one deeper than they are. -/
def list (g : Frame) : Nested :=
  if g.count < 2 then g.operand else ⟨g.operand.value, g.operand.depth + 1⟩

/-- A set of characters as it is operated on. -/
def settled (f : Flags) (a : CharClass) : CharClass :=
  if f.caseless then if f.wide then .folded a else .intersection (.folded a) (.range '\x00' '\x7f')
  else a

/-- What stands between the brackets so far. -/
def value (f : Flags) (g : Frame) : Nested :=
  match g.left with
  | some (op, a) =>
    ⟨op.apply (settled f a.value) (settled f g.list.value), max a.depth g.list.depth + 1⟩
  | none => g.list

/-- Begins a new operand behind an operator. -/
def operate (f : Flags) (g : Frame) (op : Operator) : Frame :=
  { g with left := some (op, g.value f), operand := ⟨.empty, 0⟩, count := 0 }

/-- The class that the brackets stand for when they close. Where classes are those of ASCII, a
complement has characters that are no text, and there is none. -/
def close? (f : Flags) (g : Frame) : Option Nested :=
  if g.negated && !f.wide then none
  else
    let a := g.value f
    some ⟨.negateIf g.negated (settled f a.value), a.depth + 1⟩

end Frame

/-- Reads hyphens that stand for themselves, and returns how many there are. -/
def readHyphens (f : Flags) : Nat → List Char → Nat × List Char
  | 0, s => (0, s)
  | n + 1, '-' :: s =>
    let (count, rest) := readHyphens f n (f.skip s)
    (count + 1, rest)
  | _, s => (0, s)

/-- Reads what may stand only directly behind an opening bracket: the mark of a complement, then
hyphens, or else a closing bracket, that stand for themselves. -/
def readOpening (f : Flags) (s : List Char) : Frame × List Char :=
  let s := f.skip s
  let negated := s.head? = some '^'
  let s := if negated then f.skip (s.drop 1) else s
  match s with
  | ']' :: s => (⟨negated, none, ⟨.single ']', 0⟩, 1⟩, f.skip s)
  | s =>
    let (count, rest) := readHyphens f s.length s
    (⟨negated, none, ⟨if count = 0 then .empty else .single '-', 0⟩, count⟩, rest)

/-- What comes next inside brackets. -/
inductive Turn where
  /-- An item of the current operand. -/
  | item (a : Nested)
  /-- An opening bracket with what belongs to it. -/
  | opening (g : Frame)
  | closing
  | operator (op : Operator)

/-- Reads what comes next inside brackets. -/
def readTurn? (f : Flags) (s : List Char) : Option (Turn × List Char) :=
  match f.skip s with
  | [] => none
  | '[' :: rest =>
    match readAsciiClass? rest with
    | some (negated, a, after) =>
      if negated && !f.wide then none
      else some (.item ⟨.negateIf negated (Frame.settled f a), 0⟩, after)
    | none => some (.opening (readOpening f rest).1, (readOpening f rest).2)
  | ']' :: rest => some (.closing, rest)
  | '&' :: '&' :: rest => some (.operator .intersection, rest)
  | '-' :: '-' :: rest => some (.operator .difference, rest)
  | '~' :: '~' :: rest => some (.operator .symmetricDifference, rest)
  | s => (readRange? f s).map fun (a, rest) => (.item ⟨a, 0⟩, rest)

/-- Reads on inside the brackets `g`, with the brackets around them outwards in `outer`. Every turn
uses up some of the text. -/
def readBody? (f : Flags) (s : List Char) (g : Frame) (outer : List Frame) :
    Option (Nested × List Char) :=
  match readTurn? f s with
  | none => none
  | some (turn, rest) =>
    if rest.length < s.length then
      match turn with
      | .item a => readBody? f rest (g.add a) outer
      | .opening inner => readBody? f rest inner (g :: outer)
      | .operator op => readBody? f rest (g.operate f op) outer
      | .closing =>
        match g.close? f, outer with
        | none, _ => none
        | some a, [] => some (a, rest)
        | some a, up :: outer => readBody? f rest (up.add a) outer
    else none
termination_by s.length

/-- Reads a class behind its opening bracket and returns it with what follows it. -/
def read? (f : Flags) (s : List Char) : Option (Nested × List Char) :=
  readBody? f (readOpening f s).2 (readOpening f s).1 []

/-- The class that a whole text writes, brackets included. -/
def ofText? : List Char → Option Nested
  | '[' :: s =>
    match read? .standard s with
    | some (a, []) => some a
    | _ => none
  | _ => none

end Lexigram.Brackets
