import Lexigram.Expression
import Lexigram.Expression.Flags
import Lexigram.Text.Hexadecimal

/-!
# Escapes in expressions

A backslash gives the character behind it another meaning: a control character, a character by its
number, a named class or an anchor. Before a sign it takes its meaning away.
-/

namespace Lexigram

/-- What an escape or a plain character stands for. -/
inductive Primitive where
  | char (c : Char)
  | oneOf (a : CharClass)
  | anchor (p : Anchor)
  deriving Repr

namespace Primitive

/-- The characters up to a closing brace, without what does not count, and what follows. -/
def insideBraces (f : Flags) (s : List Char) : Option (List Char × List Char) :=
  match h : f.skip s with
  | [] => none
  | '\x7d' :: rest => some ([], rest)
  | c :: rest =>
    have hl := f.length_skip s
    have : rest.length < s.length := by rw [h, List.length_cons] at hl; exact hl
    (insideBraces f rest).map fun (inside, after) => (c :: inside, after)
termination_by s.length

/-! ## Characters by number -/

/-- The character whose number a row of hexadecimal digits writes. -/
def hexChar? (digits : List Char) : Option Char := Text.ofHex? digits >>= Text.charOfNumber?

/-- Takes a fixed number of characters, without what does not count between and behind them. -/
def takeFixed (f : Flags) : Nat → List Char → Option (List Char × List Char)
  | 0, s => some ([], s)
  | n + 1, c :: s => (takeFixed f n (f.skip s)).map fun (taken, rest) => (c :: taken, rest)
  | _ + 1, [] => none

/-- Reads the number of a character behind `\x`, `\u` or `\U`: as many digits as the letter asks
for, or any number of them in braces. Where classes are those of ASCII, two digits name a byte, and
only a byte of ASCII is a character. -/
def readNumber? (f : Flags) (width : Nat) (s : List Char) : Option (Char × List Char) :=
  match f.skip s with
  | '\x7b' :: s =>
    match insideBraces f s with
    | some (digits, rest) =>
      if digits.isEmpty then none else (hexChar? digits).map (·, f.skip rest)
    | none => none
  | s =>
    match takeFixed f width s with
    | some (digits, rest) =>
      match hexChar? digits with
      | some c => if !f.wide && width = 2 && 0x80 ≤ c.toNat then none else some (c, rest)
      | none => none
    | none => none

/-! ## Properties -/

/-- Splits a text at the first place where a separator stands. -/
def splitAt? (sep : List Char) : List Char → Option (List Char × List Char)
  | [] => none
  | c :: s =>
    if sep.isPrefixOf (c :: s) then some ([], (c :: s).drop sep.length)
    else (splitAt? sep s).map fun (front, back) => (c :: front, back)

/-- The class that the inside of the braces behind `\p` describes: a name, or a name and a value
with `!=`, `:` or `=` between them. The first of these asks for the complement, which is what the
second part of the answer says. -/
def ofDescription? (s : List Char) : Option (CharClass × Bool) :=
  match splitAt? ['!', '='] s with
  | some (name, value) => (CharClass.ofValue? name value).map (·, true)
  | none =>
    match (splitAt? [':'] s).or (splitAt? ['='] s) with
    | some (name, value) => (CharClass.ofValue? name value).map (·, false)
    | none => (CharClass.ofName? s).map (·, false)

/-- A named class as it is used under some flags: if case does not count, its characters in either
case, and the complement of those if it is negated. -/
def adapted (f : Flags) (a : CharClass) (negated : Bool) : CharClass :=
  CharClass.negateIf negated (if f.caseless then .folded a else a)

/-- Reads the name of a property behind `\p`: one character, or a description in braces. -/
def readProperty? (f : Flags) (negated : Bool) (s : List Char) : Option (CharClass × List Char) :=
  if !f.wide then none
  else
    match f.skip s with
    | '\x7b' :: s =>
      match insideBraces f s with
      | some (inside, rest) =>
        (ofDescription? inside).map fun (a, flipped) => (adapted f a (negated != flipped), rest)
      | none => none
    | c :: rest => (CharClass.ofName? [c]).map fun a => (adapted f a negated, f.skip rest)
    | [] => none

/-! ## Words -/

/-- The characters of words under some flags. -/
def wordClass (f : Flags) : CharClass :=
  if f.wide then CharClass.word else (CharClass.asciiClasses.lookup "word").getD .empty

/-- The conditions on words that are written in braces behind `\b`. -/
def wordEdges : List (String × WordEdge) :=
  [("start", .start), ("end", .stop), ("start-half", .halfStart), ("end-half", .halfStop)]

/-- Reads what follows `\b`. A brace with a letter or a hyphen behind it names a condition, and any
other brace is not part of the escape. -/
def readWordEdge? (f : Flags) (s : List Char) : Option (WordEdge × List Char) :=
  match s with
  | '\x7b' :: inside =>
    match f.skip inside with
    | [] => none
    | c :: _ =>
      if c.isAlpha || c = '-' then
        match insideBraces f inside with
        | some (name, rest) => (wordEdges.lookup (String.ofList name)).map (·, rest)
        | none => none
      else some (.edge, s)
  | s => some (.edge, s)

/-! ## Escapes -/

/-- The class that a letter names under some flags. Where classes are those of ASCII, complements
have characters that are no text, and there are none. -/
def ofLetter? (f : Flags) (c : Char) : Option CharClass :=
  if f.wide then CharClass.ofLetter? c
  else
    match c with
    | 'd' => CharClass.asciiClasses.lookup "digit"
    | 's' => CharClass.asciiClasses.lookup "space"
    | 'w' => CharClass.asciiClasses.lookup "word"
    | _ => none

/-- The character that a backslash and `c` stand for, if they stand for a character without more. -/
def escapedChar? (c : Char) : Option Char :=
  match c with
  | 'a' => some '\x07'
  | 'f' => some '\x0c'
  | 't' => some '\t'
  | 'n' => some '\n'
  | 'r' => some '\r'
  | 'v' => some '\x0b'
  | '<' | '>' => none
  | c => if c.toNat < 0x80 && !c.isAlphanum then some c else none

/-- Reads an escape behind its backslash. -/
def readEscape? (f : Flags) (s : List Char) : Option (Primitive × List Char) :=
  match s with
  | 'x' :: s => (readNumber? f 2 s).map fun (c, rest) => (char c, rest)
  | 'u' :: s => (readNumber? f 4 s).map fun (c, rest) => (char c, rest)
  | 'U' :: s => (readNumber? f 8 s).map fun (c, rest) => (char c, rest)
  | 'p' :: s => (readProperty? f false s).map fun (a, rest) => (oneOf a, rest)
  | 'P' :: s => (readProperty? f true s).map fun (a, rest) => (oneOf a, rest)
  | 'd' :: rest | 's' :: rest | 'w' :: rest | 'D' :: rest | 'S' :: rest | 'W' :: rest =>
    (s.head? >>= ofLetter? f).map fun a => (oneOf a, rest)
  | 'A' :: rest => some (anchor .textStart, rest)
  | 'z' :: rest => some (anchor .textEnd, rest)
  | 'b' :: s =>
    (readWordEdge? f s).map fun (e, rest) => (anchor (.wordEdge (wordClass f) e), rest)
  | 'B' :: rest => some (anchor (.wordEdge (wordClass f) .noEdge), rest)
  | '<' :: rest => some (anchor (.wordEdge (wordClass f) .start), rest)
  | '>' :: rest => some (anchor (.wordEdge (wordClass f) .stop), rest)
  | c :: rest => (escapedChar? c).map fun d => (char d, rest)
  | [] => none

end Primitive

end Lexigram
