import Lexigram.Expression.Brackets

/-!
# Reading expressions

An expression is read from left to right with the groups that are still open around the place of the
reading. How deep its parts lie in each other is counted along, and what is too deep is refused.
-/

namespace Lexigram.Expression

/-- The greatest depth of an expression. -/
def depthLimit : Nat := 250

/-- A part of an expression and how deep its written form is. -/
structure Part where
  value : Expression
  depth : Nat
  /-- Whether a repetition may follow: not behind flags. -/
  repeatable : Bool

namespace Part

/-- A part without parts of its own. -/
def flat (e : Expression) : Part := ⟨e, 0, true⟩

/-- Puts parts together. Several make a part that is one deeper than they are. -/
def combine (f : List Expression → Expression) : List Part → Part
  | [p] => p
  | [] => flat (f [])
  | ps => ⟨f (ps.map value), ps.foldl (fun d p => max d p.depth) 0 + 1, true⟩

end Part

/-! ## Literal characters, dots and anchors -/

/-- The expression of one character. Where classes are those of ASCII, only its letters have two
cases. -/
def ofChar (f : Flags) (c : Char) : Expression :=
  if f.wide || c.toNat < 0x80 then one (Brackets.Frame.settled f (.single c)) else one (.single c)

/-- The expression of a full stop: any character that ends no line, or any at all. Where classes are
those of ASCII, it has characters that are no text, and there is none. -/
def dot? (f : Flags) : Option Expression :=
  if !f.wide then none
  else if f.dotAll then some (one .all)
  else if f.returns then some (one (.complement (.union (.single '\n') (.single '\r'))))
  else some (one (.complement (.single '\n')))

/-- The expression of a circumflex. -/
def lineStart (f : Flags) : Expression :=
  anchor (if f.multiline then .lineStart f.returns else .textStart)

/-- The expression of a dollar. -/
def lineEnd (f : Flags) : Expression :=
  anchor (if f.multiline then .lineEnd f.returns else .textEnd)

/-- The expression of what an escape stands for. -/
def ofPrimitive (f : Flags) : Primitive → Expression
  | .char c => ofChar f c
  | .oneOf a => one a
  | .anchor p => anchor p

/-! ## Repetitions -/

/-- How often something may be repeated, and whether the sign of laziness follows. -/
structure Count where
  least : Nat
  most : Option Nat
  lazy : Bool

/-- The decimal digits at the start of a text, without what does not count between them. -/
def takeDigits (f : Flags) (s : List Char) : List Char × List Char :=
  match s with
  | [] => ([], [])
  | c :: s =>
    if c.isDigit then
      have := f.length_skip s
      let (digits, rest) := takeDigits f (f.skip s)
      (c :: digits, rest)
    else ([], c :: s)
termination_by s.length

/-- The greatest bound of a repetition. -/
def boundLimit : Nat := 0xFFFFFFFF

/-- Reads a bound of a repetition, with blanks around it. -/
def readBound? (f : Flags) (s : List Char) : Option (Nat × List Char) :=
  let (digits, rest) := takeDigits f (s.dropWhile Text.isBlank)
  let n := digits.foldl (fun n d => 10 * n + (d.toNat - '0'.toNat)) 0
  if digits.isEmpty || boundLimit < n then none else some (n, rest.dropWhile Text.isBlank)

/-- Reads the sign of laziness. -/
def readLazy (s : List Char) : Bool × List Char :=
  match s with
  | '?' :: rest => (true, rest)
  | s => (false, s)

/-- Reads bounds of a repetition behind their brace: one for both, or two with a comma, of which the
second may be left out. -/
def readCount? (f : Flags) (s : List Char) : Option (Count × List Char) := do
  let (least, s) ← readBound? f (f.skip s)
  let (most, s) ← (match s with
    | ',' :: s =>
      match f.skip s with
      | '\x7d' :: s => some (none, s)
      | s =>
        match readBound? f s with
        | some (most, '\x7d' :: s) => some (some most, s)
        | _ => none
    | '\x7d' :: s => some (some least, s)
    | _ => none)
  let (lazy, rest) := readLazy (f.skip s)
  if most.any (· < least) then none else some (⟨least, most, lazy⟩, rest)

/-! ## Groups -/

/-- Whether a character may stand in the name of a group. -/
def isNameChar (first : Bool) (c : Char) : Bool :=
  if first then c = '_' || Text.isAlphabetic c
  else c = '_' || c = '.' || c = '[' || c = ']' || Text.isAlphanumeric c

/-- Reads the name of a group up to its closing bracket. -/
def readName? (s : List Char) : Option (List Char × List Char) :=
  let name := s.takeWhile (· != '>')
  match name, s.drop name.length with
  | c :: cs, _ :: rest =>
    if isNameChar true c && cs.all (isNameChar false) then some (name, rest) else none
  | _, _ => none

/-- What an opening bracket begins. -/
inductive Opening where
  /-- A group that can be referred to, by name if it has one. -/
  | capture (name : Option (List Char))
  /-- A group with its own flags. -/
  | plain (flags : Flags)
  /-- No group: new flags for the rest of the group around it. -/
  | setting (flags : Flags)

/-- Reads what follows an opening bracket. Conditions on the text around a place are refused. -/
def readOpening? (f : Flags) (s : List Char) : Option (Opening × List Char) :=
  match f.skip s with
  | '?' :: '=' :: _ | '?' :: '!' :: _ | '?' :: '<' :: '=' :: _ | '?' :: '<' :: '!' :: _ => none
  | '?' :: 'P' :: '<' :: s | '?' :: '<' :: s =>
    (readName? s).map fun (name, rest) => (.capture (some name), rest)
  | '?' :: s =>
    (f.readSetting? [] true false s).map fun t =>
      (if t.opensGroup then .plain t.flags else .setting t.flags, t.rest)
  | s => some (.capture none, s)

/-! ## The reading -/

/-- A group that is still open, or the whole expression. -/
structure Level where
  captures : Bool
  /-- The flags at the place of the reading. -/
  flags : Flags
  /-- The sides of the choice that are complete, the last first. -/
  sides : List Part
  /-- The parts of the current side, the last first. -/
  parts : List Part

namespace Level

/-- A group that has just been opened. -/
def start (captures : Bool) (f : Flags) : Level := ⟨captures, f, [], []⟩

/-- Adds a part to the current side. -/
def add (l : Level) (p : Part) : Level := { l with parts := p :: l.parts }

/-- The current side. -/
def side (l : Level) : Part := Part.combine ofSequence l.parts.reverse

/-- Begins a new side. -/
def divide (l : Level) : Level := { l with sides := l.side :: l.sides, parts := [] }

/-- All sides together. -/
def whole (l : Level) : Part := Part.combine ofChoices (l.side :: l.sides).reverse

/-- The part that the group is when it closes. -/
def close (l : Level) : Part :=
  ⟨if l.captures then group l.whole.value else l.whole.value, l.whole.depth + 1, true⟩

/-- Repeats the last part. -/
def repeat? (l : Level) (n : Count) : Option Level :=
  match l.parts with
  | p :: parts =>
    if p.repeatable then
      let e := p.value.times n.least n.most (n.lazy == l.flags.swapGreed)
      some { l with parts := ⟨e, p.depth + 1, true⟩ :: parts }
    else none
  | [] => none

end Level

/-- A reading under way: the innermost open group, the groups around it outwards, the names of
groups so far and what is left to read. -/
structure Reading where
  level : Level
  outer : List Level
  names : List (List Char)
  rest : List Char

namespace Reading

/-- Goes on with a part added. -/
def add (r : Reading) (p : Part) (rest : List Char) : Reading :=
  { r with level := r.level.add p, rest := rest }

/-- Goes on behind an opening bracket, if the name of the group is new. -/
def opened? (r : Reading) : Opening → List Char → Option Reading
  | .capture none, rest =>
    some ⟨.start true r.level.flags, r.level :: r.outer, r.names, rest⟩
  | .capture (some name), rest =>
    if r.names.contains name then none
    else some ⟨.start true r.level.flags, r.level :: r.outer, name :: r.names, rest⟩
  | .plain f, rest => some ⟨.start false f, r.level :: r.outer, r.names, rest⟩
  | .setting f, rest =>
    some { r with level := { r.level.add ⟨empty, 0, false⟩ with flags := f }, rest := rest }

/-- Goes on behind a sign of repetition. -/
def repeated? (r : Reading) (n : Count) (rest : List Char) : Option Reading :=
  (r.level.repeat? n).map fun level => { r with level := level, rest := rest }

/-- Goes on behind a sign of repetition that the sign of laziness may follow. -/
def repeatedLazily? (r : Reading) (least : Nat) (most : Option Nat) (rest : List Char) :
    Option Reading :=
  r.repeated? ⟨least, most, (readLazy rest).1⟩ (readLazy rest).2

/-- Reads one sign, with what belongs to it. -/
def turn? (r : Reading) (c : Char) (rest : List Char) : Option Reading :=
  let f := r.level.flags
  match c with
  | '(' => (readOpening? f rest) >>= fun (opening, rest) => r.opened? opening rest
  | ')' =>
    match r.outer with
    | up :: outer => some ⟨up.add r.level.close, outer, r.names, rest⟩
    | [] => none
  | '|' => some { r with level := r.level.divide, rest := rest }
  | '[' => (Brackets.read? f rest).map fun (a, rest) => r.add ⟨one a.value, a.depth, true⟩ rest
  | '?' => r.repeatedLazily? 0 (some 1) rest
  | '*' => r.repeatedLazily? 0 none rest
  | '+' => r.repeatedLazily? 1 none rest
  | '\x7b' => (readCount? f rest) >>= fun (n, rest) => r.repeated? n rest
  | '\\' => (Primitive.readEscape? f rest).map fun (p, rest) => r.add (.flat (ofPrimitive f p)) rest
  | '.' => (dot? f).map fun e => r.add (.flat e) rest
  | '^' => some (r.add (.flat (lineStart f)) rest)
  | '$' => some (r.add (.flat (lineEnd f)) rest)
  | c => some (r.add (.flat (ofChar f c)) rest)

/-- Reads to the end of the text. All groups must be closed there. Every turn uses up some of the
text. -/
def finish? (r : Reading) : Option Part :=
  match r.level.flags.skip r.rest with
  | [] => if r.outer.isEmpty then some r.level.whole else none
  | c :: rest =>
    match r.turn? c rest with
    | some next => if next.rest.length < r.rest.length then next.finish? else none
    | none => none
termination_by r.rest.length

end Reading

/-- The expression that a text writes. -/
def ofText? (s : List Char) : Option Expression :=
  match Reading.finish? ⟨.start false .standard, [], [], s⟩ with
  | some p => if p.depth ≤ depthLimit then some p.value else none
  | none => none

end Lexigram.Expression
