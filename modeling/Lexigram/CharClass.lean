import Lexigram.Text.Folding

/-!
# Classes of characters

A class is a set of characters built from ranges and tables. `CharClass.contains` says which
characters it holds.
-/

namespace Lexigram

/-- A set of characters. -/
inductive CharClass where
  | empty
  /-- The characters from `lo` to `hi`. -/
  | range (lo hi : Char)
  /-- The characters of a table. -/
  | among (ss : List Text.Stretch)
  | complement (a : CharClass)
  | union (a b : CharClass)
  | intersection (a b : CharClass)
  /-- The characters of `a` that are not in `b`. -/
  | difference (a b : CharClass)
  /-- The characters of exactly one of the two. -/
  | symmetricDifference (a b : CharClass)
  /-- The characters that differ from one of `a` in case at most. -/
  | folded (a : CharClass)
  deriving DecidableEq, Repr

namespace CharClass

/-- Whether a character is in a class. -/
def contains : CharClass → Char → Bool
  | empty, _ => false
  | range lo hi, c => lo ≤ c && c ≤ hi
  | among ss, c => Text.Stretch.anyContains c.toNat ss
  | complement a, c => !a.contains c
  | union a b, c => a.contains c || b.contains c
  | intersection a b, c => a.contains c && b.contains c
  | difference a b, c => a.contains c && !b.contains c
  | symmetricDifference a b, c => a.contains c != b.contains c
  | folded a, c => (Text.caseVariants c.toNat).any fun n => a.contains (Char.ofNat n)

/-- The class of one character. -/
def single (c : Char) : CharClass := range c c

/-- The class of all characters. -/
def all : CharClass := complement empty

/-- The class of the characters in one of some tables. -/
def ofTables (tables : List (List Text.Stretch)) : CharClass :=
  tables.foldr (fun ss a => union (among ss) a) empty

/-- The class of the characters that have one of some numbers. -/
def ofNumbers (ns : List Nat) : CharClass := among (ns.map fun n => ⟨n, n, 1⟩)

/-- The complement of a class if `negated`, and the class itself if not. -/
def negateIf (negated : Bool) (a : CharClass) : CharClass := if negated then complement a else a

theorem contains_all (c : Char) : all.contains c = true := rfl

end CharClass

end Lexigram
