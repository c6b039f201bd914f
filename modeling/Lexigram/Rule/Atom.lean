import Lexigram.Pattern
import Lexigram.Quantifier
import Lexigram.Rule.Command
import Lexigram.Rule.Kind
import Lexigram.Rule.Options

/-!
# Rules and atoms

The body of a rule is a list of alternatives, and an alternative is a list of atoms. An atom tests
a pattern, refers to a rule, or groups further alternatives. Rules and atoms are numbered by
handles: a rule takes one number, and its atoms the numbers behind it in the order in which they
are written.
-/

namespace Lexigram

/-- What all atoms have. -/
structure Mark where
  handle : Nat
  /-- The atom accepts one unit where it would otherwise fail, and fails elsewhere. -/
  inverted : Bool
  quantifier : Quantifier
  deriving DecidableEq, Repr

/-- How a pattern was written. -/
inductive LeafKind where
  /-- Between apostrophes. -/
  | literal
  /-- As a class or a dot. -/
  | expression
  deriving DecidableEq, Repr

/-- The test of an atom without inner structure. -/
structure Leaf where
  kind : LeafKind
  /-- The test as it was written. -/
  value : List Char
  pattern : Pattern
  /-- The repetition has to end where the text does. -/
  anchoredEnd : Bool
  deriving DecidableEq, Repr

/-- One step of an alternative. -/
inductive Atom where
  | leaf (mark : Mark) (leaf : Leaf)
  | reference (mark : Mark) (name : String)
  /-- Ordered alternatives. Those of a lookahead must all fail, and nothing is consumed. -/
  | group (mark : Mark) (lookahead : Bool) (value : List Char) (alternatives : List (List Atom))
  deriving Repr

namespace Atom

def mark : Atom → Mark
  | leaf m _ | reference m _ | group m _ _ _ => m

def handle (a : Atom) : Nat := a.mark.handle

/-- Whether the repetition of the atom has to end where the text does. -/
def anchoredEnd : Atom → Bool
  | leaf _ l => l.anchoredEnd
  | reference _ _ | group _ _ _ _ => false

def isLookahead : Atom → Bool
  | group _ lookahead _ _ => lookahead
  | leaf _ _ | reference _ _ => false

theorem sizeOf_pos (a : Atom) : 0 < sizeOf a := by
  cases a <;> simp only [leaf.sizeOf_spec, reference.sizeOf_spec, group.sizeOf_spec] <;> omega

end Atom

/-- The atoms of some alternatives, each group before what it holds. -/
def Atom.flatten : List (List Atom) → List Atom
  | [] => []
  | [] :: alternatives => flatten alternatives
  | (.group m lookahead value inner :: atoms) :: alternatives =>
    .group m lookahead value inner :: (flatten inner ++ flatten (atoms :: alternatives))
  | (a :: atoms) :: alternatives => a :: flatten (atoms :: alternatives)

/-- The order of a rule that asks for none: behind all others. -/
def Rule.lastOrder : Int := 0x7FFFFFFFFFFFFFFF

/-- A rule of a grammar. -/
structure Rule where
  id : String
  kind : RuleKind
  /-- The number of the rule, which its atoms follow. -/
  handle : Nat
  alternatives : List (List Atom)
  /-- Rules of lower order are tried first. -/
  order : Int := Rule.lastOrder
  categories : List String := []
  options : RuleOptions := {}
  command : Option Command := none
  deriving Repr

namespace Rule

/-- A rule as an atom: the group of its alternatives. -/
def head (r : Rule) : Atom := .group ⟨r.handle, false, .once⟩ false r.id.toList r.alternatives

/-- The atoms of a rule, each group before what it holds. -/
def atoms (r : Rule) : List Atom := Atom.flatten r.alternatives

/-- The names that a rule refers to, in the order in which they are written. -/
def references (r : Rule) : List String :=
  r.atoms.filterMap fun
    | .reference _ name => some name
    | _ => none

/-- How many handles the rule and its atoms take. -/
def size (r : Rule) : Nat := r.atoms.length + 1

def hasCategory (r : Rule) (name : String) : Bool := r.categories.contains name

end Rule

end Lexigram
