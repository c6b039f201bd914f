import Lexigram.Grammar.Node
import Lexigram.Span
import Lexigram.Text.Quoted
import Lexigram.Token

/-!
# Syntax trees

A syntax tree records one attempt to match an atom: where it began and ended, the units in between,
how it came out, and the attempts that it is made of. Attempts without inner structure leave only
their units in the attempt around them.
-/

namespace Lexigram

/-- How an attempt came out. -/
inductive MatchState where
  /-- The attempt goes on. -/
  | pending
  /-- The attempt matched. -/
  | resolved
  /-- The attempt failed. -/
  | deferred
  deriving DecidableEq, Repr

/-- The state as it is named in trees. -/
def MatchState.render : MatchState → String
  | pending => "Pending"
  | resolved => "Resolved"
  | deferred => "Deferred"

/-- The record of an attempt. -/
structure SyntaxTree (α : Type) where
  /-- The handle of the atom, if there is such an atom. -/
  rule : Option Nat
  start : Nat
  stop : Nat
  units : List α
  state : MatchState
  children : List (SyntaxTree α)

namespace SyntaxTree

variable {α : Type}

/-- An attempt that has consumed nothing yet. -/
def begin (rule : Option Nat) (start : Nat) : SyntaxTree α :=
  { rule, start, stop := start, units := [], state := .pending, children := [] }

/-- An attempt that failed before it consumed anything. -/
def deferred (rule : Option Nat) (start : Nat) : SyntaxTree α :=
  { begin rule start with state := .deferred }

/-- Whether the attempt matched. -/
def matched (t : SyntaxTree α) : Bool := t.state == .resolved

/-- The number of positions consumed. -/
def length (t : SyntaxTree α) : Nat := t.stop - t.start

/-- Whether nothing was consumed. -/
def isEmpty (t : SyntaxTree α) : Bool := t.stop == t.start

/-- Whether the attempt matched and consumed something. -/
def isAbsolute (t : SyntaxTree α) : Bool := t.matched && !t.isEmpty

def span (t : SyntaxTree α) : Span := ⟨t.start, t.stop⟩

/-- Says how the attempt came out, which is said only once. -/
def settle (t : SyntaxTree α) (state : MatchState) : SyntaxTree α :=
  if t.state = .pending then { t with state } else t

@[simp] theorem stop_settle (t : SyntaxTree α) (state : MatchState) :
    (t.settle state).stop = t.stop := by
  unfold settle
  split <;> rfl

theorem matched_settle {t : SyntaxTree α} (h : t.state = .pending) (state : MatchState) :
    (t.settle state).matched = (state == .resolved) := by
  unfold settle
  rw [if_pos h, matched]

/-- Adds units up to a position without an attempt of their own. -/
def consume (t : SyntaxTree α) (units : List α) (stop : Nat) : SyntaxTree α :=
  { t with units := t.units ++ units, stop }

/-- Adds an attempt that begins where this one ends so far. -/
def absorb (t child : SyntaxTree α) : SyntaxTree α :=
  { t with
    units := t.units ++ child.units
    stop := child.stop
    children := t.children ++ [child] }

/-- Adds an attempt that begins where this one ends so far. Only one with inner structure is kept,
of others the units are. -/
def merge (t child : SyntaxTree α) : SyntaxTree α :=
  if child.children.isEmpty then t.consume child.units child.stop else t.absorb child

@[simp] theorem stop_merge (t child : SyntaxTree α) : (t.merge child).stop = child.stop := by
  unfold merge
  split <;> rfl

@[simp] theorem state_merge (t child : SyntaxTree α) : (t.merge child).state = t.state := by
  unfold merge
  split <;> rfl

mutual

/-- The handles of a tree and of all trees in it, each before what it is made of. -/
def rules : SyntaxTree α → List (Option Nat)
  | ⟨rule, _, _, _, _, children⟩ => rule :: rulesOfAll children

/-- The handles of some trees and of all trees in them. -/
def rulesOfAll : List (SyntaxTree α) → List (Option Nat)
  | [] => []
  | t :: ts => rules t ++ rulesOfAll ts

end

/-- Units as they are shown in trees. -/
class ShowUnits (α : Type) where
  showUnits : List α → String

instance : ShowUnits Char where
  showUnits s := Text.quoted (String.ofList s)

instance : ShowUnits Token where
  showUnits ts :=
    "[" ++ " ".intercalate (ts.map fun t => Text.quoted (String.ofList t.value)) ++ "]"

/-- The first line of a tree, where `nodes` are the nodes of the grammar by handle. -/
def firstLine [ShowUnits α] (nodes : Array Node) (indent : Nat) (t : SyntaxTree α) : String :=
  let label :=
    match t.rule.bind (nodes[·]?) with
    | some n => s!"{n.id} <{n.kind.render}>"
    | none => "<none>"
  String.ofList (List.replicate (2 * indent) ' ') ++
    s!"{label} {t.start}..{t.stop} {ShowUnits.showUnits t.units}" ++
    (if t.state = .resolved then "" else s!" ({t.state.render})")

mutual

/-- The lines of a tree. -/
def lines [ShowUnits α] (nodes : Array Node) (indent : Nat) : SyntaxTree α → List String
  | ⟨rule, start, stop, units, state, children⟩ =>
    firstLine nodes indent ⟨rule, start, stop, units, state, children⟩ ::
      linesOfAll nodes (indent + 1) children

/-- The lines of some trees. -/
def linesOfAll [ShowUnits α] (nodes : Array Node) (indent : Nat) :
    List (SyntaxTree α) → List String
  | [] => []
  | t :: ts => lines nodes indent t ++ linesOfAll nodes indent ts

end

/-- The text that the tokens of a tree cover. -/
def sourceSpan? (t : SyntaxTree Token) : Option Span :=
  match t.units.head?, t.units.getLast? with
  | some first, some last => some (first.span.join last.span)
  | _, _ => none

end SyntaxTree

end Lexigram
