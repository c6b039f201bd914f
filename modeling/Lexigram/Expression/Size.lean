import Lexigram.CharClass.Encoding
import Lexigram.Expression

/-!
# The size of expressions

An expression is refused if it takes more than a fixed amount of memory to run it. The amount is
that of an automaton over bytes, whose states take 32 bytes each and some more for what they branch
to. One automaton reads forwards and one backwards, and both must fit.
-/

namespace Lexigram

/-- The direction in which an automaton reads. -/
inductive Direction where
  | forward | backward
  deriving DecidableEq, Repr

/-- The memory of a state. -/
def stateSize : Nat := 32

namespace CharClass

/-- Takes sequences apart by their first ranges. Only neighbours with the same first range share
it. -/
def branches : List (List Run) → List (Run × List (List Run))
  | [] => []
  | [] :: rest => branches rest
  | (r :: tail) :: rest =>
    match branches rest with
    | (r', tails) :: more =>
      if r = r' then (r, tail :: tails) :: more else (r, [tail]) :: (r', tails) :: more
    | [] => [(r, [tail])]

/-- The nodes of the tree of some sequences of at most `n` ranges: each is the list of what can
follow it. -/
def nodes : Nat → List (List Run) → List (List (List Run))
  | 0, _ => []
  | n + 1, ss =>
    if ss.all List.isEmpty then []
    else ss :: (branches ss).flatMap fun (_, tails) => nodes n tails

/-- The memory of the states that read a class forwards: nodes with the same future are one. -/
def forwardSize (ss : List (List Run)) : Nat :=
  (nodes 4 ss).eraseDups.foldr (fun node n => stateSize + 8 * (branches node).length + n) stateSize

/-- The memory of the states that read a class backwards: one for each beginning of a sequence. -/
def backwardSize (ss : List (List Run)) : Nat :=
  let beginnings := ss.flatMap fun s => (List.range s.length).map fun k => s.take (k + 1)
  2 * stateSize + 4 * ss.length + stateSize * beginnings.eraseDups.length

/-- The memory of the states that read a character of a class. -/
def size (d : Direction) (a : CharClass) : Nat :=
  match a.extent with
  | [] => stateSize
  | [r] =>
    if r.first = r.last then stateSize * (Run.encode r.first).length
    else if r.last < 0x80 then 2 * stateSize + 8
    else
      match d with
      | .forward => forwardSize a.sequences
      | .backward => backwardSize a.sequences
  | rs =>
    if rs.all (·.last < 0x80) then 2 * stateSize + 8 * rs.length
    else
      match d with
      | .forward => forwardSize a.sequences
      | .backward => backwardSize a.sequences

end CharClass

namespace Expression

/-- The memory of a state with two branches. -/
def forkSize : Nat := stateSize + 2 * 4

/-- The memory of the states of an expression. `side` says that it is a side of a choice, which
takes memory for the branch to it. -/
def size (d : Direction) (side : Bool) : Expression → Nat
  | choice e f => e.size d true + f.size d true + if side then 0 else 2 * stateSize
  | empty => stateSize + if side then 4 else 0
  | one a => a.size d + if side then 4 else 0
  | anchor _ => stateSize + if side then 4 else 0
  | sequence e f => e.size d false + f.size d false + if side then 4 else 0
  | group e =>
    e.size d false + (if d = .forward then 2 * stateSize else 0) + if side then 4 else 0
  | repeated e least most _ =>
    let body := e.size d false
    let copies := if least = 0 then stateSize else least * body
    let all := match most with
      | none =>
        if least ≠ 0 then copies + forkSize
        else if e.consumes then body + forkSize
        else body + 2 * forkSize + stateSize
      | some most =>
        if least = most then copies
        else if least = 0 && most = 1 then body + forkSize + stateSize
        else copies + stateSize + (most - least) * (body + forkSize)
    all + if side then 4 else 0

/-- Whether an expression can only be matched at the end of a text. -/
def isAnchoredAtEnd : Expression → Bool
  | anchor .textEnd => true
  | sequence _ f => f.isAnchoredAtEnd
  | choice e f => e.isAnchoredAtEnd && f.isAnchoredAtEnd
  | group e => e.isAnchoredAtEnd
  | _ => false

/-- The memory of the states in front of an expression: they skip text if the reading may begin
anywhere. -/
def leadSize (anchored : Bool) : Nat := if anchored then stateSize else forkSize + 2 * stateSize + 8

/-- The greatest memory of an automaton. -/
def sizeLimit : Nat := 10 * 0x100000

/-- Whether the automata of an expression take no more memory than they may. -/
def fits (e : Expression) : Bool :=
  leadSize e.isAnchored + e.size .forward false + 3 * stateSize ≤ sizeLimit &&
    leadSize e.isAnchoredAtEnd + e.size .backward false + stateSize ≤ sizeLimit

end Expression

end Lexigram
