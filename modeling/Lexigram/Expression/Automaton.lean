import Lexigram.Expression
import Lexigram.Remaining
import Lexigram.Text.Bytes

/-!
# Automata

An expression is turned into states, each of which reads a character, tests the place of the reading
or branches. `Automaton.end?` follows all branches at once, in the order in which the expression
prefers them, and finds where the preferred reading ends.
-/

namespace Lexigram

/-- A state of an automaton, with the numbers of the states that follow it. -/
inductive Automaton.State where
  | accept
  | read (a : CharClass) (next : Nat)
  | test (p : Anchor) (next : Nat)
  /-- Both states follow, the first one preferred. -/
  | branch (first second : Nat)
  deriving DecidableEq, Repr

/-- States of which one is the first. -/
structure Automaton where
  states : Array Automaton.State
  start : Nat
  /-- Whether the reading can only begin at the beginning of a text. -/
  anchored : Bool
  deriving DecidableEq, Repr

namespace Automaton

/-! ## From expressions to states -/

/-- Makes a state that goes on with a body or beyond it, the body preferred if `greedy`. -/
def fork (greedy : Bool) (body beyond : Nat) : State :=
  if greedy then .branch body beyond else .branch beyond body

/-- Adds a state and returns its number. -/
def push (s : State) (states : Array State) : Nat × Array State := (states.size, states.push s)

/-- Adds a state that forks to a body, which returns to it, or beyond. Returns the numbers of the
body and of the fork. -/
def addLoop (greedy : Bool) (beyond : Nat) (body : Nat → Array State → Nat × Array State)
    (states : Array State) : Nat × Nat × Array State :=
  let loop := states.size
  let (first, states) := body loop (states.push .accept)
  (first, loop, states.setIfInBounds loop (fork greedy first beyond))

/-- Adds a body a number of times, one after another. -/
def addCopies (body : Nat → Array State → Nat × Array State) :
    Nat → Nat → Array State → Nat × Array State
  | 0, next, states => (next, states)
  | n + 1, next, states =>
    let (first, states) := body next states
    addCopies body n first states

/-- Adds a body that may be left out, a number of times, each within the one before. -/
def addOptions (greedy : Bool) (beyond : Nat) (body : Nat → Array State → Nat × Array State) :
    Nat → Nat → Array State → Nat × Array State
  | 0, next, states => (next, states)
  | n + 1, next, states =>
    let (first, states) := body next states
    let (option, states) := push (fork greedy first beyond) states
    addOptions greedy beyond body n option states

/-- Adds the states of an expression, after which the state `next` follows, and returns the number
of the first of them. A body that need not take up text is repeated as an option of one or more, so
that what it prefers comes before leaving it. -/
def add : Expression → Nat → Array State → Nat × Array State
  | .empty, next, states => (next, states)
  | .one a, next, states => push (.read a next) states
  | .anchor p, next, states => push (.test p next) states
  | .sequence e f, next, states =>
    let (middle, states) := add f next states
    add e middle states
  | .choice e f, next, states =>
    let (second, states) := add f next states
    let (first, states) := add e next states
    push (.branch first second) states
  | .group e, next, states => add e next states
  | .repeated e least (some most) greedy, next, states =>
    let (option, states) := addOptions greedy next (add e) (most - least) next states
    addCopies (add e) least option states
  | .repeated e least none greedy, next, states =>
    let (first, loop, states) := addLoop greedy next (add e) states
    if least = 0 then
      if e.consumes then (loop, states) else push (fork greedy first next) states
    else addCopies (add e) (least - 1) first states

/-- The automaton of an expression. -/
def ofExpression (e : Expression) : Automaton :=
  let (start, states) := add e 0 #[.accept]
  ⟨states, start, e.isAnchored⟩

/-! ## Running -/

/-- The states that follow a state without reading, the preferred first. -/
def State.onward (before after : Option Char) : State → List Nat
  | accept => []
  | read _ _ => []
  | test p next => if p.holds before after then [next] else []
  | branch first second => [first, second]

/-- Extends `seen`, a list of states with the last first, by those in `todo` and all that follow
them without reading between two characters. -/
def closure (m : Automaton) (before after : Option Char) (todo seen : List Nat) : List Nat :=
  match todo with
  | [] => seen
  | i :: todo =>
    if hs : i ∈ seen then m.closure before after todo seen
    else if hi : i < m.states.size then
      have := remaining_cons_lt (List.mem_range.2 hi) hs
      m.closure before after (m.states[i].onward before after ++ todo) (i :: seen)
    else m.closure before after todo seen
termination_by (remaining (List.range m.states.size) seen, todo.length)

/-- Whether a state accepts. -/
def accepts (m : Automaton) (i : Nat) : Bool := m.states[i]? == some .accept

/-- The state that follows a state when it reads a character, if it can. -/
def follow? (m : Automaton) (c : Char) (i : Nat) : Option Nat :=
  match m.states[i]? with
  | some (.read a next) => if a.contains c then some next else none
  | _ => none

/-- The states that are reached at a place, the preferred first: those in `todo` and what follows
them, and the first state if nothing has been found and the reading may begin here. -/
def reached (m : Automaton) (before : Option Char) (s : List Char) (todo : List Nat)
    (found : Bool) : List Nat :=
  let begins := !found && (before.isNone || !m.anchored)
  (m.closure before s.head? (if begins then todo ++ [m.start] else todo) []).reverse

/-- Where the preferred reading ends, as a byte offset. The reading is at `offset`, behind the
character `before`, with the states of `todo` and the end `found` of what is preferred so far. A
state that accepts cuts off all that are less preferred. -/
def endFrom? (m : Automaton) (before : Option Char) (todo : List Nat) (found : Option Nat)
    (offset : Nat) (s : List Char) : Option Nat :=
  let states := m.reached before s todo found.isSome
  let preferred := states.takeWhile fun i => !m.accepts i
  let found := if preferred.length < states.length then some offset else found
  match s with
  | [] => found
  | c :: rest =>
    if preferred.isEmpty && (found.isSome || m.anchored) then found
    else m.endFrom? (some c) (preferred.filterMap (m.follow? c)) found (offset + c.utf8Size) rest

/-- A reading ends where one has ended before or behind some of the characters to come. -/
theorem endFrom?_eq_some {m : Automaton} {before : Option Char} {todo : List Nat}
    {found : Option Nat} {offset n : Nat} {s : List Char}
    (h : m.endFrom? before todo found offset s = some n) :
    found = some n ∨ ∃ front back, s = front ++ back ∧ n = offset + Text.byteLength front := by
  induction s generalizing before todo found offset with
  | nil =>
    rw [endFrom?] at h
    split at h
    · exact .inr ⟨[], [], rfl, (Option.some.inj h).symm⟩
    · exact .inl h
  | cons c s ih =>
    have here (ho : some offset = some n) :
        ∃ front back, c :: s = front ++ back ∧ n = offset + Text.byteLength front :=
      ⟨[], c :: s, rfl, (Option.some.inj ho).symm⟩
    have further {b : Option Char} {t : List Nat} {f : Option Nat}
        (hf : m.endFrom? b t f (offset + c.utf8Size) s = some n) :
        f = some n ∨ ∃ front back, c :: s = front ++ back ∧ n = offset + Text.byteLength front := by
      rcases ih hf with hf | ⟨front, back, rfl, rfl⟩
      · exact .inl hf
      · refine .inr ⟨c :: front, back, rfl, ?_⟩
        rw [Text.byteLength_cons, Nat.add_assoc]
    rw [endFrom?] at h
    split at h
    · split at h
      · exact .inr (here h)
      · exact .inr ((further h).elim here id)
    · split at h
      · exact .inl h
      · exact further h

/-- Where the preferred reading that begins first in a text ends, as a byte offset. -/
def end? (m : Automaton) (s : List Char) : Option Nat := m.endFrom? none [] none 0 s

theorem end?_eq_some {m : Automaton} {s : List Char} {n : Nat} (h : m.end? s = some n) :
    ∃ front back, s = front ++ back ∧ n = Text.byteLength front := by
  rcases endFrom?_eq_some h with h | ⟨front, back, hs, hn⟩
  · simp at h
  · exact ⟨front, back, hs, by rw [hn, Nat.zero_add]⟩

end Automaton

end Lexigram
