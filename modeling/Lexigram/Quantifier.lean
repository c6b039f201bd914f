import Lexigram.Text.Bytes
import Lexigram.Text.Decimal
import Lexigram.Text.Property

/-!
# Quantifiers

A quantifier says how often an atom of a rule may repeat, and whether it should stop as early as
what follows allows. Its written form follows the atom: `*`, `+`, `?` or a range in braces, each
with a `?` behind it when it is lazy. The least and the greatest count fit in 64 bits; the greatest
number stands for "without bound".
-/

namespace Lexigram

/-- The written form that a quantifier was made for. -/
inductive Quantifier.Kind where
  | once | zeroOrMore | oneOrMore | optional | range
  deriving DecidableEq, Repr

/-- How often an atom may repeat. -/
structure Quantifier where
  kind : Quantifier.Kind
  min : Nat
  max : Nat
  lazy : Bool
  deriving DecidableEq, Repr

namespace Quantifier

/-- The greatest count that can be written, which stands for no bound at all. -/
def unbounded : Nat := 0xFFFFFFFFFFFFFFFF

def once : Quantifier := ⟨.once, 1, 1, false⟩

def zeroOrMore : Quantifier := ⟨.zeroOrMore, 0, unbounded, false⟩

def oneOrMore : Quantifier := ⟨.oneOrMore, 1, unbounded, false⟩

def optional : Quantifier := ⟨.optional, 0, 1, false⟩

/-- The range from `min` to `max`, unless the bounds are out of order. -/
def range? (min max : Nat) (lazy : Bool) : Option Quantifier :=
  if min ≤ max then some ⟨.range, min, max, lazy⟩ else none

/-- Whether the atom may be left out. -/
def isOptional (q : Quantifier) : Bool := q.min == 0

/-- Whether the count can vary. -/
def isGreedy (q : Quantifier) : Bool := q.min < q.max

/-- Whether the atom occurs exactly once. -/
def isOnce (q : Quantifier) : Bool := q.min == 1 && q.max == 1

/-- Whether a count lies within the bounds. -/
def admits (q : Quantifier) (count : Nat) : Bool := q.min ≤ count && count ≤ q.max

/-! ## Written form -/

/-- The number written by a row of digits, unless it exceeds the greatest count. -/
def readBound? (ds : List Char) : Option Nat :=
  let n := Text.ofDecimal ds
  if n ≤ unbounded then some n else none

/-- The greatest count that a row of digits behind the comma writes; none at all leaves the count
open above. -/
def readUpper? (cap min : Nat) (ds : List Char) : Option Nat :=
  if ds.isEmpty then some (Nat.max cap min) else readBound? ds

/-- Takes the `?` of a lazy quantifier off a text. -/
def readLazy : List Char → Bool × List Char
  | '?' :: s => (true, s)
  | s => (false, s)

/-- Reads the rest of a range behind its opening brace. White space may stand around the numbers;
a missing least count is zero, and a missing greatest count is `cap` or the least count. -/
def readRange? (cap : Nat) (s : List Char) : Option (Quantifier × List Char) :=
  let (low, s) := Text.spanDigits (Text.trimStart s)
  match Text.trimStart s with
  | '}' :: s =>
    if low.isEmpty then none
    else do
      let n ← readBound? low
      let (lazy, s) := readLazy s
      return (← range? n n lazy, s)
  | ',' :: s =>
    let (high, s) := Text.spanDigits (Text.trimStart s)
    match Text.trimStart s with
    | '}' :: s => do
      let min ← readBound? low
      let max ← readUpper? cap min high
      let (lazy, s) := readLazy s
      return (← range? min max lazy, s)
    | _ => none
  | _ => none

/-- Reads a quantifier at the start of a text and returns it with what follows it. `cap` is the
greatest count of a range that is open above. -/
def read? (cap : Nat) : List Char → Option (Quantifier × List Char)
  | '*' :: s => let (lazy, s) := readLazy s; some (⟨.zeroOrMore, 0, unbounded, lazy⟩, s)
  | '+' :: s => let (lazy, s) := readLazy s; some (⟨.oneOrMore, 1, unbounded, lazy⟩, s)
  | '?' :: s => let (lazy, s) := readLazy s; some (⟨.optional, 0, 1, lazy⟩, s)
  | '\x7b' :: s => readRange? cap s
  | _ => none

theorem length_readLazy (s : List Char) : (readLazy s).2.length ≤ s.length := by
  unfold readLazy
  split <;> simp

theorem length_readRange? {cap : Nat} {s rest : List Char} {q : Quantifier}
    (h : readRange? cap s = some (q, rest)) : rest.length ≤ s.length := by
  have hs : ∀ t, (Text.spanDigits (Text.trimStart t)).2.length ≤ t.length := fun t =>
    Nat.le_trans (List.dropWhile_sublist _).length_le (List.dropWhile_sublist _).length_le
  have ht : ∀ t, (Text.trimStart t).length ≤ t.length := fun t =>
    (List.dropWhile_sublist _).length_le
  have h₁ := hs s
  unfold readRange? at h
  dsimp only at h
  generalize Text.spanDigits (Text.trimStart s) = low at h h₁
  have h₂ := ht low.2
  split at h
  · next t he =>
    rw [he, List.length_cons] at h₂
    split at h
    · simp at h
    · simp only [Option.bind_eq_bind, Option.bind_eq_some_iff] at h
      obtain ⟨_, _, _, _, h⟩ := h
      obtain ⟨-, rfl⟩ := Prod.mk.inj (Option.some.inj h)
      have := length_readLazy t
      omega
  · next t he =>
    rw [he, List.length_cons] at h₂
    have h₃ := hs t
    generalize Text.spanDigits (Text.trimStart t) = high at h h₃
    have h₄ := ht high.2
    split at h
    · next u he =>
      rw [he, List.length_cons] at h₄
      simp only [Option.bind_eq_bind, Option.bind_eq_some_iff] at h
      obtain ⟨_, _, _, _, _, _, h⟩ := h
      obtain ⟨-, rfl⟩ := Prod.mk.inj (Option.some.inj h)
      have := length_readLazy u
      omega
    · simp at h
  · simp at h

theorem length_read? {cap : Nat} {s rest : List Char} {q : Quantifier}
    (h : read? cap s = some (q, rest)) : rest.length < s.length := by
  unfold read? at h
  split at h
  iterate 3
    obtain ⟨-, rfl⟩ := Prod.mk.inj (Option.some.inj h)
    exact Nat.lt_succ_of_le (length_readLazy _)
  · exact Nat.lt_succ_of_le (length_readRange? h)
  · simp at h

/-- The quantifier that a whole text writes; the empty text writes `once`. -/
def ofText? (s : List Char) : Option Quantifier :=
  if s.isEmpty then some once
  else
    match read? unbounded s with
    | some (q, []) => some q
    | _ => none

/-- What is said of a text that writes no quantifier. -/
def refusal (text : String) : String := s!"invalid quantifier `{text}`"

/-- The written form of a quantifier. -/
def render (q : Quantifier) : List Char :=
  let bounds :=
    match q.kind with
    | .once => []
    | .zeroOrMore => ['*']
    | .oneOrMore => ['+']
    | .optional => ['?']
    | .range =>
      if q.min = q.max then ['\x7b'] ++ Text.decimal q.min ++ ['\x7d']
      else if q.max = unbounded then ['\x7b'] ++ Text.decimal q.min ++ [',', '\x7d']
      else ['\x7b'] ++ Text.decimal q.min ++ [','] ++ Text.decimal q.max ++ ['\x7d']
  if q.kind = .once then []
  else if q.lazy then bounds ++ ['?']
  else bounds

end Quantifier

end Lexigram
