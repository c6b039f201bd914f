import Lexigram.Notice
import Lexigram.Rule.Atom

/-!
# Inputs

Rules are matched against two kinds of input: characters, whose positions are byte offsets, and
tokens, whose positions are indices. `Readable` says what the two have in common. An `Input` knows
for each position what is left from there on; the bytes inside a character are positions at which
nothing can be read.
-/

namespace Lexigram

/-- A kind of units that rules can be matched against. -/
class Readable (α : Type) where
  /-- How many positions a unit takes. -/
  width : α → Nat
  /-- The number of positions of what a pattern accepts at the start of some units. -/
  test : Pattern → List α → Option Nat
  /-- Whether a reference to a rule stands for a single unit, and for which. -/
  standsFor? : Rule → Option (α → Bool)
  /-- Whether an anchored repetition may end anywhere, and not only at the end of the input. -/
  endsAnywhere : Bool
  width_pos : ∀ a, 0 < width a
  /-- What a pattern accepts is some units at the start, and never nothing. -/
  test_eq_some : ∀ {p s n}, test p s = some n →
    ∃ front back, s = front ++ back ∧ front ≠ [] ∧ n = front.foldr (fun a n => width a + n) 0

/-- Characters: patterns accept their beginning, and rules are matched within. -/
instance : Readable Char where
  width := Char.utf8Size
  test p s := p.matchLength? s
  standsFor? _ := none
  endsAnywhere := false
  width_pos := Char.utf8Size_pos
  test_eq_some h := by
    obtain ⟨front, back, hs, hf, hn⟩ := Pattern.matchLength?_eq_some h
    exact ⟨front, back, hs, hf, hn.trans (Text.byteLength_eq_foldr front)⟩

/-- Tokens: patterns accept the whole text of one token, and a lexer rule stands for the tokens that
it made. -/
instance : Readable Token where
  width _ := 1
  test p ts :=
    match ts with
    | t :: _ => if p.isExact t.value then some 1 else none
    | [] => none
  standsFor? r := if r.kind.isLexer then some fun t => t.id == r.id else none
  endsAnywhere := true
  width_pos _ := Nat.one_pos
  test_eq_some h := by
    split at h
    · next t ts =>
      split at h
      · exact ⟨[t], ts, rfl, List.cons_ne_nil t [], by simpa using h.symm⟩
      · simp at h
    · simp at h

/-- The number of positions that some units take. -/
def Readable.extent {α : Type} [Readable α] (s : List α) : Nat :=
  s.foldr (fun a n => width a + n) 0

namespace Readable

variable {α : Type} [Readable α]

@[simp] theorem extent_nil : extent ([] : List α) = 0 := rfl

@[simp] theorem extent_cons (a : α) (s : List α) : extent (a :: s) = width a + extent s := by
  rw [extent, List.foldr_cons, extent]

@[simp] theorem extent_append (s t : List α) : extent (s ++ t) = extent s + extent t := by
  induction s with
  | nil => rw [List.nil_append, extent_nil, Nat.zero_add]
  | cons a s ih => rw [List.cons_append, extent_cons, extent_cons, ih, Nat.add_assoc]

theorem extent_pos {s : List α} (h : s ≠ []) : 0 < extent s := by
  obtain ⟨a, s, rfl⟩ := List.exists_cons_of_ne_nil h
  have := width_pos a
  rw [extent_cons]
  omega

theorem extent_lt_append (s : List α) (a : α) : extent s < extent (s ++ [a]) := by
  have := width_pos a
  rw [extent_append, extent_cons]
  omega

theorem extent_chars (s : List Char) : extent s = Text.byteLength s :=
  (Text.byteLength_eq_foldr s).symm

theorem extent_tokens (ts : List Token) : extent ts = ts.length := by
  induction ts with
  | nil => rfl
  | cons t ts ih =>
    rw [extent_cons, ih, List.length_cons, Nat.add_comm]
    rfl

end Readable

/-- A row of units by position. -/
structure Input (α : Type) where
  /-- The units from a position on, for every position up to the end; nothing for a position inside
  a unit. -/
  tails : Array (Option (List α))

namespace Input

variable {α : Type}

/-- The position behind the last unit. -/
def size (i : Input α) : Nat := i.tails.size - 1

/-- The units from a position on, unless the position is inside a unit or behind the end. -/
def rest? (i : Input α) (pos : Nat) : Option (List α) := i.tails[pos]?.join

/-- The units from a position on. -/
def read (i : Input α) (pos : Nat) : Noted (List α) :=
  match i.rest? pos with
  | some s => pure s
  | none => do
    Noted.note (.torn pos)
    pure []

variable [Readable α]

/-- What is left of some units at each position. -/
def tailsOf : List α → List (Option (List α))
  | [] => [some []]
  | a :: s => some (a :: s) :: (List.replicate (Readable.width a - 1) none ++ tailsOf s)

/-- The input that consists of some units. -/
def ofUnits (s : List α) : Input α := ⟨(tailsOf s).toArray⟩

/-- The position behind the unit at a position. -/
def advance (i : Input α) (pos : Nat) : Noted Nat := do
  match ← i.read pos with
  | a :: _ => pure (pos + Readable.width a)
  | [] => pure pos

/-- The first units that together take `n` positions. -/
def takeWidth : Nat → List α → List α
  | 0, _ => []
  | _, [] => []
  | n + 1, a :: s => a :: takeWidth (n + 1 - Readable.width a) s

/-- The units between two positions, which have to bound some. -/
def slice (i : Input α) (start stop : Nat) : Noted (List α) := do
  let units ← i.read start
  let _ ← i.read stop
  Noted.expect (start ≤ stop) (.reversed start stop)
  pure (takeWidth (stop - start) units)

/-- The position behind what a pattern accepts at a position. -/
def test (i : Input α) (p : Pattern) (pos : Nat) : Noted (Option Nat) := do
  pure ((Readable.test p (← i.read pos)).map (pos + ·))

/-- Whether an anchored repetition may end at a position. -/
def endsAt (i : Input α) (pos : Nat) : Bool := Readable.endsAnywhere α || pos == i.size

/-! ## Reading between units -/

open Readable (extent extent_cons extent_append)

theorem length_tailsOf (s : List α) : (tailsOf s).length = extent s + 1 := by
  induction s with
  | nil => rfl
  | cons a s ih =>
    have := Readable.width_pos a
    rw [tailsOf, List.length_cons, List.length_append, List.length_replicate, ih, extent_cons]
    omega

theorem getElem?_tailsOf (front back : List α) :
    (tailsOf (front ++ back))[extent front]? = some (some back) := by
  induction front with
  | nil => cases back <;> rfl
  | cons a front ih =>
    have := Readable.width_pos a
    rw [List.cons_append, tailsOf, extent_cons,
      show Readable.width a + extent front = Readable.width a - 1 + extent front + 1 by omega,
      List.getElem?_cons_succ, List.getElem?_append_right (by rw [List.length_replicate]; omega),
      List.length_replicate, Nat.add_sub_cancel_left, ih]

@[simp] theorem size_ofUnits (s : List α) : (ofUnits s).size = extent s := by
  rw [size, ofUnits, List.size_toArray, length_tailsOf, Nat.add_sub_cancel]

theorem rest?_ofUnits (front back : List α) :
    (ofUnits (front ++ back)).rest? (extent front) = some back := by
  rw [rest?, ofUnits, List.getElem?_toArray, getElem?_tailsOf]
  rfl

theorem read_ofUnits (front back : List α) :
    (ofUnits (front ++ back)).read (extent front) = pure back := by
  rw [read, rest?_ofUnits]

theorem advance_ofUnits (front back : List α) (a : α) :
    (ofUnits (front ++ a :: back)).advance (extent front) = pure (extent (front ++ [a])) := by
  rw [advance, read_ofUnits, pure_bind, extent_append, extent_cons]
  rfl

theorem takeWidth_append (s t : List α) : takeWidth (extent s) (s ++ t) = s := by
  induction s with
  | nil => rw [Readable.extent_nil, takeWidth]
  | cons a s ih =>
    have := Readable.width_pos a
    rw [extent_cons, show Readable.width a + extent s = Readable.width a + extent s - 1 + 1 by omega,
      List.cons_append, takeWidth,
      show Readable.width a + extent s - 1 + 1 - Readable.width a = extent s by omega, ih]

theorem slice_ofUnits (front middle back : List α) :
    (ofUnits (front ++ (middle ++ back))).slice (extent front) (extent (front ++ middle)) =
      pure middle := by
  have hstop : (ofUnits (front ++ (middle ++ back))).read (extent (front ++ middle)) = pure back := by
    rw [← List.append_assoc, read_ofUnits]
  have hle : extent front ≤ extent (front ++ middle) := by
    rw [extent_append]
    exact Nat.le_add_right _ _
  rw [slice, read_ofUnits, pure_bind, hstop, pure_bind, Noted.expect_of_true hle, pure_bind,
    extent_append, Nat.add_sub_cancel_left, takeWidth_append]

theorem test_ofUnits (p : Pattern) (front back : List α) :
    (ofUnits (front ++ back)).test p (extent front) =
      pure ((Readable.test p back).map (extent front + ·)) := by
  rw [test, read_ofUnits, pure_bind]

end Input

end Lexigram
