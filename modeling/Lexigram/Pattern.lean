import Lexigram.Expression.Automaton
import Lexigram.Expression.Reader
import Lexigram.Expression.Size
import Lexigram.Text.Bytes

/-!
# Patterns

A pattern is what an atom tests on text: a fixed text, one character of a class, or what an
expression describes. Its source is the form in which it is shown: a fixed text with a backslash
before every character that has a meaning in patterns, or a class. A circumflex in front of a class
says that it stands where the reading is, which is always so. What begins like a class and goes on
behind it is an expression.
-/

namespace Lexigram

/-- What a pattern accepts. -/
inductive Pattern.Shape where
  | text (s : List Char)
  | oneOf (a : CharClass)
  /-- What an expression describes, once for the beginning of a text and once for a whole text. -/
  | expression (begins whole : Automaton)
  deriving DecidableEq, Repr

/-- A test on the beginning of a text. -/
structure Pattern where
  source : List Char
  shape : Pattern.Shape
  deriving DecidableEq, Repr

namespace Pattern

/-! ## Matching -/

/-- The byte length of what a pattern accepts at the start of a text; it is never zero. -/
def matchLength? (p : Pattern) (s : List Char) : Option Nat :=
  match p.shape with
  | .text t => if !t.isEmpty && t.isPrefixOf s then some (Text.byteLength t) else none
  | .oneOf a =>
    match s with
    | c :: _ => if a.contains c then some c.utf8Size else none
    | [] => none
  | .expression begins _ => (begins.end? s).filter (0 < ·)

/-- What a pattern accepts is some characters at the start of the text. -/
theorem matchLength?_eq_some {p : Pattern} {s : List Char} {n : Nat}
    (h : p.matchLength? s = some n) :
    ∃ front back, s = front ++ back ∧ front ≠ [] ∧ n = Text.byteLength front := by
  unfold matchLength? at h
  split at h
  · next t _ =>
    split at h
    · next ht =>
      rw [Bool.and_eq_true, Bool.not_eq_true', List.isEmpty_eq_false_iff] at ht
      obtain ⟨back, rfl⟩ := List.isPrefixOf_iff_prefix.1 ht.2
      exact ⟨t, back, rfl, ht.1, (Option.some.inj h).symm⟩
    · simp at h
  · split at h
    · next c s =>
      split at h
      · exact ⟨[c], s, rfl, List.cons_ne_nil c [], by simpa using h.symm⟩
      · simp at h
    · simp at h
  · obtain ⟨he, hn⟩ := Option.filter_eq_some_iff.1 h
    obtain ⟨front, back, hs, rfl⟩ := Automaton.end?_eq_some he
    refine ⟨front, back, hs, ?_, rfl⟩
    rintro rfl
    simp at hn

/-- Whether a pattern accepts a whole text. -/
def isExact (p : Pattern) (s : List Char) : Bool :=
  match p.shape with
  | .text t => s == t
  | .oneOf a =>
    match s with
    | [c] => a.contains c
    | _ => false
  | .expression _ whole => (whole.end? s).isSome

/-! ## Sources -/

/-- The characters that have a meaning in patterns. -/
def special : List Char :=
  ['\\', '.', '+', '*', '?', '(', ')', '|', '[', ']', '\x7b', '\x7d', '^', '$', '#', '&', '-', '~']

/-- How a character is written in the source of a fixed text. -/
def escapeChar (c : Char) : List Char := if special.contains c then ['\\', c] else [c]

/-- The source of a fixed text. -/
def escape (s : List Char) : List Char := s.flatMap escapeChar

/-- The text whose source this is, if it is the source of a fixed text. -/
def unescape? : List Char → Option (List Char)
  | [] => some []
  | '\\' :: c :: s => if special.contains c then (unescape? s).map (c :: ·) else none
  | c :: s => if special.contains c then none else (unescape? s).map (c :: ·)

theorem unescape?_escape (s : List Char) : unescape? (escape s) = some s := by
  induction s with
  | nil => rfl
  | cons c s ih =>
    unfold escape at ih ⊢
    rw [List.flatMap_cons, escapeChar]
    split
    · next h =>
      simp only [List.cons_append, List.nil_append, unescape?, h, if_true, ih]
      rfl
    · next h =>
      have hc : c ≠ '\\' := by rintro rfl; simp [special] at h
      rw [List.singleton_append, unescape?]
      · rw [if_neg h, ih]
        rfl
      · intro _ _ he _
        exact hc he

/-- The source of the class of all characters. -/
def anySource : List Char := ['(', '?', 's', ':', '.', ')']

/-- The pattern that accepts any single character. -/
def any : Pattern := ⟨anySource, .oneOf .all⟩

/-- The greatest byte length of a fixed text. The automaton that reads it with both ends of the text
around it has a state for each byte and six more. -/
def literalLimit : Nat := Expression.sizeLimit / stateSize - 6

/-- The pattern of a fixed text, unless the text is too long. -/
def literal? (s : List Char) : Option Pattern :=
  if Text.byteLength s ≤ literalLimit then some ⟨escape s, .text s⟩ else none

/-- The source of the characters from `lo` to `hi`. -/
def rangeSource (lo hi : Char) : List Char :=
  ['['] ++ escapeChar lo ++ ['-'] ++ escapeChar hi ++ [']']

/-- The pattern that accepts the characters from `lo` to `hi`, if they are in order. -/
def range? (lo hi : Char) : Option Pattern :=
  if lo ≤ hi then some ⟨rangeSource lo hi, .oneOf (.range lo hi)⟩ else none

/-- The class whose source this is, if it lies no deeper than `depth` leaves room for. -/
def classOfSource? (depth : Nat) (source : List Char) : Option CharClass :=
  if source = anySource then some .all
  else
    match Brackets.ofText? source with
    | some a => if a.depth + depth ≤ Expression.depthLimit then some a.value else none
    | none => none

/-- The pattern of a class, with or without a circumflex in front, from its source. The source is
read as a group behind a circumflex, which makes it two deeper. -/
def ofClassSource? (source : List Char) : Option Pattern :=
  match source with
  | '^' :: inner => (classOfSource? 3 inner).map fun a => ⟨source, .oneOf a⟩
  | _ => (classOfSource? 2 source).map fun a => ⟨source, .oneOf a⟩

/-- The pattern of an expression, from its source. The source is put between a circumflex with an
opening bracket and a closing bracket and only then read, so that brackets in it may close and open
groups that it does not begin itself. -/
def ofExpressionSource? (source : List Char) : Option Pattern := do
  let begins ← Expression.ofText? (['^', '(', '?', ':'] ++ source ++ [')'])
  let whole ← Expression.ofText? (['^', '(', '?', ':'] ++ source ++ [')', '$'])
  if begins.fits && whole.fits then
    some ⟨source, .expression (.ofExpression begins) (.ofExpression whole)⟩
  else none

/-- The pattern with a given source. No source of a fixed text is that of a class. -/
def ofSource? (source : List Char) : Option Pattern :=
  match unescape? source with
  | some s => literal? s
  | none => (ofClassSource? source).or (ofExpressionSource? source)

end Pattern

end Lexigram
