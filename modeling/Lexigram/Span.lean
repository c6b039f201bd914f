/-!
# Spans

A span is a half-open range of byte offsets into some text, or of token indices into a list of
tokens.
-/

namespace Lexigram

/-- The range from `start` up to but without `stop`. -/
structure Span where
  start : Nat
  stop : Nat
  deriving DecidableEq, Repr, Inhabited

namespace Span

/-- The empty span at a position. -/
def point (pos : Nat) : Span := ⟨pos, pos⟩

/-- The empty span at zero. -/
def empty : Span := ⟨0, 0⟩

def isEmpty (s : Span) : Bool := s.stop ≤ s.start

/-- The number of positions covered. -/
def length (s : Span) : Nat := s.stop - s.start

/-- The span moved to the right, which turns offsets into a part into offsets into the whole. -/
def shift (s : Span) (offset : Nat) : Span := ⟨s.start + offset, s.stop + offset⟩

/-- The least span that covers both. -/
def join (s t : Span) : Span := ⟨min s.start t.start, max s.stop t.stop⟩

/-- Spans are ordered by where they start, then by where they stop. -/
def compare (s t : Span) : Ordering :=
  (Ord.compare s.start t.start).then (Ord.compare s.stop t.stop)

/-- A span as `start..stop`. -/
def render (s : Span) : String := s!"{s.start}..{s.stop}"

end Span

end Lexigram
