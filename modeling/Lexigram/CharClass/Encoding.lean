import Lexigram.CharClass.Extent

/-!
# The encoding of a class

A character is encoded by one to four bytes. The encodings of the characters of a class are written
as sequences of byte ranges: a sequence stands for all encodings with a byte of each of its ranges.
-/

namespace Lexigram

namespace Run

/-- The bytes that encode a code point. -/
def encode (n : Nat) : List Nat :=
  let trailing (unit : Nat) : Nat := 0x80 + n / unit % 0x40
  if n < 0x80 then [n]
  else if n < 0x800 then [0xC0 + n / 0x40, trailing 1]
  else if n < 0x10000 then [0xE0 + n / 0x1000, trailing 0x40, trailing 1]
  else [0xF0 + n / 0x40000, trailing 0x1000, trailing 0x40, trailing 1]

/-- The code points that are encoded by the same number of bytes. Those that are no characters have
no encoding. -/
def encodable : List Run :=
  [⟨0, 0x7F⟩, ⟨0x80, 0x7FF⟩, ⟨0x800, 0xD7FF⟩, ⟨0xE000, 0xFFFF⟩, ⟨0x10000, 0x10FFFF⟩]

/-- What two runs have in common. -/
def meet? (r s : Run) : Option Run :=
  let first := max r.first s.first
  let last := min r.last s.last
  if first ≤ last then some ⟨first, last⟩ else none

/-- Cuts a run so that every piece lies in one block of `size` code points or consists of whole
blocks, and the latter likewise into larger blocks. -/
def blocks : Nat → Nat → Run → List Run
  | 0, _, r => [r]
  | n + 1, size, r =>
    if r.first / size = r.last / size then [r]
    else
      let low := if r.first % size = 0 then [] else [⟨r.first, r.first / size * size + size - 1⟩]
      let high := if (r.last + 1) % size = 0 then [] else [⟨r.last / size * size, r.last⟩]
      let first := (r.first + size - 1) / size * size
      let stop := (r.last + 1) / size * size
      low ++ (if first < stop then blocks n (size * 64) ⟨first, stop - 1⟩ else []) ++ high

/-- The sequences of byte ranges that encode the characters of a run. -/
def sequences (r : Run) : List (List Run) :=
  (encodable.filterMap (meet? r)).flatMap fun part =>
    if part.last < 0x80 then [[part]]
    else (blocks 3 64 part).map fun b => List.zipWith Run.mk (encode b.first) (encode b.last)

end Run

namespace CharClass

/-- The sequences of byte ranges that encode the characters of a class, in ascending order. -/
def sequences (a : CharClass) : List (List Run) := a.extent.flatMap Run.sequences

end CharClass

end Lexigram
