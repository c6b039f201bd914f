/-!
# Stretches of code points

A property of characters is a list of stretches in ascending order. Many letters alternate between
cases, so a stretch has a step: the stretch from `0x100` to `0x136` by `2` holds every second one.
-/

namespace Lexigram.Text

/-- The code points from `first` to `last` that lie a multiple of `step` after `first`. -/
structure Stretch where
  first : Nat
  last : Nat
  step : Nat
  deriving Repr, DecidableEq

namespace Stretch

/-- Whether a code point lies in the stretch. -/
def contains (s : Stretch) (n : Nat) : Bool :=
  s.first ≤ n && n ≤ s.last && (n - s.first) % s.step == 0

/-- The code points of the stretch. -/
def numbers (s : Stretch) : List Nat :=
  (List.range ((s.last - s.first) / s.step + 1)).map fun k => s.first + k * s.step

/-- Whether a code point lies in one of the stretches, which ascend: the search stops at the first
that begins above it. -/
def anyContains (n : Nat) : List Stretch → Bool
  | [] => false
  | s :: rest =>
    if n < s.first then false
    else if n ≤ s.last then (n - s.first) % s.step == 0
    else anyContains n rest

end Stretch

end Lexigram.Text
