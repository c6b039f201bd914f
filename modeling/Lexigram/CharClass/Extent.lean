import Lexigram.CharClass

/-!
# The extent of a class

The code points of a class as runs in ascending order that neither overlap nor touch. Code points
that are no characters may lie in the runs of a complement.
-/

namespace Lexigram

/-- The code points from `first` to `last`. -/
structure Run where
  first : Nat
  last : Nat
  deriving DecidableEq, Repr

namespace Run

/-- The greatest code point. -/
def greatest : Nat := 0x10FFFF

/-- Joins runs that overlap or touch. The runs are in the order of their beginnings. -/
def joined : List Run → List Run
  | [] => []
  | [r] => [r]
  | r :: s :: rest =>
    if s.first ≤ r.last + 1 then joined (⟨r.first, max r.last s.last⟩ :: rest)
    else r :: joined (s :: rest)
termination_by rs => rs.length

/-- The runs of the code points in either of two lists of runs. -/
def union (rs ss : List Run) : List Run :=
  joined (List.merge rs ss fun r s => r.first ≤ s.first)

/-- The runs of the code points from `n` on that are in none of the runs. -/
def gapsFrom (n : Nat) : List Run → List Run
  | [] => if n ≤ greatest then [⟨n, greatest⟩] else []
  | r :: rest =>
    if n < r.first then ⟨n, r.first - 1⟩ :: gapsFrom (r.last + 1) rest
    else gapsFrom (r.last + 1) rest

/-- The runs of the code points in none of the runs. -/
def complement (rs : List Run) : List Run := gapsFrom 0 rs

/-- The runs of the code points in both of two lists of runs. -/
def intersection (rs ss : List Run) : List Run :=
  complement (union (complement rs) (complement ss))

/-- The runs of the code points in the first of two lists of runs only. -/
def difference (rs ss : List Run) : List Run := complement (union (complement rs) ss)

/-- The runs of some single code points. -/
def ofNumbers (ns : List Nat) : List Run :=
  joined ((ns.mergeSort fun m n => m ≤ n).map fun n => ⟨n, n⟩)

/-- The runs of a stretch. -/
def ofStretch (s : Text.Stretch) : List Run :=
  if s.step = 1 then [⟨s.first, s.last⟩] else s.numbers.map fun n => ⟨n, n⟩

end Run

namespace CharClass

/-- The code points that differ in case only from one of a class. -/
def foldedNumbers (a : CharClass) : List Nat :=
  let pairs := Text.casePairs.flatMap fun p =>
    p.lower.numbers.map fun n => [n, n + p.distance]
  ((pairs ++ Text.caseGroups).filter fun group =>
    group.any fun n => a.contains (Char.ofNat n)).flatten

/-- The runs of the characters of a class. -/
def extent : CharClass → List Run
  | empty => []
  | range lo hi => if lo ≤ hi then [⟨lo.toNat, hi.toNat⟩] else []
  | among ss => Run.joined (ss.flatMap Run.ofStretch)
  | complement a => Run.complement a.extent
  | union a b => Run.union a.extent b.extent
  | intersection a b => Run.intersection a.extent b.extent
  | difference a b => Run.difference a.extent b.extent
  | symmetricDifference a b =>
    Run.union (Run.difference a.extent b.extent) (Run.difference b.extent a.extent)
  | folded a => Run.union a.extent (Run.ofNumbers (foldedNumbers a))

end CharClass

end Lexigram
