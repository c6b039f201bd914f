import Lexigram.Proofs.Carrying
import Lexigram.Proofs.Trees

/-!
# Matching depends only on what is left

To match at a position of an input is to match at the start of what is left there. What precedes the
position does not matter, except that all positions count it.

**Shifting** (`SyntaxTree.shift`). A tree is moved to the right, all its positions by the same
distance, and its units stay.

**What is left** (`Input.appears_shift`). The units behind the first ones of an input appear in it
at the distance that the first ones take, so matching carries over.

Main result: `runNode_shift`.
-/

namespace Lexigram

open Readable (extent extent_nil extent_cons extent_append)

/-! ## Shifted trees -/

namespace SyntaxTree

variable {α : Type}

mutual

/-- The tree moved to the right. -/
def shift (distance : Nat) : SyntaxTree α → SyntaxTree α
  | ⟨rule, start, stop, units, state, children⟩ =>
    ⟨rule, distance + start, distance + stop, units, state, shiftAll distance children⟩

/-- Some trees moved to the right. -/
def shiftAll (distance : Nat) : List (SyntaxTree α) → List (SyntaxTree α)
  | [] => []
  | t :: ts => shift distance t :: shiftAll distance ts

end

mutual

/-- To shift a tree is to carry it without renaming units. -/
theorem carry_id (n : Nat) : ∀ t : SyntaxTree α, t.carry id n = t.shift n
  | ⟨_, _, _, _, _, children⟩ => by rw [carry, shift, carryAll_id n children, List.map_id]

theorem carryAll_id (n : Nat) : ∀ ts : List (SyntaxTree α), carryAll id n ts = shiftAll n ts
  | [] => rfl
  | t :: ts => by rw [carryAll, shiftAll, carry_id n t, carryAll_id n ts]

end

theorem carry_id_eq (n : Nat) : (carry id n : SyntaxTree α → SyntaxTree α) = shift n :=
  funext (carry_id n)

variable (n : Nat) (t : SyntaxTree α)

@[simp] theorem start_shift : (t.shift n).start = n + t.start := by rw [← carry_id, start_carry]

@[simp] theorem stop_shift : (t.shift n).stop = n + t.stop := by rw [← carry_id, stop_carry]

@[simp] theorem units_shift : (t.shift n).units = t.units := by
  rw [← carry_id, units_carry, List.map_id]

end SyntaxTree

/-! ## Reading behind the first units -/

theorem Readable.keeps_id {α : Type} [Readable α] : Keeps (id : α → α) where
  width _ := rfl
  test p s := by rw [List.map_id]
  standsFor? r := by cases Readable.standsFor? (α := α) r <;> rfl
  endsAnywhere := rfl

namespace Input

variable {α : Type} [Readable α] (front back : List α) (pos : Nat)

theorem size_shift : (ofUnits (front ++ back)).size = extent front + (ofUnits back).size := by
  rw [size_ofUnits, size_ofUnits, extent_append]

theorem getElem?_tailsOf_shift :
    (tailsOf (front ++ back))[extent front + pos]? = (tailsOf back)[pos]? := by
  induction front with
  | nil => rw [List.nil_append, extent_nil, Nat.zero_add]
  | cons a front ih =>
    have := Readable.width_pos a
    rw [List.cons_append, tailsOf, extent_cons,
      show Readable.width a + extent front + pos =
        Readable.width a - 1 + (extent front + pos) + 1 by omega,
      List.getElem?_cons_succ, List.getElem?_append_right (by rw [List.length_replicate]; omega),
      List.length_replicate, Nat.add_sub_cancel_left, ih]

/-- The units behind the first ones appear behind them. -/
theorem appears_shift :
    (ofUnits back).Appears id (extent front) (ofUnits (front ++ back)) where
  size := size_shift front back
  rest? pos := by
    rw [rest?, rest?, ofUnits, ofUnits, List.getElem?_toArray, List.getElem?_toArray,
      getElem?_tailsOf_shift, List.map_id_fun, Option.map_id, id]

end Input

namespace Matching

variable {α : Type} [Readable α]

theorem run_shift (g : Grammar) (front back : List α) (atoms : List Atom) (pos : Nat) :
    (run g (.ofUnits (front ++ back)) atoms (extent front + pos)).value =
      (run g (.ofUnits back) atoms pos).value.shift (extent front) := by
  rw [run_carry g Readable.keeps_id (Input.appears_shift front back), SyntaxTree.carry_id]

/-- **Matching depends only on what is left.** To match the node of a handle behind some units is to
match it at the same distance from the start of the units behind them, and to shift the tree. -/
theorem runNode_shift (g : Grammar) (front back : List α) (handle pos : Nat) :
    (runNode g (.ofUnits (front ++ back)) handle (extent front + pos)).value =
      (runNode g (.ofUnits back) handle pos).value.shift (extent front) :=
  run_shift g front back _ pos

end Matching

end Lexigram
