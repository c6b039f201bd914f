import Lexigram.Matching

/-!
# What matching yields

Where two matches are compared, only their outcomes matter and not what was noticed on the way. Here
each function of the matcher is unfolded once, notices apart, so that a comparison goes on from the
outcomes of the calls that a function makes.

A turn of a repetition begins with a question (`asks`): whether a lazy repetition may end here and
what is pending would match.
-/

namespace Lexigram.Matching

variable {α : Type}

@[simp] theorem settle_value (tree : SyntaxTree α) (state : MatchState) :
    (settle tree state).value = tree.settle state := rfl

variable [Readable α] (g : Grammar) (input : Input α) (active : List (Nat × Nat))
variable (pending : List (List Atom))

/-- Whether a repetition ends because it is lazy. -/
def asks (a : Atom) (count pos : Nat) : Noted Bool :=
  if a.mark.quantifier.lazy && accepts input a count pos then
    continues g input active pending pos
  else pure false

variable (a : Atom) (atoms : List Atom) (tree : SyntaxTree α) (pos count : Nat)

theorem asks_eager (h : a.mark.quantifier.lazy = false) :
    asks g input active pending a count pos = pure false := by
  rw [asks, h, Bool.false_and, if_neg Bool.false_ne_true]

theorem steps_nil_value : (steps g input active pending tree []).value = tree.settle .resolved := by
  rw [steps, settle_value]

theorem steps_cons_value :
    (steps g input active pending tree (a :: atoms)).value =
      let step := (repeated g input active (atoms :: pending) a tree.stop).value
      if !step.matched then tree.settle .deferred
      else if atoms.isEmpty && tree.children.isEmpty then step
      else (steps g input active pending (tree.absorb step) atoms).value := by
  rw [steps, Noted.value_bind]
  dsimp only
  split
  · rfl
  · split <;> rfl

theorem repeated_lookahead_value (hl : a.isLookahead = true) :
    (repeated g input active pending a pos).value =
      ((attempt g input active pending a pos).value.getD
        (if a.mark.quantifier.isOptional then (leaf input a pos pos).value
        else .deferred (some a.handle) pos)) := by
  rw [repeated, if_pos hl, Noted.value_bind]
  cases (attempt g input active pending a pos).value with
  | some tree => rfl
  | none =>
    dsimp only [Option.getD_none]
    split <;> rfl

theorem repeated_turns_value (hl : ¬a.isLookahead = true) :
    (repeated g input active pending a pos).value =
      let turn := (turns g input active pending a (.begin (some a.handle) pos) 0).value
      turn.1.settle (if accepts input a turn.2 turn.1.stop then .resolved else .deferred) := by
  rw [repeated, if_neg hl, Noted.value_bind]
  rfl

theorem turns_stop_value (hstop : ¬(count < a.mark.quantifier.max ∧ tree.stop < input.size)) :
    (turns g input active pending a tree count).value = (tree, count) := by
  rw [turns, dif_neg hstop]
  rfl

theorem turns_go_value (hgo : count < a.mark.quantifier.max ∧ tree.stop < input.size) :
    (turns g input active pending a tree count).value =
      if (asks g input active pending a count tree.stop).value then (tree, count)
      else
        match (attempt g input active pending a tree.stop).value with
        | none => (tree, count)
        | some turn =>
          if tree.stop < turn.stop then
            (turns g input active pending a (tree.merge turn) (count + 1)).value
          else (tree.merge turn, max (count + 1) a.mark.quantifier.min) := by
  rw [turns, dif_pos hgo, Noted.value_bind]
  show (if (asks g input active pending a count tree.stop).value then _ else _ : Noted _).value = _
  split
  · rfl
  · rw [Noted.value_bind]
    cases (attempt g input active pending a tree.stop).value with
    | none => rfl
    | some turn =>
      dsimp only
      rw [Noted.value_bind]
      split <;> rfl

theorem attempt_value :
    (attempt g input active pending a pos).value =
      if a.isLookahead || a.mark.inverted then
        (deny input a pos (once g input active pending a pos).value).value
      else (once g input active pending a pos).value := by
  rw [attempt, Noted.value_bind]
  split <;> rfl

section Once

variable (m : Mark) (l : Leaf) {name : String} {r : Rule}

theorem once_leaf_value :
    (once g input active pending (.leaf m l) pos).value =
      (input.test l.pattern pos).value.map fun stop => (leaf input (.leaf m l) pos stop).value := by
  rw [once, Noted.value_bind]
  cases (input.test l.pattern pos).value <;> rfl

theorem once_undefined_value (hr : g.find? name = none) :
    (once g input active pending (.reference m name) pos).value = none := by
  rw [once_undefined g input active pending m pos hr, Noted.value_pure]

theorem once_unit_value {hit : α → Bool} (hr : g.find? name = some r)
    (hu : Readable.standsFor? r = some hit) :
    (once g input active pending (.reference m name) pos).value =
      if (input.read pos).value.head?.any hit then
        some (leaf input (.reference m name) pos (input.advance pos).value).value
      else none := by
  rw [once_unit g input active pending m pos hr hu, Noted.value_bind]
  split <;> rfl

theorem once_rule_value (hr : g.find? name = some r)
    (hu : Readable.standsFor? (α := α) r = none) :
    (once g input active pending (.reference m name) pos).value =
      if pos < input.size ∧ (r.handle, pos) ∉ active then
        let tree := (steps g input ((r.handle, pos) :: active) pending (.begin (some r.handle) pos)
          [r.head]).value
        if tree.matched then some tree else none
      else none := by
  rw [once_rule g input active pending m pos hr hu]
  by_cases hp : pos < input.size
  · by_cases ha : (r.handle, pos) ∈ active
    · rw [if_pos hp, if_pos ha, if_neg fun h => h.2 ha]
      rfl
    · rw [if_pos hp, if_neg ha, if_pos ⟨hp, ha⟩]
      rfl
  · rw [if_neg hp, if_neg fun h => hp h.1]
    rfl

theorem once_group_value (lookahead : Bool) (value : List Char) (alternatives : List (List Atom)) :
    (once g input active pending (.group m lookahead value alternatives) pos).value =
      (choose g input active pending alternatives pos none).value := by
  rw [once]

end Once

variable (alternatives outer : List (List Atom)) (fallback : Option (SyntaxTree α))

theorem choose_nil_value :
    (choose g input active pending [] pos fallback).value = fallback := by
  rw [choose, Noted.value_pure]

theorem choose_cons_value :
    (choose g input active pending (atoms :: alternatives) pos fallback).value =
      let tree := (steps g input active pending (.begin (atoms.head?.map Atom.handle) pos)
        atoms).value
      if tree.isAbsolute then some tree
      else
        (choose g input active pending alternatives pos
          (fallback.or (if tree.matched then some tree else none))).value := by
  rw [choose, Noted.value_bind]
  dsimp only
  split <;> rfl

theorem continues_nil_value : (continues g input active [] pos).value = true := by
  rw [continues, Noted.value_pure]

theorem continues_done_value :
    (continues g input active ([] :: outer) pos).value =
      (continues g input active outer pos).value := by
  rw [continues]

theorem continues_pending_value :
    (continues g input active ((a :: atoms) :: outer) pos).value =
      let tree := (steps g input active outer (.begin (some a.handle) pos) (a :: atoms)).value
      tree.matched && (continues g input active outer tree.stop).value := by
  rw [continues, Noted.value_bind]
  dsimp only
  split
  · next hm => rw [hm, Bool.true_and]
  · next hm =>
    rw [Bool.not_eq_true] at hm
    rw [hm, Bool.false_and]
    rfl

end Lexigram.Matching
