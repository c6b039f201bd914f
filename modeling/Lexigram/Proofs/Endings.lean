import Lexigram.Proofs.Trees
import Lexigram.Proofs.Values

/-!
# Where matches end

Whether and where some atoms match depends on less than the tree that records the match. Here the
functions of the matcher are described by where what they match ends, if it matches.

**Endings** (`SyntaxTree.ending?`, `chainEnd?`, `atomEnd?`). A chain of atoms ends where its last
atom does, each atom going on where the one before it ended (`chainEnd?_cons`), whatever tree the
chain is added to (`steps_ending`).

**The end of the input** (`chainAtEnd`). Where the input has ended, no repetition makes a turn, so
it depends on the atoms alone whether a chain matches there (`chainEnd?_at_end`).
-/

namespace Lexigram

namespace SyntaxTree

variable {α : Type} {t : SyntaxTree α}

/-- Where a match ends, if it is one. -/
def ending? (t : SyntaxTree α) : Option Nat := if t.matched then some t.stop else none

theorem ending?_of_matched (h : t.matched = true) : t.ending? = some t.stop := if_pos h

theorem ending?_eq_some {stop : Nat} :
    t.ending? = some stop ↔ t.matched = true ∧ t.stop = stop := by
  unfold ending?
  split <;> simp_all

theorem isSome_ending? : t.ending?.isSome = t.matched := by
  unfold ending?
  split <;> simp_all

theorem ending?_of_not_matched (h : t.matched = false) : t.ending? = none := by
  rw [ending?, h, if_neg Bool.false_ne_true]

theorem map_stop_matched : (if t.matched then some t else none).map stop = t.ending? := by
  unfold ending?
  split <;> rfl

theorem ending?_resolved (h : t.state = .pending) : (t.settle .resolved).ending? = some t.stop := by
  rw [ending?_of_matched (matched_settle h _), stop_settle]

theorem ending?_deferred (h : t.state = .pending) : (t.settle .deferred).ending? = none :=
  ending?_of_not_matched (matched_settle h _)

end SyntaxTree

namespace Matching

open SyntaxTree (Found Settled)

variable {α : Type} [Readable α]

section

variable (g : Grammar) (input : Input α) (active : List (Nat × Nat)) (pending : List (List Atom))
variable (pos : Nat)

/-- Where some atoms end that are matched from a position on. -/
def chainEnd? (atoms : List Atom) : Option Nat :=
  (steps g input active pending (.begin none pos) atoms).value.ending?

/-- Where an atom ends that is repeated as often as it asks. -/
def atomEnd? (a : Atom) : Option Nat := (repeated g input active pending a pos).value.ending?

end

section Endings

variable {g : Grammar} {input : Input α} {active : List (Nat × Nat)} {pending : List (List Atom)}
variable {a : Atom} {atoms : List Atom} {tree : SyntaxTree α} {pos : Nat}

/-! ## Chains -/

theorem steps_ending_congr {tree' : SyntaxTree α} (hp : tree.state = .pending)
    (hp' : tree'.state = .pending) (hstop : tree.stop = tree'.stop) :
    (steps g input active pending tree atoms).value.ending? =
      (steps g input active pending tree' atoms).value.ending? := by
  induction atoms generalizing tree tree' with
  | nil =>
    rw [steps_nil_value, steps_nil_value, SyntaxTree.ending?_resolved hp,
      SyntaxTree.ending?_resolved hp', hstop]
  | cons a atoms ih =>
    rw [steps_cons_value, steps_cons_value, hstop]
    generalize (repeated g input active (atoms :: pending) a tree'.stop).value = step
    dsimp only
    split
    · rw [SyntaxTree.ending?_deferred hp, SyntaxTree.ending?_deferred hp']
    · next hm =>
      rw [Bool.not_eq_true', Bool.not_eq_false] at hm
      cases atoms with
      | nil =>
        have hlast : ∀ t : SyntaxTree α, t.state = .pending →
            (if ([] : List Atom).isEmpty && t.children.isEmpty then step
              else (steps g input active pending (t.absorb step) []).value).ending? =
              some step.stop := by
          intro t ht
          split
          · exact SyntaxTree.ending?_of_matched hm
          · rw [steps_nil_value]
            exact SyntaxTree.ending?_resolved ht
        rw [hlast tree hp, hlast tree' hp']
      | cons b atoms =>
        rw [List.isEmpty_cons, Bool.false_and, Bool.false_and, if_neg Bool.false_ne_true,
          if_neg Bool.false_ne_true]
        exact ih hp hp' rfl

/-- What a chain is added to does not matter. -/
theorem steps_ending (hp : tree.state = .pending) :
    (steps g input active pending tree atoms).value.ending? =
      chainEnd? g input active pending tree.stop atoms :=
  steps_ending_congr hp rfl rfl

theorem chainEnd?_nil : chainEnd? g input active pending pos [] = some pos := by
  rw [chainEnd?, steps_nil_value]
  exact SyntaxTree.ending?_resolved rfl

theorem steps_cons_ending (hp : tree.state = .pending) :
    (steps g input active pending tree (a :: atoms)).value.ending? =
      (atomEnd? g input active (atoms :: pending) tree.stop a).bind fun stop =>
        chainEnd? g input active pending stop atoms := by
  rw [steps_cons_value, atomEnd?]
  generalize (repeated g input active (atoms :: pending) a tree.stop).value = step
  dsimp only
  split
  · next hm =>
    rw [Bool.not_eq_true'] at hm
    rw [SyntaxTree.ending?_deferred hp, SyntaxTree.ending?_of_not_matched hm, Option.bind_none]
  · next hm =>
    rw [Bool.not_eq_true', Bool.not_eq_false] at hm
    rw [SyntaxTree.ending?_of_matched hm, Option.bind_some]
    split
    · next hone =>
      rw [Bool.and_eq_true, List.isEmpty_iff] at hone
      rw [hone.1, chainEnd?_nil, SyntaxTree.ending?_of_matched hm]
    · exact steps_ending hp

/-- Each atom goes on where the one before it ended. -/
theorem chainEnd?_cons :
    chainEnd? g input active pending pos (a :: atoms) =
      (atomEnd? g input active (atoms :: pending) pos a).bind fun stop =>
        chainEnd? g input active pending stop atoms :=
  steps_cons_ending rfl

/-- What is pending matches if its first part does and the others do behind it. -/
theorem continues_cons_value (outer : List (List Atom)) :
    (continues g input active (atoms :: outer) pos).value =
      (chainEnd? g input active outer pos atoms).any fun stop =>
        (continues g input active outer stop).value := by
  cases atoms with
  | nil => rw [continues_done_value, chainEnd?_nil, Option.any_some]
  | cons a atoms =>
    have hsteps : (steps g input active outer (.begin (some a.handle) pos)
        (a :: atoms)).value.ending? = chainEnd? g input active outer pos (a :: atoms) :=
      steps_ending rfl
    rw [continues_pending_value]
    rw [← hsteps, SyntaxTree.ending?]
    dsimp only
    split
    · next hm => rw [hm, Bool.true_and, Option.any_some]
    · next hm =>
      rw [Bool.not_eq_true] at hm
      rw [hm, Bool.false_and, Option.any_none]

/-! ## Repetitions -/

/-- Turns only merge, so what merging keeps is kept by all of them. -/
theorem turns_keep {β : Type} {view : SyntaxTree α → β}
    (hview : ∀ t c : SyntaxTree α, view (t.merge c) = view t) (count : Nat) :
    view (turns g input active pending a tree count).value.1 = view tree := by
  induction hn : input.size - tree.stop using Nat.strongRecOn generalizing tree count with
  | ind n ih =>
    by_cases hgo : count < a.mark.quantifier.max ∧ tree.stop < input.size
    · rw [turns_go_value g input active pending a tree count hgo]
      split
      · rfl
      · cases (attempt g input active pending a tree.stop).value with
        | none => rfl
        | some turn =>
          dsimp only
          split
          · next hlt =>
            have hless : input.size - (tree.merge turn).stop < n := by
              rw [SyntaxTree.stop_merge]
              omega
            rw [ih _ hless (count + 1) rfl, hview]
          · exact hview tree turn
    · rw [turns_stop_value g input active pending a tree count hgo]

/-- Turns are added to an attempt that goes on. -/
theorem turns_state (count : Nat) :
    (turns g input active pending a tree count).value.1.state = tree.state :=
  turns_keep SyntaxTree.state_merge count

/-- Where a repetition ends after some turns, if it may. -/
def turnsEnd? (input : Input α) (a : Atom) (turn : SyntaxTree α × Nat) : Option Nat :=
  if accepts input a turn.2 turn.1.stop then some turn.1.stop else none

theorem atomEnd?_turns (hl : ¬a.isLookahead = true) :
    atomEnd? g input active pending pos a =
      turnsEnd? input a (turns g input active pending a (.begin (some a.handle) pos) 0).value := by
  rw [atomEnd?, repeated_turns_value g input active pending a pos hl]
  have hp : (turns g input active pending a (.begin (some a.handle) pos) 0).value.1.state =
      .pending := turns_state 0
  dsimp only
  rw [turnsEnd?]
  split
  · exact SyntaxTree.ending?_resolved hp
  · exact SyntaxTree.ending?_deferred hp

theorem accepts_once {count : Nat} (hq : a.mark.quantifier = .once) (ha : a.anchoredEnd = false) :
    accepts input a count pos = (count == 1) := by
  rw [accepts, hq, ha, Bool.not_false, Bool.true_or, Bool.and_true, Quantifier.admits,
    Bool.eq_iff_iff, Bool.and_eq_true, decide_eq_true_eq, decide_eq_true_eq, beq_iff_eq]
  exact ⟨fun h => Nat.le_antisymm h.2 h.1, fun h => ⟨Nat.le_of_eq h.symm, Nat.le_of_eq h⟩⟩

/-- What is to occur once makes one turn, unless the input has ended. -/
theorem turnsEnd?_once (hq : a.mark.quantifier = .once) (ha : a.anchoredEnd = false)
    (hp : tree.stop < input.size) :
    turnsEnd? input a (turns g input active pending a tree 0).value =
      (attempt g input active pending a tree.stop).value.map SyntaxTree.stop := by
  have hgo : 0 < a.mark.quantifier.max ∧ tree.stop < input.size := by
    rw [hq]
    exact ⟨Nat.one_pos, hp⟩
  rw [turns_go_value g input active pending a tree 0 hgo,
    asks_eager g input active pending a _ _ (by rw [hq]; rfl), Noted.value_pure,
    if_neg Bool.false_ne_true]
  cases (attempt g input active pending a tree.stop).value with
  | none => rw [turnsEnd?, accepts_once hq ha, Option.map_none, if_neg (by simp)]
  | some turn =>
    have hone : turnsEnd? input a (tree.merge turn, 1) = some turn.stop := by
      rw [turnsEnd?, accepts_once hq ha, beq_self_eq_true, if_pos rfl, SyntaxTree.stop_merge]
    have hfull : ¬(0 + 1 < a.mark.quantifier.max ∧ (tree.merge turn).stop < input.size) := by
      rw [hq]
      exact fun h => Nat.lt_irrefl 1 h.1
    rw [Option.map_some, ← hone, hq]
    dsimp only
    split
    · rw [turns_stop_value g input active pending a _ _ hfull]
    · rfl

end Endings

section Choices

variable {g : Grammar} {input : Input α} {active : List (Nat × Nat)} {pending : List (List Atom)}
variable {atoms : List Atom} {alternatives : List (List Atom)} {pos : Nat}
variable {fallback : Option (SyntaxTree α)}

/-- A choice finds something if an alternative matches. -/
theorem isSome_choose :
    (choose g input active pending alternatives pos fallback).value.isSome =
      (fallback.isSome ||
        alternatives.any fun atoms => (chainEnd? g input active pending pos atoms).isSome) := by
  induction alternatives generalizing fallback with
  | nil => rw [choose_nil_value, List.any_nil, Bool.or_false]
  | cons atoms alternatives ih =>
    have hsteps : (steps g input active pending (.begin (atoms.head?.map Atom.handle) pos)
        atoms).value.ending? = chainEnd? g input active pending pos atoms := steps_ending rfl
    rw [choose_cons_value, List.any_cons, ← hsteps, SyntaxTree.isSome_ending?]
    dsimp only
    generalize (steps g input active pending (.begin (atoms.head?.map Atom.handle) pos)
      atoms).value = tree
    split
    · next ha =>
      rw [SyntaxTree.isAbsolute, Bool.and_eq_true] at ha
      rw [ha.1, Bool.true_or, Bool.or_true, Option.isSome_some]
    · rw [ih]
      cases tree.matched <;> cases fallback <;> simp

end Choices

section Boundaries

variable {g : Grammar} {s : List α} {active : List (Nat × Nat)} {pending : List (List Atom)}
variable {a : Atom} {atoms : List Atom} {pos : Nat}

theorem once_found (hb : Boundary s pos) (a : Atom) :
    Found s pos (once g (.ofUnits s) active pending a pos).value :=
  ((matching_ensures g s).2.2.2.2.1 active pending a pos hb).2

theorem atomEnd?_boundary (hb : Boundary s pos) {stop : Nat}
    (h : atomEnd? g (.ofUnits s) active pending pos a = some stop) : Boundary s stop := by
  obtain ⟨-, rfl⟩ := SyntaxTree.ending?_eq_some.1 h
  exact (repeated_settled g active pending hb a).2.wellFormed.boundary_stop

theorem atomEnd?_lookahead (hb : Boundary s pos) (hl : a.isLookahead = true) :
    atomEnd? g (.ofUnits s) active pending pos a =
      ((attempt g (.ofUnits s) active pending a pos).value.map SyntaxTree.stop).or
        (if a.mark.quantifier.isOptional then some pos else none) := by
  have hfound := (attempt_found g active pending hb a).2
  rw [atomEnd?, repeated_lookahead_value g _ active pending a pos hl]
  cases h : (attempt g (.ofUnits s) active pending a pos).value with
  | some tree => exact SyntaxTree.ending?_of_matched (hfound tree h).2
  | none =>
    rw [Option.getD_none, Option.map_none, Option.none_or]
    split <;> rfl

/-- Where what is found in place of something denied ends. -/
theorem deny_stop {denied : Option (SyntaxTree α)} (hfound : Found s pos denied) :
    (deny (.ofUnits s) a pos denied).value.map SyntaxTree.stop =
      if a.isLookahead then
        if (denied.map SyntaxTree.stop).isSome then none else some pos
      else if (denied.map SyntaxTree.stop).any (· != pos) then none
      else
        let stop := ((Input.ofUnits s).advance pos).value
        if pos < stop then some stop else none := by
  have hany : (denied.any fun t => !t.isEmpty) = (denied.map SyntaxTree.stop).any (· != pos) := by
    cases denied with
    | none => rfl
    | some t =>
      rw [Option.map_some, Option.any_some, Option.any_some, SyntaxTree.isEmpty,
        (hfound t rfl).1.start]
      rfl
  unfold deny
  rw [hany, Option.isSome_map]
  split
  · split <;> rfl
  · split
    · rfl
    · rw [Noted.value_bind]
      dsimp only
      split <;> rfl

/-- The first alternative that ends elsewhere than it began is taken. -/
theorem isAbsolute_alternative (hb : Boundary s pos) :
    (steps g (.ofUnits s) active pending (.begin (atoms.head?.map Atom.handle) pos)
        atoms).value.isAbsolute =
      (chainEnd? g (.ofUnits s) active pending pos atoms).any (· != pos) := by
  have hsettled := (steps_settled g active pending
    (.begin hb (atoms.head?.map Atom.handle)) (fun _ => rfl) atoms).2
  have hending : (steps g (.ofUnits s) active pending
      (.begin (atoms.head?.map Atom.handle) pos) atoms).value.ending? =
      chainEnd? g (.ofUnits s) active pending pos atoms := steps_ending rfl
  rw [← hending]
  generalize (steps g (.ofUnits s) active pending (.begin (atoms.head?.map Atom.handle) pos)
    atoms).value = tree at *
  rw [SyntaxTree.isAbsolute, SyntaxTree.isEmpty, hsettled.start, SyntaxTree.ending?]
  cases tree.matched <;> rfl

theorem choose_cons_stop (hb : Boundary s pos) {alternatives : List (List Atom)}
    {fallback : Option (SyntaxTree α)} :
    (choose g (.ofUnits s) active pending (atoms :: alternatives) pos
        fallback).value.map SyntaxTree.stop =
      let first := (steps g (.ofUnits s) active pending
        (.begin (atoms.head?.map Atom.handle) pos) atoms).value
      if (chainEnd? g (.ofUnits s) active pending pos atoms).any (· != pos) then
        chainEnd? g (.ofUnits s) active pending pos atoms
      else
        (choose g (.ofUnits s) active pending alternatives pos
          (fallback.or (if first.matched then some first else none))).value.map
            SyntaxTree.stop := by
  have hending : (steps g (.ofUnits s) active pending
      (.begin (atoms.head?.map Atom.handle) pos) atoms).value.ending? =
      chainEnd? g (.ofUnits s) active pending pos atoms := steps_ending rfl
  rw [choose_cons_value, ← isAbsolute_alternative hb]
  dsimp only
  split
  · next ha =>
    rw [SyntaxTree.isAbsolute, Bool.and_eq_true] at ha
    rw [← hending, SyntaxTree.ending?_of_matched ha.1, Option.map_some]
  · rfl

end Boundaries

/-! ## The end of the input -/

mutual

/-- Whether some atoms match where the input has ended. -/
def chainAtEnd : List Atom → Bool
  | [] => true
  | a :: atoms => atomAtEnd a && chainAtEnd atoms

/-- Whether an atom matches where the input has ended: if it may be left out, or if it is a
lookahead and nothing that it holds matches there. -/
def atomAtEnd : Atom → Bool
  | .leaf m _ => m.quantifier.isOptional
  | .reference m _ => m.quantifier.isOptional
  | .group m lookahead _ alternatives =>
    lookahead && !anyAtEnd alternatives || m.quantifier.isOptional

/-- Whether one of some alternatives matches where the input has ended. -/
def anyAtEnd : List (List Atom) → Bool
  | [] => false
  | atoms :: alternatives => chainAtEnd atoms || anyAtEnd alternatives

end

theorem chainAtEnd_append (atoms atoms' : List Atom) :
    chainAtEnd (atoms ++ atoms') = (chainAtEnd atoms && chainAtEnd atoms') := by
  induction atoms with
  | nil => rw [List.nil_append, chainAtEnd, Bool.true_and]
  | cons a atoms ih => rw [List.cons_append, chainAtEnd, chainAtEnd, ih, Bool.and_assoc]

section AtEnd

variable {g : Grammar} {s : List α} {active : List (Nat × Nat)} {pending : List (List Atom)}

/-- No repetition makes a turn at the end. -/
theorem atomEnd?_required {a : Atom} (hl : ¬a.isLookahead = true) :
    atomEnd? g (.ofUnits s) active pending (Input.ofUnits s).size a =
      if a.mark.quantifier.isOptional then some (Input.ofUnits s).size else none := by
  have hstop : ¬(0 < a.mark.quantifier.max ∧
      (SyntaxTree.begin (α := α) (some a.handle) (Input.ofUnits s).size).stop <
        (Input.ofUnits s).size) := fun h => Nat.lt_irrefl _ h.2
  have haccepts : accepts (.ofUnits s) a 0 (Input.ofUnits s).size =
      a.mark.quantifier.isOptional := by
    rw [accepts, Input.endsAt, beq_self_eq_true, Bool.or_true, Bool.or_true, Bool.and_true,
      Quantifier.admits, Quantifier.isOptional, Bool.eq_iff_iff]
    simp
  rw [atomEnd?_turns hl, turns_stop_value _ _ _ _ _ _ _ hstop, turnsEnd?, ← haccepts]
  rfl

theorem atomEnd?_lookahead_at_end {m : Mark} {value : List Char}
    {alternatives : List (List Atom)}
    (h : (alternatives.any fun atoms =>
      (chainEnd? g (.ofUnits s) active pending (Input.ofUnits s).size atoms).isSome) =
      anyAtEnd alternatives) :
    atomEnd? g (.ofUnits s) active pending (Input.ofUnits s).size
        (.group m true value alternatives) =
      if atomAtEnd (.group m true value alternatives) then some (Input.ofUnits s).size
      else none := by
  have hb : Boundary s (Input.ofUnits s).size := ⟨s, [], by simp, Input.size_ofUnits s⟩
  have hsome : (choose g (.ofUnits s) active pending alternatives (Input.ofUnits s).size
      none).value.isSome = anyAtEnd alternatives := by
    rw [isSome_choose, h, Option.isSome_none, Bool.false_or]
  have hattempt : (attempt g (.ofUnits s) active pending (.group m true value alternatives)
      (Input.ofUnits s).size).value.map SyntaxTree.stop =
      if anyAtEnd alternatives then none else some (Input.ofUnits s).size := by
    rw [attempt_value, Atom.isLookahead, Bool.true_or, if_pos rfl, deny_stop (once_found hb _),
      Atom.isLookahead, if_pos rfl, once_group_value, Option.isSome_map, hsome]
  rw [atomEnd?_lookahead hb rfl, hattempt, atomAtEnd, Bool.true_and]
  cases anyAtEnd alternatives with
  | true => rfl
  | false => rfl

mutual

/-- **Whether a chain matches at the end depends on the chain alone.** -/
theorem chainEnd?_at_end (pending : List (List Atom)) : ∀ atoms,
    chainEnd? g (.ofUnits s) active pending (Input.ofUnits s).size atoms =
      if chainAtEnd atoms then some (Input.ofUnits s).size else none
  | [] => chainEnd?_nil
  | a :: atoms => by
    rw [chainEnd?_cons, atomEnd?_at_end (atoms :: pending) a, chainAtEnd]
    cases atomAtEnd a with
    | false => rfl
    | true => exact chainEnd?_at_end pending atoms

theorem atomEnd?_at_end (pending : List (List Atom)) : ∀ a,
    atomEnd? g (.ofUnits s) active pending (Input.ofUnits s).size a =
      if atomAtEnd a then some (Input.ofUnits s).size else none
  | .leaf m l => by
    rw [atomEnd?_required (by simp [Atom.isLookahead])]
    rfl
  | .reference m name => by
    rw [atomEnd?_required (by simp [Atom.isLookahead])]
    rfl
  | .group m false value alternatives => by
    rw [atomEnd?_required (by simp [Atom.isLookahead])]
    rfl
  | .group m true value alternatives =>
    atomEnd?_lookahead_at_end (anyEnd_at_end pending alternatives)

theorem anyEnd_at_end (pending : List (List Atom)) : ∀ alternatives : List (List Atom),
    (alternatives.any fun atoms =>
      (chainEnd? g (.ofUnits s) active pending (Input.ofUnits s).size atoms).isSome) =
      anyAtEnd alternatives
  | [] => rfl
  | atoms :: alternatives => by
    rw [List.any_cons, anyEnd_at_end pending alternatives, chainEnd?_at_end pending atoms, anyAtEnd]
    cases chainAtEnd atoms <;> rfl

end

end AtEnd

end Matching

end Lexigram
