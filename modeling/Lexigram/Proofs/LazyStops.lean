import Lexigram.Proofs.Continuations
import Mathlib.Order.Bounds.Basic

/-!
# Lazy repetitions

A lazy repetition ends as soon as it may and what is pending matches behind it. The first part of
what is pending is the rest of its own chain, which is matched again once the repetition has ended.

**Turns** (`Turned`). How far a repetition has got, as a relation with one case for each turn that
consumes something. A repetition comes to its end in one of three ways (`Turned.exists_last`), of
which the test is one (`Halts`).

**The first place** (`Halts.isLeast`). Where the turns would lead without the test does not depend
on it (`cursor?`). Of all the counts at which the repetition may end and what is pending matches,
the test takes the least, since it failed at all counts before.

**The rest of the chain** (`Halts.chainEnd?`). The test matches the rest of the chain with what
encloses it pending, as it is matched in the end, so it ends at the same place. Matching a chain up
to some atom and from there on is matching the chain (`chainEnd?_append`), so the chain matches if
its atoms up to the repetition do.

Main result: `Halts.chain`.
-/

namespace Lexigram.Matching

variable {α : Type} [Readable α]

/-! ## Turns -/

section

variable (g : Grammar) (input : Input α) (active : List (Nat × Nat)) (pending : List (List Atom))
variable (a : Atom) (pos : Nat)

/-- Where a repetition gets to by turns that each consume something, whatever is asked between
them. -/
def cursor? : Nat → Option Nat
  | 0 => some pos
  | count + 1 =>
    (cursor? count).bind fun cursor =>
      ((attempt g input active pending a cursor).value.map SyntaxTree.stop).filter (cursor < ·)

/-- A repetition may end after some turns, and all that is pending matches from there. -/
def Admissible (count : Nat) : Prop :=
  ∃ cursor, cursor? g input active pending a pos count = some cursor ∧
    accepts input a count cursor = true ∧ (continues g input active pending cursor).value = true

/-- A repetition has made some turns, which are in a tree, and none of its tests has ended it. -/
inductive Turned : Nat → SyntaxTree α → Prop
  | start : Turned 0 (.begin (some a.handle) pos)
  | again {count : Nat} {tree turn : SyntaxTree α} : Turned count tree →
    count < a.mark.quantifier.max ∧ tree.stop < input.size →
    (asks g input active pending a count tree.stop).value = false →
    (attempt g input active pending a tree.stop).value = some turn → tree.stop < turn.stop →
    Turned (count + 1) (tree.merge turn)

/-- A repetition ends because of its test, where it might have made another turn. -/
structure Halts (count : Nat) (tree : SyntaxTree α) : Prop where
  turned : Turned g input active pending a pos count tree
  more : count < a.mark.quantifier.max ∧ tree.stop < input.size
  asked : (asks g input active pending a count tree.stop).value = true

end

variable {g : Grammar} {input : Input α} {active : List (Nat × Nat)} {pending : List (List Atom)}
variable {a : Atom} {pos count : Nat} {tree : SyntaxTree α}

theorem asks_eq_true :
    (asks g input active pending a count pos).value = true ↔
      a.mark.quantifier.lazy = true ∧ accepts input a count pos = true ∧
        (continues g input active pending pos).value = true := by
  rw [asks, ← and_assoc, ← Bool.and_eq_true]
  split
  · next h => rw [h, eq_self, true_and]
  · next h => rw [iff_false_right fun hall => h hall.1]; exact Bool.false_ne_true

namespace Turned

theorem state_eq (h : Turned g input active pending a pos count tree) : tree.state = .pending := by
  induction h with
  | start => rfl
  | again _ _ _ _ _ ih => rw [SyntaxTree.state_merge, ih]

/-- **Turns that were made are turns of the whole repetition.** -/
theorem turns_value (h : Turned g input active pending a pos count tree) :
    (turns g input active pending a (.begin (some a.handle) pos) 0).value =
      (turns g input active pending a tree count).value := by
  induction h with
  | start => rfl
  | again _ hmore hasks hattempt hless ih =>
    rw [ih, turns_go_value g input active pending a _ _ hmore, hasks, if_neg Bool.false_ne_true,
      hattempt]
    exact if_pos hless

theorem cursor?_eq (h : Turned g input active pending a pos count tree) :
    cursor? g input active pending a pos count = some tree.stop := by
  induction h with
  | start => rfl
  | again _ _ _ hattempt hless ih =>
    rw [cursor?, ih, Option.bind_some, hattempt, Option.map_some, SyntaxTree.stop_merge]
    exact Option.filter_some_pos (decide_eq_true hless)

/-- **All tests before have failed.** -/
theorem not_admissible (hlazy : a.mark.quantifier.lazy = true)
    (h : Turned g input active pending a pos count tree) {earlier : Nat} (hlt : earlier < count) :
    ¬Admissible g input active pending a pos earlier := by
  induction h with
  | start => exact absurd hlt (Nat.not_lt_zero _)
  | @again count tree turn hturned _ hasks _ _ ih =>
    rcases Nat.lt_succ_iff_lt_or_eq.1 hlt with hlt | rfl
    · exact ih hlt
    · rintro ⟨cursor, hcursor, hadmits⟩
      rw [hturned.cursor?_eq] at hcursor
      cases hcursor
      rw [asks_eq_true.2 ⟨hlazy, hadmits⟩] at hasks
      cases hasks

/-- **How a repetition ends**: it may make no more turns, its test holds, or the test fails and the
atom does not match again, at least not with anything consumed. -/
theorem exists_last (h : Turned g input active pending a pos count tree) :
    ∃ last tree, Turned g input active pending a pos last tree ∧
      (¬(last < a.mark.quantifier.max ∧ tree.stop < input.size) ∨
        Halts g input active pending a pos last tree ∨
        (asks g input active pending a last tree.stop).value = false ∧
          ∀ turn, (attempt g input active pending a tree.stop).value = some turn →
            ¬tree.stop < turn.stop) := by
  induction hn : input.size - tree.stop using Nat.strongRecOn generalizing count tree with
  | ind n ih =>
    by_cases hmore : count < a.mark.quantifier.max ∧ tree.stop < input.size
    · cases hasks : (asks g input active pending a count tree.stop).value with
      | true => exact ⟨count, tree, h, .inr (.inl ⟨h, hmore, hasks⟩)⟩
      | false =>
        cases hattempt : (attempt g input active pending a tree.stop).value with
        | none =>
          refine ⟨count, tree, h, .inr (.inr ⟨hasks, fun turn hturn => ?_⟩)⟩
          rw [hattempt] at hturn
          cases hturn
        | some turn =>
          by_cases hless : tree.stop < turn.stop
          · have hrest : input.size - (tree.merge turn).stop < n := by
              rw [SyntaxTree.stop_merge]
              omega
            exact ih _ hrest (h.again hmore hasks hattempt hless) rfl
          · refine ⟨count, tree, h, .inr (.inr ⟨hasks, fun turn' hturn => ?_⟩)⟩
            rw [hattempt] at hturn
            cases hturn
            exact hless
    · exact ⟨count, tree, h, .inl hmore⟩

end Turned

/-! ## The first place -/

namespace Halts

/-- **The test ends a repetition at the first place where it may end** and what is pending
matches. -/
theorem isLeast (h : Halts g input active pending a pos count tree) :
    IsLeast {count | Admissible g input active pending a pos count} count := by
  obtain ⟨hlazy, hadmits⟩ := asks_eq_true.1 h.asked
  refine ⟨⟨tree.stop, h.turned.cursor?_eq, hadmits⟩, fun earlier hearlier => ?_⟩
  by_contra hlt
  exact h.turned.not_admissible hlazy (Nat.not_le.1 hlt) hearlier

/-- What has been matched when the test ends a repetition is what the repetition matches. -/
theorem repeated_value (h : Halts g input active pending a pos count tree)
    (hl : ¬a.isLookahead = true) :
    (repeated g input active pending a pos).value = tree.settle .resolved := by
  have haccepts := (asks_eq_true.1 h.asked).2.1
  have hturns : (turns g input active pending a (.begin (some a.handle) pos) 0).value =
      (tree, count) := by
    rw [h.turned.turns_value, turns_go_value g input active pending a tree count h.more, h.asked,
      if_pos rfl]
  rw [repeated_turns_value g input active pending a pos hl, hturns]
  dsimp only
  rw [if_pos haccepts]

theorem atomEnd?_eq (h : Halts g input active pending a pos count tree)
    (hl : ¬a.isLookahead = true) : atomEnd? g input active pending pos a = some tree.stop := by
  rw [atomEnd?, h.repeated_value hl]
  exact SyntaxTree.ending?_resolved h.turned.state_eq

/-! ## The rest of the chain -/

variable {atoms : List Atom}

/-- **The test has matched the rest of the chain.** -/
theorem chainEnd? (h : Halts g input active (atoms :: pending) a pos count tree) :
    ∃ stop, Matching.chainEnd? g input active pending tree.stop atoms = some stop ∧
      (continues g input active pending stop).value = true := by
  have hcontinues := (asks_eq_true.1 h.asked).2.2
  rw [continues_cons_value] at hcontinues
  exact (Option.any_eq_true _ _).1 hcontinues

end Halts

section

variable (g input active pending)

/-- Where the front of a chain ends, with the rest of the chain pending behind it. -/
def leadEnd? (pos : Nat) (front back : List Atom) : Option Nat :=
  match front with
  | [] => some pos
  | b :: front =>
    (atomEnd? g input active ((front ++ back) :: pending) pos b).bind fun stop =>
      leadEnd? stop front back

end

/-- A chain is matched by its front and then by the rest of it. -/
theorem chainEnd?_append (front back : List Atom) :
    chainEnd? g input active pending pos (front ++ back) =
      (leadEnd? g input active pending pos front back).bind fun stop =>
        chainEnd? g input active pending stop back := by
  induction front generalizing pos with
  | nil => rfl
  | cons b front ih =>
    rw [List.cons_append, chainEnd?_cons, leadEnd?, Option.bind_assoc]
    exact congrArg _ (funext fun stop => ih)

/-- **A lazy repetition never strands its own chain.** Suppose that a chain is matched up to an atom
whose repetition its test ends. Then it ends at the first count that it admits and from whose
position all that is pending matches; the rest of the chain matches from there, with whatever it is
added to, up to where the test found that it ends; and so the whole chain matches. -/
theorem Halts.chain {front atoms : List Atom} {lead : SyntaxTree α}
    (hl : a.isLookahead = false) (hlead : lead.state = .pending)
    (hfront : leadEnd? g input active pending lead.stop front (a :: atoms) = some pos)
    (h : Halts g input active (atoms :: pending) a pos count tree) :
    (repeated g input active (atoms :: pending) a pos).value = tree.settle .resolved ∧
    cursor? g input active (atoms :: pending) a pos count = some tree.stop ∧
    IsLeast {count | Admissible g input active (atoms :: pending) a pos count} count ∧
    ∃ stop,
      (steps g input active pending (.begin (atoms.head?.map Atom.handle) tree.stop)
        atoms).value.ending? = some stop ∧
      (continues g input active pending stop).value = true ∧
      (∀ before : SyntaxTree α, before.state = .pending → before.stop = tree.stop →
        (steps g input active pending before atoms).value.ending? = some stop) ∧
      (steps g input active pending lead (front ++ a :: atoms)).value.ending? = some stop := by
  have hl' : ¬a.isLookahead = true := Bool.eq_false_iff.1 hl
  obtain ⟨stop, hrest, hcontinues⟩ := h.chainEnd?
  refine ⟨h.repeated_value hl', h.turned.cursor?_eq, h.isLeast, stop, ?_, hcontinues, ?_, ?_⟩
  · exact (steps_ending rfl).trans hrest
  · intro before hbefore hstop
    rw [steps_ending hbefore, hstop, hrest]
  · rw [steps_ending hlead, chainEnd?_append, hfront, Option.bind_some, Matching.chainEnd?_cons,
      h.atomEnd?_eq hl', Option.bind_some, hrest]

/-- A chain whose lazy repetition its test ends at the second of two places, since what has to
follow is not found at the first. -/
theorem chain_sparingly :
    let g := (({} : Builder).compile { id := "R", body := "'x' 'a'*? 'b'" }).1.build.value
    let atoms := [quoted 3 'x', sparingly 4 'a', quoted 5 'b']
    let input : Input Char := .ofUnits ['x', 'a', 'b']
    g.rules = [single atoms] ∧
      (∃ tree, Halts g input [(2, 0)] [[quoted 5 'b'], []] (sparingly 4 'a') 1 1 tree) ∧
      leadEnd? g input [(2, 0)] [[]] 0 [quoted 3 'x'] [sparingly 4 'a', quoted 5 'b'] = some 1 ∧
      IsLeast {count | Admissible g input [(2, 0)] [[quoted 5 'b'], []] (sparingly 4 'a') 1 count}
        1 ∧
      ∃ stop, (steps g input [(2, 0)] [[]] (.begin (some 3) 0) atoms).value.ending? =
        some stop := by
  intro g atoms input
  have hrules : g.rules = [single atoms] := by
    unfold g atoms
    cbv
  have hfront : leadEnd? g input [(2, 0)] [[]] 0 [quoted 3 'x'] [sparingly 4 'a', quoted 5 'b'] =
      some 1 := by
    unfold g input
    cbv
  have hno : (asks g input [(2, 0)] [[quoted 5 'b'], []] (sparingly 4 'a') 0 1).value = false := by
    unfold g input
    cbv
  have hturn : (attempt g input [(2, 0)] [[quoted 5 'b'], []] (sparingly 4 'a') 1).value =
      some ⟨some 4, 1, 2, ['a'], .resolved, []⟩ := by
    unfold g input
    cbv
  have hyes : (asks g input [(2, 0)] [[quoted 5 'b'], []] (sparingly 4 'a') 1 2).value = true := by
    unfold g input
    cbv
  have hhalts : Halts g input [(2, 0)] [[quoted 5 'b'], []] (sparingly 4 'a') 1 1 _ :=
    ⟨.again .start ⟨by decide, by decide⟩ hno hturn (by decide), ⟨by decide, by decide⟩, hyes⟩
  have hlead : (.begin (some 3) 0 : SyntaxTree Char).state = .pending := rfl
  obtain ⟨-, -, hleast, stop, -, -, -, hmatched⟩ := hhalts.chain rfl hlead hfront
  exact ⟨hrules, ⟨_, hhalts⟩, hfront, hleast, stop, hmatched⟩

end Lexigram.Matching
