import Lexigram.Grammar.Node
import Lexigram.Proofs.Arena
import Lexigram.Proofs.LeftRecursion
import Lexigram.Proofs.Stacks
import Mathlib

/-!
# Matching without left recursion

If no left recursion is reported and no repetition is lazy, matching never tries to enter a rule
where it is active, so it needs no guard.

**Eagerness** (`ChainEager`). No repetition in some atoms is lazy. What is pending is then never
looked at.

**The invariant** (`Entered`). Every active rule was entered at the position where matching stands
or before it, and if it was entered there, all names that can stand first in what is left to match
precede it. Once input is consumed nothing is asked of the names any more.

**The step** (`matching_proceeds`). The invariant holds along the calls because an atom that has
matched nothing is one that may match nothing: what follows it still stands first. A rule that was
entered again would precede itself, and the rules are layered.

Main result: `runRule_unguarded`.
-/

namespace Lexigram

open LeftRecursion

/-! ## Eagerness -/

mutual

/-- No repetition in some atoms is lazy. -/
def ChainEager : List Atom → Prop
  | [] => True
  | a :: atoms => AtomEager a ∧ ChainEager atoms

/-- Neither the repetition of an atom is lazy nor one inside it. -/
def AtomEager : Atom → Prop
  | .leaf m _ => m.quantifier.lazy = false
  | .reference m _ => m.quantifier.lazy = false
  | .group m _ _ alternatives => m.quantifier.lazy = false ∧ AnyEager alternatives

/-- No repetition in some alternatives is lazy. -/
def AnyEager : List (List Atom) → Prop
  | [] => True
  | atoms :: alternatives => ChainEager atoms ∧ AnyEager alternatives

end

theorem AtomEager.lazy_eq {a : Atom} (h : AtomEager a) : a.mark.quantifier.lazy = false := by
  cases a with
  | leaf m l => exact h
  | reference m name => exact h
  | group m lookahead value alternatives => exact h.1

section Nodes

variable (g : Grammar) (r : Rule)

mutual

theorem chainEager_of_nodes (prev : Option Nat) :
    ∀ atoms, (∀ n ∈ g.nodesOfChain r prev atoms, n.quantifier.lazy = false) → ChainEager atoms
  | [], _ => trivial
  | a :: atoms, h => by
    rw [Grammar.nodesOfChain] at h
    refine ⟨atomEager_of_nodes prev _ a fun n hn => h n (List.mem_append_left _ hn), ?_⟩
    exact chainEager_of_nodes _ atoms fun n hn => h n (List.mem_append_right _ hn)

theorem atomEager_of_nodes (prev next : Option Nat) :
    ∀ a, (∀ n ∈ g.nodesOfAtom r prev next a, n.quantifier.lazy = false) → AtomEager a
  | .leaf m l, h => by
    rw [Grammar.nodesOfAtom] at h
    exact h _ List.mem_cons_self
  | .reference m name, h => by
    rw [Grammar.nodesOfAtom] at h
    exact h _ List.mem_cons_self
  | .group m lookahead value alternatives, h => by
    rw [Grammar.nodesOfAtom] at h
    refine ⟨h _ List.mem_cons_self, ?_⟩
    exact anyEager_of_nodes alternatives fun n hn => h n (List.mem_cons_of_mem _ hn)

theorem anyEager_of_nodes :
    ∀ alternatives, (∀ n ∈ g.nodesOfAlternatives r alternatives, n.quantifier.lazy = false) →
      AnyEager alternatives
  | [], _ => trivial
  | atoms :: alternatives, h => by
    rw [Grammar.nodesOfAlternatives] at h
    refine ⟨chainEager_of_nodes none atoms fun n hn => h n (List.mem_append_left _ hn), ?_⟩
    exact anyEager_of_nodes alternatives fun n hn => h n (List.mem_append_right _ hn)

end

end Nodes

/-- Where no node is lazy, no rule is. -/
theorem Grammar.Built.anyEager {g : Grammar} (hg : g.Built)
    (h : ∀ n ∈ g.nodes, n.quantifier.lazy = false) {r : Rule} (hr : r ∈ g.rules) :
    AnyEager r.alternatives := by
  refine anyEager_of_nodes g r r.alternatives fun n hn => h n ?_
  have hnode : n ∈ g.blocks.flatMap g.nodesOfRule :=
    List.mem_flatMap.2 ⟨r, hg.mem_blocks hr, List.mem_cons_of_mem _ hn⟩
  exact List.mem_cons_of_mem _ (List.mem_cons_of_mem _ hnode)

/-! ## Matching -/

theorem atomVanishes_of_isLookahead {empty : String → Prop} {a : Atom}
    (h : a.isLookahead = true) : AtomVanishes empty a := by
  cases a with
  | leaf m l => cases h
  | reference m name => cases h
  | group m lookahead value alternatives =>
    rw [AtomVanishes]
    exact .inl h

theorem chainEager_head {r : Rule} (h : AnyEager r.alternatives) : ChainEager [r.head] :=
  ⟨⟨rfl, h⟩, trivial⟩

theorem chainVanishes_head {empty : String → Prop} {r : Rule} :
    ChainVanishes empty [r.head] ↔ AnyVanishes empty r.alternatives := by
  simp [ChainVanishes, AtomVanishes, Rule.head, Atom.mark, Quantifier.isOptional, Quantifier.once]

theorem chainLeads_head {empty : String → Prop} {name : String} {r : Rule} :
    ChainLeads empty name [r.head] ↔ AnyLeads empty name r.alternatives := by
  simp [ChainLeads, AtomLeads, Rule.head]

/-- A computation enters no rule again, and its value has a property. -/
abbrev Noted.Proceeds {β : Type} (x : Noted β) (p : β → Prop) : Prop :=
  x.Avoids Notice.isReentry p

theorem Noted.expect_proceeds {p : Prop} [Decidable p] {n : Notice} (h : n.isReentry = false) :
    (Noted.expect p n).Proceeds fun _ => True := by
  unfold Noted.expect
  split
  · exact .pure trivial
  · exact .note h trivial

namespace Matching

open Readable (extent)
open SyntaxTree (Settled Found)

variable {α : Type} {g : Grammar} {empty : String → Prop}

/-- Every active rule was entered before a position, or at it and all names that lead now precede
it. -/
def Entered (g : Grammar) (empty : String → Prop) (active : List (Nat × Nat)) (pos : Nat)
    (leads : String → Prop) : Prop :=
  ∀ place ∈ active, ∃ r ∈ g.rules, r.handle = place.1 ∧ place.2 ≤ pos ∧
    (place.2 = pos → LedBy g.rules empty leads r.id)

section Invariant

variable {active : List (Nat × Nat)} {pos : Nat} {leads leads' : String → Prop} {name : String}
variable {r : Rule}

theorem Entered.mono (h : Entered g empty active pos leads)
    (hleads : ∀ name, leads' name → leads name) : Entered g empty active pos leads' := by
  intro place hplace
  obtain ⟨r, hr, hhandle, hle, hled⟩ := h place hplace
  exact ⟨r, hr, hhandle, hle, fun heq => (hled heq).mono hleads⟩

/-- Behind what is consumed any name may stand first. -/
theorem Entered.later {pos' : Nat} (h : Entered g empty active pos leads) (hlt : pos < pos') :
    Entered g empty active pos' leads' := by
  intro place hplace
  obtain ⟨r, hr, hhandle, hle, -⟩ := h place hplace
  exact ⟨r, hr, hhandle, by omega, fun heq => by omega⟩

theorem Entered.enter (h : Entered g empty active pos fun name' => name = name')
    (hr : g.find? name = some r) :
    Entered g empty ((r.handle, pos) :: active) pos
      fun name' => AnyLeads empty name' r.alternatives := by
  intro place hplace
  rcases List.mem_cons.1 hplace with rfl | hplace
  · obtain ⟨hmem, hid⟩ := Rule.findIn?_eq_some hr
    exact ⟨r, hmem, rfl, Nat.le_refl pos, fun _ => hid ▸ ledBy_self hr⟩
  · obtain ⟨q, hq, hhandle, hle, hled⟩ := h place hplace
    exact ⟨q, hq, hhandle, hle, fun heq => (hled heq).enter hr⟩

/-- **A rule that can stand first is not active here.** -/
theorem Entered.not_mem (h : Entered g empty active pos fun name' => name = name')
    (hg : g.Built) (hlayered : Layered g.rules empty) (hr : g.find? name = some r) :
    (r.handle, pos) ∉ active := by
  intro hplace
  obtain ⟨q, hq, hhandle, -, hled⟩ := h _ hplace
  obtain ⟨hmem, hid⟩ := Rule.findIn?_eq_some hr
  obtain rfl := hg.eq_of_handle_eq hq hmem hhandle
  exact hlayered.acyclic.ne (hled rfl) hr hid

end Invariant

/-- A tree does not end before a position, and if it matched and ends there, what it matched may
match nothing. -/
def Passes (pos : Nat) (vanishes : Prop) (t : SyntaxTree α) : Prop :=
  pos ≤ t.stop ∧ (t.matched = true → t.stop = pos → vanishes)

/-- How far a repetition came from a position on: if it is still there, it has not repeated any more
or the atom may match nothing. -/
def Repeats (empty : String → Prop) (a : Atom) (pos count : Nat) (r : SyntaxTree α × Nat) : Prop :=
  pos ≤ r.1.stop ∧ r.1.state = .pending ∧ (r.1.stop = pos → r.2 = count ∨ AtomVanishes empty a)

/-- If what is found ends at a position, what was tried there may match nothing. -/
def Finds (pos : Nat) (vanishes : Prop) (found : Option (SyntaxTree α)) : Prop :=
  ∀ t, found = some t → t.stop = pos → vanishes

theorem Finds.none {pos : Nat} {vanishes : Prop} :
    Finds pos vanishes (none : Option (SyntaxTree α)) :=
  fun t ht => by cases ht

/-- What follows an atom that matched nothing still stands first. -/
theorem Entered.rest {active : List (Nat × Nat)} {pos : Nat} {a : Atom} {atoms : List Atom}
    {step : SyntaxTree α}
    (h : Entered g empty active pos fun name => ChainLeads empty name (a :: atoms))
    (hpasses : Passes pos (a.mark.quantifier.isOptional = true ∨ AtomVanishes empty a) step)
    (hm : step.matched = true) :
    Entered g empty active step.stop fun name => ChainLeads empty name atoms := by
  obtain ⟨hle, hvanishes⟩ := hpasses
  rcases Nat.lt_or_eq_of_le hle with hlt | heq
  · exact h.later hlt
  · rw [← heq]
    refine h.mono fun name hleads => ?_
    rw [ChainLeads]
    exact .inr ⟨hvanishes hm heq.symm, hleads⟩

theorem settle_proceeds (tree : SyntaxTree α) (state : MatchState) :
    (settle tree state).Proceeds fun t => t = tree.settle state := by
  rw [settle]
  exact (Noted.expect_proceeds rfl).bind fun _ _ => .pure rfl

theorem expectMergeable_proceeds (tree turn : SyntaxTree α) :
    (expectMergeable tree turn).Proceeds fun _ => True := by
  unfold expectMergeable
  split
  · exact .pure trivial
  · exact Noted.expect_proceeds rfl

theorem read_proceeds (input : Input α) (pos : Nat) :
    (input.read pos).Proceeds fun _ => True := by
  unfold Input.read
  split
  · exact .pure trivial
  · exact (Noted.Avoids.note (p := fun _ => True) rfl trivial).bind fun _ _ => .pure trivial

variable [Readable α]

theorem advance_proceeds (input : Input α) (pos : Nat) :
    (input.advance pos).Proceeds fun _ => True := by
  rw [Input.advance]
  refine (read_proceeds input pos).bind fun units _ => ?_
  split <;> exact .pure trivial

theorem slice_proceeds (input : Input α) (start stop : Nat) :
    (input.slice start stop).Proceeds fun _ => True := by
  refine (read_proceeds input start).bind fun _ _ => ?_
  refine (read_proceeds input stop).bind fun _ _ => ?_
  exact (Noted.expect_proceeds (n := .reversed start stop) rfl).bind fun _ _ => .pure trivial

theorem leaf_proceeds (input : Input α) (a : Atom) (start stop : Nat) :
    (leaf input a start stop).Proceeds fun t => t.stop = stop := by
  refine (slice_proceeds input start stop).bind fun units _ => ?_
  refine (settle_proceeds _ _).mono fun t ht => ?_
  rw [ht, SyntaxTree.stop_settle]
  rfl

theorem some_leaf_proceeds (input : Input α) (a : Atom) {start stop : Nat} {vanishes : Prop}
    (h : stop = start → vanishes) :
    (some <$> leaf input a start stop).Proceeds (Finds start vanishes) := by
  refine ((leaf_proceeds input a start stop).mono fun t ht => ?_).map
  rintro _ ⟨⟩ heq
  exact h (ht.symm.trans heq)

/-- What is found in place of something denied consumes input, unless it is a lookahead. -/
theorem deny_proceeds (input : Input α) (a : Atom) (pos : Nat) (denied : Option (SyntaxTree α)) :
    (deny input a pos denied).Proceeds (Finds pos (AtomVanishes empty a)) := by
  unfold deny
  split
  · next hl =>
    split
    · exact .pure .none
    · exact some_leaf_proceeds input a fun _ => atomVanishes_of_isLookahead hl
  · split
    · exact .pure .none
    · refine (advance_proceeds input pos).bind fun stop _ => ?_
      split
      · next hlt => exact some_leaf_proceeds input a fun heq => absurd hlt (by omega)
      · exact .pure .none

/-! ### One lemma for each function -/

variable {s : List α} {active : List (Nat × Nat)} {pending : List (List Atom)}

theorem steps_nil_proceeds (tree : SyntaxTree α) :
    (steps g (.ofUnits s) active pending tree []).Proceeds
      (Passes tree.stop (ChainVanishes empty [])) := by
  rw [steps]
  refine (settle_proceeds tree _).mono fun t ht => ?_
  rw [ht, Passes, SyntaxTree.stop_settle]
  exact ⟨Nat.le_refl _, fun _ _ => by rw [ChainVanishes]; trivial⟩

theorem steps_cons_proceeds {tree : SyntaxTree α} {a : Atom} {atoms : List Atom}
    (hstep : (repeated g (.ofUnits s) active (atoms :: pending) a tree.stop).Proceeds
      (Passes tree.stop (a.mark.quantifier.isOptional = true ∨ AtomVanishes empty a)))
    (hrest : ∀ step, Settled s tree.stop step → step.matched = true →
      Passes tree.stop (a.mark.quantifier.isOptional = true ∨ AtomVanishes empty a) step →
      (steps g (.ofUnits s) active pending (tree.absorb step) atoms).Proceeds
        (Passes step.stop (ChainVanishes empty atoms)))
    (hb : Boundary s tree.stop) (hp : tree.state = .pending) :
    (steps g (.ofUnits s) active pending tree (a :: atoms)).Proceeds
      (Passes tree.stop (ChainVanishes empty (a :: atoms))) := by
  have hsettled := (repeated_settled g active (atoms :: pending) hb a).2
  rw [steps]
  refine hstep.value.bind fun step hs => ?_
  obtain ⟨hpasses, rfl⟩ := hs
  generalize (repeated g (.ofUnits s) active (atoms :: pending) a tree.stop).value = step at *
  split
  · refine (settle_proceeds tree _).mono fun t ht => ?_
    rw [ht, Passes, SyntaxTree.stop_settle, SyntaxTree.matched_settle hp]
    exact ⟨Nat.le_refl _, fun hm => by cases hm⟩
  · next hm =>
    rw [Bool.not_eq_true', Bool.not_eq_false] at hm
    split
    · next hone =>
      rw [Bool.and_eq_true, List.isEmpty_iff, List.isEmpty_iff] at hone
      obtain ⟨rfl, -⟩ := hone
      refine .pure ⟨hpasses.1, fun _ hstop => ?_⟩
      rw [ChainVanishes, ChainVanishes]
      exact ⟨hpasses.2 hm hstop, trivial⟩
    · -- If the chain ends where it began, so did its first step.
      refine (Noted.expect_proceeds (n := .misplaced step.start tree.stop) rfl).bind fun _ _ => ?_
      refine (hrest step hsettled hm hpasses).mono fun t ht => ?_
      refine ⟨Nat.le_trans hpasses.1 ht.1, fun hmatched hstop => ?_⟩
      have hstep : step.stop = tree.stop := by
        have := hpasses.1
        have := ht.1
        omega
      rw [ChainVanishes]
      exact ⟨hpasses.2 hm hstep, ht.2 hmatched (hstop.trans hstep.symm)⟩

theorem repeated_proceeds {a : Atom} {pos : Nat}
    (hattempt : a.isLookahead = true →
      (attempt g (.ofUnits s) active pending a pos).Proceeds (Finds pos (AtomVanishes empty a)))
    (hturns : ¬a.isLookahead = true →
      (turns g (.ofUnits s) active pending a (.begin (some a.handle) pos) 0).Proceeds
        (Repeats empty a pos 0))
    (hb : Boundary s pos) :
    (repeated g (.ofUnits s) active pending a pos).Proceeds
      (Passes pos (a.mark.quantifier.isOptional = true ∨ AtomVanishes empty a)) := by
  by_cases hl : a.isLookahead = true
  · have hsettled := (repeated_settled g active pending hb a).2
    have hle := hsettled.le
    have hfree : (repeated g (.ofUnits s) active pending a pos).Proceeds fun _ => True := by
      rw [repeated, if_pos hl]
      refine (hattempt hl).bind fun found _ => ?_
      cases found with
      | some tree => exact .pure trivial
      | none =>
        dsimp only
        split
        · exact (leaf_proceeds _ a pos pos).mono fun _ _ => trivial
        · exact .pure trivial
    exact ⟨hfree.1, hle, fun _ _ => .inr (atomVanishes_of_isLookahead hl)⟩
  · rw [repeated, if_neg hl]
    refine (hturns hl).bind fun turn hturn => ?_
    obtain ⟨tree, count⟩ := turn
    obtain ⟨hstop, hpending, hempty⟩ := hturn
    refine (settle_proceeds tree _).mono fun t ht => ?_
    rw [ht, Passes, SyntaxTree.stop_settle, SyntaxTree.matched_settle hpending]
    refine ⟨hstop, fun hm heq => (hempty heq).imp_left fun hcount => ?_⟩
    dsimp only at hcount
    subst hcount
    split at hm
    · next haccepts =>
      rw [accepts, Bool.and_eq_true, Quantifier.admits, Bool.and_eq_true, decide_eq_true_eq]
        at haccepts
      rw [Quantifier.isOptional, beq_iff_eq]
      exact Nat.le_zero.1 haccepts.1.1
    · cases hm

theorem turns_stop_proceeds {a : Atom} {tree : SyntaxTree α} {count : Nat}
    (hstop : ¬(count < a.mark.quantifier.max ∧ tree.stop < (Input.ofUnits s).size))
    (hp : tree.state = .pending) :
    (turns g (.ofUnits s) active pending a tree count).Proceeds
      (Repeats empty a tree.stop count) := by
  rw [turns, dif_neg hstop]
  exact .pure ⟨Nat.le_refl _, hp, fun _ => .inl rfl⟩

/-- Only a turn that consumes nothing leaves an eager repetition where it was. -/
theorem turns_go_proceeds {a : Atom} {tree : SyntaxTree α} {count : Nat}
    (hgo : count < a.mark.quantifier.max ∧ tree.stop < (Input.ofUnits s).size)
    (hattempt : (attempt g (.ofUnits s) active pending a tree.stop).Proceeds
      (Finds tree.stop (AtomVanishes empty a)))
    (hnext : ∀ turn, tree.stop < turn.stop → Settled s tree.stop turn →
      (turns g (.ofUnits s) active pending a (tree.merge turn) (count + 1)).Proceeds
        (Repeats empty a turn.stop (count + 1)))
    (heager : AtomEager a) (hb : Boundary s tree.stop) (hp : tree.state = .pending) :
    (turns g (.ofUnits s) active pending a tree count).Proceeds
      (Repeats empty a tree.stop count) := by
  have hfound := (attempt_found g active pending hb a).2
  rw [turns, dif_pos hgo, heager.lazy_eq]
  refine Noted.Avoids.bind (p := fun lazyStop => lazyStop = false) (.pure rfl) fun _ hlazy => ?_
  rw [hlazy, if_neg Bool.false_ne_true]
  refine hattempt.value.bind fun found hf => ?_
  obtain ⟨hempty, rfl⟩ := hf
  generalize (attempt g (.ofUnits s) active pending a tree.stop).value = found at *
  cases found with
  | none => exact .pure ⟨Nat.le_refl _, hp, fun _ => .inl rfl⟩
  | some turn =>
    obtain ⟨hsettled, -⟩ := hfound turn rfl
    have hle := hsettled.le
    dsimp only
    refine (expectMergeable_proceeds tree turn).bind fun _ _ => ?_
    split
    · next hlt =>
      refine (hnext turn hlt hsettled).mono fun r hr => ?_
      have hlater := hr.1
      exact ⟨Nat.le_trans hle hlater, hr.2.1, fun heq => by omega⟩
    · next hlt =>
      have heq : turn.stop = tree.stop := by omega
      refine .pure ⟨?_, ?_, fun _ => .inr (hempty turn rfl heq)⟩
      · rw [SyntaxTree.stop_merge]
        exact hle
      · rw [SyntaxTree.state_merge, hp]

theorem attempt_proceeds {a : Atom} {pos : Nat}
    (honce : (once g (.ofUnits s) active pending a pos).Proceeds
      (Finds pos (a.mark.inverted = false → AtomVanishes empty a))) :
    (attempt g (.ofUnits s) active pending a pos).Proceeds (Finds pos (AtomVanishes empty a)) := by
  rw [attempt]
  refine honce.bind fun found hf => ?_
  split
  · exact deny_proceeds _ a pos found
  · next hplain =>
    rw [Bool.or_eq_true, not_or, Bool.not_eq_true, Bool.not_eq_true] at hplain
    exact .pure fun t ht heq => hf t ht heq hplain.2

theorem once_leaf_proceeds {pos : Nat} {vanishes : Prop} (m : Mark) (l : Leaf)
    (hb : Boundary s pos) :
    (once g (.ofUnits s) active pending (.leaf m l) pos).Proceeds (Finds pos vanishes) := by
  obtain ⟨front, back, rfl, rfl⟩ := hb
  rw [once, Input.test_ofUnits, pure_bind]
  cases ht : Readable.test l.pattern back with
  | none => exact .pure .none
  | some n =>
    obtain ⟨read, rest, -, hread, hn⟩ := Readable.test_eq_some ht
    have hlt : extent front < extent front + n := by
      rw [hn]
      exact Nat.lt_add_of_pos_right (Readable.extent_pos hread)
    exact some_leaf_proceeds _ _ fun heq => absurd heq (Nat.ne_of_gt hlt)

theorem once_unit_proceeds {pos : Nat} {vanishes : Prop} {m : Mark} {name : String} {r : Rule}
    {hit : α → Bool} (hr : g.find? name = some r) (hu : Readable.standsFor? r = some hit)
    (hb : Boundary s pos) :
    (once g (.ofUnits s) active pending (.reference m name) pos).Proceeds
      (Finds pos vanishes) := by
  obtain ⟨front, back, rfl, rfl⟩ := hb
  rw [once_unit g _ active pending m _ hr hu, Input.read_ofUnits, pure_bind]
  cases back with
  | nil => exact .pure .none
  | cons a back =>
    split
    · have hlt := Readable.extent_lt_append front a
      rw [Input.advance_ofUnits, pure_bind]
      exact some_leaf_proceeds _ _ fun heq => absurd heq (by omega)
    · exact .pure .none

theorem once_rule_proceeds {pos : Nat} {m : Mark} {name : String} {r : Rule}
    (hr : g.find? name = some r) (hu : Readable.standsFor? (α := α) r = none)
    (ha : (r.handle, pos) ∉ active)
    (hsteps : pos < (Input.ofUnits s).size →
      (steps g (.ofUnits s) ((r.handle, pos) :: active) pending (.begin (some r.handle) pos)
        [r.head]).Proceeds (Passes pos (ChainVanishes empty [r.head])))
    (hlayered : Layered g.rules empty) :
    (once g (.ofUnits s) active pending (.reference m name) pos).Proceeds
      (Finds pos (m.inverted = false → AtomVanishes empty (.reference m name))) := by
  rw [once_rule g _ active pending m pos hr hu]
  by_cases hp : pos < (Input.ofUnits s).size
  · rw [if_pos hp, if_neg ha]
    refine (hsteps hp).bind fun tree hpasses => .pure fun t ht heq hm => ?_
    split at ht
    · next hmatched =>
      cases ht
      have hvanishes := hpasses.2 hmatched heq
      rw [chainVanishes_head] at hvanishes
      rw [AtomVanishes]
      exact ⟨hm, hlayered.closed name r hr hvanishes⟩
    · cases ht
  · rw [if_neg hp]
    exact .pure .none

theorem choose_cons_proceeds {pos : Nat} {atoms : List Atom} {alternatives : List (List Atom)}
    {fallback : Option (SyntaxTree α)}
    (hsteps : (steps g (.ofUnits s) active pending
      (.begin (atoms.head?.map Atom.handle) pos) atoms).Proceeds
      (Passes pos (ChainVanishes empty atoms)))
    (hnext : ∀ tree : SyntaxTree α,
      (choose g (.ofUnits s) active pending alternatives pos
        (fallback.or (if tree.matched then some tree else none))).Proceeds fun found =>
          ∀ t, found = some t → t.stop = pos → AnyVanishes empty alternatives ∨
            fallback.or (if tree.matched then some tree else none) = some t)
    (hb : Boundary s pos) :
    (choose g (.ofUnits s) active pending (atoms :: alternatives) pos fallback).Proceeds
      fun found => ∀ t, found = some t → t.stop = pos →
        AnyVanishes empty (atoms :: alternatives) ∨ fallback = some t := by
  have hsettled := (steps_settled g active pending
    (.begin hb (atoms.head?.map Atom.handle)) (fun _ => rfl) atoms).2
  rw [choose]
  refine hsteps.value.bind fun tree ht => ?_
  obtain ⟨hpasses, rfl⟩ := ht
  generalize (steps g (.ofUnits s) active pending
    (.begin (atoms.head?.map Atom.handle) pos) atoms).value = tree at *
  split
  · next ha =>
    rw [SyntaxTree.isAbsolute, Bool.and_eq_true, Bool.not_eq_true', SyntaxTree.isEmpty,
      hsettled.start, beq_eq_false_iff_ne] at ha
    refine .pure fun t ht heq => ?_
    cases ht
    exact absurd heq ha.2
  · refine (hnext tree).mono fun found hfound t ht heq => ?_
    rw [AnyVanishes]
    rcases hfound t ht heq with hvanishes | hor
    · exact .inl (.inr hvanishes)
    · rcases Option.or_eq_some_iff.1 hor with hf | ⟨-, hf⟩
      · exact .inr hf
      · split at hf
        · next hm =>
          cases hf
          exact .inl (.inl (hpasses.2 hm heq))
        · cases hf

/-! ### All runs -/

/-- **Matching enters no rule again.** If the rules are layered and no repetition is lazy, a chain
is matched without entering an active rule, given that the names that can stand first in it precede
the rules that were entered here. -/
theorem matching_proceeds (hg : g.Built) (hlayered : Layered g.rules empty)
    (heager : ∀ r ∈ g.rules, AnyEager r.alternatives) (s : List α) :
    (∀ active pending tree atoms, Boundary s tree.stop → tree.state = .pending →
      ChainEager atoms →
      Entered g empty active tree.stop (fun name => ChainLeads empty name atoms) →
      (steps g (.ofUnits s) active pending tree atoms).Proceeds
        (Passes tree.stop (ChainVanishes empty atoms))) := by
  -- The induction is along the calls. Without lazy repetitions `continues` is not called, so
  -- nothing is said about it.
  refine (steps.mutual_induct g (.ofUnits s)
    (fun active pending tree atoms => Boundary s tree.stop → tree.state = .pending →
      ChainEager atoms →
      Entered g empty active tree.stop (fun name => ChainLeads empty name atoms) →
      (steps g (.ofUnits s) active pending tree atoms).Proceeds
        (Passes tree.stop (ChainVanishes empty atoms)))
    (fun active pending a pos => Boundary s pos → AtomEager a →
      Entered g empty active pos (fun name => AtomLeads empty name a) →
      (repeated g (.ofUnits s) active pending a pos).Proceeds
        (Passes pos (a.mark.quantifier.isOptional = true ∨ AtomVanishes empty a)))
    (fun active pending a tree count => Boundary s tree.stop → tree.state = .pending →
      AtomEager a → Entered g empty active tree.stop (fun name => AtomLeads empty name a) →
      (turns g (.ofUnits s) active pending a tree count).Proceeds
        (Repeats empty a tree.stop count))
    (fun active pending a pos => Boundary s pos → AtomEager a →
      Entered g empty active pos (fun name => AtomLeads empty name a) →
      (attempt g (.ofUnits s) active pending a pos).Proceeds (Finds pos (AtomVanishes empty a)))
    (fun active pending a pos => Boundary s pos → AtomEager a →
      Entered g empty active pos (fun name => AtomLeads empty name a) →
      (once g (.ofUnits s) active pending a pos).Proceeds
        (Finds pos (a.mark.inverted = false → AtomVanishes empty a)))
    (fun active pending alternatives pos fallback => Boundary s pos → AnyEager alternatives →
      Entered g empty active pos (fun name => AnyLeads empty name alternatives) →
      (choose g (.ofUnits s) active pending alternatives pos fallback).Proceeds fun found =>
        ∀ t, found = some t → t.stop = pos → AnyVanishes empty alternatives ∨ fallback = some t)
    (fun active pending pos => True)
    ?stepsNil ?stepsCons ?repeatedLookahead ?repeatedTurns ?turnsGo ?turnsStop ?attempt ?onceLeaf
    ?onceUndefined ?onceUnit ?onceActive ?onceEnter ?onceEnd ?onceGroup ?chooseNil ?chooseCons
    ?continuesNil ?continuesDone ?continuesPending).1
  case stepsNil =>
    intro active pending tree hb hp heager' hentered
    exact steps_nil_proceeds tree
  case stepsCons =>
    intro active pending tree a atoms hstep hrest hb hp heager' hentered
    obtain ⟨ha, hatoms⟩ := heager'
    have hatom : Entered g empty active tree.stop fun name => AtomLeads empty name a := by
      refine hentered.mono fun name hleads => ?_
      rw [ChainLeads]
      exact .inl hleads
    refine steps_cons_proceeds (hstep hb ha hatom) (fun step hsettled hm hpasses => ?_) hb hp
    have hleft := hentered.rest hpasses hm
    exact hrest step hsettled.wellFormed.boundary_stop hp hatoms hleft
  case repeatedLookahead =>
    intro active pending a pos hl hattempt hb heager' hentered
    exact repeated_proceeds (fun _ => hattempt hb heager' hentered) (fun hn => absurd hl hn) hb
  case repeatedTurns =>
    intro active pending a pos hl hturns hb heager' hentered
    exact repeated_proceeds (fun hn => absurd hn hl) (fun _ => hturns hb rfl heager' hentered) hb
  case turnsGo =>
    intro active pending a tree count hgo hcontinues hattempt hnext hb hp heager' hentered
    refine turns_go_proceeds hgo (hattempt hb heager' hentered) ?_ heager' hb hp
    intro turn hlt hsettled
    have hturn := hnext turn hlt
    rw [SyntaxTree.stop_merge, SyntaxTree.state_merge] at hturn
    exact hturn hsettled.wellFormed.boundary_stop hp heager' (hentered.later hlt)
  case turnsStop =>
    intro active pending a tree count hstop hb hp heager' hentered
    exact turns_stop_proceeds hstop hp
  case attempt =>
    intro active pending a pos honce hb heager' hentered
    exact attempt_proceeds (honce hb heager' hentered)
  case onceLeaf =>
    intro active pending pos m l hb heager' hentered
    exact once_leaf_proceeds m l hb
  case onceUndefined =>
    intro active pending pos m name hr hb heager' hentered
    rw [once_undefined g _ active pending m pos hr]
    exact .pure .none
  case onceUnit =>
    intro active pending pos m name r hr hit hu hb heager' hentered
    exact once_unit_proceeds hr hu hb
  case onceActive =>
    intro active pending pos m name r hr hu hp ha hb heager' hentered
    exact absurd ha (hentered.not_mem hg hlayered hr)
  case onceEnter =>
    intro active pending pos m name r hr hu hp ha hsteps hb heager' hentered
    refine once_rule_proceeds hr hu ha (fun _ => hsteps hb rfl ?_ ?_) hlayered
    · exact chainEager_head (heager r (Rule.findIn?_eq_some hr).1)
    · refine (Entered.enter hentered hr).mono fun name' hleads => ?_
      rwa [chainLeads_head] at hleads
  case onceEnd =>
    intro active pending pos m name r hr hu hp hb heager' hentered
    exact once_rule_proceeds hr hu (hentered.not_mem hg hlayered hr) (fun hlt => absurd hlt hp)
      hlayered
  case onceGroup =>
    intro active pending pos mark lookahead value alternatives hchoose hb heager' hentered
    rw [once]
    refine (hchoose hb heager'.2 hentered).mono fun found hfound t ht heq hm => ?_
    rw [AtomVanishes]
    rcases hfound t ht heq with hvanishes | hnone
    · exact .inr ⟨hm, hvanishes⟩
    · cases hnone
  case chooseNil =>
    intro active pending pos fallback hb heager' hentered
    rw [choose]
    exact .pure fun t ht _ => .inr ht
  case chooseCons =>
    intro active pending pos fallback atoms alternatives head hsteps hnext hb heager' hentered
    obtain ⟨hatoms, halternatives⟩ := heager'
    refine choose_cons_proceeds (hsteps hb rfl hatoms ?_) (fun tree => ?_) hb
    · refine hentered.mono fun name hleads => ?_
      rw [AnyLeads]
      exact .inl hleads
    · have hrest := hnext tree hb halternatives ?_
      · simpa only [dite_eq_ite] using hrest
      · refine hentered.mono fun name hleads => ?_
        rw [AnyLeads]
        exact .inr hleads
  case continuesNil => exact fun _ _ => trivial
  case continuesDone => exact fun _ _ _ _ => trivial
  case continuesPending => exact fun _ _ _ _ _ _ _ => trivial

theorem runRule_noReentry (hg : g.Built) (hlayered : Layered g.rules empty)
    (heager : ∀ r ∈ g.rules, AnyEager r.alternatives) {r : Rule} (hr : r ∈ g.rules) (s : List α)
    {pos : Nat} (hb : pos < (Input.ofUnits s).size → Boundary s pos) :
    (runRule g (.ofUnits s) r pos).NoReentry := by
  rw [runRule, run]
  split
  · next hp =>
    have hentered : Entered g empty [(r.handle, pos)] pos
        fun name => ChainLeads empty name [r.head] := by
      intro place hplace
      rw [List.mem_singleton.1 hplace]
      refine ⟨r, hr, rfl, Nat.le_refl pos, fun _ => ?_⟩
      refine (ledBy_self (hg.find?_id hr)).mono fun name hleads => ?_
      rwa [chainLeads_head] at hleads
    have hsteps := matching_proceeds hg hlayered heager s [(r.handle, pos)] []
      (.begin (some r.handle) pos) [r.head] (hb hp) rfl (chainEager_head (heager r hr)) hentered
    exact hsteps.1
  · intro n hn
    cases hn

/-- **Without reported left recursion no guard is needed.** In a grammar for which no left recursion
was reported and in which no repetition is lazy, matching a rule from any position never tries to
enter a rule where it is active, and yields the same tree with and without the guard. -/
theorem runRule_unguarded (hg : g.Built)
    (hreport : ∀ d ∈ g.diagnostics, ∀ path, d.problem ≠ .leftRecursion path)
    (heager : ∀ n ∈ g.nodes, n.quantifier.lazy = false) {r : Rule} (hr : r ∈ g.rules) (s : List α)
    {pos : Nat} (hb : pos < (Input.ofUnits s).size → Boundary s pos) :
    (runRule g (.ofUnits s) r pos).NoReentry ∧
      ∀ guarded, Stacked.Yields
        (fun depth => Stacked.matchNode guarded g (.ofUnits s) depth r.handle pos) [] []
        (runRule g (.ofUnits s) r pos).value := by
  have hwarnings : LeftRecursion.warnings g.rules = [] := by
    refine List.eq_nil_iff_forall_not_mem.2 fun d hd => ?_
    obtain ⟨path, hpath⟩ := problem_of_mem_warnings hd
    exact hreport d (hg.mem_diagnostics hd) path hpath
  obtain ⟨empty, hlayered⟩ := layered_of_warnings hg.nodup_ids hwarnings
  have hno := runRule_noReentry hg hlayered (fun q hq => hg.anyEager heager hq) hr s hb
  refine ⟨hno, fun guarded => ?_⟩
  unfold Stacked.matchNode
  rw [hg.chain?_handle hr]
  exact Stacked.enterChain_simulates hb (.inr hno)

/-- With a rule that calls itself behind what may be left out. -/
theorem runRule_unguarded_behind_optional :
    let b := (({} : Builder).compile { id := "A", body := "B? 'a' A*" }).1
    let g := (b.compile { id := "B", body := "'b'" }).1.build.value
    (∀ d ∈ g.diagnostics, ∀ path, d.problem ≠ .leftRecursion path) ∧
      (∀ n ∈ g.nodes, n.quantifier.lazy = false) ∧
      ∃ r ∈ g.rules, r.id = "A" ∧ Boundary ['a', 'b', 'a'] 1 ∧
        (runRule g (.ofUnits ['a', 'b', 'a']) r 1).NoReentry ∧
        ∀ guarded, Stacked.Yields
          (fun depth => Stacked.matchNode guarded g (.ofUnits ['a', 'b', 'a']) depth r.handle 1)
          [] [] (runRule g (.ofUnits ['a', 'b', 'a']) r 1).value := by
  intro b g
  have hg : g.Built := .of_reachable (.compile _ (.compile _ (.new {})))
  have hdiagnostics : g.diagnostics = [] := by
    unfold g b
    cbv
  have hlazy : (g.nodes.all fun n => !n.quantifier.lazy) = true := by
    unfold g b
    cbv
  have hfound : (g.find? "A").isSome = true := by
    unfold g b
    cbv
  have hreport : ∀ d ∈ g.diagnostics, ∀ path, d.problem ≠ .leftRecursion path := by
    rw [hdiagnostics]
    exact fun d hd => absurd hd List.not_mem_nil
  have heager : ∀ n ∈ g.nodes, n.quantifier.lazy = false := by
    intro n hn
    simpa using List.all_eq_true.1 hlazy n hn
  have hb : Boundary ['a', 'b', 'a'] 1 := ⟨['a'], ['b', 'a'], rfl, rfl⟩
  obtain ⟨r, hr⟩ := Option.isSome_iff_exists.1 hfound
  obtain ⟨hmem, hid⟩ := Rule.findIn?_eq_some hr
  exact ⟨hreport, heager, r, hmem, hid, hb, runRule_unguarded hg hreport heager hmem _ fun _ => hb⟩

end Matching

end Lexigram
