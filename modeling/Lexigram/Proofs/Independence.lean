import Lexigram.Proofs.Calls

/-!
# What a match does not depend on

Two things that a call is given are looked at in one place each. The active rules are looked at
where a rule is to be entered, and what is pending where a lazy repetition asks whether it matches.
Where that makes no difference, they do not matter.

**Trying to enter** (`Call.Tries`). A call is about to enter a rule at a position, unless it is
active there. **Replacing** (`Replaces`). Of what is pending, the outermost part is replaced by
another. **Freedom** (`Free`). A call does not try to enter certain places, and if it asks
whether what is pending matches, the answer is the same after replacing.

Main result: `matching_independent`. If every call that a call leads to is free, the call has the
same value without these places among the active ones and after replacing what is pending.
-/

namespace Lexigram.Matching

variable {α : Type}

/-! ## Calls that look -/

variable [Readable α]

/-- A call is to enter a rule at a position. -/
def Call.Tries (g : Grammar) (place : Nat × Nat) (c : Call α) : Prop :=
  ∃ active pending m name pos r, c = .once active pending (.reference m name) pos ∧
    g.find? name = some r ∧ Readable.standsFor? (α := α) r = none ∧ place = (r.handle, pos)

/-- A call does not try to enter some places, and what is pending is asked with the same answer if
the outermost part of it is replaced. -/
structure Free (g : Grammar) (input : Input α) (places : List (Nat × Nat))
    (outer outer' : List (List Atom)) (c : Call α) : Prop where
  tries : ∀ place ∈ places, ¬c.Tries g place
  asks : ∀ active inner pos, c = .continues (active ++ places) (inner ++ outer) pos →
    (continues g input active (inner ++ outer') pos).value =
      (continues g input active (inner ++ outer) pos).value

/-- What is pending is the same but that its outermost part may be replaced. -/
def Replaces (outer outer' pending pending' : List (List Atom)) : Prop :=
  pending' = pending ∨ ∃ inner, pending = inner ++ outer ∧ pending' = inner ++ outer'

section Replacing

variable {outer outer' pending pending' : List (List Atom)}

theorem Replaces.cons (h : Replaces outer outer' pending pending') (atoms : List Atom) :
    Replaces outer outer' (atoms :: pending) (atoms :: pending') := by
  rcases h with rfl | ⟨inner, rfl, rfl⟩
  · exact .inl rfl
  · exact .inr ⟨atoms :: inner, rfl, rfl⟩

theorem Free.answer {g : Grammar} {input : Input α} {places active : List (Nat × Nat)}
    {pos : Nat}
    (h : Free g input places outer outer' (.continues (active ++ places) pending pos))
    (hreplaces : Replaces outer outer' pending pending') :
    (continues g input active pending' pos).value =
      (continues g input active pending pos).value := by
  rcases hreplaces with rfl | ⟨inner, rfl, rfl⟩
  · rfl
  · exact h.asks active inner pos rfl

end Replacing

/-! ## One lemma for each function -/

section Functions

variable {g : Grammar} {input : Input α} {active active' : List (Nat × Nat)}
variable {pending pending' : List (List Atom)} {a : Atom} {atoms : List Atom}
variable {tree : SyntaxTree α} {pos count : Nat}

theorem steps_cons_congr
    (hfirst : (repeated g input active' (atoms :: pending') a tree.stop).value =
      (repeated g input active (atoms :: pending) a tree.stop).value)
    (hrest : ∀ step, (repeated g input active (atoms :: pending) a tree.stop).value = step →
      step.matched = true → ¬(atoms.isEmpty && tree.children.isEmpty) = true →
      (steps g input active' pending' (tree.absorb step) atoms).value =
        (steps g input active pending (tree.absorb step) atoms).value) :
    (steps g input active' pending' tree (a :: atoms)).value =
      (steps g input active pending tree (a :: atoms)).value := by
  rw [steps_cons_value, steps_cons_value, hfirst]
  dsimp only
  split
  · rfl
  · next hm =>
    rw [Bool.not_eq_true', Bool.not_eq_false] at hm
    split
    · rfl
    · next hone => exact hrest _ rfl hm hone

theorem repeated_congr
    (hattempt : a.isLookahead = true → (attempt g input active' pending' a pos).value =
      (attempt g input active pending a pos).value)
    (hturns : ¬a.isLookahead = true →
      (turns g input active' pending' a (.begin (some a.handle) pos) 0).value =
        (turns g input active pending a (.begin (some a.handle) pos) 0).value) :
    (repeated g input active' pending' a pos).value =
      (repeated g input active pending a pos).value := by
  by_cases hl : a.isLookahead = true
  · rw [repeated_lookahead_value _ _ _ _ _ _ hl, repeated_lookahead_value _ _ _ _ _ _ hl,
      hattempt hl]
  · rw [repeated_turns_value _ _ _ _ _ _ hl, repeated_turns_value _ _ _ _ _ _ hl, hturns hl]

theorem asks_congr
    (hcontinues : (a.mark.quantifier.lazy && accepts input a count pos) = true →
      (continues g input active' pending' pos).value =
        (continues g input active pending pos).value) :
    (asks g input active' pending' a count pos).value =
      (asks g input active pending a count pos).value := by
  rw [asks, asks]
  split
  · next hlazy => exact hcontinues hlazy
  · rfl

theorem turns_go_congr (hgo : count < a.mark.quantifier.max ∧ tree.stop < input.size)
    (hasks : (asks g input active' pending' a count tree.stop).value =
      (asks g input active pending a count tree.stop).value)
    (hattempt : (asks g input active pending a count tree.stop).value = false →
      (attempt g input active' pending' a tree.stop).value =
        (attempt g input active pending a tree.stop).value)
    (hnext : ∀ turn, (asks g input active pending a count tree.stop).value = false →
      (attempt g input active pending a tree.stop).value = some turn → tree.stop < turn.stop →
      (turns g input active' pending' a (tree.merge turn) (count + 1)).value =
        (turns g input active pending a (tree.merge turn) (count + 1)).value) :
    (turns g input active' pending' a tree count).value =
      (turns g input active pending a tree count).value := by
  rw [turns_go_value _ _ _ _ _ _ _ hgo, turns_go_value _ _ _ _ _ _ _ hgo, hasks]
  cases hanswer : (asks g input active pending a count tree.stop).value with
  | true => rfl
  | false =>
    rw [hattempt hanswer, if_neg Bool.false_ne_true, if_neg Bool.false_ne_true]
    cases hturn : (attempt g input active pending a tree.stop).value with
    | none => rfl
    | some turn =>
      dsimp only
      split
      · next hlt => exact hnext turn hanswer hturn hlt
      · rfl

theorem once_rule_congr {m : Mark} {name : String} {r : Rule} (hr : g.find? name = some r)
    (hu : Readable.standsFor? (α := α) r = none)
    (hactive : (r.handle, pos) ∈ active' ↔ (r.handle, pos) ∈ active)
    (hhead : pos < input.size → (r.handle, pos) ∉ active →
      (steps g input ((r.handle, pos) :: active') pending' (.begin (some r.handle) pos)
        [r.head]).value =
      (steps g input ((r.handle, pos) :: active) pending (.begin (some r.handle) pos)
        [r.head]).value) :
    (once g input active' pending' (.reference m name) pos).value =
      (once g input active pending (.reference m name) pos).value := by
  rw [once_rule_value _ _ _ _ _ m hr hu, once_rule_value _ _ _ _ _ m hr hu]
  simp only [hactive]
  split
  · next h => rw [hhead h.1 h.2]
  · rfl

theorem choose_cons_congr {alternatives : List (List Atom)} {fallback : Option (SyntaxTree α)}
    (hfirst : (steps g input active' pending' (.begin (atoms.head?.map Atom.handle) pos)
        atoms).value =
      (steps g input active pending (.begin (atoms.head?.map Atom.handle) pos) atoms).value)
    (hnext : ∀ first : SyntaxTree α,
      (steps g input active pending (.begin (atoms.head?.map Atom.handle) pos) atoms).value =
        first → ¬first.isAbsolute = true →
      (choose g input active' pending' alternatives pos
        (fallback.or (if first.matched then some first else none))).value =
      (choose g input active pending alternatives pos
        (fallback.or (if first.matched then some first else none))).value) :
    (choose g input active' pending' (atoms :: alternatives) pos fallback).value =
      (choose g input active pending (atoms :: alternatives) pos fallback).value := by
  rw [choose_cons_value, choose_cons_value, hfirst]
  dsimp only
  split
  · rfl
  · next ha => exact hnext _ rfl ha

theorem continues_pending_congr {outer : List (List Atom)}
    (hpart : (steps g input active' outer (.begin (some a.handle) pos) (a :: atoms)).value =
      (steps g input active outer (.begin (some a.handle) pos) (a :: atoms)).value)
    (hparts : ∀ part,
      (steps g input active outer (.begin (some a.handle) pos) (a :: atoms)).value = part →
      part.matched = true →
      (continues g input active' outer part.stop).value =
        (continues g input active outer part.stop).value) :
    (continues g input active' ((a :: atoms) :: outer) pos).value =
      (continues g input active ((a :: atoms) :: outer) pos).value := by
  rw [continues_pending_value, continues_pending_value, hpart]
  cases hm : (steps g input active outer (.begin (some a.handle) pos)
    (a :: atoms)).value.matched with
  | false => simp only [hm, Bool.false_and]
  | true => simp only [hm, Bool.true_and, hparts _ rfl hm]

end Functions

/-! ## All calls -/

/-- Places at which no rule is tried do not decide whether the rule that is tried is active. -/
theorem mem_iff_of_tries {g : Grammar} {input : Input α}
    {places active active' : List (Nat × Nat)} {outer outer' : List (List Atom)}
    {pending : List (List Atom)} {m : Mark} {name : String} {r : Rule} {pos : Nat}
    (hactive : active = active' ++ places)
    (hfree : Free g input places outer outer' (.once active pending (.reference m name) pos))
    (hr : g.find? name = some r) (hu : Readable.standsFor? (α := α) r = none) :
    (r.handle, pos) ∈ active' ↔ (r.handle, pos) ∈ active := by
  rw [hactive, List.mem_append]
  refine ⟨.inl, fun h => h.resolve_right fun hplace => ?_⟩
  exact hfree.tries _ hplace ⟨active, pending, m, name, pos, r, rfl, hr, hu, rfl⟩

section Calls

variable (g : Grammar) (input : Input α) (places : List (Nat × Nat))
variable (outer outer' : List (List Atom))

/-- Every call that a call leads to is free. -/
abbrev Independent (c : Call α) : Prop :=
  Throughout g input (Free g input places outer outer') c

/-- **Calls do not depend on what they do not look at.** Places at which no rule is tried may be
left out of the active ones, and what is pending may be replaced where the answers are the same. -/
theorem matching_independent :
    (∀ active pending tree atoms,
      Independent g input places outer outer' (.steps active pending tree atoms) →
      ∀ active' pending', active = active' ++ places → Replaces outer outer' pending pending' →
        (steps g input active' pending' tree atoms).value =
          (steps g input active pending tree atoms).value) ∧
    (∀ active pending a pos,
      Independent g input places outer outer' (.attempt active pending a pos) →
      ∀ active' pending', active = active' ++ places → Replaces outer outer' pending pending' →
        (attempt g input active' pending' a pos).value =
          (attempt g input active pending a pos).value) ∧
    (∀ active pending pos, Independent g input places outer outer' (.continues active pending pos) →
      ∀ active', active = active' ++ places →
        (continues g input active' pending pos).value =
          (continues g input active pending pos).value) := by
  refine (fun h => ⟨h.1, h.2.2.2.1, h.2.2.2.2.2.2⟩) (steps.mutual_induct g input
    (fun active pending tree atoms =>
      Independent g input places outer outer' (.steps active pending tree atoms) →
      ∀ active' pending', active = active' ++ places → Replaces outer outer' pending pending' →
        (steps g input active' pending' tree atoms).value =
          (steps g input active pending tree atoms).value)
    (fun active pending a pos =>
      Independent g input places outer outer' (.repeated active pending a pos) →
      ∀ active' pending', active = active' ++ places → Replaces outer outer' pending pending' →
        (repeated g input active' pending' a pos).value =
          (repeated g input active pending a pos).value)
    (fun active pending a tree count =>
      Independent g input places outer outer' (.turns active pending a tree count) →
      ∀ active' pending', active = active' ++ places → Replaces outer outer' pending pending' →
        (turns g input active' pending' a tree count).value =
          (turns g input active pending a tree count).value)
    (fun active pending a pos =>
      Independent g input places outer outer' (.attempt active pending a pos) →
      ∀ active' pending', active = active' ++ places → Replaces outer outer' pending pending' →
        (attempt g input active' pending' a pos).value =
          (attempt g input active pending a pos).value)
    (fun active pending a pos =>
      Independent g input places outer outer' (.once active pending a pos) →
      ∀ active' pending', active = active' ++ places → Replaces outer outer' pending pending' →
        (once g input active' pending' a pos).value = (once g input active pending a pos).value)
    (fun active pending alternatives pos fallback =>
      Independent g input places outer outer' (.choose active pending alternatives pos fallback) →
      ∀ active' pending', active = active' ++ places → Replaces outer outer' pending pending' →
        (choose g input active' pending' alternatives pos fallback).value =
          (choose g input active pending alternatives pos fallback).value)
    (fun active pending pos =>
      Independent g input places outer outer' (.continues active pending pos) →
      ∀ active', active = active' ++ places →
        (continues g input active' pending pos).value =
          (continues g input active pending pos).value)
    ?stepsNil ?stepsCons ?repeatedLookahead ?repeatedTurns ?turnsGo ?turnsStop ?attempt ?onceLeaf
    ?onceUndefined ?onceUnit ?onceActive ?onceEnter ?onceEnd ?onceGroup ?chooseNil ?chooseCons
    ?continuesNil ?continuesDone ?continuesPending)
  case stepsNil =>
    intro active pending tree h active' pending' hactive hreplaces
    rw [steps_nil_value, steps_nil_value]
  case stepsCons =>
    intro active pending tree a atoms hfirst hrest h active' pending' hactive hreplaces
    refine steps_cons_congr (hfirst (h.made .first) _ _ hactive (hreplaces.cons atoms))
      fun step hvalue hm hone => ?_
    exact hrest step (h.made (.rest hvalue hm hone)) _ _ hactive hreplaces
  case repeatedLookahead =>
    intro active pending a pos hl hattempt h active' pending' hactive hreplaces
    exact repeated_congr (fun _ => hattempt (h.made (.look hl)) _ _ hactive hreplaces)
      fun hn => absurd hl hn
  case repeatedTurns =>
    intro active pending a pos hl hturns h active' pending' hactive hreplaces
    exact repeated_congr (fun hn => absurd hn hl)
      fun _ => hturns (h.made (.turn hl)) _ _ hactive hreplaces
  case turnsGo =>
    intro active pending a tree count hgo hcontinues hattempt hnext h active' pending'
      hactive hreplaces
    have hasks : (asks g input active' pending' a count tree.stop).value =
        (asks g input active pending a count tree.stop).value := by
      refine asks_congr fun hlazy => ?_
      have hmade := h.made (.ask hgo hlazy)
      have hfree := hmade.self
      rw [hactive] at hfree
      rw [hfree.answer hreplaces]
      exact hcontinues hmade _ hactive
    refine turns_go_congr hgo hasks
      (fun hanswer => hattempt (h.made (.try hgo hanswer)) _ _ hactive hreplaces)
      fun turn hanswer hturn hlt => ?_
    exact hnext turn hlt (h.made (.again hgo hanswer hturn hlt)) _ _ hactive hreplaces
  case turnsStop =>
    intro active pending a tree count hstop h active' pending' hactive hreplaces
    rw [turns_stop_value _ _ _ _ _ _ _ hstop, turns_stop_value _ _ _ _ _ _ _ hstop]
  case attempt =>
    intro active pending a pos honce h active' pending' hactive hreplaces
    rw [attempt_value, attempt_value, honce (h.made .once) _ _ hactive hreplaces]
  case onceLeaf =>
    intro active pending pos m l h active' pending' hactive hreplaces
    rw [once_leaf_value, once_leaf_value]
  case onceUndefined =>
    intro active pending pos m name hr h active' pending' hactive hreplaces
    rw [once_undefined_value _ _ _ _ _ _ hr, once_undefined_value _ _ _ _ _ _ hr]
  case onceUnit =>
    intro active pending pos m name r hr hit hu h active' pending' hactive hreplaces
    rw [once_unit_value _ _ _ _ _ _ hr hu, once_unit_value _ _ _ _ _ _ hr hu]
  case onceActive =>
    intro active pending pos m name r hr hu hp ha h active' pending' hactive hreplaces
    refine once_rule_congr hr hu ?_ fun _ hn => absurd ha hn
    exact mem_iff_of_tries hactive h.self hr hu
  case onceEnter =>
    intro active pending pos m name r hr hu hp ha hsteps h active' pending' hactive hreplaces
    refine once_rule_congr hr hu (mem_iff_of_tries hactive h.self hr hu) fun _ _ => ?_
    exact hsteps (h.made (.enter hr hu hp ha)) _ _ (by rw [hactive, List.cons_append]) hreplaces
  case onceEnd =>
    intro active pending pos m name r hr hu hp h active' pending' hactive hreplaces
    exact once_rule_congr hr hu (mem_iff_of_tries hactive h.self hr hu) fun hlt _ => absurd hlt hp
  case onceGroup =>
    intro active pending pos m lookahead value alternatives hchoose h active' pending'
      hactive hreplaces
    rw [once_group_value, once_group_value, hchoose (h.made .choose) _ _ hactive hreplaces]
  case chooseNil =>
    intro active pending pos fallback h active' pending' hactive hreplaces
    rw [choose_nil_value, choose_nil_value]
  case chooseCons =>
    intro active pending pos fallback atoms alternatives head hfirst hnext h active' pending'
      hactive hreplaces
    simp only [dite_eq_ite] at hnext
    refine choose_cons_congr (hfirst (h.made .alternative) _ _ hactive hreplaces)
      fun first hvalue ha => ?_
    exact hnext first (h.made (.alternatives hvalue ha)) _ _ hactive hreplaces
  case continuesNil =>
    intro active pos h active' hactive
    rw [continues_nil_value, continues_nil_value]
  case continuesDone =>
    intro active pos outer hnext h active' hactive
    rw [continues_done_value, continues_done_value, hnext (h.made .skip) _ hactive]
  case continuesPending =>
    intro active pos a atoms outer hpart hparts h active' hactive
    refine continues_pending_congr (hpart (h.made .part) _ _ hactive (.inl rfl))
      fun part hvalue hm => ?_
    exact hparts part (h.made (.parts hvalue hm)) _ hactive

end Calls

end Lexigram.Matching
