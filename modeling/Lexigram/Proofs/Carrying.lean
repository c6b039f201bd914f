import Lexigram.Proofs.Values

/-!
# Matching carries over

Matching looks at an input only through what patterns accept and what references stand for. Where
an input appears inside another one, at a distance and with units that differ in nothing that can be
looked at, a match in the one is a match in the other.

**Carried trees** (`SyntaxTree.carry`). All units of a tree are renamed, and all its positions are
moved to the right by the same distance.

**Inputs inside inputs** (`Input.Appears`). At a distance, what is left of the one is what is left
of the other, renamed, where the renaming `Keeps` what can be read from units.

**The simulation** (`Matching.matching_carry`). Each function of the matcher, from any active places
and whatever is pending, commutes with carrying. There is one lemma for each function and an
induction along the calls on the input that appears in the other.

Main result: `run_carry`.
-/

namespace Lexigram

/-! ## Carried trees -/

namespace SyntaxTree

variable {α β : Type}

mutual

/-- The tree with its units renamed, moved to the right. -/
def carry (f : α → β) (distance : Nat) : SyntaxTree α → SyntaxTree β
  | ⟨rule, start, stop, units, state, children⟩ =>
    ⟨rule, distance + start, distance + stop, units.map f, state, carryAll f distance children⟩

/-- Some trees with their units renamed, moved to the right. -/
def carryAll (f : α → β) (distance : Nat) : List (SyntaxTree α) → List (SyntaxTree β)
  | [] => []
  | t :: ts => carry f distance t :: carryAll f distance ts

end

variable (f : α → β) (n : Nat) (t c : SyntaxTree α)

theorem carryAll_eq_map (ts : List (SyntaxTree α)) : carryAll f n ts = ts.map (carry f n) := by
  induction ts with
  | nil => rfl
  | cons t ts ih => rw [carryAll, ih, List.map_cons]

theorem carry_eq : t.carry f n =
    { rule := t.rule, start := n + t.start, stop := n + t.stop, units := t.units.map f,
      state := t.state, children := t.children.map (carry f n) } := by
  obtain ⟨rule, start, stop, units, state, children⟩ := t
  rw [carry, carryAll_eq_map]

@[simp] theorem start_carry : (t.carry f n).start = n + t.start := by rw [carry_eq]

@[simp] theorem stop_carry : (t.carry f n).stop = n + t.stop := by rw [carry_eq]

@[simp] theorem units_carry : (t.carry f n).units = t.units.map f := by rw [carry_eq]

@[simp] theorem state_carry : (t.carry f n).state = t.state := by rw [carry_eq]

@[simp] theorem children_carry : (t.carry f n).children = t.children.map (carry f n) := by
  rw [carry_eq]

@[simp] theorem matched_carry : (t.carry f n).matched = t.matched := by
  rw [matched, matched, state_carry]

@[simp] theorem isEmpty_carry : (t.carry f n).isEmpty = t.isEmpty := by
  rw [isEmpty, isEmpty, stop_carry, start_carry, Bool.eq_iff_iff, beq_iff_eq, beq_iff_eq]
  omega

@[simp] theorem isAbsolute_carry : (t.carry f n).isAbsolute = t.isAbsolute := by
  rw [isAbsolute, isAbsolute, matched_carry, isEmpty_carry]

@[simp] theorem isEmpty_children_carry :
    (t.carry f n).children.isEmpty = t.children.isEmpty := by
  rw [children_carry, List.isEmpty_map]

theorem carry_begin (rule : Option Nat) (start : Nat) :
    (begin rule start : SyntaxTree α).carry f n = begin rule (n + start) := by
  rw [carry_eq]
  rfl

theorem carry_deferred (rule : Option Nat) (start : Nat) :
    (deferred rule start : SyntaxTree α).carry f n = deferred rule (n + start) := by
  rw [carry_eq]
  rfl

theorem carry_settle (state : MatchState) :
    (t.settle state).carry f n = (t.carry f n).settle state := by
  unfold settle
  rw [state_carry]
  split
  · rw [carry_eq, carry_eq]
  · rfl

theorem carry_consume (units : List α) (stop : Nat) :
    (t.consume units stop).carry f n = (t.carry f n).consume (units.map f) (n + stop) := by
  rw [carry_eq, carry_eq]
  simp only [consume, List.map_append]

theorem carry_absorb : (t.absorb c).carry f n = (t.carry f n).absorb (c.carry f n) := by
  rw [carry_eq, carry_eq f n t]
  simp only [absorb, units_carry, stop_carry, List.map_append, List.map_singleton]

theorem carry_merge : (t.merge c).carry f n = (t.carry f n).merge (c.carry f n) := by
  unfold merge
  rw [isEmpty_children_carry, units_carry, stop_carry]
  split
  · exact carry_consume f n t c.units c.stop
  · exact carry_absorb f n t c

end SyntaxTree

/-! ## Inputs inside inputs -/

/-- Renaming units changes nothing that can be read from them. -/
structure Readable.Keeps {α β : Type} [Readable α] [Readable β] (f : α → β) : Prop where
  width : ∀ a, Readable.width (f a) = Readable.width a
  test : ∀ p (s : List α), Readable.test p (s.map f) = Readable.test p s
  standsFor? : ∀ r, (Readable.standsFor? r : Option (α → Bool)) =
    (Readable.standsFor? r).map fun hit => hit ∘ f
  endsAnywhere : Readable.endsAnywhere β = Readable.endsAnywhere α

namespace Input

variable {α β : Type}

/-- At a distance, an input shows what another one shows, with its units renamed. -/
structure Appears (f : α → β) (n : Nat) (input : Input α) (image : Input β) : Prop where
  size : image.size = n + input.size
  rest? : ∀ pos, image.rest? (n + pos) = (input.rest? pos).map (List.map f)

section Reading

variable {f : α → β} {n : Nat} {input : Input α} {image : Input β}

theorem Appears.lt_size_iff (h : input.Appears f n image) (pos : Nat) :
    n + pos < image.size ↔ pos < input.size := by
  rw [h.size, Nat.add_lt_add_iff_left]

theorem Appears.read (h : input.Appears f n image) (pos : Nat) :
    (image.read (n + pos)).value = (input.read pos).value.map f := by
  rw [Input.read, Input.read, h.rest?]
  cases input.rest? pos <;> rfl

variable [Readable α] [Readable β]

theorem takeWidth_map (hf : Readable.Keeps f) (w : Nat) (s : List α) :
    takeWidth w (s.map f) = (takeWidth w s).map f := by
  induction s generalizing w with
  | nil => cases w <;> rfl
  | cons a s ih =>
    cases w with
    | zero => rfl
    | succ w => rw [List.map_cons, takeWidth, takeWidth, hf.width, ih, List.map_cons]

theorem Appears.advance (h : input.Appears f n image) (hf : Readable.Keeps f) (pos : Nat) :
    (image.advance (n + pos)).value = n + (input.advance pos).value := by
  rw [Input.advance, Input.advance, Noted.value_bind, Noted.value_bind, h.read]
  cases (input.read pos).value with
  | nil => rfl
  | cons a s =>
    show n + pos + Readable.width (f a) = n + (pos + Readable.width a)
    rw [hf.width, Nat.add_assoc]

theorem Appears.slice (h : input.Appears f n image) (hf : Readable.Keeps f) (pos stop : Nat) :
    (image.slice (n + pos) (n + stop)).value = (input.slice pos stop).value.map f := by
  show takeWidth (n + stop - (n + pos)) (image.read (n + pos)).value = _
  rw [h.read, Nat.add_sub_add_left, takeWidth_map hf]
  rfl

theorem Appears.test (h : input.Appears f n image) (hf : Readable.Keeps f) (p : Pattern)
    (pos : Nat) :
    (image.test p (n + pos)).value = (input.test p pos).value.map (n + ·) := by
  rw [Input.test, Input.test, Noted.value_bind, Noted.value_bind, h.read, Noted.value_pure,
    Noted.value_pure, hf.test, Option.map_map]
  congr 1
  funext w
  exact Nat.add_assoc _ _ _

theorem Appears.endsAt (h : input.Appears f n image) (hf : Readable.Keeps f) (pos : Nat) :
    image.endsAt (n + pos) = input.endsAt pos := by
  rw [Input.endsAt, Input.endsAt, hf.endsAnywhere, h.size]
  congr 1
  rw [Bool.eq_iff_iff, beq_iff_eq, beq_iff_eq, Nat.add_left_cancel_iff]

end Reading

end Input

namespace Matching

variable {α β : Type}

/-- Active places moved to the right. -/
def shiftPlaces (distance : Nat) (active : List (Nat × Nat)) : List (Nat × Nat) :=
  active.map fun place => (place.1, distance + place.2)

theorem mem_shiftPlaces {n handle pos : Nat} {active : List (Nat × Nat)} :
    (handle, n + pos) ∈ shiftPlaces n active ↔ (handle, pos) ∈ active := by
  rw [shiftPlaces, List.mem_map]
  constructor
  · rintro ⟨⟨handle', pos'⟩, hmem, heq⟩
    obtain ⟨rfl, hpos⟩ := Prod.mk.inj heq
    rwa [← Nat.add_left_cancel hpos]
  · intro hmem
    exact ⟨(handle, pos), hmem, rfl⟩

theorem shiftPlaces_cons (n handle pos : Nat) (active : List (Nat × Nat)) :
    shiftPlaces n ((handle, pos) :: active) = (handle, n + pos) :: shiftPlaces n active := rfl

variable [Readable α] [Readable β]
variable {f : α → β} {n : Nat} {input : Input α} {image : Input β}

section Leaves

variable (hf : Readable.Keeps f) (h : input.Appears f n image) (a : Atom) (pos : Nat)

include hf h

theorem accepts_carry (count : Nat) :
    accepts image a count (n + pos) = accepts input a count pos := by
  rw [accepts, accepts, h.endsAt hf]

theorem leaf_carry (stop : Nat) :
    (leaf image a (n + pos) (n + stop)).value = (leaf input a pos stop).value.carry f n := by
  rw [leaf, leaf, Noted.value_bind, Noted.value_bind, settle_value, settle_value, h.slice hf,
    SyntaxTree.carry_settle, SyntaxTree.carry_consume, SyntaxTree.carry_begin]

theorem some_leaf_carry (stop : Nat) :
    (some <$> leaf image a (n + pos) (n + stop)).value =
      (some <$> leaf input a pos stop).value.map (SyntaxTree.carry f n) :=
  congrArg some (leaf_carry hf h a pos stop)

theorem deny_carry (denied : Option (SyntaxTree α)) :
    (deny image a (n + pos) (denied.map (SyntaxTree.carry f n))).value =
      (deny input a pos denied).value.map (SyntaxTree.carry f n) := by
  have hsome : (denied.map (SyntaxTree.carry f n)).isSome = denied.isSome := by
    rw [Option.isSome_map]
  have hany : ((denied.map (SyntaxTree.carry f n)).any fun t => !t.isEmpty) =
      denied.any fun t => !t.isEmpty := by
    cases denied with
    | none => rfl
    | some t => exact congrArg (!·) (SyntaxTree.isEmpty_carry f n t)
  unfold deny
  rw [hsome, hany]
  split
  · split
    · rfl
    · exact some_leaf_carry hf h a pos pos
  · split
    · rfl
    · rw [Noted.value_bind, Noted.value_bind, h.advance hf]
      by_cases hlt : pos < (input.advance pos).value
      · rw [if_pos hlt, if_pos (Nat.add_lt_add_left hlt _)]
        exact some_leaf_carry hf h a pos _
      · rw [if_neg hlt, if_neg (by omega)]
        rfl

end Leaves

/-! ## One lemma for each function -/

section Functions

variable {g : Grammar} {active : List (Nat × Nat)} {pending : List (List Atom)} {a : Atom}
variable {pos : Nat} (hf : Readable.Keeps f) (h : input.Appears f n image)

theorem steps_nil_carry (tree : SyntaxTree α) :
    (steps g image (shiftPlaces n active) pending (tree.carry f n) []).value =
      (steps g input active pending tree []).value.carry f n := by
  rw [steps_nil_value, steps_nil_value, SyntaxTree.carry_settle]

theorem steps_cons_carry {tree : SyntaxTree α} {atoms : List Atom}
    (hstep : (repeated g image (shiftPlaces n active) (atoms :: pending) a (n + tree.stop)).value =
      (repeated g input active (atoms :: pending) a tree.stop).value.carry f n)
    (hrest : ∀ step : SyntaxTree α,
      (steps g image (shiftPlaces n active) pending ((tree.absorb step).carry f n) atoms).value =
      (steps g input active pending (tree.absorb step) atoms).value.carry f n) :
    (steps g image (shiftPlaces n active) pending (tree.carry f n) (a :: atoms)).value =
      (steps g input active pending tree (a :: atoms)).value.carry f n := by
  rw [steps_cons_value, steps_cons_value, SyntaxTree.stop_carry, hstep]
  generalize (repeated g input active (atoms :: pending) a tree.stop).value = step
  dsimp only
  rw [SyntaxTree.matched_carry, SyntaxTree.isEmpty_children_carry]
  split
  · rw [SyntaxTree.carry_settle]
  · split
    · rfl
    · rw [← SyntaxTree.carry_absorb]
      exact hrest step

include hf h

theorem repeated_carry
    (hattempt : a.isLookahead = true →
      (attempt g image (shiftPlaces n active) pending a (n + pos)).value =
      (attempt g input active pending a pos).value.map (SyntaxTree.carry f n))
    (hturns : ¬a.isLookahead = true →
      (turns g image (shiftPlaces n active) pending a
        ((SyntaxTree.begin (some a.handle) pos).carry f n) 0).value =
      (turns g input active pending a (.begin (some a.handle) pos) 0).value.map
        (SyntaxTree.carry f n) id) :
    (repeated g image (shiftPlaces n active) pending a (n + pos)).value =
      (repeated g input active pending a pos).value.carry f n := by
  by_cases hl : a.isLookahead = true
  · rw [repeated_lookahead_value g _ _ pending a _ hl,
      repeated_lookahead_value g _ _ pending a _ hl, hattempt hl]
    cases (attempt g input active pending a pos).value with
    | some tree => rfl
    | none =>
      simp only [Option.map_none, Option.getD_none]
      split
      · exact leaf_carry hf h a pos pos
      · rw [SyntaxTree.carry_deferred]
  · replace hturns := hturns hl
    rw [SyntaxTree.carry_begin] at hturns
    rw [repeated_turns_value g _ _ pending a _ hl, repeated_turns_value g _ _ pending a _ hl,
      hturns]
    obtain ⟨tree, count⟩ := (turns g input active pending a (.begin (some a.handle) pos) 0).value
    simp only [Prod.map_apply, id, SyntaxTree.stop_carry, accepts_carry hf h,
      SyntaxTree.carry_settle]

theorem asks_carry {count : Nat}
    (hcontinues : (continues g image (shiftPlaces n active) pending (n + pos)).value =
      (continues g input active pending pos).value) :
    (asks g image (shiftPlaces n active) pending a count (n + pos)).value =
      (asks g input active pending a count pos).value := by
  rw [asks, asks, accepts_carry hf h]
  split
  · exact hcontinues
  · rfl

omit hf in
theorem turns_stop_carry {tree : SyntaxTree α} {count : Nat}
    (hstop : ¬(count < a.mark.quantifier.max ∧ tree.stop < input.size)) :
    (turns g image (shiftPlaces n active) pending a (tree.carry f n) count).value =
      (turns g input active pending a tree count).value.map (SyntaxTree.carry f n) id := by
  have hstop' : ¬(count < a.mark.quantifier.max ∧ (tree.carry f n).stop < image.size) := by
    rwa [SyntaxTree.stop_carry, h.lt_size_iff]
  rw [turns_stop_value g _ _ _ _ _ _ hstop, turns_stop_value g _ _ _ _ _ _ hstop']
  rfl

theorem turns_go_carry {tree : SyntaxTree α} {count : Nat}
    (hgo : count < a.mark.quantifier.max ∧ tree.stop < input.size)
    (hcontinues : (continues g image (shiftPlaces n active) pending (n + tree.stop)).value =
      (continues g input active pending tree.stop).value)
    (hattempt : (attempt g image (shiftPlaces n active) pending a (n + tree.stop)).value =
      (attempt g input active pending a tree.stop).value.map (SyntaxTree.carry f n))
    (hnext : ∀ turn : SyntaxTree α, tree.stop < turn.stop →
      (turns g image (shiftPlaces n active) pending a ((tree.merge turn).carry f n)
        (count + 1)).value =
      (turns g input active pending a (tree.merge turn) (count + 1)).value.map
        (SyntaxTree.carry f n) id) :
    (turns g image (shiftPlaces n active) pending a (tree.carry f n) count).value =
      (turns g input active pending a tree count).value.map (SyntaxTree.carry f n) id := by
  have hgo' : count < a.mark.quantifier.max ∧ (tree.carry f n).stop < image.size := by
    rwa [SyntaxTree.stop_carry, h.lt_size_iff]
  rw [turns_go_value g _ _ _ _ _ _ hgo, turns_go_value g _ _ _ _ _ _ hgo', SyntaxTree.stop_carry,
    asks_carry hf h hcontinues, hattempt]
  split
  · rfl
  · cases (attempt g input active pending a tree.stop).value with
    | none => rfl
    | some turn =>
      simp only [Option.map_some, SyntaxTree.stop_carry, Nat.add_lt_add_iff_left,
        ← SyntaxTree.carry_merge]
      split
      · next hlt => exact hnext turn hlt
      · rfl

theorem attempt_carry
    (honce : (once g image (shiftPlaces n active) pending a (n + pos)).value =
      (once g input active pending a pos).value.map (SyntaxTree.carry f n)) :
    (attempt g image (shiftPlaces n active) pending a (n + pos)).value =
      (attempt g input active pending a pos).value.map (SyntaxTree.carry f n) := by
  rw [attempt_value, attempt_value, honce]
  split
  · exact deny_carry hf h a pos _
  · rfl

theorem once_leaf_carry (m : Mark) (l : Leaf) :
    (once g image (shiftPlaces n active) pending (.leaf m l) (n + pos)).value =
      (once g input active pending (.leaf m l) pos).value.map (SyntaxTree.carry f n) := by
  rw [once_leaf_value, once_leaf_value, h.test hf]
  cases (input.test l.pattern pos).value with
  | none => rfl
  | some stop => exact congrArg some (leaf_carry hf h _ pos stop)

theorem once_unit_carry {m : Mark} {name : String} {r : Rule} {hit : β → Bool}
    (hr : g.find? name = some r) (hu : Readable.standsFor? r = some hit) :
    (once g image (shiftPlaces n active) pending (.reference m name) (n + pos)).value =
      (once g input active pending (.reference m name) pos).value.map (SyntaxTree.carry f n) := by
  have hu' : Readable.standsFor? r = some (hit ∘ f) := by rw [hf.standsFor?, hu, Option.map_some]
  have hany : (image.read (n + pos)).value.head?.any hit =
      (input.read pos).value.head?.any (hit ∘ f) := by
    rw [h.read, List.head?_map, Option.any_map]
    rfl
  rw [once_unit_value g _ _ _ _ m hr hu, once_unit_value g _ _ _ _ m hr hu', hany]
  split
  · rw [h.advance hf]
    exact congrArg some (leaf_carry hf h _ pos _)
  · rfl

theorem once_rule_carry {m : Mark} {name : String} {r : Rule} (hr : g.find? name = some r)
    (hu : Readable.standsFor? (α := α) r = none)
    (hsteps : (r.handle, pos) ∉ active → pos < input.size →
      (steps g image (shiftPlaces n ((r.handle, pos) :: active)) pending
        ((SyntaxTree.begin (some r.handle) pos).carry f n) [r.head]).value =
      (steps g input ((r.handle, pos) :: active) pending (.begin (some r.handle) pos)
        [r.head]).value.carry f n) :
    (once g image (shiftPlaces n active) pending (.reference m name) (n + pos)).value =
      (once g input active pending (.reference m name) pos).value.map (SyntaxTree.carry f n) := by
  have hu' : Readable.standsFor? (α := β) r = none := by
    rwa [hf.standsFor?, Option.map_eq_none_iff] at hu
  rw [once_rule_value g _ _ _ _ m hr hu, once_rule_value g _ _ _ _ m hr hu']
  simp only [h.lt_size_iff, mem_shiftPlaces]
  split
  · next hp =>
    have htree := hsteps hp.2 hp.1
    rw [SyntaxTree.carry_begin] at htree
    rw [← shiftPlaces_cons, htree, SyntaxTree.matched_carry]
    split <;> rfl
  · rfl

omit hf h in
theorem choose_cons_carry {atoms : List Atom} {alternatives : List (List Atom)}
    {fallback : Option (SyntaxTree α)}
    (hsteps : (steps g image (shiftPlaces n active) pending
      ((SyntaxTree.begin (atoms.head?.map Atom.handle) pos).carry f n) atoms).value =
      (steps g input active pending (.begin (atoms.head?.map Atom.handle) pos)
        atoms).value.carry f n)
    (hnext : ∀ tree : SyntaxTree α,
      (choose g image (shiftPlaces n active) pending alternatives (n + pos)
        ((fallback.or (if tree.matched then some tree else none)).map
          (SyntaxTree.carry f n))).value =
      (choose g input active pending alternatives pos
        (fallback.or (if tree.matched then some tree else none))).value.map
          (SyntaxTree.carry f n)) :
    (choose g image (shiftPlaces n active) pending (atoms :: alternatives) (n + pos)
      (fallback.map (SyntaxTree.carry f n))).value =
      (choose g input active pending (atoms :: alternatives) pos fallback).value.map
        (SyntaxTree.carry f n) := by
  rw [SyntaxTree.carry_begin] at hsteps
  rw [choose_cons_value, choose_cons_value, hsteps]
  generalize (steps g input active pending (.begin (atoms.head?.map Atom.handle) pos)
    atoms).value = tree
  have hfallback : (fallback.map (SyntaxTree.carry f n)).or
      (if tree.matched then some (tree.carry f n) else none) =
      (fallback.or (if tree.matched then some tree else none)).map (SyntaxTree.carry f n) := by
    cases fallback with
    | some t => rfl
    | none =>
      rw [Option.map_none, Option.none_or, Option.none_or]
      split <;> rfl
  dsimp only
  rw [SyntaxTree.isAbsolute_carry, SyntaxTree.matched_carry, hfallback]
  split
  · rfl
  · exact hnext tree

omit hf h in
theorem continues_pending_carry {atoms : List Atom} {outer : List (List Atom)}
    (hsteps : (steps g image (shiftPlaces n active) outer
      ((SyntaxTree.begin (some a.handle) pos).carry f n) (a :: atoms)).value =
      (steps g input active outer (.begin (some a.handle) pos) (a :: atoms)).value.carry f n)
    (hnext : ∀ tree : SyntaxTree α,
      (continues g image (shiftPlaces n active) outer (n + tree.stop)).value =
      (continues g input active outer tree.stop).value) :
    (continues g image (shiftPlaces n active) ((a :: atoms) :: outer) (n + pos)).value =
      (continues g input active ((a :: atoms) :: outer) pos).value := by
  rw [SyntaxTree.carry_begin] at hsteps
  rw [continues_pending_value, continues_pending_value, hsteps]
  dsimp only
  rw [SyntaxTree.matched_carry, SyntaxTree.stop_carry, hnext]

end Functions

/-! ## All runs -/

section Runs

variable (g : Grammar) (hf : Readable.Keeps f) (h : input.Appears f n image)

include hf h

/-- **Matching commutes with carrying.** What each function of the matcher makes of an input in
which another one appears is what it makes of the other one, carried. -/
theorem matching_carry :
    (∀ active pending tree atoms,
      (steps g image (shiftPlaces n active) pending (tree.carry f n) atoms).value =
        (steps g input active pending tree atoms).value.carry f n) ∧
    (∀ active pending a pos,
      (repeated g image (shiftPlaces n active) pending a (n + pos)).value =
        (repeated g input active pending a pos).value.carry f n) ∧
    (∀ active pending a tree count,
      (turns g image (shiftPlaces n active) pending a (tree.carry f n) count).value =
        (turns g input active pending a tree count).value.map (SyntaxTree.carry f n) id) ∧
    (∀ active pending a pos,
      (attempt g image (shiftPlaces n active) pending a (n + pos)).value =
        (attempt g input active pending a pos).value.map (SyntaxTree.carry f n)) ∧
    (∀ active pending a pos,
      (once g image (shiftPlaces n active) pending a (n + pos)).value =
        (once g input active pending a pos).value.map (SyntaxTree.carry f n)) ∧
    (∀ active pending alternatives pos fallback,
      (choose g image (shiftPlaces n active) pending alternatives (n + pos)
        (fallback.map (SyntaxTree.carry f n))).value =
        (choose g input active pending alternatives pos fallback).value.map
          (SyntaxTree.carry f n)) ∧
    (∀ active pending pos,
      (continues g image (shiftPlaces n active) pending (n + pos)).value =
        (continues g input active pending pos).value) := by
  -- The induction is along the calls on the input that appears in the other.
  refine steps.mutual_induct g input _ _ _ _ _ _ _
    ?stepsNil ?stepsCons ?repeatedLookahead ?repeatedTurns ?turnsGo ?turnsStop ?attempt ?onceLeaf
    ?onceUndefined ?onceUnit ?onceActive ?onceEnter ?onceEnd ?onceGroup ?chooseNil ?chooseCons
    ?continuesNil ?continuesDone ?continuesPending
  case stepsNil =>
    intro active pending tree
    exact steps_nil_carry tree
  case stepsCons =>
    intro active pending tree a atoms hstep hrest
    exact steps_cons_carry hstep hrest
  case repeatedLookahead =>
    intro active pending a pos hl hattempt
    exact repeated_carry hf h (fun _ => hattempt) (fun hn => absurd hl hn)
  case repeatedTurns =>
    intro active pending a pos hl hturns
    exact repeated_carry hf h (fun hn => absurd hn hl) (fun _ => hturns)
  case turnsGo =>
    intro active pending a tree count hgo hcontinues hattempt hnext
    exact turns_go_carry hf h hgo hcontinues hattempt hnext
  case turnsStop =>
    intro active pending a tree count hstop
    exact turns_stop_carry h hstop
  case attempt =>
    intro active pending a pos honce
    exact attempt_carry hf h honce
  case onceLeaf =>
    intro active pending pos m l
    exact once_leaf_carry hf h m l
  case onceUndefined =>
    intro active pending pos m name hr
    rw [once_undefined_value g _ _ _ _ m hr, once_undefined_value g _ _ _ _ m hr]
    rfl
  case onceUnit =>
    intro active pending pos m name r hr hit hu
    rw [hf.standsFor?] at hu
    obtain ⟨hit', hu', -⟩ := Option.map_eq_some_iff.1 hu
    exact once_unit_carry hf h hr hu'
  case onceActive =>
    intro active pending pos m name r hr hu hp ha
    exact once_rule_carry hf h hr hu fun hn _ => absurd ha hn
  case onceEnter =>
    intro active pending pos m name r hr hu hp ha hsteps
    exact once_rule_carry hf h hr hu fun _ _ => hsteps
  case onceEnd =>
    intro active pending pos m name r hr hu hp
    exact once_rule_carry hf h hr hu fun _ hlt => absurd hlt hp
  case onceGroup =>
    intro active pending pos m lookahead value alternatives hchoose
    rw [once_group_value, once_group_value]
    exact hchoose
  case chooseNil =>
    intro active pending pos fallback
    rw [choose_nil_value, choose_nil_value]
  case chooseCons =>
    intro active pending pos fallback atoms alternatives head hsteps hnext
    simp only [dite_eq_ite] at hnext
    exact choose_cons_carry hsteps hnext
  case continuesNil =>
    intro active pos
    rw [continues_nil_value, continues_nil_value]
  case continuesDone =>
    intro active pos outer hnext
    rw [continues_done_value, continues_done_value, hnext]
  case continuesPending =>
    intro active pos a atoms outer hsteps hnext
    exact continues_pending_carry hsteps hnext

theorem run_carry (atoms : List Atom) (pos : Nat) :
    (run g image atoms (n + pos)).value = (run g input atoms pos).value.carry f n := by
  cases atoms with
  | nil => rw [run, run, Noted.value_pure, Noted.value_pure, SyntaxTree.carry_deferred]
  | cons a atoms =>
    have hsteps := (matching_carry g hf h).1 [(a.handle, pos)] [] (.begin (some a.handle) pos)
      (a :: atoms)
    rw [SyntaxTree.carry_begin] at hsteps
    rw [run, run]
    by_cases hp : pos < input.size
    · rw [if_pos hp, if_pos ((h.lt_size_iff pos).2 hp), ← hsteps]
      rfl
    · rw [if_neg hp, if_neg (hp ∘ (h.lt_size_iff pos).1), Noted.value_pure, Noted.value_pure,
        SyntaxTree.carry_deferred]

/-- The rule that is found first is found first where the input appears. -/
theorem firstAbsolute_carry (pos : Nat) (rules : List Rule) :
    (firstAbsolute g image (n + pos) rules).value =
      (firstAbsolute g input pos rules).value.map (Prod.map id (SyntaxTree.carry f n)) := by
  induction rules with
  | nil => rfl
  | cons r rules ih =>
    rw [firstAbsolute, firstAbsolute, Noted.value_bind, Noted.value_bind, runRule, runRule,
      run_carry g hf h, SyntaxTree.isAbsolute_carry]
    split
    · rfl
    · exact ih

end Runs

end Matching

end Lexigram
