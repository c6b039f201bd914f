import Lexigram.Proofs.Endings
import Lexigram.Proofs.Grouping
import Mathlib

/-!
# Parsing partitions the tokens

Every token goes to exactly one place: into one of the groups, or to being stepped over.

**The tree of a rule** (`Matching.rule_runRule`). A group is named after the rule that was tried,
since a rule is matched by a repetition that only merges what it is made of.

**Indices** (`Spans.mem_iff`). Among tokens that are all different, whether a token is in a group is
a matter of its index. So a loop whose steps follow each other gives each index to one step, by
induction along the steps.

**Stamps** (`Parsing.stamped`). A group stamps its tokens with its rule, wherever else they are
held. Since no other group holds them, the stamps are what the groups say (`Stepped.groupings_eq`).

Main result: `stepsOf_partitions`.
-/

namespace Lexigram

open Readable (extent extent_tokens)
open Matching (firstAbsolute runRule)

/-! ## The tree of a rule -/

namespace Matching

variable {α : Type}

theorem rule_settle (t : SyntaxTree α) (state : MatchState) : (t.settle state).rule = t.rule := by
  unfold SyntaxTree.settle
  split <;> rfl

theorem rule_merge (t c : SyntaxTree α) : (t.merge c).rule = t.rule := by
  unfold SyntaxTree.merge
  split <;> rfl

/-- The tree of a rule is named after the rule. -/
theorem rule_runRule [Readable α] (g : Grammar) (input : Input α) (r : Rule) (pos : Nat) :
    (runRule g input r pos).value.rule = some r.handle := by
  rw [runRule, run]
  split
  · rw [steps_cons_value]
    dsimp only
    split
    · rw [rule_settle]
      rfl
    · have hturns : ¬r.head.isLookahead = true := Bool.false_ne_true
      rw [List.isEmpty_nil, SyntaxTree.begin, List.isEmpty_nil, Bool.and_self, if_pos rfl,
        repeated_turns_value g input _ _ _ _ hturns, rule_settle, turns_keep rule_merge]
      rfl
  · rfl

end Matching

/-! ## Indices -/

namespace SyntaxTree

variable {α : Type}

/-- A position lies between the ends of a tree. -/
def Holds (t : SyntaxTree α) (i : Nat) : Prop := t.start ≤ i ∧ i < t.stop

instance (t : SyntaxTree α) (i : Nat) : Decidable (t.Holds i) :=
  inferInstanceAs (Decidable (_ ∧ _))

end SyntaxTree

/-- Among tokens that are all different, those between two positions are told by their indices. -/
theorem Spans.mem_iff {tokens units : List Token} {start stop i : Nat} {t : Token}
    (h : Spans tokens start stop units) (hn : tokens.Nodup) (ht : tokens[i]? = some t) :
    t ∈ units ↔ start ≤ i ∧ i < stop := by
  obtain ⟨front, back, rfl, rfl, rfl⟩ := h
  rw [extent_tokens, extent_tokens, List.length_append]
  constructor
  · intro hmem
    obtain ⟨k, hk, hunit⟩ := List.getElem_of_mem hmem
    have hother : (front ++ (units ++ back))[front.length + k]? = some t := by
      rw [List.getElem?_append_right (Nat.le_add_right _ _), Nat.add_sub_cancel_left,
        List.getElem?_append_left hk, List.getElem?_eq_getElem hk, hunit]
    have hi := (List.getElem?_eq_some_iff.1 ht).1
    have hsame := (List.getElem?_inj hi hn).1 (ht.trans hother.symm)
    omega
  · rintro ⟨hle, hlt⟩
    rw [List.getElem?_append_right hle, List.getElem?_append_left (by omega)] at ht
    exact List.mem_of_getElem? ht

/-- A single token between two positions is the one at the first of them. -/
theorem Spans.getElem?_single {tokens : List Token} {start stop : Nat} {t : Token}
    (h : Spans tokens start stop [t]) : tokens[start]? = some t := by
  obtain ⟨front, back, rfl, rfl, -⟩ := h
  rw [extent_tokens, List.getElem?_append_right (Nat.le_refl _), Nat.sub_self]
  rfl

theorem Spans.drop_start {tokens units : List Token} {start stop : Nat}
    (h : Spans tokens start stop units) : tokens.drop start = units ++ tokens.drop stop := by
  obtain ⟨front, back, rfl, rfl, rfl⟩ := h
  rw [extent_tokens, extent_tokens, List.drop_left, ← List.append_assoc, List.drop_left]

theorem Spans.subset {tokens units : List Token} {start stop : Nat}
    (h : Spans tokens start stop units) : units ⊆ tokens := by
  obtain ⟨front, back, rfl, -⟩ := h
  exact List.Subset.trans (List.subset_append_left units back) (List.subset_append_right front _)

/-- Among tokens that are all different, those behind a position are not before it. -/
theorem Spans.disjoint_drop {tokens units : List Token} {start stop : Nat}
    (h : Spans tokens start stop units) (hn : tokens.Nodup) :
    units.Disjoint (tokens.drop stop) := by
  have hrest := hn.sublist (List.drop_sublist start tokens)
  rw [h.drop_start] at hrest
  exact List.disjoint_of_nodup_append hrest

namespace Parsing

/-! ## One step -/

/-- The token of a step that steps over it. -/
def Step.skipped? : Step → Option Token
  | .group _ _ => none
  | .skipped t => some t

/-- The rule that groups the tokens at a position is the first that consumes something there. -/
theorem IsStep.found {g : Grammar} {tokens : List Token} {pos stop : Nat} {r : Rule}
    {tree : SyntaxTree Token} (h : IsStep g tokens pos stop (.group r tree)) :
    g.parserRules.find? (fun q => (runRule g (.ofUnits tokens) q pos).value.isAbsolute) = some r ∧
      (runRule g (.ofUnits tokens) r pos).value = tree := by
  cases h with
  | group hfirst hs ha =>
    rw [Matching.firstAbsolute_value] at hfirst
    obtain ⟨q, hq, hpair⟩ := Option.map_eq_some_iff.1 hfirst
    obtain ⟨rfl, htree⟩ := Prod.mk.inj hpair
    exact ⟨hq, htree⟩

/-- The next step is made without a fault. -/
theorem next_ensures (g : Grammar) (front back : List Token) (t : Token) :
    (next g (.ofUnits (front ++ t :: back)) (extent front) t).Ensures fun _ => True := by
  have hpos : Boundary (front ++ t :: back) (extent front) := ⟨front, t :: back, rfl, rfl⟩
  refine (Matching.firstAbsolute_ensures g _ hpos g.parserRules).bind fun found _ => ?_
  cases found with
  | none => exact (Noted.Avoids.note (p := fun _ => True) rfl trivial).bind fun _ _ => .pure trivial
  | some found => exact .pure trivial

/-- All steps are made without a fault. -/
theorem stepsFrom_ensures (g : Grammar) (tokens : List Token) {pos : Nat}
    (h : Boundary tokens pos) :
    ∀ step ∈ stepsFrom g (.ofUnits tokens) pos, step.Ensures fun _ => True := by
  induction hn : tokens.length - pos using Nat.strong_induction_on generalizing pos with
  | _ n ih =>
    have hle := h.le
    rw [extent_tokens] at hle
    intro step hstep
    by_cases hp : pos < tokens.length
    · obtain ⟨front, t, back, rfl, rfl⟩ := h.exists_of_lt (by rwa [extent_tokens])
      have hnext := next_isStep g front back t
      have hlt := hnext.lt
      rw [stepsFrom_of_lt] at hstep
      rcases List.mem_cons.1 hstep with rfl | hstep
      · exact (next_ensures g front back t).map
      · exact ih _ (by omega) hnext.boundary_stop rfl step hstep
    · obtain rfl : pos = tokens.length := by omega
      rw [stepsFrom_length] at hstep
      exact absurd hstep List.not_mem_nil

/-! ## The tree of the steps -/

theorem foldl_addStep (steps : List Step) (root : SyntaxTree Token) :
    (steps.foldl addStep root).start = root.start ∧
      (steps.foldl addStep root).state = root.state ∧
      (steps.foldl addStep root).units =
        root.units ++ (steps.filterMap Step.tree?).flatMap SyntaxTree.units := by
  induction steps generalizing root with
  | nil => exact ⟨rfl, rfl, (List.append_nil _).symm⟩
  | cons step steps ih =>
    obtain ⟨hstart, hstate, hunits⟩ := ih (addStep root step)
    rw [List.foldl_cons, hstart, hstate, hunits]
    cases step with
    | group r tree =>
      refine ⟨rfl, rfl, ?_⟩
      rw [List.filterMap_cons_some (f := Step.tree?) (b := tree) rfl, List.flatMap_cons,
        ← List.append_assoc]
      rfl
    | skipped t =>
      refine ⟨rfl, rfl, ?_⟩
      rw [List.filterMap_cons_none (f := Step.tree?) rfl]
      rfl

theorem treeOf_eq (steps : List Step) :
    treeOf steps = { steps.foldl addStep (.begin (some Grammar.root) 0) with state := .resolved } :=
  if_pos (foldl_addStep steps _).2.1

/-- The tokens of the tree are those of its children, one child after the other. -/
theorem units_treeOf (steps : List Step) :
    (treeOf steps).units = (treeOf steps).children.flatMap SyntaxTree.units := by
  rw [children_treeOf, treeOf_eq]
  exact (foldl_addStep steps _).2.2

theorem Stepped.stop_foldl {g : Grammar} {tokens : List Token} {pos : Nat} {steps : List Step}
    (h : Stepped g tokens pos steps) {root : SyntaxTree Token} (hroot : root.stop = pos) :
    (steps.foldl addStep root).stop = tokens.length := by
  induction h generalizing root with
  | done => exact hroot
  | step hstep _ ih =>
    refine ih ?_
    cases hstep with
    | group hfirst hs ha => rfl
    | skipped hfirst ht => exact congrArg (· + 1) hroot

/-! ## All steps -/

section Steps

variable {g : Grammar} {tokens : List Token} {pos i : Nat} {steps : List Step} {t : Token}

theorem mem_trees {c : SyntaxTree Token} :
    c ∈ steps.filterMap Step.tree? ↔ ∃ r, .group r c ∈ steps := by
  rw [List.mem_filterMap]
  constructor
  · rintro ⟨step, hstep, htree⟩
    cases step with
    | group r tree =>
      cases htree
      exact ⟨r, hstep⟩
    | skipped t => cases htree
  · rintro ⟨r, hstep⟩
    exact ⟨_, hstep, rfl⟩

/-- What is known of each step at which tokens are grouped. -/
theorem Stepped.isStep (h : Stepped g tokens pos steps) {r : Rule} {c : SyntaxTree Token}
    (hc : .group r c ∈ steps) : pos ≤ c.start ∧ IsStep g tokens c.start c.stop (.group r c) := by
  induction h with
  | done => exact absurd hc List.not_mem_nil
  | @step pos stop step steps hstep _ ih =>
    rcases List.mem_cons.1 hc with rfl | hc
    · cases hstep with
      | group hfirst hs ha => exact ⟨hs.start.ge, hs.start.symm ▸ .group hfirst hs ha⟩
    · exact ⟨Nat.le_trans (Nat.le_of_lt hstep.lt) (ih hc).1, (ih hc).2⟩

/-- A group spans its tokens. -/
theorem IsStep.spans {stop : Nat} {r : Rule} {c : SyntaxTree Token}
    (h : IsStep g tokens pos stop (.group r c)) : Spans tokens pos stop c.units := by
  cases h with
  | group hfirst hs ha => exact hs.start ▸ hs.wellFormed.sound.units

theorem Stepped.ordered (h : Stepped g tokens pos steps) :
    (steps.filterMap Step.tree?).Pairwise fun c d => c.stop ≤ d.start := by
  induction h with
  | done => exact .nil
  | @step pos stop step steps hstep hsteps ih =>
    cases hstep with
    | group hfirst hs ha =>
      rw [List.filterMap_cons_some (f := Step.tree?) rfl]
      refine .cons (fun d hd => ?_) ih
      obtain ⟨q, hq⟩ := mem_trees.1 hd
      exact (hsteps.isStep hq).1
    | skipped hfirst ht => rwa [List.filterMap_cons_none (f := Step.tree?) rfl]

/-- The tokens of the groups are some of the tokens, in their order. -/
theorem Stepped.units_sublist (h : Stepped g tokens pos steps) :
    ((steps.filterMap Step.tree?).flatMap SyntaxTree.units).Sublist (tokens.drop pos) := by
  induction h with
  | done => exact List.nil_sublist _
  | @step pos stop step steps hstep _ ih =>
    cases hstep with
    | @group r tree hfirst hs ha =>
      have hspans : Spans tokens pos tree.stop tree.units := hs.start ▸ hs.wellFormed.sound.units
      rw [List.filterMap_cons_some (f := Step.tree?) rfl, List.flatMap_cons, hspans.drop_start]
      exact ih.append_left tree.units
    | skipped hfirst ht =>
      rw [List.filterMap_cons_none (f := Step.tree?) rfl, ht.drop_start]
      exact ih.cons _

/-- Steps that begin behind an index do not hold it. -/
theorem Stepped.countP_eq_zero (h : Stepped g tokens pos steps) (hi : i < pos) :
    (steps.filterMap Step.tree?).countP (fun c => c.Holds i) = 0 := by
  refine List.countP_eq_zero.2 fun c hc => ?_
  obtain ⟨r, hr⟩ := mem_trees.1 hc
  have hle := (h.isStep hr).1
  rw [decide_eq_true_eq, SyntaxTree.Holds]
  omega

/-- Steps that begin behind an index do not step over the token there. -/
theorem Stepped.count_eq_zero (h : Stepped g tokens pos steps) (hn : tokens.Nodup)
    (ht : tokens[i]? = some t) (hi : i < pos) : (steps.filterMap Step.skipped?).count t = 0 := by
  induction h with
  | done => rfl
  | @step pos stop step steps hstep _ ih =>
    have hrest := ih (Nat.lt_trans hi hstep.lt)
    cases hstep with
    | group hfirst hs ha => rwa [List.filterMap_cons_none (f := Step.skipped?) rfl]
    | @skipped u hfirst hu =>
      have hne : u ≠ t := by
        rintro rfl
        have hsame := (List.getElem?_inj (List.getElem?_eq_some_iff.1 ht).1 hn).1
          (ht.trans hu.getElem?_single.symm)
        omega
      rw [List.filterMap_cons_some (f := Step.skipped?) rfl, List.count_cons_of_ne hne, hrest]

/-- **Each index has one place.** It lies in one of the groups, or the token there is stepped over
once. -/
theorem Stepped.once (h : Stepped g tokens pos steps) (hn : tokens.Nodup)
    (ht : tokens[i]? = some t) (hi : pos ≤ i) :
    (steps.filterMap Step.tree?).countP (fun c => c.Holds i) +
      (steps.filterMap Step.skipped?).count t = 1 := by
  induction h with
  | done =>
    have hlt := (List.getElem?_eq_some_iff.1 ht).1
    omega
  | @step pos stop step steps hstep hsteps ih =>
    have hlt := hstep.lt
    cases hstep with
    | @group r tree hfirst hs ha =>
      rw [List.filterMap_cons_some (f := Step.tree?) rfl,
        List.filterMap_cons_none (f := Step.skipped?) rfl, List.countP_cons]
      by_cases hstop : i < tree.stop
      · have hholds : tree.Holds i := ⟨hs.start.le.trans hi, hstop⟩
        rw [hsteps.countP_eq_zero hstop, hsteps.count_eq_zero hn ht hstop,
          if_pos (decide_eq_true hholds)]
      · rw [if_neg fun hholds => hstop (of_decide_eq_true hholds).2, Nat.add_zero]
        exact ih (Nat.le_of_not_lt hstop)
    | @skipped u hfirst hu =>
      rw [List.filterMap_cons_none (f := Step.tree?) rfl,
        List.filterMap_cons_some (f := Step.skipped?) rfl]
      rcases Nat.eq_or_lt_of_le hi with rfl | hi
      · obtain rfl := Option.some.inj (hu.getElem?_single.symm.trans ht)
        rw [hsteps.countP_eq_zero hlt, List.count_cons_self, hsteps.count_eq_zero hn ht hlt]
      · have hne : u ≠ t := by
          rintro rfl
          have hsame := (List.getElem?_inj (List.getElem?_eq_some_iff.1 ht).1 hn).1
            (ht.trans hu.getElem?_single.symm)
          omega
        rw [List.count_cons_of_ne hne]
        exact ih hi

/-! ## Stamps -/

/-- A step stamps the tokens that it groups with the rule that groups them. -/
def stamp (known : Token → Option Rule) : Step → Token → Option Rule
  | .group r tree => fun t => if t ∈ tree.units then some r else known t
  | .skipped _ => known

/-- The rule with which a token is stamped after some steps, none at first. -/
def stamped (steps : List Step) : Token → Option Rule := steps.foldl stamp fun _ => none

theorem foldl_stamp_of_notMem {known : Token → Option Rule}
    (h : ∀ r c, .group r c ∈ steps → t ∉ c.units) : steps.foldl stamp known t = known t := by
  induction steps generalizing known with
  | nil => rfl
  | cons step steps ih =>
    rw [List.foldl_cons, ih fun r c hc => h r c (List.mem_cons_of_mem _ hc)]
    cases step with
    | group r c => exact if_neg (h r c List.mem_cons_self)
    | skipped u => rfl

/-- Steps that begin behind an index leave the stamp of the token there. -/
theorem Stepped.foldl_stamp_of_lt (h : Stepped g tokens pos steps) (hn : tokens.Nodup)
    (ht : tokens[i]? = some t) (hi : i < pos) (known : Token → Option Rule) :
    steps.foldl stamp known t = known t := by
  refine foldl_stamp_of_notMem fun r c hc hmem => ?_
  obtain ⟨hle, hstep⟩ := h.isStep hc
  have hholds := (hstep.spans.mem_iff hn ht).1 hmem
  omega

/-- A token keeps the stamp of the group that holds it. -/
theorem Stepped.foldl_stamp_of_holds (h : Stepped g tokens pos steps) (hn : tokens.Nodup)
    (ht : tokens[i]? = some t) {r : Rule} {c : SyntaxTree Token} (hc : .group r c ∈ steps)
    (hholds : c.Holds i) (known : Token → Option Rule) :
    steps.foldl stamp known t = some r := by
  induction h generalizing known with
  | done => exact absurd hc List.not_mem_nil
  | @step pos stop step steps hstep hsteps ih =>
    rw [List.foldl_cons]
    rcases List.mem_cons.1 hc with rfl | hc
    · cases hstep with
      | group hfirst hs ha =>
        -- The steps behind the group hold other tokens, so they leave the stamp.
        rw [hsteps.foldl_stamp_of_lt hn ht hholds.2]
        refine if_pos ((hs.wellFormed.sound.units.mem_iff hn ht).2 hholds)
    · exact ih hc _

/-- A token is stamped with the rule of the group that holds it, and with none if no group does. -/
theorem Stepped.stamped_eq_some (h : Stepped g tokens pos steps) (hn : tokens.Nodup)
    (ht : tokens[i]? = some t) {r : Rule} :
    stamped steps t = some r ↔ ∃ c, .group r c ∈ steps ∧ c.Holds i := by
  constructor
  · intro hstamp
    by_cases hheld : ∃ q c, Step.group q c ∈ steps ∧ c.Holds i
    · obtain ⟨q, c, hc, hholds⟩ := hheld
      obtain rfl : q = r := Option.some.inj
        ((h.foldl_stamp_of_holds hn ht hc hholds _).symm.trans hstamp)
      exact ⟨c, hc, hholds⟩
    · have hnone : stamped steps t = none := foldl_stamp_of_notMem fun q c hc hmem =>
        hheld ⟨q, c, hc, ((h.isStep hc).2.spans.mem_iff hn ht).1 hmem⟩
      cases hnone.symm.trans hstamp
  · rintro ⟨c, hc, hholds⟩
    exact h.foldl_stamp_of_holds hn ht hc hholds _

/-- **The groups say what the stamps are.** -/
theorem Stepped.groupings_eq (h : Stepped g tokens pos steps) (hn : tokens.Nodup)
    {known : Token → Option Rule} (hknown : ∀ t ∈ tokens.drop pos, known t = none) :
    groupings steps = (tokens.drop pos).map (steps.foldl stamp known) := by
  induction h generalizing known with
  | done => rw [List.drop_length]; rfl
  | @step pos stop step steps hstep hsteps ih =>
    have hfull := Stepped.step hstep hsteps
    rw [← List.singleton_append, groupings_append, List.singleton_append]
    cases hstep with
    | @group r tree hfirst hs ha =>
      have hspans : Spans tokens pos tree.stop tree.units := hs.start ▸ hs.wellFormed.sound.units
      have hrest : ∀ t ∈ tokens.drop tree.stop, stamp known (.group r tree) t = none := by
        intro t ht
        refine (if_neg fun hmem => hspans.disjoint_drop hn hmem ht).trans (hknown t ?_)
        rw [hspans.drop_start]
        exact List.mem_append_right _ ht
      have hunits : ∀ t ∈ tree.units,
          (Step.group r tree :: steps).foldl stamp known t = some r := by
        intro t ht
        obtain ⟨i, hget⟩ := List.mem_iff_getElem?.1 (hspans.subset ht)
        refine hfull.foldl_stamp_of_holds hn hget List.mem_cons_self ?_ known
        exact (hs.wellFormed.sound.units.mem_iff hn hget).1 ht
      rw [hspans.drop_start, List.map_append, ih hrest, List.foldl_cons]
      congr 1
      simp only [groupings, List.flatMap_cons, List.flatMap_nil, List.append_nil]
      exact (List.map_eq_replicate_iff.2 hunits).symm
    | @skipped u hfirst hu =>
      have hrest : ∀ t ∈ tokens.drop (pos + 1), known t = none := fun t ht =>
        hknown t (by rw [hu.drop_start]; exact List.mem_append_right _ ht)
      have hhead : (Step.skipped u :: steps).foldl stamp known u = none := by
        rw [List.foldl_cons, hsteps.foldl_stamp_of_lt hn hu.getElem?_single (Nat.lt_succ_self pos)]
        exact hknown u (by rw [hu.drop_start]; exact List.mem_cons_self)
      rw [hu.drop_start, List.map_append, ih hrest, List.map_singleton, hhead]
      rfl

end Steps

/-! ## The partition -/

/-- The steps through some tokens give each of them one place. -/
structure Partitions (g : Grammar) (tokens : List Token) (steps : List Step) : Prop where
  resolved : (treeOf steps).state = .resolved
  span : (treeOf steps).span = ⟨0, tokens.length⟩
  units : (treeOf steps).units = (treeOf steps).children.flatMap SyntaxTree.units
  nonempty : ∀ c ∈ (treeOf steps).children, c.start < c.stop
  ordered : (treeOf steps).children.Pairwise fun c d => c.stop ≤ d.start
  slices : ∀ c ∈ (treeOf steps).children, Spans tokens c.start c.stop c.units
  /-- An index lies in one child and is not stepped over, or it lies in none and is stepped over
  once. -/
  once : ∀ i t, tokens[i]? = some t →
    (treeOf steps).children.countP (fun c => c.Holds i) +
      (steps.filterMap Step.skipped?).count t = 1
  /-- A child is what the first rule makes that consumes something where the child begins. -/
  first : ∀ c ∈ (treeOf steps).children, ∃ r, c.rule = some r.handle ∧
    g.parserRules.find? (fun q => (runRule g (.ofUnits tokens) q c.start).value.isAbsolute) =
      some r ∧
    (runRule g (.ofUnits tokens) r c.start).value = c
  /-- A token is stamped with the rule of the child in which it lies. -/
  stamps : ∀ i t, tokens[i]? = some t → ∀ handle,
    (stamped steps t).map Rule.handle = some handle ↔
      ∃ c ∈ (treeOf steps).children, c.Holds i ∧ c.rule = some handle
  groupings : groupings steps = tokens.map (stamped steps)

theorem Stepped.partitions {g : Grammar} {tokens : List Token} {steps : List Step}
    (h : Stepped g tokens 0 steps) (hn : tokens.Nodup) : Partitions g tokens steps := by
  have hchildren : ∀ {c}, c ∈ (treeOf steps).children ↔ ∃ r, .group r c ∈ steps := by
    rw [children_treeOf]
    exact mem_trees
  have hrule : ∀ {r c}, .group r c ∈ steps → c.rule = some r.handle := fun hc => by
    rw [← (h.isStep hc).2.found.2, Matching.rule_runRule]
  constructor
  case resolved => rw [treeOf_eq]
  case span =>
    rw [treeOf_eq, SyntaxTree.span, h.stop_foldl rfl, (foldl_addStep steps _).1]
    rfl
  case units => exact units_treeOf steps
  case nonempty =>
    intro c hc
    obtain ⟨r, hr⟩ := hchildren.1 hc
    exact (h.isStep hr).2.lt
  case ordered =>
    rw [children_treeOf]
    exact h.ordered
  case slices =>
    intro c hc
    obtain ⟨r, hr⟩ := hchildren.1 hc
    exact (h.isStep hr).2.spans
  case once =>
    intro i t ht
    rw [children_treeOf]
    exact h.once hn ht (Nat.zero_le i)
  case first =>
    intro c hc
    obtain ⟨r, hr⟩ := hchildren.1 hc
    exact ⟨r, hrule hr, (h.isStep hr).2.found⟩
  case stamps =>
    intro i t ht handle
    rw [Option.map_eq_some_iff]
    constructor
    · rintro ⟨r, hstamp, rfl⟩
      obtain ⟨c, hc, hholds⟩ := (h.stamped_eq_some hn ht).1 hstamp
      exact ⟨c, hchildren.2 ⟨r, hc⟩, hholds, hrule hc⟩
    · rintro ⟨c, hc, hholds, hhandle⟩
      obtain ⟨r, hr⟩ := hchildren.1 hc
      refine ⟨r, (h.stamped_eq_some hn ht).2 ⟨c, hr, hholds⟩, ?_⟩
      exact Option.some.inj ((hrule hr).symm.trans hhandle)
  case groupings =>
    rw [h.groupings_eq hn fun _ _ => rfl, List.drop_zero]
    rfl

/-- **Parsing partitions the tokens and stamps what it groups.** Tokens that some built grammar has
made of a text are parsed by any grammar without a fault. The children of the root are not empty, in
order and made by the first rules that match; each token lies in one of them or is stepped over
once, and it is stamped with the rule of the child in which it lies. -/
theorem stepsOf_partitions (g : Grammar) {lexer : Grammar} (hl : lexer.Built) (text : List Char)
    (base : Nat) :
    let tokens := (TokenStream.ofText lexer text base).value.tokens
    ((stepsOf g tokens).mapM id).Ensures (Partitions g tokens) := by
  intro tokens
  have hzero := boundary_zero tokens
  refine (Noted.Avoids.mapM (stepsFrom_ensures g tokens hzero)).mono fun steps hsteps => ?_
  subst hsteps
  exact (stepsFrom_stepped g tokens hzero).partitions (TokenStream.tokens_nodup hl text base)

set_option maxRecDepth 4000 in
/-- Two groups with a token between them that is stepped over. -/
theorem stepsOf_partitions_around_skipped :
    let b := (({} : Builder).compile { id := "A", body := "'a'" }).1
    let b := (b.compile { id := "B", body := "'b'" }).1
    let g := (b.compile { id := "pair", body := "A B?" }).1.build.value
    let tokens := (TokenStream.ofText g ['a', 'b', 'b', 'a'] 7).value.tokens
    let steps := (stepsOf g tokens).map Noted.value
    g.Built ∧ ((stepsOf g tokens).mapM id).Ensures (Partitions g tokens) ∧
      (treeOf steps).children.map SyntaxTree.span = [⟨0, 2⟩, ⟨3, 4⟩] ∧
      (steps.filterMap Step.skipped?).map Token.value = [['b']] := by
  intro b b' g tokens steps
  have hg : g.Built := .of_reachable (.compile _ (.compile _ (.compile _ (.new {}))))
  refine ⟨hg, stepsOf_partitions g hg _ 7, ?_, ?_⟩
  · unfold steps tokens g b' b
    cbv
  · unfold steps tokens g b' b
    cbv

end Parsing

end Lexigram
