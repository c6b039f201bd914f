import Lexigram.Proofs.Endings
import Lexigram.Proofs.Reentry

/-!
# Matching nothing

A match that ends where it began has matched nothing. What can come out that way is known beforehand
from how the rules are written, whatever is lazy in them and whatever is active and pending.

**Rules that may match nothing** (`MayVanish`). They are the fewest rules such that no other may
match nothing if they may. **Tests** (`TestVanishes`). What an atom tests may match nothing, be the
atom inverted or not.

Main result: `matching_passes`. Atoms that matched nothing may match nothing.
-/

namespace Lexigram

namespace LeftRecursion

/-! ## More rules that may match nothing -/

section Monotonicity

variable {empty empty' : String → Prop}

mutual

theorem chainVanishes_mono (h : ∀ name, empty name → empty' name) :
    ∀ atoms, ChainVanishes empty atoms → ChainVanishes empty' atoms
  | [], _ => by
    rw [ChainVanishes]
    trivial
  | a :: atoms, hvanishes => by
    rw [ChainVanishes] at hvanishes ⊢
    exact ⟨hvanishes.1.imp_right (atomVanishes_mono h a), chainVanishes_mono h atoms hvanishes.2⟩

theorem atomVanishes_mono (h : ∀ name, empty name → empty' name) :
    ∀ a, AtomVanishes empty a → AtomVanishes empty' a
  | .leaf m l, hvanishes => by
    rw [AtomVanishes] at hvanishes
    exact hvanishes.elim
  | .reference m name, hvanishes => by
    rw [AtomVanishes] at hvanishes ⊢
    exact hvanishes.imp_right (h name)
  | .group m lookahead value alternatives, hvanishes => by
    rw [AtomVanishes] at hvanishes ⊢
    exact hvanishes.imp_right fun hany => hany.imp_right (anyVanishes_mono h alternatives)

theorem anyVanishes_mono (h : ∀ name, empty name → empty' name) :
    ∀ alternatives, AnyVanishes empty alternatives → AnyVanishes empty' alternatives
  | [], hvanishes => by
    rw [AnyVanishes] at hvanishes
    exact hvanishes.elim
  | atoms :: alternatives, hvanishes => by
    rw [AnyVanishes] at hvanishes ⊢
    exact hvanishes.imp (chainVanishes_mono h atoms) (anyVanishes_mono h alternatives)

end

variable {name : String}

mutual

theorem chainLeads_mono (h : ∀ name, empty name → empty' name) :
    ∀ atoms, ChainLeads empty name atoms → ChainLeads empty' name atoms
  | [], hleads => by
    rw [ChainLeads] at hleads
    exact hleads.elim
  | a :: atoms, hleads => by
    rw [ChainLeads] at hleads ⊢
    refine hleads.imp (atomLeads_mono h a) fun hrest => ?_
    exact ⟨hrest.1.imp_right (atomVanishes_mono h a), chainLeads_mono h atoms hrest.2⟩

theorem atomLeads_mono (h : ∀ name, empty name → empty' name) :
    ∀ a, AtomLeads empty name a → AtomLeads empty' name a
  | .leaf m l, hleads => by
    rw [AtomLeads] at hleads
    exact hleads.elim
  | .reference m name', hleads => by
    rw [AtomLeads] at hleads ⊢
    exact hleads
  | .group m lookahead value alternatives, hleads => by
    rw [AtomLeads] at hleads ⊢
    exact anyLeads_mono h alternatives hleads

theorem anyLeads_mono (h : ∀ name, empty name → empty' name) :
    ∀ alternatives, AnyLeads empty name alternatives → AnyLeads empty' name alternatives
  | [], hleads => by
    rw [AnyLeads] at hleads
    exact hleads.elim
  | atoms :: alternatives, hleads => by
    rw [AnyLeads] at hleads ⊢
    exact hleads.imp (chainLeads_mono h atoms) (anyLeads_mono h alternatives)

end

end Monotonicity

/-! ## Parts -/

section Parts

variable {empty : String → Prop} {name : String} {atoms atoms' : List Atom}
variable {alternatives : List (List Atom)}

theorem chainVanishes_append :
    ChainVanishes empty (atoms ++ atoms') ↔
      ChainVanishes empty atoms ∧ ChainVanishes empty atoms' := by
  induction atoms with
  | nil =>
    rw [List.nil_append, ChainVanishes]
    simp only [true_and]
  | cons a atoms ih => rw [List.cons_append, ChainVanishes, ChainVanishes, ih, and_assoc]

theorem chainLeads_append :
    ChainLeads empty name (atoms ++ atoms') ↔
      ChainLeads empty name atoms ∨ ChainVanishes empty atoms ∧ ChainLeads empty name atoms' := by
  induction atoms with
  | nil =>
    rw [List.nil_append, ChainLeads, ChainVanishes]
    simp only [false_or, true_and]
  | cons a atoms ih =>
    rw [List.cons_append, ChainLeads, ChainLeads, ChainVanishes, ih, and_or_left, or_assoc,
      and_assoc]

theorem anyVanishes_of_mem (hatoms : atoms ∈ alternatives) (h : ChainVanishes empty atoms) :
    AnyVanishes empty alternatives := by
  induction alternatives with
  | nil => cases hatoms
  | cons first alternatives ih =>
    rw [AnyVanishes]
    rcases List.mem_cons.1 hatoms with rfl | hatoms
    · exact .inl h
    · exact .inr (ih hatoms)

theorem anyLeads_of_mem (hatoms : atoms ∈ alternatives) (h : ChainLeads empty name atoms) :
    AnyLeads empty name alternatives := by
  induction alternatives with
  | nil => cases hatoms
  | cons first alternatives ih =>
    rw [AnyLeads]
    rcases List.mem_cons.1 hatoms with rfl | hatoms
    · exact .inl h
    · exact .inr (ih hatoms)

end Parts

/-! ## The rules that may match nothing -/

/-- No rule outside of a set may match nothing if only the rules in the set may. -/
def Closed (rules : List Rule) (empty : String → Prop) : Prop :=
  ∀ name r, Rule.findIn? rules name = some r → AnyVanishes empty r.alternatives → empty name

/-- A rule may match nothing: it is in every closed set. -/
def MayVanish (rules : List Rule) (name : String) : Prop := ∀ empty, Closed rules empty → empty name

variable {rules : List Rule}

theorem closed_mayVanish (rules : List Rule) : Closed rules (MayVanish rules) := by
  intro name r hr hvanishes empty hclosed
  refine hclosed name r hr (anyVanishes_mono (fun name' hname' => ?_) _ hvanishes)
  exact hname' empty hclosed

/-- What is layered is so relative to the rules that may match nothing. -/
theorem Layered.least {empty : String → Prop} (h : Layered rules empty) :
    Layered rules (MayVanish rules) where
  closed := closed_mayVanish rules
  acyclic := by
    intro name hcycle
    refine h.acyclic name (Relation.TransGen.mono (fun _ _ hprecedes => ?_) name name hcycle)
    obtain ⟨r, hr, hleads, hsome⟩ := hprecedes
    exact ⟨r, hr, anyLeads_mono (fun name' hname' => hname' empty h.closed) _ hleads, hsome⟩

/-- Without a report the rules that may match nothing layer the others. -/
theorem layered_of_report {g : Grammar} (hg : g.Built)
    (hreport : ∀ d ∈ g.diagnostics, ∀ path, d.problem ≠ .leftRecursion path) :
    Layered g.rules (MayVanish g.rules) := by
  have hwarnings : warnings g.rules = [] := by
    refine List.eq_nil_iff_forall_not_mem.2 fun d hd => ?_
    obtain ⟨path, hpath⟩ := problem_of_mem_warnings hd
    exact hreport d (hg.mem_diagnostics hd) path hpath
  obtain ⟨empty, hlayered⟩ := layered_of_warnings hg.nodup_ids hwarnings
  exact hlayered.least

/-- What an atom tests may match nothing, be the atom inverted or not. -/
def TestVanishes (empty : String → Prop) : Atom → Prop
  | .leaf _ _ => False
  | .reference _ name => empty name
  | .group _ _ _ alternatives => AnyVanishes empty alternatives

theorem TestVanishes.atom {empty : String → Prop} {a : Atom} (h : TestVanishes empty a)
    (hm : a.mark.inverted = false) : AtomVanishes empty a := by
  cases a with
  | leaf m l => exact h.elim
  | reference m name =>
    rw [AtomVanishes]
    exact ⟨hm, h⟩
  | group m lookahead value alternatives =>
    rw [AtomVanishes]
    exact .inr ⟨hm, h⟩

end LeftRecursion

open LeftRecursion

namespace Matching

open Readable (extent)

variable {α : Type} [Readable α] {g : Grammar} {empty : String → Prop} {s : List α}
variable {active : List (Nat × Nat)} {pending : List (List Atom)} {a : Atom} {atoms : List Atom}
variable {tree : SyntaxTree α} {pos count : Nat}

/-! ## One lemma for each function -/

/-- What may end before the first turn may be left out. -/
theorem isOptional_of_accepts {input : Input α} (h : accepts input a 0 pos = true) :
    a.mark.quantifier.isOptional = true := by
  rw [accepts, Bool.and_eq_true, Quantifier.admits, Bool.and_eq_true, decide_eq_true_eq] at h
  rw [Quantifier.isOptional, beq_iff_eq]
  exact Nat.le_zero.1 h.1.1

theorem steps_cons_passes
    (hstep : Passes tree.stop (a.mark.quantifier.isOptional = true ∨ AtomVanishes empty a)
      (repeated g (.ofUnits s) active (atoms :: pending) a tree.stop).value)
    (hrest : ∀ step, (repeated g (.ofUnits s) active (atoms :: pending) a tree.stop).value = step →
      Passes step.stop (ChainVanishes empty atoms)
        (steps g (.ofUnits s) active pending (tree.absorb step) atoms).value)
    (hp : tree.state = .pending) :
    Passes tree.stop (ChainVanishes empty (a :: atoms))
      (steps g (.ofUnits s) active pending tree (a :: atoms)).value := by
  rw [steps_cons_value]
  generalize (repeated g (.ofUnits s) active (atoms :: pending) a tree.stop).value = step at *
  dsimp only
  split
  · rw [Passes, SyntaxTree.stop_settle, SyntaxTree.matched_settle hp]
    exact ⟨Nat.le_refl _, fun hm => by cases hm⟩
  · next hm =>
    rw [Bool.not_eq_true', Bool.not_eq_false] at hm
    split
    · next hone =>
      rw [Bool.and_eq_true, List.isEmpty_iff] at hone
      refine ⟨hstep.1, fun _ hstop => ?_⟩
      rw [hone.1, ChainVanishes, ChainVanishes]
      exact ⟨hstep.2 hm hstop, trivial⟩
    · -- If the chain ends where it began, so did its first step.
      obtain ⟨hle, hvanishes⟩ := hrest step rfl
      refine ⟨Nat.le_trans hstep.1 hle, fun hmatched hstop => ?_⟩
      have hfirst : step.stop = tree.stop := by
        have := hstep.1
        omega
      rw [ChainVanishes]
      exact ⟨hstep.2 hm hfirst, hvanishes hmatched (hstop.trans hfirst.symm)⟩

theorem repeated_passes
    (hturns : ¬a.isLookahead = true →
      Repeats empty a pos 0
        (turns g (.ofUnits s) active pending a (.begin (some a.handle) pos) 0).value)
    (hb : Boundary s pos) :
    Passes pos (a.mark.quantifier.isOptional = true ∨ AtomVanishes empty a)
      (repeated g (.ofUnits s) active pending a pos).value := by
  refine ⟨(repeated_settled g active pending hb a).2.le, fun hm hstop => ?_⟩
  by_cases hl : a.isLookahead = true
  · exact .inr (atomVanishes_of_isLookahead hl)
  · rw [repeated_turns_value _ _ _ _ _ _ hl] at hm hstop
    obtain ⟨-, hpending, hempty⟩ := hturns hl
    rw [SyntaxTree.matched_settle hpending, beq_iff_eq] at hm
    rw [SyntaxTree.stop_settle] at hstop
    refine (hempty hstop).imp_left fun hcount => ?_
    rw [hcount] at hm
    split at hm
    · next haccepts => exact isOptional_of_accepts haccepts
    · cases hm

/-- Only a turn that consumes nothing leaves a repetition where it was. -/
theorem turns_go_repeats (hgo : count < a.mark.quantifier.max ∧ tree.stop < (Input.ofUnits s).size)
    (hattempt : Finds tree.stop (AtomVanishes empty a)
      (attempt g (.ofUnits s) active pending a tree.stop).value)
    (hnext : ∀ turn, tree.stop < turn.stop →
      (attempt g (.ofUnits s) active pending a tree.stop).value = some turn →
      Repeats empty a turn.stop (count + 1)
        (turns g (.ofUnits s) active pending a (tree.merge turn) (count + 1)).value)
    (hb : Boundary s tree.stop) (hp : tree.state = .pending) :
    Repeats empty a tree.stop count (turns g (.ofUnits s) active pending a tree count).value := by
  have hfound := (attempt_found g active pending hb a).2
  have hsame : Repeats empty a tree.stop count (tree, count) :=
    ⟨Nat.le_refl _, hp, fun _ => .inl rfl⟩
  rw [turns_go_value _ _ _ _ _ _ _ hgo]
  split
  · exact hsame
  · generalize (attempt g (.ofUnits s) active pending a tree.stop).value = found at *
    cases found with
    | none => exact hsame
    | some turn =>
      have hle := (hfound turn rfl).1.le
      dsimp only
      split
      · next hlt =>
        obtain ⟨hlater, hpending, -⟩ := hnext turn hlt rfl
        exact ⟨Nat.le_trans hle hlater, hpending, fun heq => by omega⟩
      · next hlt =>
        have heq : turn.stop = tree.stop := by omega
        refine ⟨?_, ?_, fun _ => .inr (hattempt turn rfl heq)⟩
        · rw [SyntaxTree.stop_merge]
          exact hle
        · rw [SyntaxTree.state_merge, hp]

theorem attempt_finds
    (honce : Finds pos (TestVanishes empty a) (once g (.ofUnits s) active pending a pos).value) :
    Finds pos (AtomVanishes empty a) (attempt g (.ofUnits s) active pending a pos).value := by
  rw [attempt_value]
  split
  · exact (deny_proceeds _ a pos _).2
  · next hplain =>
    rw [Bool.or_eq_true, not_or, Bool.not_eq_true, Bool.not_eq_true] at hplain
    exact fun t ht heq => (honce t ht heq).atom hplain.2

theorem once_rule_finds {m : Mark} {name : String} {r : Rule} (hr : g.find? name = some r)
    (hu : Readable.standsFor? (α := α) r = none)
    (hsteps : pos < (Input.ofUnits s).size → (r.handle, pos) ∉ active →
      Passes pos (ChainVanishes empty [r.head])
        (steps g (.ofUnits s) ((r.handle, pos) :: active) pending (.begin (some r.handle) pos)
          [r.head]).value)
    (hclosed : Closed g.rules empty) :
    Finds pos (TestVanishes empty (.reference m name))
      (once g (.ofUnits s) active pending (.reference m name) pos).value := by
  rw [once_rule_value _ _ _ _ _ _ hr hu]
  split
  · next h =>
    have hpasses := hsteps h.1 h.2
    intro t ht heq
    dsimp only at ht
    split at ht
    · next hm =>
      cases ht
      exact hclosed name r hr (chainVanishes_head.1 (hpasses.2 hm heq))
    · cases ht
  · exact .none

theorem choose_cons_finds {alternatives : List (List Atom)} {fallback : Option (SyntaxTree α)}
    (hfirst : Passes pos (ChainVanishes empty atoms)
      (steps g (.ofUnits s) active pending (.begin (atoms.head?.map Atom.handle) pos) atoms).value)
    (hnext : ∀ first t : SyntaxTree α,
      (choose g (.ofUnits s) active pending alternatives pos
        (fallback.or (if first.matched then some first else none))).value = some t →
      t.stop = pos → AnyVanishes empty alternatives ∨
        fallback.or (if first.matched then some first else none) = some t)
    (hb : Boundary s pos) {t : SyntaxTree α}
    (ht : (choose g (.ofUnits s) active pending (atoms :: alternatives) pos fallback).value =
      some t) (hstop : t.stop = pos) :
    AnyVanishes empty (atoms :: alternatives) ∨ fallback = some t := by
  have hsettled := (steps_settled g active pending
    (.begin hb (atoms.head?.map Atom.handle)) (fun _ => rfl) atoms).2
  rw [choose_cons_value] at ht
  generalize (steps g (.ofUnits s) active pending (.begin (atoms.head?.map Atom.handle) pos)
    atoms).value = first at *
  dsimp only at ht
  split at ht
  · next ha =>
    cases ht
    rw [SyntaxTree.isAbsolute, Bool.and_eq_true, Bool.not_eq_true', SyntaxTree.isEmpty,
      hsettled.start, beq_eq_false_iff_ne] at ha
    exact absurd hstop ha.2
  · rw [AnyVanishes]
    rcases hnext first t ht hstop with hvanishes | hor
    · exact .inl (.inr hvanishes)
    · rcases Option.or_eq_some_iff.1 hor with hfallback | ⟨-, hsome⟩
      · exact .inr hfallback
      · split at hsome
        · next hm =>
          cases hsome
          exact .inl (.inl (hfirst.2 hm hstop))
        · cases hsome

/-! ## All calls -/

/-- **What matched nothing may match nothing**, if no rule outside of a set may. -/
theorem matching_passes (hclosed : Closed g.rules empty) (s : List α) :
    (∀ active pending tree atoms, Boundary s tree.stop → tree.state = .pending →
      Passes tree.stop (ChainVanishes empty atoms)
        (steps g (.ofUnits s) active pending tree atoms).value) ∧
    (∀ active pending a pos, Boundary s pos →
      Passes pos (a.mark.quantifier.isOptional = true ∨ AtomVanishes empty a)
        (repeated g (.ofUnits s) active pending a pos).value) := by
  refine (fun h => ⟨h.1, h.2.1⟩) (steps.mutual_induct g (.ofUnits s)
    (fun active pending tree atoms => Boundary s tree.stop → tree.state = .pending →
      Passes tree.stop (ChainVanishes empty atoms)
        (steps g (.ofUnits s) active pending tree atoms).value)
    (fun active pending a pos => Boundary s pos →
      Passes pos (a.mark.quantifier.isOptional = true ∨ AtomVanishes empty a)
        (repeated g (.ofUnits s) active pending a pos).value)
    (fun active pending a tree count => Boundary s tree.stop → tree.state = .pending →
      Repeats empty a tree.stop count (turns g (.ofUnits s) active pending a tree count).value)
    (fun active pending a pos => Boundary s pos →
      Finds pos (AtomVanishes empty a) (attempt g (.ofUnits s) active pending a pos).value)
    (fun active pending a pos => Boundary s pos →
      Finds pos (TestVanishes empty a) (once g (.ofUnits s) active pending a pos).value)
    (fun active pending alternatives pos fallback => Boundary s pos →
      ∀ t, (choose g (.ofUnits s) active pending alternatives pos fallback).value = some t →
        t.stop = pos → AnyVanishes empty alternatives ∨ fallback = some t)
    (fun active pending pos => True)
    ?stepsNil ?stepsCons ?repeatedLookahead ?repeatedTurns ?turnsGo ?turnsStop ?attempt ?onceLeaf
    ?onceUndefined ?onceUnit ?onceActive ?onceEnter ?onceEnd ?onceGroup ?chooseNil ?chooseCons
    ?continuesNil ?continuesDone ?continuesPending)
  case stepsNil =>
    intro active pending tree hb hp
    rw [steps_nil_value, Passes, SyntaxTree.stop_settle, ChainVanishes]
    exact ⟨Nat.le_refl _, fun _ _ => trivial⟩
  case stepsCons =>
    intro active pending tree a atoms hstep hrest hb hp
    have hsettled := (repeated_settled g active (atoms :: pending) hb a).2
    refine steps_cons_passes (hstep hb) (fun step hvalue => ?_) hp
    rw [hvalue] at hsettled
    exact hrest step hsettled.wellFormed.boundary_stop hp
  case repeatedLookahead =>
    intro active pending a pos hl hattempt hb
    exact repeated_passes (fun hn => absurd hl hn) hb
  case repeatedTurns =>
    intro active pending a pos hl hturns hb
    exact repeated_passes (fun _ => hturns hb rfl) hb
  case turnsGo =>
    intro active pending a tree count hgo hcontinues hattempt hnext hb hp
    refine turns_go_repeats hgo (hattempt hb) (fun turn hlt hvalue => ?_) hb hp
    have hsettled := ((attempt_found g active pending hb a).2 turn hvalue).1
    have hturn := hnext turn hlt
    rw [SyntaxTree.stop_merge, SyntaxTree.state_merge] at hturn
    exact hturn hsettled.wellFormed.boundary_stop hp
  case turnsStop =>
    intro active pending a tree count hstop hb hp
    rw [turns_stop_value _ _ _ _ _ _ _ hstop]
    exact ⟨Nat.le_refl _, hp, fun _ => .inl rfl⟩
  case attempt =>
    intro active pending a pos honce hb
    exact attempt_finds (honce hb)
  case onceLeaf =>
    intro active pending pos m l hb
    exact (once_leaf_proceeds m l hb).2
  case onceUndefined =>
    intro active pending pos m name hr hb
    rw [once_undefined_value _ _ _ _ _ _ hr]
    exact .none
  case onceUnit =>
    intro active pending pos m name r hr hit hu hb
    exact (once_unit_proceeds hr hu hb).2
  case onceActive =>
    intro active pending pos m name r hr hu hp ha hb
    exact once_rule_finds hr hu (fun _ hn => absurd ha hn) hclosed
  case onceEnter =>
    intro active pending pos m name r hr hu hp ha hsteps hb
    exact once_rule_finds hr hu (fun _ _ => hsteps hb rfl) hclosed
  case onceEnd =>
    intro active pending pos m name r hr hu hp hb
    exact once_rule_finds hr hu (fun hlt => absurd hlt hp) hclosed
  case onceGroup =>
    intro active pending pos m lookahead value alternatives hchoose hb
    rw [once_group_value]
    exact fun t ht heq => (hchoose hb t ht heq).resolve_right fun hnone => by cases hnone
  case chooseNil =>
    intro active pending pos fallback hb t ht _
    rw [choose_nil_value] at ht
    exact .inr ht
  case chooseCons =>
    intro active pending pos fallback atoms alternatives head hfirst hnext hb t ht hstop
    simp only [dite_eq_ite] at hnext
    exact choose_cons_finds (hfirst hb rfl) (fun first => hnext first hb) hb ht hstop
  case continuesNil => exact fun _ _ => trivial
  case continuesDone => exact fun _ _ _ _ => trivial
  case continuesPending => exact fun _ _ _ _ _ _ _ => trivial

end Matching

end Lexigram
