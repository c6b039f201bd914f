import Lexigram.Grammar.Display
import Lexigram.Proofs.Carrying
import Mathlib.Data.List.Basic
import Mathlib.Data.Prod.Basic

/-!
# Handles are only names

Which numbers the rules and atoms of a grammar have does not matter, as long as different rules have
different numbers.

**Renumbered rules** (`Rule.renumber`). All handles in a rule are replaced. The rule is displayed as
before.

**Renumbered grammars** (`Grammar.Renumbered`). The rules of the one are those of the other with
their handles replaced one to one, and the handles of the root and the unmatched rule stay. For the
matcher it is enough that both grammars find the same rules under each name and try the same ones
in the same order (`Grammar.Mirrored`).

**The simulation** (`Matching.matching_renumber`). Each function of the matcher commutes with
renumbering: handles are compared with each other where a rule might be entered again, and elsewhere
only written into trees. There is one lemma for each function that looks at handles and an induction
along the calls.

Main results: `Matching.run_renumber` and `Matching.firstAbsolute_renumber`.
-/

namespace Lexigram

/-! ## Renumbered rules -/

/-- The mark with its handle replaced. -/
def Mark.renumber (φ : Nat → Nat) (m : Mark) : Mark := { m with handle := φ m.handle }

@[simp] theorem Mark.quantifier_renumber (φ : Nat → Nat) (m : Mark) :
    (m.renumber φ).quantifier = m.quantifier := rfl

namespace Atom

mutual

/-- The atom with all handles replaced. -/
def renumber (φ : Nat → Nat) : Atom → Atom
  | .leaf m l => .leaf (m.renumber φ) l
  | .reference m name => .reference (m.renumber φ) name
  | .group m lookahead value alternatives =>
    .group (m.renumber φ) lookahead value (renumberAll φ alternatives)

/-- The atoms with all handles replaced. -/
def renumberChain (φ : Nat → Nat) : List Atom → List Atom
  | [] => []
  | a :: atoms => renumber φ a :: renumberChain φ atoms

/-- The alternatives with all handles replaced. -/
def renumberAll (φ : Nat → Nat) : List (List Atom) → List (List Atom)
  | [] => []
  | atoms :: alternatives => renumberChain φ atoms :: renumberAll φ alternatives

end

variable (φ : Nat → Nat) (a : Atom) (atoms : List Atom) (alternatives : List (List Atom))

theorem renumberChain_eq_map : renumberChain φ atoms = atoms.map (renumber φ) := by
  induction atoms with
  | nil => rfl
  | cons a atoms ih => rw [renumberChain, ih, List.map_cons]

@[simp] theorem mark_renumber : (a.renumber φ).mark = a.mark.renumber φ := by cases a <;> rfl

@[simp] theorem handle_renumber : (a.renumber φ).handle = φ a.handle := by cases a <;> rfl

@[simp] theorem isLookahead_renumber : (a.renumber φ).isLookahead = a.isLookahead := by
  cases a <;> rfl

@[simp] theorem anchoredEnd_renumber : (a.renumber φ).anchoredEnd = a.anchoredEnd := by
  cases a <;> rfl

@[simp] theorem isEmpty_renumberChain : (renumberChain φ atoms).isEmpty = atoms.isEmpty := by
  cases atoms <;> rfl

theorem head?_renumberChain :
    (renumberChain φ atoms).head?.map handle = (atoms.head?.map handle).map φ := by
  cases atoms with
  | nil => rfl
  | cons a atoms => exact congrArg some (handle_renumber φ a)

/-! ### Replacing twice, and replacing alike -/

variable (ψ : Nat → Nat)

mutual

theorem renumber_renumber : ∀ a : Atom, (a.renumber φ).renumber ψ = a.renumber (ψ ∘ φ)
  | .leaf _ _ | .reference _ _ => rfl
  | .group _ _ _ alternatives => by
    rw [renumber, renumber, renumber, renumberAll_renumberAll alternatives]
    rfl

theorem renumberChain_renumberChain : ∀ atoms : List Atom,
    renumberChain ψ (renumberChain φ atoms) = renumberChain (ψ ∘ φ) atoms
  | [] => rfl
  | a :: atoms => by
    rw [renumberChain, renumberChain, renumberChain, renumber_renumber a,
      renumberChain_renumberChain atoms]

theorem renumberAll_renumberAll : ∀ alternatives : List (List Atom),
    renumberAll ψ (renumberAll φ alternatives) = renumberAll (ψ ∘ φ) alternatives
  | [] => rfl
  | atoms :: alternatives => by
    rw [renumberAll, renumberAll, renumberAll, renumberChain_renumberChain atoms,
      renumberAll_renumberAll alternatives]

end

theorem flatten_renumberAll (alternatives : List (List Atom)) :
    flatten (renumberAll φ alternatives) = (flatten alternatives).map (renumber φ) := by
  fun_induction flatten alternatives with
  | case1 => rw [renumberAll, flatten, List.map_nil]
  | case2 alternatives ih => rw [renumberAll, renumberChain, flatten, ih]
  | case3 m lookahead value inner atoms alternatives ihinner ih =>
    rw [renumberAll] at ih
    rw [renumberAll, renumberChain, renumber, flatten, ihinner, ih, List.map_cons, List.map_append,
      renumber]
  | case4 a atoms alternatives hgroup ih =>
    rw [renumberAll] at ih
    rw [renumberAll, renumberChain, flatten, ih, List.map_cons]
    intro m lookahead value inner ha
    cases a with
    | leaf m l => simp [renumber] at ha
    | reference m name => simp [renumber] at ha
    | group m lookahead value inner => exact hgroup m lookahead value inner rfl

/-- Only what becomes of the handles of the atoms matters. -/
theorem renumberAll_congr {φ ψ : Nat → Nat} {alternatives : List (List Atom)}
    (h : ∀ a ∈ flatten alternatives, φ a.handle = ψ a.handle) :
    renumberAll φ alternatives = renumberAll ψ alternatives := by
  fun_induction flatten alternatives with
  | case1 => rfl
  | case2 alternatives ih => rw [renumberAll, renumberAll, ih h, renumberChain, renumberChain]
  | case3 m lookahead value inner atoms alternatives ihinner ih =>
    have hhead := h _ List.mem_cons_self
    have hin := ihinner fun a ha => h a (List.mem_cons_of_mem _ (List.mem_append_left _ ha))
    have hrest := ih fun a ha => h a (List.mem_cons_of_mem _ (List.mem_append_right _ ha))
    rw [renumberAll, renumberAll, List.cons.injEq] at hrest
    rw [renumberAll, renumberAll, renumberChain, renumberChain, hrest.1, hrest.2, renumber,
      renumber, hin, Mark.renumber, Mark.renumber, show φ m.handle = ψ m.handle from hhead]
  | case4 a atoms alternatives hgroup ih =>
    have hhead := h a List.mem_cons_self
    have hrest := ih fun b hb => h b (List.mem_cons_of_mem _ hb)
    have ha : a.renumber φ = a.renumber ψ := by
      cases a with
      | leaf m l => exact congrArg (leaf · l) (congrArg (Mark.mk · _ _) hhead)
      | reference m name => exact congrArg (reference · name) (congrArg (Mark.mk · _ _) hhead)
      | group m lookahead value inner => exact absurd rfl (hgroup m lookahead value inner)
    rw [renumberAll, renumberAll, List.cons.injEq] at hrest
    rw [renumberAll, renumberAll, renumberChain, renumberChain, hrest.1, hrest.2, ha]

/-! ### Display -/

mutual

theorem render_renumber : ∀ a : Atom, (a.renumber φ).render = a.render
  | .leaf _ _ | .reference _ _ => rfl
  | .group m lookahead _ alternatives => by
    rw [renumber, render, render, renderAlternatives_renumberAll alternatives]
    rfl

theorem renderChain_renumberChain : ∀ atoms : List Atom,
    renderChain (renumberChain φ atoms) = renderChain atoms
  | [] => rfl
  | [a] => by
    rw [renumberChain, renumberChain, renderChain_single, renderChain_single, render_renumber a]
  | a :: b :: atoms => by
    have hrest := renderChain_renumberChain (b :: atoms)
    rw [renumberChain] at hrest
    rw [renumberChain, renumberChain, renderChain_cons, renderChain_cons, render_renumber a, hrest]

theorem renderAlternatives_renumberAll : ∀ alternatives : List (List Atom),
    renderAlternatives (renumberAll φ alternatives) = renderAlternatives alternatives
  | [] => rfl
  | [atoms] => by
    rw [renumberAll, renumberAll, renderAlternatives_single, renderAlternatives_single,
      renderChain_renumberChain atoms]
  | atoms :: others :: alternatives => by
    have hrest := renderAlternatives_renumberAll (others :: alternatives)
    rw [renumberAll] at hrest
    rw [renumberAll, renumberAll, renderAlternatives_cons, renderAlternatives_cons,
      renderChain_renumberChain atoms, hrest]

end

end Atom

namespace Rule

/-- The rule with all handles replaced. -/
def renumber (φ : Nat → Nat) (r : Rule) : Rule :=
  { r with handle := φ r.handle, alternatives := Atom.renumberAll φ r.alternatives }

variable (φ : Nat → Nat) (r : Rule)

theorem atoms_renumber : (r.renumber φ).atoms = r.atoms.map (Atom.renumber φ) :=
  Atom.flatten_renumberAll φ r.alternatives

theorem size_renumber : (r.renumber φ).size = r.size := by
  rw [size, size, atoms_renumber, List.length_map]

theorem renumber_congr {φ ψ : Nat → Nat} {r : Rule} (hr : φ r.handle = ψ r.handle)
    (h : ∀ a ∈ r.atoms, φ a.handle = ψ a.handle) : r.renumber φ = r.renumber ψ := by
  rw [renumber, renumber, hr, Atom.renumberAll_congr h]

theorem renumber_renumber (ψ : Nat → Nat) :
    (r.renumber φ).renumber ψ = r.renumber (ψ ∘ φ) := by
  rw [renumber, renumber, renumber, Atom.renumberAll_renumberAll]
  rfl

theorem render_renumber : (r.renumber φ).render = r.render := by
  rw [render, render]
  show _ ++ String.ofList (Atom.renderAlternatives (Atom.renumberAll φ r.alternatives)) ++ _ ++ _ = _
  rw [Atom.renderAlternatives_renumberAll]
  rfl

theorem findIn?_renumber (rules : List Rule) (id : String) :
    findIn? (rules.map (renumber φ)) id = (findIn? rules id).map (renumber φ) :=
  List.find?_map

end Rule

/-! ## Renumbered grammars -/

/-- Two grammars find the same rules under each name and try the same ones in the same order, with
their handles replaced one to one. -/
structure Grammar.Mirrored (φ : Nat → Nat) (g g' : Grammar) : Prop where
  injective : Function.Injective φ
  unmatched : φ Grammar.unmatched = Grammar.unmatched
  root : φ Grammar.root = Grammar.root
  settings : g'.settings = g.settings
  find? (name : String) : g'.find? name = (g.find? name).map (Rule.renumber φ)
  candidates (kind : RuleKind) : g'.candidates kind = (g.candidates kind).map (Rule.renumber φ)

theorem Grammar.Mirrored.lexerRules {φ : Nat → Nat} {g g' : Grammar} (h : g.Mirrored φ g') :
    g'.lexerRules = g.lexerRules.map (Rule.renumber φ) := h.candidates .lexer

theorem Grammar.Mirrored.parserRules {φ : Nat → Nat} {g g' : Grammar} (h : g.Mirrored φ g') :
    g'.parserRules = g.parserRules.map (Rule.renumber φ) := h.candidates .parser

/-- The rules of a grammar are those of another one with their handles replaced one to one. -/
structure Grammar.Renumbered (φ : Nat → Nat) (g g' : Grammar) : Prop where
  injective : Function.Injective φ
  unmatched : φ Grammar.unmatched = Grammar.unmatched
  root : φ Grammar.root = Grammar.root
  settings : g'.settings = g.settings
  rules : g'.rules = g.rules.map (Rule.renumber φ)

theorem Grammar.Renumbered.mirrored {φ : Nat → Nat} {g g' : Grammar} (h : g.Renumbered φ g') :
    g.Mirrored φ g' where
  injective := h.injective
  unmatched := h.unmatched
  root := h.root
  settings := h.settings
  find? name := by
    rw [Grammar.find?, h.rules, Rule.findIn?_renumber]
    rfl
  candidates kind := by
    rw [Grammar.candidates, Grammar.candidates, h.rules, List.filter_map, List.map_mergeSort]
    · rfl
    · intro r _ q _
      rfl

/-! ## Renumbered trees -/

namespace SyntaxTree

variable {α : Type}

mutual

/-- The tree with all handles replaced. -/
def renumber (φ : Nat → Nat) : SyntaxTree α → SyntaxTree α
  | ⟨rule, start, stop, units, state, children⟩ =>
    ⟨rule.map φ, start, stop, units, state, renumberAll φ children⟩

/-- The trees with all handles replaced. -/
def renumberAll (φ : Nat → Nat) : List (SyntaxTree α) → List (SyntaxTree α)
  | [] => []
  | t :: ts => renumber φ t :: renumberAll φ ts

end

variable (φ : Nat → Nat) (t c : SyntaxTree α)

theorem renumberAll_eq_map (ts : List (SyntaxTree α)) :
    renumberAll φ ts = ts.map (renumber φ) := by
  induction ts with
  | nil => rfl
  | cons t ts ih => rw [renumberAll, ih, List.map_cons]

theorem renumber_eq :
    t.renumber φ = { t with rule := t.rule.map φ, children := t.children.map (renumber φ) } := by
  obtain ⟨rule, start, stop, units, state, children⟩ := t
  rw [renumber, renumberAll_eq_map]

@[simp] theorem start_renumber : (t.renumber φ).start = t.start := by rw [renumber_eq]

@[simp] theorem stop_renumber : (t.renumber φ).stop = t.stop := by rw [renumber_eq]

@[simp] theorem units_renumber : (t.renumber φ).units = t.units := by rw [renumber_eq]

@[simp] theorem state_renumber : (t.renumber φ).state = t.state := by rw [renumber_eq]

@[simp] theorem matched_renumber : (t.renumber φ).matched = t.matched := by
  rw [matched, matched, state_renumber]

@[simp] theorem isEmpty_renumber : (t.renumber φ).isEmpty = t.isEmpty := by
  rw [isEmpty, isEmpty, stop_renumber, start_renumber]

@[simp] theorem isAbsolute_renumber : (t.renumber φ).isAbsolute = t.isAbsolute := by
  rw [isAbsolute, isAbsolute, matched_renumber, isEmpty_renumber]

@[simp] theorem isEmpty_children_renumber :
    (t.renumber φ).children.isEmpty = t.children.isEmpty := by
  rw [renumber_eq, List.isEmpty_map]

theorem renumber_begin (rule : Option Nat) (start : Nat) :
    (begin rule start : SyntaxTree α).renumber φ = begin (rule.map φ) start := by
  rw [renumber_eq]
  rfl

theorem renumber_deferred (rule : Option Nat) (start : Nat) :
    (deferred rule start : SyntaxTree α).renumber φ = deferred (rule.map φ) start := by
  rw [renumber_eq]
  rfl

theorem renumber_settle (state : MatchState) :
    (t.settle state).renumber φ = (t.renumber φ).settle state := by
  unfold settle
  rw [state_renumber]
  split
  · rw [renumber_eq, renumber_eq]
  · rfl

theorem renumber_consume (units : List α) (stop : Nat) :
    (t.consume units stop).renumber φ = (t.renumber φ).consume units stop := by
  rw [renumber_eq, renumber_eq]
  rfl

theorem renumber_absorb : (t.absorb c).renumber φ = (t.renumber φ).absorb (c.renumber φ) := by
  rw [renumber_eq, renumber_eq φ t]
  simp only [absorb, units_renumber, stop_renumber, List.map_append, List.map_singleton]

theorem renumber_merge : (t.merge c).renumber φ = (t.renumber φ).merge (c.renumber φ) := by
  unfold merge
  rw [isEmpty_children_renumber, units_renumber, stop_renumber]
  split
  · exact renumber_consume φ t c.units c.stop
  · exact renumber_absorb φ t c

end SyntaxTree

namespace Matching

open Atom (renumberChain renumberAll)

variable {α : Type} [Readable α] {φ : Nat → Nat}

/-! ## Matching -/

/-- What a reference stands for does not depend on the handle of the rule. -/
def IgnoresHandles (α : Type) [Readable α] (φ : Nat → Nat) : Prop :=
  ∀ r : Rule, (Readable.standsFor? (r.renumber φ) : Option (α → Bool)) = Readable.standsFor? r

/-- Active places with their handles replaced. -/
def renumberPlaces (φ : Nat → Nat) (active : List (Nat × Nat)) : List (Nat × Nat) :=
  active.map (Prod.map φ id)

theorem mem_renumberPlaces (hφ : Function.Injective φ) {handle pos : Nat}
    {active : List (Nat × Nat)} :
    (φ handle, pos) ∈ renumberPlaces φ active ↔ (handle, pos) ∈ active :=
  List.mem_map_of_injective (hφ.prodMap Function.injective_id) (a := (handle, pos))

section Leaves

variable (φ) (input : Input α) (a : Atom) (pos : Nat)

theorem accepts_renumber (count : Nat) :
    accepts input (a.renumber φ) count pos = accepts input a count pos := by
  rw [accepts, accepts, Atom.mark_renumber, Atom.anchoredEnd_renumber]
  rfl

theorem leaf_renumber (stop : Nat) :
    (leaf input (a.renumber φ) pos stop).value = (leaf input a pos stop).value.renumber φ := by
  rw [leaf, leaf, Noted.value_bind, Noted.value_bind, settle_value, settle_value,
    SyntaxTree.renumber_settle, SyntaxTree.renumber_consume, SyntaxTree.renumber_begin,
    Atom.handle_renumber]
  rfl

theorem some_leaf_renumber (stop : Nat) :
    (some <$> leaf input (a.renumber φ) pos stop).value =
      (some <$> leaf input a pos stop).value.map (SyntaxTree.renumber φ) :=
  congrArg some (leaf_renumber φ input a pos stop)

theorem deny_renumber (denied : Option (SyntaxTree α)) :
    (deny input (a.renumber φ) pos (denied.map (SyntaxTree.renumber φ))).value =
      (deny input a pos denied).value.map (SyntaxTree.renumber φ) := by
  have hsome : (denied.map (SyntaxTree.renumber φ)).isSome = denied.isSome := by
    rw [Option.isSome_map]
  have hany : ((denied.map (SyntaxTree.renumber φ)).any fun t => !t.isEmpty) =
      denied.any fun t => !t.isEmpty := by
    cases denied with
    | none => rfl
    | some t => exact congrArg (!·) (SyntaxTree.isEmpty_renumber φ t)
  unfold deny
  rw [hsome, hany, Atom.isLookahead_renumber]
  split
  · split
    · rfl
    · exact some_leaf_renumber φ input a pos pos
  · split
    · rfl
    · rw [Noted.value_bind, Noted.value_bind]
      split
      · exact some_leaf_renumber φ input a pos _
      · rfl

end Leaves

/-! ### One lemma for each function -/

section Functions

variable {g g' : Grammar} {input : Input α} {active : List (Nat × Nat)}
variable {pending : List (List Atom)} {a : Atom} {pos : Nat}

theorem steps_cons_renumber {tree : SyntaxTree α} {atoms : List Atom}
    (hstep : (repeated g' input (renumberPlaces φ active) (renumberAll φ (atoms :: pending))
        (a.renumber φ) tree.stop).value =
      (repeated g input active (atoms :: pending) a tree.stop).value.renumber φ)
    (hrest : ∀ step : SyntaxTree α,
      (steps g' input (renumberPlaces φ active) (renumberAll φ pending)
        ((tree.absorb step).renumber φ) (renumberChain φ atoms)).value =
      (steps g input active pending (tree.absorb step) atoms).value.renumber φ) :
    (steps g' input (renumberPlaces φ active) (renumberAll φ pending) (tree.renumber φ)
        (renumberChain φ (a :: atoms))).value =
      (steps g input active pending tree (a :: atoms)).value.renumber φ := by
  rw [renumberAll] at hstep
  rw [renumberChain, steps_cons_value, steps_cons_value, SyntaxTree.stop_renumber, hstep]
  generalize (repeated g input active (atoms :: pending) a tree.stop).value = step
  dsimp only
  rw [SyntaxTree.matched_renumber, SyntaxTree.isEmpty_children_renumber,
    Atom.isEmpty_renumberChain]
  split
  · rw [SyntaxTree.renumber_settle]
  · split
    · rfl
    · rw [← SyntaxTree.renumber_absorb]
      exact hrest step

theorem repeated_renumber
    (hattempt : a.isLookahead = true →
      (attempt g' input (renumberPlaces φ active) (renumberAll φ pending) (a.renumber φ) pos).value =
      (attempt g input active pending a pos).value.map (SyntaxTree.renumber φ))
    (hturns : ¬a.isLookahead = true →
      (turns g' input (renumberPlaces φ active) (renumberAll φ pending) (a.renumber φ)
        ((SyntaxTree.begin (some a.handle) pos).renumber φ) 0).value =
      (turns g input active pending a (.begin (some a.handle) pos) 0).value.map
        (SyntaxTree.renumber φ) id) :
    (repeated g' input (renumberPlaces φ active) (renumberAll φ pending) (a.renumber φ) pos).value =
      (repeated g input active pending a pos).value.renumber φ := by
  by_cases hl : a.isLookahead = true
  · have hl' : (a.renumber φ).isLookahead = true := by rwa [Atom.isLookahead_renumber]
    rw [repeated_lookahead_value g input _ pending a _ hl,
      repeated_lookahead_value g' input _ _ _ _ hl', hattempt hl, Atom.mark_renumber]
    cases (attempt g input active pending a pos).value with
    | some tree => rfl
    | none =>
      rw [Option.map_none, Option.getD_none, Option.getD_none, Mark.quantifier_renumber]
      split
      · exact leaf_renumber φ input a pos pos
      · rw [SyntaxTree.renumber_deferred, Atom.handle_renumber]
        rfl
  · have hl' : ¬(a.renumber φ).isLookahead = true := by rwa [Atom.isLookahead_renumber]
    replace hturns := hturns hl
    rw [SyntaxTree.renumber_begin, Option.map_some] at hturns
    rw [repeated_turns_value g input _ pending a _ hl,
      repeated_turns_value g' input _ _ _ _ hl', Atom.handle_renumber, hturns]
    obtain ⟨tree, count⟩ := (turns g input active pending a (.begin (some a.handle) pos) 0).value
    simp only [Prod.map_apply, id, SyntaxTree.stop_renumber, accepts_renumber,
      SyntaxTree.renumber_settle]

theorem asks_renumber {count : Nat}
    (hcontinues : (continues g' input (renumberPlaces φ active) (renumberAll φ pending) pos).value =
      (continues g input active pending pos).value) :
    (asks g' input (renumberPlaces φ active) (renumberAll φ pending) (a.renumber φ) count pos).value =
      (asks g input active pending a count pos).value := by
  rw [asks, asks, accepts_renumber, Atom.mark_renumber]
  show (if a.mark.quantifier.lazy && accepts input a count pos then _ else _ : Noted Bool).value = _
  split
  · exact hcontinues
  · rfl

theorem turns_stop_renumber {tree : SyntaxTree α} {count : Nat}
    (hstop : ¬(count < a.mark.quantifier.max ∧ tree.stop < input.size)) :
    (turns g' input (renumberPlaces φ active) (renumberAll φ pending) (a.renumber φ)
        (tree.renumber φ) count).value =
      (turns g input active pending a tree count).value.map (SyntaxTree.renumber φ) id := by
  have hstop' : ¬(count < (a.renumber φ).mark.quantifier.max ∧
      (tree.renumber φ).stop < input.size) := by
    rwa [SyntaxTree.stop_renumber, Atom.mark_renumber]
  rw [turns_stop_value g input _ _ _ _ _ hstop, turns_stop_value g' input _ _ _ _ _ hstop']
  rfl

theorem turns_go_renumber {tree : SyntaxTree α} {count : Nat}
    (hgo : count < a.mark.quantifier.max ∧ tree.stop < input.size)
    (hcontinues :
      (continues g' input (renumberPlaces φ active) (renumberAll φ pending) tree.stop).value =
      (continues g input active pending tree.stop).value)
    (hattempt :
      (attempt g' input (renumberPlaces φ active) (renumberAll φ pending) (a.renumber φ)
        tree.stop).value =
      (attempt g input active pending a tree.stop).value.map (SyntaxTree.renumber φ))
    (hnext : ∀ turn : SyntaxTree α, tree.stop < turn.stop →
      (turns g' input (renumberPlaces φ active) (renumberAll φ pending) (a.renumber φ)
        ((tree.merge turn).renumber φ) (count + 1)).value =
      (turns g input active pending a (tree.merge turn) (count + 1)).value.map
        (SyntaxTree.renumber φ) id) :
    (turns g' input (renumberPlaces φ active) (renumberAll φ pending) (a.renumber φ)
        (tree.renumber φ) count).value =
      (turns g input active pending a tree count).value.map (SyntaxTree.renumber φ) id := by
  have hgo' : count < (a.renumber φ).mark.quantifier.max ∧
      (tree.renumber φ).stop < input.size := by
    rwa [SyntaxTree.stop_renumber, Atom.mark_renumber]
  rw [turns_go_value g input _ _ _ _ _ hgo, turns_go_value g' input _ _ _ _ _ hgo',
    SyntaxTree.stop_renumber, asks_renumber hcontinues, hattempt, Atom.mark_renumber]
  split
  · rfl
  · cases (attempt g input active pending a tree.stop).value with
    | none => rfl
    | some turn =>
      simp only [Option.map_some, SyntaxTree.stop_renumber, ← SyntaxTree.renumber_merge]
      split
      · next hlt => exact hnext turn hlt
      · rfl

theorem attempt_renumber
    (honce :
      (once g' input (renumberPlaces φ active) (renumberAll φ pending) (a.renumber φ) pos).value =
      (once g input active pending a pos).value.map (SyntaxTree.renumber φ)) :
    (attempt g' input (renumberPlaces φ active) (renumberAll φ pending) (a.renumber φ) pos).value =
      (attempt g input active pending a pos).value.map (SyntaxTree.renumber φ) := by
  rw [attempt_value, attempt_value, honce, Atom.isLookahead_renumber, Atom.mark_renumber]
  show (if a.isLookahead || a.mark.inverted then _ else _) = _
  split
  · exact deny_renumber φ input a pos _
  · rfl

theorem once_leaf_renumber (m : Mark) (l : Leaf) :
    (once g' input (renumberPlaces φ active) (renumberAll φ pending)
        ((Atom.leaf m l).renumber φ) pos).value =
      (once g input active pending (.leaf m l) pos).value.map (SyntaxTree.renumber φ) := by
  rw [Atom.renumber, once_leaf_value, once_leaf_value]
  cases (input.test l.pattern pos).value with
  | none => rfl
  | some stop => exact congrArg some (leaf_renumber φ input (.leaf m l) pos stop)

section References

variable {m : Mark} {name : String} {r : Rule} (h : g.Mirrored φ g')

include h

theorem once_undefined_renumber (hr : g.find? name = none) :
    (once g' input (renumberPlaces φ active) (renumberAll φ pending)
        ((Atom.reference m name).renumber φ) pos).value =
      (once g input active pending (.reference m name) pos).value.map (SyntaxTree.renumber φ) := by
  have hr' : g'.find? name = none := by rw [h.find?, hr, Option.map_none]
  rw [Atom.renumber, once_undefined_value g input _ _ _ m hr,
    once_undefined_value g' input _ _ _ _ hr', Option.map_none]

theorem once_unit_renumber (hs : IgnoresHandles α φ) {hit : α → Bool}
    (hr : g.find? name = some r) (hu : Readable.standsFor? r = some hit) :
    (once g' input (renumberPlaces φ active) (renumberAll φ pending)
        ((Atom.reference m name).renumber φ) pos).value =
      (once g input active pending (.reference m name) pos).value.map (SyntaxTree.renumber φ) := by
  have hr' : g'.find? name = some (r.renumber φ) := by rw [h.find?, hr, Option.map_some]
  have hu' : Readable.standsFor? (r.renumber φ) = some hit := by rw [hs, hu]
  rw [Atom.renumber, once_unit_value g input _ _ _ m hr hu,
    once_unit_value g' input _ _ _ _ hr' hu']
  split
  · exact congrArg some (leaf_renumber φ input (.reference m name) pos _)
  · rfl

theorem once_rule_renumber (hs : IgnoresHandles α φ) (hr : g.find? name = some r)
    (hu : Readable.standsFor? (α := α) r = none)
    (hsteps : (r.handle, pos) ∉ active → pos < input.size →
      (steps g' input (renumberPlaces φ ((r.handle, pos) :: active)) (renumberAll φ pending)
        ((SyntaxTree.begin (some r.handle) pos).renumber φ) (renumberChain φ [r.head])).value =
      (steps g input ((r.handle, pos) :: active) pending (.begin (some r.handle) pos)
        [r.head]).value.renumber φ) :
    (once g' input (renumberPlaces φ active) (renumberAll φ pending)
        ((Atom.reference m name).renumber φ) pos).value =
      (once g input active pending (.reference m name) pos).value.map (SyntaxTree.renumber φ) := by
  have hr' : g'.find? name = some (r.renumber φ) := by rw [h.find?, hr, Option.map_some]
  have hu' : Readable.standsFor? (α := α) (r.renumber φ) = none := by rw [hs, hu]
  have hactive : (φ r.handle, pos) ∉ renumberPlaces φ active ↔ (r.handle, pos) ∉ active :=
    not_congr (mem_renumberPlaces h.injective)
  rw [Atom.renumber, once_rule_value g input _ _ _ m hr hu,
    once_rule_value g' input _ _ _ _ hr' hu']
  show (if pos < input.size ∧ (φ r.handle, pos) ∉ renumberPlaces φ active then _ else _) = _
  simp only [hactive]
  split
  · next hp =>
    have htree := hsteps hp.2 hp.1
    rw [SyntaxTree.renumber_begin] at htree
    replace htree : (steps g' input (((r.renumber φ).handle, pos) :: renumberPlaces φ active)
      (renumberAll φ pending) (.begin (some (r.renumber φ).handle) pos)
      [(r.renumber φ).head]).value = _ := htree
    rw [htree, SyntaxTree.matched_renumber]
    split <;> rfl
  · rfl

end References

theorem choose_cons_renumber {atoms : List Atom} {alternatives : List (List Atom)}
    {fallback : Option (SyntaxTree α)}
    (hsteps : (steps g' input (renumberPlaces φ active) (renumberAll φ pending)
      ((SyntaxTree.begin (atoms.head?.map Atom.handle) pos).renumber φ)
        (renumberChain φ atoms)).value =
      (steps g input active pending (.begin (atoms.head?.map Atom.handle) pos)
        atoms).value.renumber φ)
    (hnext : ∀ tree : SyntaxTree α,
      (choose g' input (renumberPlaces φ active) (renumberAll φ pending)
        (renumberAll φ alternatives) pos
        ((fallback.or (if tree.matched then some tree else none)).map
          (SyntaxTree.renumber φ))).value =
      (choose g input active pending alternatives pos
        (fallback.or (if tree.matched then some tree else none))).value.map
          (SyntaxTree.renumber φ)) :
    (choose g' input (renumberPlaces φ active) (renumberAll φ pending)
        (renumberAll φ (atoms :: alternatives)) pos
        (fallback.map (SyntaxTree.renumber φ))).value =
      (choose g input active pending (atoms :: alternatives) pos fallback).value.map
        (SyntaxTree.renumber φ) := by
  rw [SyntaxTree.renumber_begin] at hsteps
  rw [renumberAll, choose_cons_value, choose_cons_value, Atom.head?_renumberChain, hsteps]
  generalize (steps g input active pending (.begin (atoms.head?.map Atom.handle) pos)
    atoms).value = tree
  have hfallback : (fallback.map (SyntaxTree.renumber φ)).or
      (if tree.matched then some (tree.renumber φ) else none) =
      (fallback.or (if tree.matched then some tree else none)).map (SyntaxTree.renumber φ) := by
    cases fallback with
    | some t => rfl
    | none =>
      rw [Option.map_none, Option.none_or, Option.none_or]
      split <;> rfl
  dsimp only
  rw [SyntaxTree.isAbsolute_renumber, SyntaxTree.matched_renumber, hfallback]
  split
  · rfl
  · exact hnext tree

theorem continues_pending_renumber {atoms : List Atom} {outer : List (List Atom)}
    (hsteps : (steps g' input (renumberPlaces φ active) (renumberAll φ outer)
      ((SyntaxTree.begin (some a.handle) pos).renumber φ) (renumberChain φ (a :: atoms))).value =
      (steps g input active outer (.begin (some a.handle) pos) (a :: atoms)).value.renumber φ)
    (hnext : ∀ tree : SyntaxTree α,
      (continues g' input (renumberPlaces φ active) (renumberAll φ outer) tree.stop).value =
      (continues g input active outer tree.stop).value) :
    (continues g' input (renumberPlaces φ active) (renumberAll φ ((a :: atoms) :: outer))
        pos).value =
      (continues g input active ((a :: atoms) :: outer) pos).value := by
  rw [SyntaxTree.renumber_begin, Option.map_some, renumberChain] at hsteps
  rw [renumberAll, renumberChain, continues_pending_value, continues_pending_value,
    Atom.handle_renumber, hsteps]
  dsimp only
  rw [SyntaxTree.matched_renumber, SyntaxTree.stop_renumber, hnext]

end Functions

/-! ### All runs -/

section Runs

variable {g g' : Grammar} (h : g.Mirrored φ g') (hs : IgnoresHandles α φ) (input : Input α)

include h hs

/-- **Matching commutes with renumbering.** -/
theorem matching_renumber :
    (∀ active pending (tree : SyntaxTree α) atoms,
      (steps g' input (renumberPlaces φ active) (renumberAll φ pending) (tree.renumber φ)
        (renumberChain φ atoms)).value =
        (steps g input active pending tree atoms).value.renumber φ) ∧
    (∀ active pending a pos,
      (repeated g' input (renumberPlaces φ active) (renumberAll φ pending) (a.renumber φ)
        pos).value = (repeated g input active pending a pos).value.renumber φ) ∧
    (∀ active pending a (tree : SyntaxTree α) count,
      (turns g' input (renumberPlaces φ active) (renumberAll φ pending) (a.renumber φ)
        (tree.renumber φ) count).value =
        (turns g input active pending a tree count).value.map (SyntaxTree.renumber φ) id) ∧
    (∀ active pending a pos,
      (attempt g' input (renumberPlaces φ active) (renumberAll φ pending) (a.renumber φ)
        pos).value =
        (attempt g input active pending a pos).value.map (SyntaxTree.renumber φ)) ∧
    (∀ active pending a pos,
      (once g' input (renumberPlaces φ active) (renumberAll φ pending) (a.renumber φ) pos).value =
        (once g input active pending a pos).value.map (SyntaxTree.renumber φ)) ∧
    (∀ active pending alternatives pos (fallback : Option (SyntaxTree α)),
      (choose g' input (renumberPlaces φ active) (renumberAll φ pending)
        (renumberAll φ alternatives) pos (fallback.map (SyntaxTree.renumber φ))).value =
        (choose g input active pending alternatives pos fallback).value.map
          (SyntaxTree.renumber φ)) ∧
    (∀ active pending pos,
      (continues g' input (renumberPlaces φ active) (renumberAll φ pending) pos).value =
        (continues g input active pending pos).value) := by
  -- The induction is along the calls with the first numbering.
  refine steps.mutual_induct g input _ _ _ _ _ _ _
    ?stepsNil ?stepsCons ?repeatedLookahead ?repeatedTurns ?turnsGo ?turnsStop ?attempt ?onceLeaf
    ?onceUndefined ?onceUnit ?onceActive ?onceEnter ?onceEnd ?onceGroup ?chooseNil ?chooseCons
    ?continuesNil ?continuesDone ?continuesPending
  case stepsNil =>
    intro active pending tree
    rw [renumberChain, steps_nil_value, steps_nil_value, SyntaxTree.renumber_settle]
  case stepsCons =>
    intro active pending tree a atoms hstep hrest
    exact steps_cons_renumber hstep hrest
  case repeatedLookahead =>
    intro active pending a pos hl hattempt
    exact repeated_renumber (fun _ => hattempt) (fun hn => absurd hl hn)
  case repeatedTurns =>
    intro active pending a pos hl hturns
    exact repeated_renumber (fun hn => absurd hn hl) (fun _ => hturns)
  case turnsGo =>
    intro active pending a tree count hgo hcontinues hattempt hnext
    exact turns_go_renumber hgo hcontinues hattempt hnext
  case turnsStop =>
    intro active pending a tree count hstop
    exact turns_stop_renumber hstop
  case attempt =>
    intro active pending a pos honce
    exact attempt_renumber honce
  case onceLeaf =>
    intro active pending pos m l
    exact once_leaf_renumber m l
  case onceUndefined =>
    intro active pending pos m name hr
    exact once_undefined_renumber h hr
  case onceUnit =>
    intro active pending pos m name r hr hit hu
    exact once_unit_renumber h hs hr hu
  case onceActive =>
    intro active pending pos m name r hr hu hp ha
    exact once_rule_renumber h hs hr hu fun hn _ => absurd ha hn
  case onceEnter =>
    intro active pending pos m name r hr hu hp ha hsteps
    exact once_rule_renumber h hs hr hu fun _ _ => hsteps
  case onceEnd =>
    intro active pending pos m name r hr hu hp
    exact once_rule_renumber h hs hr hu fun _ hlt => absurd hlt hp
  case onceGroup =>
    intro active pending pos m lookahead value alternatives hchoose
    rw [Atom.renumber, once_group_value, once_group_value]
    exact hchoose
  case chooseNil =>
    intro active pending pos fallback
    rw [renumberAll, choose_nil_value, choose_nil_value]
  case chooseCons =>
    intro active pending pos fallback atoms alternatives head hsteps hnext
    simp only [dite_eq_ite] at hnext
    exact choose_cons_renumber hsteps hnext
  case continuesNil =>
    intro active pos
    rw [renumberAll, continues_nil_value, continues_nil_value]
  case continuesDone =>
    intro active pos outer hnext
    rw [renumberAll, renumberChain, continues_done_value, continues_done_value, hnext]
  case continuesPending =>
    intro active pos a atoms outer hsteps hnext
    exact continues_pending_renumber hsteps hnext

theorem run_renumber (atoms : List Atom) (pos : Nat) :
    (run g' input (renumberChain φ atoms) pos).value =
      (run g input atoms pos).value.renumber φ := by
  cases atoms with
  | nil => rw [renumberChain, run, run, Noted.value_pure, SyntaxTree.renumber_deferred]; rfl
  | cons a atoms =>
    have hsteps := (matching_renumber h hs input).1 [(a.handle, pos)] []
      (.begin (some a.handle) pos) (a :: atoms)
    rw [SyntaxTree.renumber_begin, renumberChain] at hsteps
    rw [renumberChain, run, run, Atom.handle_renumber]
    split
    · exact hsteps
    · rw [Noted.value_pure, Noted.value_pure, SyntaxTree.renumber_deferred]
      rfl

/-- The rule that is found first is the same. -/
theorem firstAbsolute_renumber (pos : Nat) (rules : List Rule) :
    (firstAbsolute g' input pos (rules.map (Rule.renumber φ))).value =
      (firstAbsolute g input pos rules).value.map
        (Prod.map (Rule.renumber φ) (SyntaxTree.renumber φ)) := by
  induction rules with
  | nil => rfl
  | cons r rules ih =>
    have hrun : (runRule g' input (r.renumber φ) pos).value =
        (runRule g input r pos).value.renumber φ := run_renumber h hs input [r.head] pos
    rw [List.map_cons, firstAbsolute, firstAbsolute, Noted.value_bind, Noted.value_bind, hrun,
      SyntaxTree.isAbsolute_renumber]
    split
    · rfl
    · exact ih

end Runs

end Matching

end Lexigram
