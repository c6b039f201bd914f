import Lexigram.Proofs.Arena
import Lexigram.Proofs.Reading
import Lexigram.Proofs.Values
import Mathlib

/-!
# Rules that only call themselves

A rule whose alternatives are nothing but calls of itself is left out of a grammar. Nothing is lost
with it: were it in the grammar, it would never consume anything.

**Idle attempts** (`SyntaxTree.Idle`). An attempt that began and ended at the same position, whether
it matched or not.

**Idle atoms** (`attempt_idle`). Where the rule is active, a call of it is refused. A lookahead
consumes nothing in any case, and a group consumes what its alternatives consume. So the induction
is on the alternatives, with the rule active at a position that never changes; quantifiers have no
say in it, because a turn that consumed nothing is the last.

Main result: `Builder.selfCalls_consume_nothing`.
-/

namespace Lexigram

namespace SyntaxTree

variable {α : Type} {t turn : SyntaxTree α} {pos : Nat}

/-- The attempt begins and ends at a position. -/
def Idle (t : SyntaxTree α) (pos : Nat) : Prop := t.start = pos ∧ t.stop = pos

theorem Idle.begin (rule : Option Nat) (pos : Nat) : (begin rule pos : SyntaxTree α).Idle pos :=
  ⟨rfl, rfl⟩

theorem Idle.settle (h : t.Idle pos) (state : MatchState) : (t.settle state).Idle pos := by
  unfold SyntaxTree.settle
  split
  · exact h
  · exact h

theorem Idle.merge (h : t.Idle pos) (hturn : turn.Idle pos) : (t.merge turn).Idle pos := by
  refine ⟨?_, (stop_merge t turn).trans hturn.2⟩
  unfold SyntaxTree.merge
  split
  · exact h.1
  · exact h.1

theorem Idle.not_isAbsolute (h : t.Idle pos) : t.isAbsolute = false := by
  simp [isAbsolute, isEmpty, h.1, h.2]

end SyntaxTree

namespace Matching

open Builder (onlySelfCalls)

variable {α : Type} [Readable α] {g : Grammar} {input : Input α} {active : List (Nat × Nat)}
variable {pending : List (List Atom)} {a : Atom} {pos : Nat}

/-! ## One lemma for each function -/

theorem leaf_idle (input : Input α) (a : Atom) (pos : Nat) :
    (leaf input a pos pos).value.Idle pos := by
  have hbegin : ((SyntaxTree.begin (some a.handle) pos).consume
      (input.slice pos pos).value pos).Idle pos := ⟨rfl, rfl⟩
  exact hbegin.settle .resolved

theorem turns_idle {tree : SyntaxTree α} {count : Nat} (htree : tree.Idle pos)
    (hattempt : ∀ turn ∈ (attempt g input active pending a pos).value, turn.Idle pos) :
    (turns g input active pending a tree count).value.1.Idle pos := by
  by_cases hgo : count < a.mark.quantifier.max ∧ tree.stop < input.size
  · rw [turns_go_value g input active pending a tree count hgo]
    split
    · exact htree
    · split
      · exact htree
      · next turn hturn =>
        rw [htree.2] at hturn
        have hidle := hattempt turn hturn
        -- The turn consumed nothing, so there is no other behind it.
        rw [if_neg (by rw [htree.2, hidle.2]; exact Nat.lt_irrefl pos)]
        exact htree.merge hidle
  · rw [turns_stop_value g input active pending a tree count hgo]
    exact htree

theorem repeated_idle
    (hattempt : ∀ turn ∈ (attempt g input active pending a pos).value, turn.Idle pos) :
    (repeated g input active pending a pos).value.Idle pos := by
  by_cases hl : a.isLookahead = true
  · rw [repeated_lookahead_value g input active pending a pos hl]
    cases hvalue : (attempt g input active pending a pos).value with
    | some tree => exact hattempt tree hvalue
    | none =>
      dsimp only [Option.getD_none]
      split
      · exact leaf_idle input a pos
      · exact ⟨rfl, rfl⟩
  · rw [repeated_turns_value g input active pending a pos hl]
    exact (turns_idle (.begin (some a.handle) pos) hattempt).settle _

/-- An alternative of a single atom is the atom, or it fails where it began. -/
theorem steps_single_idle {tree : SyntaxTree α} (htree : tree.Idle pos)
    (hchildren : tree.children = [])
    (hattempt : ∀ turn ∈ (attempt g input active ([] :: pending) a pos).value, turn.Idle pos) :
    (steps g input active pending tree [a]).value.Idle pos := by
  rw [steps_cons_value, htree.2]
  dsimp only
  split
  · exact htree.settle .deferred
  · rw [hchildren]
    exact repeated_idle hattempt

theorem attempt_lookahead_idle (hl : a.isLookahead = true) :
    ∀ tree ∈ (attempt g input active pending a pos).value, tree.Idle pos := by
  intro tree htree
  rw [attempt_value, hl, Bool.true_or, if_pos rfl, deny, if_pos hl] at htree
  split at htree
  · cases htree
  · cases htree
    exact leaf_idle input a pos

/-- What the choices among alternatives find, whatever is kept from those before. -/
def ChoosesIdle (g : Grammar) (input : Input α) (active : List (Nat × Nat))
    (pending alternatives : List (List Atom)) (pos : Nat) : Prop :=
  ∀ fallback : Option (SyntaxTree α), (∀ tree ∈ fallback, tree.Idle pos) →
    ∀ tree ∈ (choose g input active pending alternatives pos fallback).value, tree.Idle pos

theorem choosesIdle_nil : ChoosesIdle g input active pending [] pos := by
  intro fallback hfallback
  rw [choose_nil_value]
  exact hfallback

theorem choosesIdle_cons {alternatives : List (List Atom)}
    (hattempt : ∀ turn ∈ (attempt g input active ([] :: pending) a pos).value, turn.Idle pos)
    (hrest : ChoosesIdle g input active pending alternatives pos) :
    ChoosesIdle g input active pending ([a] :: alternatives) pos := by
  intro fallback hfallback
  have htree : (steps g input active pending (.begin (some a.handle) pos) [a]).value.Idle pos :=
    steps_single_idle (.begin _ pos) rfl hattempt
  rw [choose_cons_value]
  dsimp only [List.head?_cons, Option.map_some]
  rw [htree.not_isAbsolute, if_neg Bool.false_ne_true]
  apply hrest
  intro tree hmem
  cases fallback with
  | some first => exact hfallback tree hmem
  | none =>
    rw [Option.none_or] at hmem
    split at hmem
    · cases hmem
      exact htree
    · cases hmem

/-- A group whose alternatives consume nothing consumes nothing. -/
theorem attempt_group_idle {m : Mark} {lookahead : Bool} {value : List Char}
    {alternatives : List (List Atom)} (hm : m.inverted = false)
    (halternatives : ChoosesIdle g input active pending alternatives pos) :
    ∀ tree ∈ (attempt g input active pending (.group m lookahead value alternatives) pos).value,
      tree.Idle pos := by
  cases lookahead with
  | true => exact attempt_lookahead_idle rfl
  | false =>
    intro tree htree
    have hplain : (Atom.group m false value alternatives).mark.inverted = false := hm
    rw [attempt_value, hplain] at htree
    exact halternatives none nofun tree (once_group_value g input active pending pos m .. ▸ htree)

/-! ## Rules that only call themselves -/

section SelfCalls

variable {id : String} {r : Rule} (hr : g.find? id = some r)
  (hu : Readable.standsFor? (α := α) r = none)
include hr hu

/-- Where a rule is active, a call of it is refused. -/
theorem attempt_call_refused {m : Mark} (hm : m.inverted = false)
    (hactive : (r.handle, pos) ∈ active) :
    (attempt g input active pending (.reference m id) pos).value = none := by
  have hplain : (Atom.reference m id).mark.inverted = false := hm
  rw [attempt_value, hplain, if_neg (by simp [Atom.isLookahead]),
    once_rule_value g input active pending pos m hr hu, if_neg fun h => h.2 hactive]

theorem choosesIdle_of_onlySelfCalls (hactive : (r.handle, pos) ∈ active)
    {alternatives : List (List Atom)} (h : onlySelfCalls id alternatives = true) :
    ChoosesIdle g input active pending alternatives pos := by
  induction alternatives using Builder.onlySelfCalls.induct generalizing pending with
  | case1 => exact choosesIdle_nil
  | case2 m name alternatives ih =>
    simp only [onlySelfCalls, Bool.and_eq_true, Bool.not_eq_true', beq_iff_eq] at h
    obtain ⟨⟨hm, rfl⟩, hrest⟩ := h
    refine choosesIdle_cons (fun turn hturn => ?_) (ih hrest)
    rw [attempt_call_refused hr hu hm hactive] at hturn
    cases hturn
  | case3 m lookahead value inner alternatives ihinner ihrest =>
    simp only [onlySelfCalls, Bool.and_eq_true, Bool.not_eq_true'] at h
    obtain ⟨⟨⟨hm, -⟩, hinner⟩, hrest⟩ := h
    exact choosesIdle_cons (attempt_group_idle hm (ihinner hinner)) (ihrest hrest)
  | case4 => simp [onlySelfCalls] at h

/-- **A rule that only calls itself consumes nothing**, wherever it is entered and whatever is
active and pending there. -/
theorem steps_rule_idle (h : onlySelfCalls id r.alternatives = true)
    (active : List (Nat × Nat)) (pending : List (List Atom)) (pos : Nat) :
    (steps g input ((r.handle, pos) :: active) pending (.begin (some r.handle) pos)
      [r.head]).value.Idle pos := by
  apply steps_single_idle (.begin _ pos) rfl
  exact attempt_group_idle rfl (choosesIdle_of_onlySelfCalls hr hu List.mem_cons_self h)

theorem runRule_idle (h : onlySelfCalls id r.alternatives = true) (pos : Nat) :
    (runRule g input r pos).value.Idle pos := by
  unfold runRule run
  dsimp only
  split
  · exact steps_rule_idle hr hu h [] [] pos
  · exact ⟨rfl, rfl⟩

theorem once_call_idle (h : onlySelfCalls id r.alternatives = true) (m : Mark) :
    ∀ tree ∈ (once g input active pending (.reference m id) pos).value, tree.Idle pos := by
  intro tree htree
  rw [once_rule_value g input active pending pos m hr hu] at htree
  dsimp only at htree
  split at htree
  · split at htree
    · cases htree
      exact steps_rule_idle hr hu h active pending pos
    · cases htree
  · cases htree

end SelfCalls

/-- Wherever the rule is tried, and whoever calls it, it is never an absolute match. -/
structure Fruitless (g : Grammar) (input : Input α) (r : Rule) : Prop where
  alone : ∀ pos, (runRule g input r pos).value.isAbsolute = false
  within : ∀ active pending pos, (steps g input ((r.handle, pos) :: active) pending
    (.begin (some r.handle) pos) [r.head]).value.isAbsolute = false
  called : ∀ active pending m pos,
    ∀ tree ∈ (once g input active pending (.reference m r.id) pos).value, tree.isAbsolute = false

theorem fruitless_of_onlySelfCalls {id : String} {r : Rule} (hr : g.find? id = some r)
    (hu : Readable.standsFor? (α := α) r = none) (h : onlySelfCalls id r.alternatives = true) :
    Fruitless g input r where
  alone pos := (runRule_idle hr hu h pos).not_isAbsolute
  within active pending pos := (steps_rule_idle hr hu h active pending pos).not_isAbsolute
  called active pending m pos tree htree := by
    rw [(Rule.findIn?_eq_some hr).2] at htree
    exact (once_call_idle hr hu h m tree htree).not_isAbsolute

end Matching

namespace Builder

open Matching (Fruitless)

/-- A definition whose body only calls its own rule leaves the rules as they were. -/
theorem compile_selfCalls {b : Builder} {d : Definition} {alternatives : List (List Atom)}
    {command : Option Command} (hid : d.id ≠ "")
    (hread : (Rule.readBody d.id b.settings.cap (Rule.nextHandle b.blocks) d.body.toList).result =
      .ok (alternatives, command))
    (hfatal : isFatallyRecursive d.id alternatives = true) :
    (b.compile d).2 = .error (.fatalRecursion d.id) ∧ (b.compile d).1.rules = b.rules ∧
      (b.compile d).1.blocks = b.blocks := by
  have hbody : (b.bodyOf d).result = .ok (alternatives, command) := (bodyOf_result b d).trans hread
  have hrule : (b.ruleOf d).result = .error (.fatalRecursion d.id) := by
    simp [ruleOf, hid, Checked.warn, hbody, hfatal, bind]
  have hcompile : b.compile d = (b.report (b.ruleOf d).diagnostics, .error (.fatalRecursion d.id)) := by
    unfold compile
    split
    · next hok => rw [hok] at hrule; cases hrule
    · next herror => rw [herror] at hrule ⊢; cases hrule; rfl
  rw [hcompile]
  exact ⟨rfl, rfl, rfl⟩

/-- **Nothing is lost with a rule that only calls itself.** A builder leaves such a rule out. In
every grammar that has it all the same, it is never an absolute match of characters, and, as a
parser rule, never one of tokens. -/
theorem selfCalls_consume_nothing {id : String} {cap base : Nat} {body : List Char}
    {alternatives : List (List Atom)} {command : Option Command}
    (hread : (Rule.readBody id cap base body).result = .ok (alternatives, command))
    (hfatal : isFatallyRecursive id alternatives = true) :
    (∀ (b : Builder) (d : Definition), d.id = id → d.body.toList = body → b.settings.cap = cap →
      Rule.nextHandle b.blocks = base → id ≠ "" →
        (b.compile d).2 = .error (.fatalRecursion id) ∧ (b.compile d).1.rules = b.rules ∧
          (b.compile d).1.blocks = b.blocks) ∧
    ∀ (g : Grammar) (r : Rule), g.find? id = some r → r.alternatives = alternatives →
      (∀ input : Input Char, Fruitless g input r) ∧
      (r.kind = .parser → ∀ input : Input Token, Fruitless g input r) := by
  constructor
  · rintro b d rfl rfl rfl rfl hid
    exact compile_selfCalls hid hread hfatal
  · rintro g r hr rfl
    have hself : onlySelfCalls id r.alternatives = true := by
      rw [isFatallyRecursive, Bool.and_eq_true] at hfatal
      exact hfatal.2
    refine ⟨fun input => Matching.fruitless_of_onlySelfCalls hr rfl hself, fun hkind input => ?_⟩
    have hu : Readable.standsFor? (α := Token) r = none := by
      simp [Readable.standsFor?, hkind, RuleKind.isLexer]
    exact Matching.fruitless_of_onlySelfCalls hr hu hself

/-- A parser rule that calls itself from a lookahead within a lazy repetition. -/
def callingItself : Rule where
  id := "r"
  kind := .parser
  handle := 2
  alternatives := [
    [.group ⟨3, false, { Quantifier.zeroOrMore with lazy := true }⟩ false
      ['r', '+', ' ', '|', ' ', '(', '?', '!', ' ', 'r', ')']
      [[.reference ⟨4, false, .oneOrMore⟩ "r"],
        [.group ⟨5, false, .once⟩ true ['r'] [[.reference ⟨6, false, .once⟩ "r"]]]]],
    [.reference ⟨7, false, .once⟩ "r"]]

/-- The lookahead succeeds, so the rule matches the empty text. -/
theorem callingItself_consumes_nothing :
    let body := "(r+ | (?! r))*? | r"
    let g : Grammar :=
      { name := none, parent := none, settings := {}, blocks := [callingItself],
        rules := [callingItself], diagnostics := [] }
    (Rule.readBody "r" Quantifier.unbounded 2 body.toList).result =
        .ok (callingItself.alternatives, none) ∧
      isFatallyRecursive "r" callingItself.alternatives = true ∧
      (({} : Builder).compile { id := "r", body }).2 = .error (.fatalRecursion "r") ∧
      g.find? "r" = some callingItself ∧
      (∀ input : Input Char, Fruitless g input callingItself) ∧
      (∀ input : Input Token, Fruitless g input callingItself) ∧
      (Matching.runRule g (.ofUnits ['x']) callingItself 0).value.matched = true := by
  intro body g
  have hread : Rule.readBody "r" Quantifier.unbounded 2 body.toList =
      ⟨[], .ok (callingItself.alternatives, none)⟩ := by
    have hchars : body.toList =
        ['(', 'r', '+', ' ', '|', ' ', '(', '?', '!', ' ', 'r', ')', ')', '*', '?', ' ', '|', ' ',
          'r'] := by
      decide
    rw [hchars]
    with_unfolding_all rfl
  have hfatal : isFatallyRecursive "r" callingItself.alternatives = true := by cbv
  obtain ⟨hdropped, hfruitless⟩ := selfCalls_consume_nothing (congrArg Checked.result hread) hfatal
  have hg : g.find? "r" = some callingItself := by rfl
  obtain ⟨hleftOut, -⟩ := hdropped {} { id := "r", body } rfl rfl rfl rfl (by decide)
  obtain ⟨hchars, htokens⟩ := hfruitless g callingItself hg rfl
  exact ⟨congrArg Checked.result hread, hfatal, hleftOut, hg, hchars, htokens rfl, by cbv⟩

end Builder

end Lexigram
