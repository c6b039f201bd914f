import Lexigram.Proofs.Arena
import Lexigram.Proofs.Calls
import Lexigram.Proofs.Endings
import Mathlib

/-!
# Redundant parentheses

A group that holds a single alternative and is neither repeated nor inverted nor a lookahead only
puts its atoms in parentheses. Without the parentheses a rule matches the same, except that a group
has to begin before the end of the input, whatever it holds.

**Unwrapping** (`Atom.unwrap`, `Rule.unwrap`, `Grammar.unwrap`). The atoms of such a group take its
place. **Correspondence** (`ChainUnwraps`, `PendingUnwraps`). Atoms, and lists of pending atoms,
some of whose groups may have been unwrapped. A chain inside a group is pending apart from what
follows the group, and without the parentheses it is pending together with it, so pending lists may
also be joined.

**The step** (`matching_unwraps`). Each function of the matcher ends at the same place for
corresponding arguments. A chain is compared together with any atoms behind it (`Continued`), since
that is where an unwrapped chain stands.

Main result: `runRule_unwrap`.
-/

namespace Lexigram

/-! ## Unwrapping -/

/-- The atoms in a pair of redundant parentheses, if a handle is that of such a group. -/
def Atom.wrapped? (handle : Nat) : Atom → Option (List Atom)
  | .group m false _ [atoms] => if m = ⟨handle, false, .once⟩ then some atoms else none
  | _ => none

theorem Atom.wrapped?_eq_some {handle : Nat} {a : Atom} {atoms : List Atom}
    (h : a.wrapped? handle = some atoms) :
    ∃ value, a = .group ⟨handle, false, .once⟩ false value [atoms] := by
  unfold Atom.wrapped? at h
  split at h
  · next m value atoms' =>
    split at h
    · next hm =>
      cases h
      exact ⟨value, by rw [hm]⟩
    · cases h
  · cases h

mutual

/-- A chain without the redundant parentheses that have a handle. -/
def unwrapChain (handle : Nat) : List Atom → List Atom
  | [] => []
  | a :: atoms => a.unwrap handle ++ unwrapChain handle atoms

/-- What takes the place of an atom. -/
def Atom.unwrap (handle : Nat) : Atom → List Atom
  | .leaf m l => [.leaf m l]
  | .reference m name => [.reference m name]
  | .group m lookahead value alternatives =>
    ((Atom.group m lookahead value alternatives).wrapped? handle).getD
      [.group m lookahead value (unwrapAll handle alternatives)]

/-- Some alternatives without the redundant parentheses that have a handle. -/
def unwrapAll (handle : Nat) : List (List Atom) → List (List Atom)
  | [] => []
  | atoms :: alternatives => unwrapChain handle atoms :: unwrapAll handle alternatives

end

/-- A rule without the redundant parentheses that have a handle. -/
def Rule.unwrap (handle : Nat) (r : Rule) : Rule :=
  { r with alternatives := unwrapAll handle r.alternatives }

/-- A grammar whose rules do without the redundant parentheses that have a handle. -/
def Grammar.unwrap (handle : Nat) (g : Grammar) : Grammar :=
  { g with rules := g.rules.map (Rule.unwrap handle) }

/-! ## Correspondence -/

mutual

/-- Two chains of which the second may lack redundant parentheses. -/
inductive ChainUnwraps (handle : Nat) : List Atom → List Atom → Prop
  | nil : ChainUnwraps handle [] []
  | cons {a b atoms atoms'} : AtomUnwraps handle a b → ChainUnwraps handle atoms atoms' →
    ChainUnwraps handle (a :: atoms) (b ++ atoms')

/-- An atom and what may take its place. -/
inductive AtomUnwraps (handle : Nat) : Atom → List Atom → Prop
  | keep {a a'} : AtomAlike handle a a' → AtomUnwraps handle a [a']
  | unwrap {value atoms} :
    AtomUnwraps handle (.group ⟨handle, false, .once⟩ false value [atoms]) atoms

/-- Two atoms that differ at most in what they hold. -/
inductive AtomAlike (handle : Nat) : Atom → Atom → Prop
  | same {a} : AtomAlike handle a a
  | group {m lookahead value alternatives alternatives'} :
    AnyUnwraps handle alternatives alternatives' →
    AtomAlike handle (.group m lookahead value alternatives)
      (.group m lookahead value alternatives')

/-- Alternatives that correspond one by one. -/
inductive AnyUnwraps (handle : Nat) : List (List Atom) → List (List Atom) → Prop
  | nil : AnyUnwraps handle [] []
  | cons {atoms atoms' alternatives alternatives'} : ChainUnwraps handle atoms atoms' →
    AnyUnwraps handle alternatives alternatives' →
    AnyUnwraps handle (atoms :: alternatives) (atoms' :: alternatives')

end

/-- Two pending lists: chain by chain, where several chains may have become one. -/
inductive PendingUnwraps (handle : Nat) : List (List Atom) → List (List Atom) → Prop
  | nil : PendingUnwraps handle [] []
  | cons {atoms atoms' outer outer'} : ChainUnwraps handle atoms atoms' →
    PendingUnwraps handle outer outer' → PendingUnwraps handle (atoms :: outer) (atoms' :: outer')
  | join {atoms atoms' rest outer outer'} : ChainUnwraps handle atoms atoms' →
    PendingUnwraps handle outer (rest :: outer') →
    PendingUnwraps handle (atoms :: outer) ((atoms' ++ rest) :: outer')
  | blank {outer outer'} : PendingUnwraps handle outer outer' →
    PendingUnwraps handle outer ([] :: outer')

/-- Two rules that differ at most in redundant parentheses. -/
def Rule.Unwraps (handle : Nat) (r r' : Rule) : Prop :=
  ∃ alternatives, r' = { r with alternatives } ∧ AnyUnwraps handle r.alternatives alternatives

/-- Two grammars whose rules differ at most in redundant parentheses. -/
def Grammar.Unwraps (handle : Nat) (g g' : Grammar) : Prop :=
  ∀ name, Option.Rel (Rule.Unwraps handle) (g.find? name) (g'.find? name)

section Correspondence

variable {handle : Nat}

theorem ChainUnwraps.refl (atoms : List Atom) : ChainUnwraps handle atoms atoms := by
  induction atoms with
  | nil => exact .nil
  | cons a atoms ih => exact .cons (.keep .same) ih

theorem AnyUnwraps.refl (alternatives : List (List Atom)) :
    AnyUnwraps handle alternatives alternatives := by
  induction alternatives with
  | nil => exact .nil
  | cons atoms alternatives ih => exact .cons (.refl atoms) ih

mutual

theorem chain_unwraps (handle : Nat) : ∀ atoms,
    ChainUnwraps handle atoms (unwrapChain handle atoms)
  | [] => by
    rw [unwrapChain]
    exact .nil
  | a :: atoms => by
    rw [unwrapChain]
    exact .cons (atom_unwraps handle a) (chain_unwraps handle atoms)

theorem atom_unwraps (handle : Nat) : ∀ a, AtomUnwraps handle a (a.unwrap handle)
  | .leaf m l => by
    rw [Atom.unwrap]
    exact .keep .same
  | .reference m name => by
    rw [Atom.unwrap]
    exact .keep .same
  | .group m lookahead value alternatives => by
    have hkeep := any_unwraps handle alternatives
    rw [Atom.unwrap]
    cases hw : (Atom.group m lookahead value alternatives).wrapped? handle with
    | none => exact .keep (.group hkeep)
    | some atoms =>
      obtain ⟨value', heq⟩ := Atom.wrapped?_eq_some hw
      rw [heq]
      exact .unwrap

theorem any_unwraps (handle : Nat) : ∀ alternatives,
    AnyUnwraps handle alternatives (unwrapAll handle alternatives)
  | [] => by
    rw [unwrapAll]
    exact .nil
  | atoms :: alternatives => by
    rw [unwrapAll]
    exact .cons (chain_unwraps handle atoms) (any_unwraps handle alternatives)

end

theorem Grammar.Unwraps.refl (g : Grammar) : g.Unwraps handle g := by
  intro name
  cases g.find? name with
  | none => exact .none
  | some r => exact .some ⟨r.alternatives, rfl, .refl _⟩

theorem Grammar.unwraps (handle : Nat) (g : Grammar) : g.Unwraps handle (g.unwrap handle) := by
  intro name
  have hfind : (g.unwrap handle).find? name = (g.find? name).map (Rule.unwrap handle) := by
    rw [Grammar.find?, Grammar.find?, Rule.findIn?, Rule.findIn?, Grammar.unwrap, List.find?_map]
    rfl
  rw [hfind]
  cases g.find? name with
  | none => exact .none
  | some r => exact .some ⟨_, rfl, any_unwraps handle r.alternatives⟩

theorem Grammar.Unwraps.find?_none {g g' : Grammar} {name : String} (h : g.Unwraps handle g')
    (hr : g.find? name = none) : g'.find? name = none := by
  have hname := h name
  rw [hr] at hname
  generalize g'.find? name = found at hname
  cases hname
  rfl

theorem Grammar.Unwraps.find?_some {g g' : Grammar} {name : String} {r : Rule}
    (h : g.Unwraps handle g') (hr : g.find? name = some r) :
    ∃ alternatives, g'.find? name = some { r with alternatives } ∧
      AnyUnwraps handle r.alternatives alternatives := by
  have hname := h name
  rw [hr] at hname
  generalize g'.find? name = found at hname
  cases hname with
  | some hrule =>
    obtain ⟨alternatives, rfl, hall⟩ := hrule
    exact ⟨alternatives, rfl, hall⟩

theorem AtomAlike.mark_eq {a a' : Atom} (h : AtomAlike handle a a') : a'.mark = a.mark := by
  cases h <;> rfl

theorem AtomAlike.isLookahead_eq {a a' : Atom} (h : AtomAlike handle a a') :
    a'.isLookahead = a.isLookahead := by
  cases h <;> rfl

theorem AtomAlike.anchoredEnd_eq {a a' : Atom} (h : AtomAlike handle a a') :
    a'.anchoredEnd = a.anchoredEnd := by
  cases h <;> rfl

end Correspondence

/-! ## Matching -/

/-- Whether a rule stands for units does not depend on what it holds. -/
class Readable.ByName (α : Type) [Readable α] : Prop where
  standsFor?_alternatives : ∀ (r : Rule) (alternatives : List (List Atom)),
    Readable.standsFor? (α := α) { r with alternatives } = Readable.standsFor? r

instance : Readable.ByName Char := ⟨fun _ _ => rfl⟩

instance : Readable.ByName Token := ⟨fun _ _ => rfl⟩

namespace Matching

variable {α : Type}

/-- A call tries, at the end of the input, a group in redundant parentheses whose atoms match
there. -/
def Call.IsLate (handle size : Nat) (c : Call α) : Prop :=
  ∃ active pending value atoms,
    c = .repeated active pending (.group ⟨handle, false, .once⟩ false value [atoms]) size ∧
      chainAtEnd atoms = true

variable [Readable α]

/-- No call that a call leads to is late. -/
abbrev Timely (handle : Nat) (g : Grammar) (input : Input α) (c : Call α) : Prop :=
  Throughout g input (fun c => ¬c.IsLate handle input.size) c

section Sides

variable (handle : Nat) (g' : Grammar) (input : Input α) (active : List (Nat × Nat))
variable (pending : List (List Atom)) (pos : Nat)

/-- What is matched ends where a chain does on the other side, together with any atoms behind it. -/
def Continued (atoms' : List Atom) (stop? : Option Nat) : Prop :=
  ∀ rest outer, PendingUnwraps handle pending (rest :: outer) →
    chainEnd? g' input active outer pos (atoms' ++ rest) =
      stop?.bind fun stop => chainEnd? g' input active outer stop rest

/-- If an atom is a group in redundant parentheses, its atoms end there on the other side. -/
def Opened (a : Atom) (stop? : Option Nat) : Prop :=
  ∀ value atoms, a = .group ⟨handle, false, .once⟩ false value [atoms] →
    Continued handle g' input active pending pos atoms stop?

end Sides

section Functions

variable {handle : Nat} {g g' : Grammar} {s : List α} {active : List (Nat × Nat)}
variable {pending pending' : List (List Atom)} {a a' : Atom} {atoms : List Atom} {pos count : Nat}

/-! ### Chains -/

theorem continued_nil {input : Input α} :
    Continued handle g' input active pending pos [] (chainEnd? g input active pending pos []) := by
  intro rest outer hpending
  rw [chainEnd?_nil, List.nil_append, Option.bind_some]

theorem continued_cons {input : Input α}
    (hfirst : ∀ b, AtomUnwraps handle a b →
      Continued handle g' input active (atoms :: pending) pos b
        (atomEnd? g input active (atoms :: pending) pos a))
    (hrest : ∀ stop, atomEnd? g input active (atoms :: pending) pos a = some stop →
      ∀ atoms', ChainUnwraps handle atoms atoms' →
        Continued handle g' input active pending stop atoms'
          (chainEnd? g input active pending stop atoms)) :
    ∀ atoms', ChainUnwraps handle (a :: atoms) atoms' →
      Continued handle g' input active pending pos atoms'
        (chainEnd? g input active pending pos (a :: atoms)) := by
  intro atoms' h rest outer hpending
  cases h with
  | cons ha hatoms =>
    rw [List.append_assoc, hfirst _ ha _ outer (.join hatoms hpending), chainEnd?_cons,
      Option.bind_assoc]
    exact Option.bind_congr fun stop hstop => hrest stop hstop _ hatoms rest outer hpending

/-- The other chain has nothing behind it. -/
theorem Continued.alone {input : Input α} {atoms' : List Atom} {stop? : Option Nat}
    (h : Continued handle g' input active pending pos atoms' stop?)
    (hpending : PendingUnwraps handle pending pending') :
    chainEnd? g' input active pending' pos atoms' = stop? := by
  have hnil := h [] pending' (.blank hpending)
  rw [List.append_nil] at hnil
  rw [hnil]
  cases stop? with
  | none => rfl
  | some stop => exact chainEnd?_nil

/-! ### Repetitions -/

theorem continued_keep {input : Input α} {stop? : Option Nat}
    (h : ∀ pending', PendingUnwraps handle pending pending' →
      atomEnd? g' input active pending' pos a' = stop?) :
    Continued handle g' input active pending pos [a'] stop? := by
  intro rest outer hpending
  rw [List.cons_append, List.nil_append, chainEnd?_cons, h _ hpending]

theorem accepts_alike {input : Input α} (h : AtomAlike handle a a') :
    accepts input a' count pos = accepts input a count pos := by
  rw [accepts, accepts, h.mark_eq, h.anchoredEnd_eq]

theorem lookahead_alike (hb : Boundary s pos) (hl : a.isLookahead = true)
    (h : AtomAlike handle a a')
    (hattempt : (attempt g' (.ofUnits s) active pending' a' pos).value.map SyntaxTree.stop =
      (attempt g (.ofUnits s) active pending a pos).value.map SyntaxTree.stop) :
    atomEnd? g' (.ofUnits s) active pending' pos a' =
      atomEnd? g (.ofUnits s) active pending pos a := by
  rw [atomEnd?_lookahead hb hl, atomEnd?_lookahead hb (h.isLookahead_eq.trans hl), hattempt,
    h.mark_eq]

/-- Repetitions that end at the same place after the same number of turns. -/
def EndAlike (turn turn' : SyntaxTree α × Nat) : Prop :=
  turn'.1.stop = turn.1.stop ∧ turn'.2 = turn.2

theorem repetition_alike {input : Input α} (hl : ¬a.isLookahead = true) (h : AtomAlike handle a a')
    (hturns : EndAlike (turns g input active pending a (.begin (some a.handle) pos) 0).value
      (turns g' input active pending' a' (.begin (some a'.handle) pos) 0).value) :
    atomEnd? g' input active pending' pos a' = atomEnd? g input active pending pos a := by
  rw [atomEnd?_turns hl, atomEnd?_turns (by rwa [h.isLookahead_eq]), turnsEnd?, turnsEnd?,
    hturns.1, hturns.2, accepts_alike h]

/-- Where the input has ended, redundant parentheses do not match, and neither do atoms that do not
match there. -/
theorem continued_late {atoms : List Atom} {value : List Char} (hend : chainAtEnd atoms = false) :
    Continued handle g' (.ofUnits s) active pending (Input.ofUnits s).size atoms
      (atomEnd? g (.ofUnits s) active pending (Input.ofUnits s).size
        (.group ⟨handle, false, .once⟩ false value [atoms])) := by
  intro rest outer hpending
  have hboth : chainAtEnd (atoms ++ rest) = false := by
    rw [chainAtEnd_append, hend, Bool.false_and]
  rw [chainEnd?_at_end outer, hboth, atomEnd?_at_end]
  rfl

theorem asks_alike {input : Input α} (h : AtomAlike handle a a')
    (hcontinues : (a.mark.quantifier.lazy && accepts input a count pos) = true →
      (continues g' input active pending' pos).value =
        (continues g input active pending pos).value) :
    (asks g' input active pending' a' count pos).value =
      (asks g input active pending a count pos).value := by
  rw [asks, asks, h.mark_eq, accepts_alike h]
  split
  · next hlazy => exact hcontinues hlazy
  · rfl

theorem turns_stop_alike {input : Input α} {tree tree' : SyntaxTree α} (h : AtomAlike handle a a')
    (hstop : tree'.stop = tree.stop)
    (hover : ¬(count < a.mark.quantifier.max ∧ tree.stop < input.size)) :
    EndAlike (turns g input active pending a tree count).value
      (turns g' input active pending' a' tree' count).value := by
  have hover' : ¬(count < a'.mark.quantifier.max ∧ tree'.stop < input.size) := by
    rwa [h.mark_eq, hstop]
  rw [turns_stop_value _ _ _ _ _ _ _ hover, turns_stop_value _ _ _ _ _ _ _ hover']
  exact ⟨hstop, rfl⟩

theorem turns_go_alike {input : Input α} {tree tree' : SyntaxTree α} (h : AtomAlike handle a a')
    (hstop : tree'.stop = tree.stop)
    (hgo : count < a.mark.quantifier.max ∧ tree.stop < input.size)
    (hasks : (asks g' input active pending' a' count tree.stop).value =
      (asks g input active pending a count tree.stop).value)
    (hattempt : (asks g input active pending a count tree.stop).value = false →
      (attempt g' input active pending' a' tree.stop).value.map SyntaxTree.stop =
        (attempt g input active pending a tree.stop).value.map SyntaxTree.stop)
    (hnext : ∀ turn turn' : SyntaxTree α,
      (asks g input active pending a count tree.stop).value = false →
      (attempt g input active pending a tree.stop).value = some turn → tree.stop < turn.stop →
      (tree'.merge turn').stop = (tree.merge turn).stop →
      EndAlike (turns g input active pending a (tree.merge turn) (count + 1)).value
        (turns g' input active pending' a' (tree'.merge turn') (count + 1)).value) :
    EndAlike (turns g input active pending a tree count).value
      (turns g' input active pending' a' tree' count).value := by
  have hgo' : count < a'.mark.quantifier.max ∧ tree'.stop < input.size := by
    rwa [h.mark_eq, hstop]
  rw [turns_go_value _ _ _ _ _ _ _ hgo, turns_go_value _ _ _ _ _ _ _ hgo', hstop, hasks]
  cases hanswer : (asks g input active pending a count tree.stop).value with
  | true => exact ⟨hstop, rfl⟩
  | false =>
    replace hattempt := hattempt hanswer
    rw [if_neg Bool.false_ne_true, if_neg Bool.false_ne_true]
    cases hturn : (attempt g input active pending a tree.stop).value with
    | none =>
      rw [hturn, Option.map_none, Option.map_eq_none_iff] at hattempt
      rw [hattempt]
      exact ⟨hstop, rfl⟩
    | some turn =>
      rw [hturn, Option.map_some, Option.map_eq_some_iff] at hattempt
      obtain ⟨turn', hturn', hturnStop⟩ := hattempt
      have hmerge : (tree'.merge turn').stop = (tree.merge turn).stop := by
        rw [SyntaxTree.stop_merge, SyntaxTree.stop_merge, hturnStop]
      rw [hturn']
      dsimp only
      rw [hturnStop, h.mark_eq]
      split
      · next hlt => exact hnext turn turn' hanswer hturn hlt hmerge
      · exact ⟨hmerge, rfl⟩

/-! ### One occurrence -/

theorem attempt_alike (hb : Boundary s pos) (h : AtomAlike handle a a')
    (honce : (once g' (.ofUnits s) active pending' a' pos).value.map SyntaxTree.stop =
      (once g (.ofUnits s) active pending a pos).value.map SyntaxTree.stop) :
    (attempt g' (.ofUnits s) active pending' a' pos).value.map SyntaxTree.stop =
      (attempt g (.ofUnits s) active pending a pos).value.map SyntaxTree.stop := by
  rw [attempt_value, attempt_value, h.isLookahead_eq, h.mark_eq]
  split
  · rw [deny_stop (once_found hb a), deny_stop (once_found hb a'), h.isLookahead_eq, honce]
  · exact honce

theorem attempt_wrapped {input : Input α} {value : List Char} :
    (attempt g input active pending (.group ⟨handle, false, .once⟩ false value [atoms]) pos).value =
      (choose g input active pending [atoms] pos none).value := by
  rw [attempt_value, ← once_group_value]
  rfl

theorem once_rule_alike {input : Input α} {m : Mark} {name : String} {r r' : Rule}
    (hr : g.find? name = some r) (hr' : g'.find? name = some r')
    (hu : Readable.standsFor? (α := α) r = none) (hu' : Readable.standsFor? (α := α) r' = none)
    (hhandle : r'.handle = r.handle)
    (hhead : pos < input.size → (r.handle, pos) ∉ active →
      chainEnd? g' input ((r.handle, pos) :: active) pending' pos [r'.head] =
        chainEnd? g input ((r.handle, pos) :: active) pending pos [r.head]) :
    (once g' input active pending' (.reference m name) pos).value.map SyntaxTree.stop =
      (once g input active pending (.reference m name) pos).value.map SyntaxTree.stop := by
  rw [once_rule_value g input _ _ pos m hr hu, once_rule_value g' input _ _ pos m hr' hu', hhandle]
  split
  · next hp =>
    dsimp only
    rw [SyntaxTree.map_stop_matched, SyntaxTree.map_stop_matched, steps_ending rfl,
      steps_ending rfl]
    exact hhead hp.1 hp.2
  · rfl

theorem choose_cons_alike (hb : Boundary s pos) {atoms' : List Atom}
    {alternatives alternatives' : List (List Atom)} {fallback fallback' : Option (SyntaxTree α)}
    (hfallback : fallback'.map SyntaxTree.stop = fallback.map SyntaxTree.stop)
    (hfirst : chainEnd? g' (.ofUnits s) active pending' pos atoms' =
      chainEnd? g (.ofUnits s) active pending pos atoms)
    (hnext : ∀ first : SyntaxTree α,
      (steps g (.ofUnits s) active pending (.begin (atoms.head?.map Atom.handle) pos)
        atoms).value = first → ¬first.isAbsolute = true →
      ∀ fallback', fallback'.map SyntaxTree.stop =
          (fallback.or (if first.matched then some first else none)).map SyntaxTree.stop →
        (choose g' (.ofUnits s) active pending' alternatives' pos
          fallback').value.map SyntaxTree.stop =
        (choose g (.ofUnits s) active pending alternatives pos
          (fallback.or (if first.matched then some first else none))).value.map
            SyntaxTree.stop) :
    (choose g' (.ofUnits s) active pending' (atoms' :: alternatives') pos
        fallback').value.map SyntaxTree.stop =
      (choose g (.ofUnits s) active pending (atoms :: alternatives) pos
        fallback).value.map SyntaxTree.stop := by
  rw [choose_cons_stop hb, choose_cons_stop hb, hfirst]
  dsimp only
  split
  · rfl
  · next ha =>
    rw [← isAbsolute_alternative hb] at ha
    refine hnext _ rfl ha _ ?_
    rw [Option.map_or, Option.map_or, hfallback, SyntaxTree.map_stop_matched,
      SyntaxTree.map_stop_matched, steps_ending rfl, steps_ending rfl]
    exact congrArg _ hfirst

theorem choose_single_stop (hb : Boundary s pos) :
    (choose g (.ofUnits s) active pending [atoms] pos none).value.map SyntaxTree.stop =
      chainEnd? g (.ofUnits s) active pending pos atoms := by
  rw [choose_cons_stop hb]
  dsimp only
  split
  · rfl
  · rw [choose_nil_value, Option.none_or, SyntaxTree.map_stop_matched, steps_ending rfl]
    rfl

/-! ### What is pending -/

theorem continues_nil_unwraps {input : Input α} (h : PendingUnwraps handle [] pending') :
    (continues g' input active pending' pos).value = true := by
  generalize hnil : ([] : List (List Atom)) = inner at h
  induction h with
  | nil => exact continues_nil_value g' input active pos
  | cons => cases hnil
  | join => cases hnil
  | blank _ ih =>
    rw [continues_done_value]
    exact ih hnil

theorem continues_cons_unwraps {input : Input α} {outer : List (List Atom)}
    (hchain : ∀ atoms', ChainUnwraps handle atoms atoms' →
      Continued handle g' input active outer pos atoms'
        (chainEnd? g input active outer pos atoms))
    (hnext : ∀ stop, chainEnd? g input active outer pos atoms = some stop →
      ∀ outer', PendingUnwraps handle outer outer' →
        (continues g' input active outer' stop).value = (continues g input active outer stop).value)
    (h : PendingUnwraps handle (atoms :: outer) pending') :
    (continues g' input active pending' pos).value =
      (continues g input active (atoms :: outer) pos).value := by
  -- The other list may begin with empty chains.
  generalize hcons : atoms :: outer = inner at h
  induction h with
  | nil => cases hcons
  | cons hatoms houter =>
    cases hcons
    rw [continues_cons_value, continues_cons_value, (hchain _ hatoms).alone houter]
    cases hstop : chainEnd? g input active outer pos atoms with
    | none => rfl
    | some stop => exact hnext stop hstop _ houter
  | join hatoms houter =>
    cases hcons
    rw [continues_cons_value, continues_cons_value, hchain _ hatoms _ _ houter]
    cases hstop : chainEnd? g input active outer pos atoms with
    | none => rfl
    | some stop =>
      rw [Option.bind_some, Option.any_some, ← hnext stop hstop _ houter, continues_cons_value]
  | blank _ ih =>
    rw [continues_done_value]
    exact ih hcons

end Functions

/-! ### All runs -/

section Runs

variable {handle : Nat} {g g' : Grammar}

/-- **Corresponding arguments end at the same place.** -/
theorem matching_unwraps [Readable.ByName α] (hg : g.Unwraps handle g') (s : List α) :
    (∀ active pending (tree : SyntaxTree α) atoms, Boundary s tree.stop → tree.state = .pending →
      Timely handle g (.ofUnits s) (.steps active pending tree atoms) →
      ∀ atoms', ChainUnwraps handle atoms atoms' →
        Continued handle g' (.ofUnits s) active pending tree.stop atoms'
          (chainEnd? g (.ofUnits s) active pending tree.stop atoms)) := by
  -- The induction is along the calls for the side with the parentheses. What is said about them
  -- besides is carried from their inside through each function to the repetition around them.
  refine (steps.mutual_induct g (.ofUnits s)
    (fun active pending tree atoms => Boundary s tree.stop → tree.state = .pending →
      Timely handle g (.ofUnits s) (.steps active pending tree atoms) →
      ∀ atoms', ChainUnwraps handle atoms atoms' →
        Continued handle g' (.ofUnits s) active pending tree.stop atoms'
          (chainEnd? g (.ofUnits s) active pending tree.stop atoms))
    (fun active pending a pos => Boundary s pos →
      Timely handle g (.ofUnits s) (.repeated active pending a pos) →
      ∀ b, AtomUnwraps handle a b →
        Continued handle g' (.ofUnits s) active pending pos b
          (atomEnd? g (.ofUnits s) active pending pos a))
    (fun active pending a tree count => Boundary s tree.stop → tree.state = .pending →
      Timely handle g (.ofUnits s) (.turns active pending a tree count) →
      (∀ a' pending' (tree' : SyntaxTree α), AtomAlike handle a a' →
        PendingUnwraps handle pending pending' → tree'.stop = tree.stop →
        EndAlike (turns g (.ofUnits s) active pending a tree count).value
          (turns g' (.ofUnits s) active pending' a' tree' count).value) ∧
      (count = 0 → tree.stop < (Input.ofUnits s).size →
        Opened handle g' (.ofUnits s) active pending tree.stop a
          (turnsEnd? (.ofUnits s) a (turns g (.ofUnits s) active pending a tree count).value)))
    (fun active pending a pos => Boundary s pos →
      Timely handle g (.ofUnits s) (.attempt active pending a pos) →
      (∀ a' pending', AtomAlike handle a a' → PendingUnwraps handle pending pending' →
        (attempt g' (.ofUnits s) active pending' a' pos).value.map SyntaxTree.stop =
          (attempt g (.ofUnits s) active pending a pos).value.map SyntaxTree.stop) ∧
      Opened handle g' (.ofUnits s) active pending pos a
        ((attempt g (.ofUnits s) active pending a pos).value.map SyntaxTree.stop))
    (fun active pending a pos => Boundary s pos →
      Timely handle g (.ofUnits s) (.once active pending a pos) →
      (∀ a' pending', AtomAlike handle a a' → PendingUnwraps handle pending pending' →
        (once g' (.ofUnits s) active pending' a' pos).value.map SyntaxTree.stop =
          (once g (.ofUnits s) active pending a pos).value.map SyntaxTree.stop) ∧
      Opened handle g' (.ofUnits s) active pending pos a
        ((once g (.ofUnits s) active pending a pos).value.map SyntaxTree.stop))
    (fun active pending alternatives pos fallback => Boundary s pos →
      Timely handle g (.ofUnits s) (.choose active pending alternatives pos fallback) →
      (∀ alternatives' pending' fallback', AnyUnwraps handle alternatives alternatives' →
        PendingUnwraps handle pending pending' →
        fallback'.map SyntaxTree.stop = fallback.map SyntaxTree.stop →
        (choose g' (.ofUnits s) active pending' alternatives' pos
          fallback').value.map SyntaxTree.stop =
        (choose g (.ofUnits s) active pending alternatives pos
          fallback).value.map SyntaxTree.stop) ∧
      ∀ atoms, alternatives = [atoms] → fallback = none →
        Continued handle g' (.ofUnits s) active pending pos atoms
          ((choose g (.ofUnits s) active pending alternatives pos
            fallback).value.map SyntaxTree.stop))
    (fun active pending pos => Boundary s pos →
      Timely handle g (.ofUnits s) (.continues active pending pos) →
      ∀ pending', PendingUnwraps handle pending pending' →
        (continues g' (.ofUnits s) active pending' pos).value =
          (continues g (.ofUnits s) active pending pos).value)
    ?stepsNil ?stepsCons ?repeatedLookahead ?repeatedTurns ?turnsGo ?turnsStop ?attempt ?onceLeaf
    ?onceUndefined ?onceUnit ?onceActive ?onceEnter ?onceEnd ?onceGroup ?chooseNil ?chooseCons
    ?continuesNil ?continuesDone ?continuesPending).1
  case stepsNil =>
    intro active pending tree hb hp htimely atoms' h
    cases h
    exact continued_nil
  case stepsCons =>
    intro active pending tree a atoms hstep hrest hb hp htimely
    refine continued_cons (hstep hb (htimely.made .first)) fun stop hstop => ?_
    by_cases hone : (atoms.isEmpty && tree.children.isEmpty) = true
    · rw [Bool.and_eq_true, List.isEmpty_iff] at hone
      rw [hone.1]
      rintro _ ⟨⟩
      exact continued_nil
    · have hb' := atomEnd?_boundary hb hstop
      obtain ⟨hm, rfl⟩ := SyntaxTree.ending?_eq_some.1 hstop
      exact hrest _ hb' hp (htimely.made (.rest rfl hm hone))
  case repeatedLookahead =>
    intro active pending a pos hl hattempt hb htimely b h
    cases h with
    | keep h =>
      have hattempt' := (hattempt hb (htimely.made (.look hl))).1
      exact continued_keep fun pending' hpending =>
        lookahead_alike hb hl h (hattempt' _ pending' h hpending)
    | unwrap => cases hl
  case repeatedTurns =>
    intro active pending a pos hl hturns hb htimely b h
    obtain ⟨halike, hopened⟩ := hturns hb rfl (htimely.made (.turn hl))
    cases h with
    | keep h =>
      exact continued_keep fun pending' hpending =>
        repetition_alike hl h (halike _ pending' _ h hpending rfl)
    | @unwrap value =>
      rcases Nat.lt_or_eq_of_le hb.le with hlt | heq
      · rw [← Input.size_ofUnits] at hlt
        rw [atomEnd?_turns hl]
        exact hopened rfl hlt value _ rfl
      · rw [← Input.size_ofUnits] at heq
        have hend : chainAtEnd b = false := by
          rw [← Bool.not_eq_true]
          exact fun hend => htimely.self ⟨active, pending, value, b, heq ▸ rfl, hend⟩
        rw [heq]
        exact continued_late hend
  case turnsGo =>
    intro active pending a tree count hgo hcontinues hattempt hnext hb hp htimely
    refine ⟨fun a' pending' tree' h hpending hstop => ?_, fun hzero hlt value atoms ha => ?_⟩
    · have hasks : (asks g' (.ofUnits s) active pending' a' count tree.stop).value =
          (asks g (.ofUnits s) active pending a count tree.stop).value :=
        asks_alike h fun hlazy =>
          hcontinues hb (htimely.made (.ask hgo hlazy)) pending' hpending
      refine turns_go_alike h hstop hgo hasks (fun hno => ?_)
        fun turn turn' hno hturn hlt hmerge => ?_
      · exact (hattempt hb (htimely.made (.try hgo hno))).1 a' pending' h hpending
      · obtain ⟨hsettled, -⟩ := (attempt_found g active pending hb a).2 turn hturn
        have hb' : Boundary s (tree.merge turn).stop := by
          rw [SyntaxTree.stop_merge]
          exact hsettled.wellFormed.boundary_stop
        have hturns := hnext turn hlt hb' (by rw [SyntaxTree.state_merge, hp])
          (htimely.made (.again hgo hno hturn hlt))
        exact hturns.1 a' pending' _ h hpending hmerge
    · subst hzero ha
      have hno := asks_eager g (.ofUnits s) active pending
        (.group ⟨handle, false, .once⟩ false value [atoms]) tree.stop 0 rfl
      rw [turnsEnd?_once rfl rfl hlt]
      have hmade := htimely.made (.try hgo (by rw [hno, Noted.value_pure]))
      exact (hattempt hb hmade).2 value atoms rfl
  case turnsStop =>
    intro active pending a tree count hover hb hp htimely
    refine ⟨fun a' pending' tree' h _ hstop => turns_stop_alike h hstop hover,
      fun hzero hlt value atoms ha => ?_⟩
    subst hzero ha
    exact absurd ⟨Nat.one_pos, hlt⟩ hover
  case attempt =>
    intro active pending a pos honce hb htimely
    obtain ⟨halike, hopened⟩ := honce hb (htimely.made .once)
    refine ⟨fun a' pending' h hpending => attempt_alike hb h (halike a' pending' h hpending), ?_⟩
    rintro value atoms rfl
    have hopened := hopened value atoms rfl
    rwa [once_group_value, ← attempt_wrapped] at hopened
  case onceLeaf =>
    intro active pending pos m l hb htimely
    refine ⟨fun a' pending' h _ => ?_, fun value atoms ha => by cases ha⟩
    cases h
    rw [once_leaf_value, once_leaf_value]
  case onceUndefined =>
    intro active pending pos m name hr hb htimely
    refine ⟨fun a' pending' h _ => ?_, fun value atoms ha => by cases ha⟩
    cases h
    rw [once_undefined_value g _ _ _ _ m hr, once_undefined_value g' _ _ _ _ m (hg.find?_none hr)]
  case onceUnit =>
    intro active pending pos m name r hr hit hu hb htimely
    obtain ⟨alternatives, hr', -⟩ := hg.find?_some hr
    refine ⟨fun a' pending' h _ => ?_, fun value atoms ha => by cases ha⟩
    cases h
    rw [once_unit_value g _ _ _ _ m hr hu,
      once_unit_value g' _ _ _ _ m hr' ((Readable.ByName.standsFor?_alternatives r _).trans hu)]
  case onceActive =>
    intro active pending pos m name r hr hu hp ha hb htimely
    obtain ⟨alternatives, hr', -⟩ := hg.find?_some hr
    refine ⟨fun a' pending' h _ => ?_, fun value atoms hwrapped => by cases hwrapped⟩
    cases h
    exact once_rule_alike hr hr' hu ((Readable.ByName.standsFor?_alternatives r _).trans hu) rfl
      fun _ hn => absurd ha hn
  case onceEnter =>
    intro active pending pos m name r hr hu hp ha hsteps hb htimely
    obtain ⟨alternatives, hr', hall⟩ := hg.find?_some hr
    refine ⟨fun a' pending' h hpending => ?_, fun value atoms hwrapped => by cases hwrapped⟩
    cases h
    have hhead := hsteps hb rfl (htimely.made (.enter hr hu hp ha)) _
      (.cons (.keep (.group hall)) .nil)
    exact once_rule_alike hr hr' hu ((Readable.ByName.standsFor?_alternatives r _).trans hu) rfl
      fun _ _ => hhead.alone hpending
  case onceEnd =>
    intro active pending pos m name r hr hu hp hb htimely
    obtain ⟨alternatives, hr', -⟩ := hg.find?_some hr
    refine ⟨fun a' pending' h _ => ?_, fun value atoms hwrapped => by cases hwrapped⟩
    cases h
    exact once_rule_alike hr hr' hu ((Readable.ByName.standsFor?_alternatives r _).trans hu) rfl
      fun hlt _ => absurd hlt hp
  case onceGroup =>
    intro active pending pos m lookahead value alternatives hchoose hb htimely
    obtain ⟨halike, hopened⟩ := hchoose hb (htimely.made .choose)
    refine ⟨fun a' pending' h hpending => ?_, fun value' atoms ha => ?_⟩
    · cases h with
      | same =>
        rw [once_group_value, once_group_value]
        exact halike _ pending' none (.refl _) hpending rfl
      | group h =>
        rw [once_group_value, once_group_value]
        exact halike _ pending' none h hpending rfl
    · cases ha
      rw [once_group_value]
      exact hopened atoms rfl rfl
  case chooseNil =>
    intro active pending pos fallback hb htimely
    refine ⟨fun alternatives' pending' fallback' h _ hfallback => ?_, fun atoms ha => by cases ha⟩
    cases h
    rw [choose_nil_value, choose_nil_value, hfallback]
  case chooseCons =>
    intro active pending pos fallback atoms alternatives head hsteps hnext hb htimely
    simp only [dite_eq_ite] at hnext
    have hfirst := hsteps hb rfl (htimely.made .alternative)
    refine ⟨fun alternatives' pending' fallback' h hpending hfallback => ?_, fun atoms' ha hn => ?_⟩
    · cases h with
      | cons hatoms halternatives =>
        refine choose_cons_alike hb hfallback ((hfirst _ hatoms).alone hpending)
          fun first hvalue ha fallback'' hfallback' => ?_
        exact (hnext first hb (htimely.made (.alternatives hvalue ha))).1 _ pending' fallback''
          halternatives hpending hfallback'
    · cases ha
      subst hn
      rw [choose_single_stop hb]
      exact hfirst _ (.refl atoms)
  case continuesNil =>
    intro active pos hb htimely pending' h
    rw [continues_nil_unwraps h, continues_nil_value]
  case continuesDone =>
    intro active pos outer hnext hb htimely pending' h
    refine continues_cons_unwraps (fun atoms' h => ?_) (fun stop hstop => ?_) h
    · cases h
      exact continued_nil
    · rw [chainEnd?_nil] at hstop
      cases hstop
      exact hnext hb (htimely.made .skip)
  case continuesPending =>
    intro active pos a atoms outer hsteps hnext hb htimely pending' h
    refine continues_cons_unwraps (hsteps hb rfl (htimely.made .part)) (fun stop hstop => ?_) h
    have hending : (steps g (.ofUnits s) active outer (.begin (some a.handle) pos)
        (a :: atoms)).value.ending? = chainEnd? g (.ofUnits s) active outer pos (a :: atoms) :=
      steps_ending rfl
    obtain ⟨hm, rfl⟩ := SyntaxTree.ending?_eq_some.1 (hending.trans hstop)
    have hsettled := (steps_settled g active outer (.begin hb (some a.handle)) (fun _ => rfl)
      (a :: atoms)).2
    exact hnext _ hsettled.wellFormed.boundary_stop (htimely.made (.parts rfl hm))

theorem runRule_unwraps [Readable.ByName α] (hg : g.Unwraps handle g') (s : List α) {r r' : Rule}
    (hr : r.Unwraps handle r') {pos : Nat} (hb : pos < (Input.ofUnits s).size → Boundary s pos)
    (htimely : Timely handle g (.ofUnits s) (.start r pos)) :
    (runRule g' (.ofUnits s) r' pos).value.ending? =
      (runRule g (.ofUnits s) r pos).value.ending? := by
  obtain ⟨alternatives, rfl, hall⟩ := hr
  rw [runRule, runRule, run, run]
  split
  · next hp =>
    have hhead := matching_unwraps hg s [(r.handle, pos)] [] (.begin (some r.handle) pos) [r.head]
      (hb hp) rfl htimely _ (.cons (.keep (.group hall)) .nil)
    exact (steps_ending rfl).trans ((hhead.alone .nil).trans (steps_ending rfl).symm)
  · rfl

/-- No call is late if no atoms in redundant parentheses match at the end of the input. -/
theorem timely_of_atoms {input : Input α} {r : Rule} {pos : Nat} (hr : r ∈ g.rules)
    (h : ∀ r ∈ g.rules, ∀ a ∈ r.head :: r.atoms, ∀ atoms, a.wrapped? handle = some atoms →
      chainAtEnd atoms = false) :
    ∀ c, Reaches g input (.start r pos) c → ¬c.IsLate handle input.size := by
  have hrules : Inherited g fun a => ∀ b ∈ Atom.flatten [[a]], ∀ atoms,
      b.wrapped? handle = some atoms → chainAtEnd atoms = false :=
    .of_atoms fun r hr => ⟨h r hr _ List.mem_cons_self,
      fun b hb => h r hr b (List.mem_cons_of_mem _ hb)⟩
  rintro c hreaches ⟨active, pending, value, atoms, rfl, hend⟩
  have hall := hreaches.inherits hrules (Call.start_all hrules hr)
  rw [Call.all_iff rfl] at hall
  have hlast := hall _ List.mem_cons_self _ (mem_flatten_self _) atoms (if_pos rfl)
  rw [hlast] at hend
  cases hend

/-- **Redundant parentheses do not change what a rule matches**, unless a group is tried at the end
of the input. Whichever group of a rule is in redundant parentheses, without them the rule matches
if and only if it does with them, and ends at the same place, be the rule that is referred to the
one with the parentheses or the one without. The condition is that no call of the match tries the
group where the input has ended while its atoms would match there. -/
theorem runRule_unwrap [Readable.ByName α] (g : Grammar) (r : Rule) (handle : Nat) (s : List α)
    {pos : Nat} (hb : pos < (Input.ofUnits s).size → Boundary s pos)
    (htimely : ∀ c, Reaches g (.ofUnits s) (.start r pos) c →
      ¬c.IsLate handle (Input.ofUnits s).size) :
    (runRule g (.ofUnits s) (r.unwrap handle) pos).value.ending? =
        (runRule g (.ofUnits s) r pos).value.ending? ∧
      (runRule (g.unwrap handle) (.ofUnits s) (r.unwrap handle) pos).value.ending? =
        (runRule g (.ofUnits s) r pos).value.ending? := by
  have hr : r.Unwraps handle (r.unwrap handle) := ⟨_, rfl, any_unwraps handle r.alternatives⟩
  exact ⟨runRule_unwraps (.refl g) s hr hb htimely,
    runRule_unwraps (g.unwraps handle) s hr hb htimely⟩

/-- A rule with two groups in redundant parentheses, around what is needed and around what may be
left out. -/
def twoGroups : Rule where
  id := "R"
  kind := .lexer
  handle := 2
  alternatives := [[
    .group ⟨3, false, .once⟩ false ['\'', 'a', '\'']
      [[.leaf ⟨4, false, .once⟩ ⟨.literal, ['\'', 'a', '\''], ⟨['a'], .text ['a']⟩, false⟩]],
    .group ⟨5, false, .once⟩ false ['\'', 'b', '\'', '?']
      [[.leaf ⟨6, false, .optional⟩ ⟨.literal, ['\'', 'b', '\''], ⟨['b'], .text ['b']⟩, false⟩]]]]

theorem rules_twoGroups :
    (({} : Builder).compile { id := "R", body := "('a') ('b'?)" }).1.build.value.rules =
      [twoGroups] := by
  have hbody : ({} : Builder).bodyOf { id := "R", body := "('a') ('b'?)" } =
      ⟨[], .ok (twoGroups.alternatives, none)⟩ := by
    with_unfolding_all rfl
  have hrule : ({} : Builder).ruleOf { id := "R", body := "('a') ('b'?)" } =
      ⟨[], .ok twoGroups⟩ := by
    unfold Builder.ruleOf
    rw [hbody]
    cbv
  exact Builder.rules_of_first hrule

/-- The first group is never tried where the input has ended and matches nothing there. -/
theorem runRule_unwrap_first_group :
    let g := (({} : Builder).compile { id := "R", body := "('a') ('b'?)" }).1.build.value
    twoGroups ∈ g.rules ∧
      (∀ c, Reaches g (.ofUnits ['a', 'b']) (.start twoGroups 0) c →
        ¬c.IsLate 3 (Input.ofUnits ['a', 'b']).size) ∧
      (runRule g (.ofUnits ['a', 'b']) twoGroups 0).value.ending? = some 2 ∧
      (runRule g (.ofUnits ['a', 'b']) (twoGroups.unwrap 3) 0).value.ending? = some 2 ∧
      (runRule (g.unwrap 3) (.ofUnits ['a', 'b']) (twoGroups.unwrap 3) 0).value.ending? =
        some 2 := by
  intro g
  have hrules : g.rules = [twoGroups] := rules_twoGroups
  have hmem : twoGroups ∈ g.rules := by
    rw [hrules]
    exact List.mem_cons_self
  have hneed : ((twoGroups.head :: twoGroups.atoms).all fun a =>
      (a.wrapped? 3).all fun atoms => !chainAtEnd atoms) = true := by cbv
  have htimely : ∀ c, Reaches g (.ofUnits ['a', 'b']) (.start twoGroups 0) c →
      ¬c.IsLate 3 (Input.ofUnits ['a', 'b']).size :=
    timely_of_atoms hmem fun r hr a ha atoms hatoms => by
      rw [hrules, List.mem_singleton] at hr
      subst hr
      have hneed := List.all_eq_true.1 hneed a ha
      rwa [hatoms, Option.all_some, Bool.not_eq_true'] at hneed
  have hb : Boundary ['a', 'b'] 0 := ⟨[], ['a', 'b'], rfl, rfl⟩
  have hboth : (runRule g (.ofUnits ['a', 'b']) twoGroups 0).value.ending? = some 2 := by cbv
  obtain ⟨hrule, hgrammar⟩ := runRule_unwrap g twoGroups 3 ['a', 'b'] (fun _ => hb) htimely
  exact ⟨hmem, htimely, hboth, hrule.trans hboth, hgrammar.trans hboth⟩

/-- The second group fails where the input has ended, and without its parentheses the rule
matches. -/
theorem unwrap_matches_at_end :
    let g := (({} : Builder).compile { id := "R", body := "('a') ('b'?)" }).1.build.value
    g.Built ∧ twoGroups ∈ g.rules ∧ (twoGroups.atoms.any fun a => (a.wrapped? 5).isSome) = true ∧
      (runRule g (.ofUnits ['a']) twoGroups 0).value.ending? = none ∧
      (runRule g (.ofUnits ['a']) (twoGroups.unwrap 5) 0).value.ending? = some 1 := by
  intro g
  have hg : g.Built := .of_reachable (.compile _ (.new {}))
  have hrules : g.rules = [twoGroups] := rules_twoGroups
  have hmem : twoGroups ∈ g.rules := by
    rw [hrules]
    exact List.mem_cons_self
  exact ⟨hg, hmem, by cbv, by cbv, by cbv⟩

end Runs

end Matching

end Lexigram
