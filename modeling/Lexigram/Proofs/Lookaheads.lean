import Lexigram.Proofs.Endings
import Lexigram.Proofs.Independence
import Mathlib

/-!
# Lookaheads and what follows them

What follows an atom is given to its inside as pending, be the atom a lookahead or inverted: a lazy
repetition inside stops where what follows the lookahead would match, as if that followed what the
lookahead holds. Nothing else inside looks at it.

**Occurring** (`Within`). An atom occurs in another if it is held by it, directly or through groups
and through the rules that are referred to. A call about atoms in which nothing is lazy leads to no
question about what is pending (`quiet_of_eager`).

**Asking** (`Makes.ask`). The questions that a call leads to are followed step by step: those of a
group of one alternative are those of the alternative, those of a chain are those of its first atom
if nothing behind is lazy, and a question leads on to the one about what is behind the first part
(`question_of_attempt`, `question_of_steps`, `question_of_repeated`, `question_of_continues`).

Main result: `attempt_isolated`. What follows an atom can only change how an attempt of it comes out
if it changes the answer to a question that a lazy repetition asks meanwhile.
-/

namespace Lexigram

/-! ## Atoms without lazy repetitions -/

/-- An atom is another or occurs in it, or in a rule that is referred to there. -/
inductive Within (g : Grammar) : Atom → Atom → Prop
  | self {a} : Within g a a
  | inside {m lookahead value alternatives atoms a b} : atoms ∈ alternatives → a ∈ atoms →
    Within g a b → Within g (.group m lookahead value alternatives) b
  | rule {m name r b} : g.find? name = some r → Within g r.head b →
    Within g (.reference m name) b

/-- No repetition that occurs in an atom is lazy. -/
def Atom.EagerIn (g : Grammar) (a : Atom) : Prop :=
  ∀ b, Within g a b → b.mark.quantifier.lazy = false

namespace Matching

variable {α : Type} [Readable α]

/-- A call is about atoms in which nothing is lazy, and it does not ask. -/
def Call.Eager (g : Grammar) : Call α → Prop
  | .steps _ _ _ atoms => ∀ a ∈ atoms, a.EagerIn g
  | .repeated _ _ a _ | .turns _ _ a _ _ | .attempt _ _ a _ | .once _ _ a _ => a.EagerIn g
  | .choose _ _ alternatives _ _ => ∀ atoms ∈ alternatives, ∀ a ∈ atoms, a.EagerIn g
  | .continues _ _ _ => False

theorem Makes.eager {g : Grammar} {input : Input α} {c c' : Call α} (h : Makes g input c c')
    (hc : c.Eager g) : c'.Eager g := by
  cases h with
  | first => exact hc _ List.mem_cons_self
  | rest => exact fun a ha => hc a (List.mem_cons_of_mem _ ha)
  | look => exact hc
  | turn => exact hc
  | ask hgo hlazy =>
    rw [hc _ .self, Bool.false_and] at hlazy
    cases hlazy
  | «try» => exact hc
  | again => exact hc
  | skip => exact hc
  | part => exact hc.elim
  | parts => exact hc
  | once => exact hc
  | enter hr =>
    intro a ha
    rw [List.mem_singleton.1 ha]
    exact fun b hb => hc b (.rule hr hb)
  | choose => exact fun atoms hatoms a ha b hb => hc b (.inside hatoms ha hb)
  | alternative => exact hc _ List.mem_cons_self
  | alternatives => exact fun atoms hatoms => hc atoms (List.mem_cons_of_mem _ hatoms)

/-! ## Where questions come from -/

section Questions

variable {g : Grammar} {input : Input α} {active active' : List (Nat × Nat)}
variable {pending pending' outer : List (List Atom)} {a : Atom} {atoms : List Atom}
variable {tree : SyntaxTree α} {pos pos' : Nat}

/-- If nothing that occurs in the atoms of a call is lazy, the call leads to no question. -/
theorem quiet_of_eager {c : Call α} (hc : c.Eager g) :
    ¬Reaches g input c (.continues active' pending' pos') := by
  intro hreaches
  have hkept : ∀ d, Reaches g input c d → d.Eager g := by
    intro d hd
    induction hd with
    | refl => exact hc
    | tail _ hmakes ih => exact hmakes.eager ih
  exact hkept _ hreaches

/-- The questions of an attempt of a group with one alternative are those of the alternative. -/
theorem question_of_attempt {m : Mark} {lookahead : Bool} {value : List Char}
    (h : Reaches g input (.attempt active pending (.group m lookahead value [atoms]) pos)
      (.continues active' pending' pos')) :
    Reaches g input (.steps active pending (.begin (atoms.head?.map Atom.handle) pos) atoms)
      (.continues active' pending' pos') := by
  obtain ⟨_, ⟨⟩, h⟩ := h.cases_head.resolve_left nofun
  obtain ⟨_, ⟨⟩, h⟩ := h.cases_head.resolve_left nofun
  obtain ⟨_, hmakes, h⟩ := h.cases_head.resolve_left nofun
  cases hmakes with
  | alternative => exact h
  | alternatives => exact absurd h (quiet_of_eager fun _ hatoms => absurd hatoms List.not_mem_nil)

/-- If nothing behind the first atom of a chain is lazy, the questions are those of the first. -/
theorem question_of_steps (heager : ∀ b ∈ atoms, b.EagerIn g)
    (h : Reaches g input (.steps active pending tree (a :: atoms))
      (.continues active' pending' pos')) :
    Reaches g input (.repeated active (atoms :: pending) a tree.stop)
      (.continues active' pending' pos') := by
  obtain ⟨_, hmakes, h⟩ := h.cases_head.resolve_left nofun
  cases hmakes with
  | first => exact h
  | rest => exact absurd h (quiet_of_eager (c := .steps ..) heager)

/-- A repetition that ends at its first question asks nothing else. -/
theorem question_of_repeated (hl : a.isLookahead = false)
    (hyes : (asks g input active pending a 0 pos).value = true)
    (h : Reaches g input (.repeated active pending a pos) (.continues active' pending' pos')) :
    Reaches g input (.continues active pending pos) (.continues active' pending' pos') := by
  obtain ⟨_, hmakes, h⟩ := h.cases_head.resolve_left nofun
  cases hmakes with
  | look hlook => cases hl.symm.trans hlook
  | turn =>
    obtain ⟨_, hmakes, h⟩ := h.cases_head.resolve_left nofun
    cases hmakes with
    | ask => exact h
    | «try» _ hno => cases hyes.symm.trans hno
    | again _ hno => cases hyes.symm.trans hno

/-- If nothing in the first part of what is pending is lazy, a question leads to the one about what
is behind this part, from where the part ends. -/
theorem question_of_continues (heager : ∀ b ∈ a :: atoms, b.EagerIn g)
    (h : Reaches g input (.continues active ((a :: atoms) :: outer) pos)
      (.continues active' pending' pos')) :
    (active' = active ∧ pending' = (a :: atoms) :: outer ∧ pos' = pos) ∨
      Reaches g input
        (.continues active outer
          (steps g input active outer (.begin (some a.handle) pos) (a :: atoms)).value.stop)
        (.continues active' pending' pos') := by
  rcases h.cases_head with he | ⟨_, hmakes, h⟩
  · cases he
    exact .inl ⟨rfl, rfl, rfl⟩
  cases hmakes with
  | part => exact absurd h (quiet_of_eager (c := .steps ..) heager)
  | parts hpart => exact .inr (hpart ▸ h)

theorem question_of_continues_end
    (h : Reaches g input (.continues active [[]] pos) (.continues active' pending' pos')) :
    pending' = [[]] ∨ pending' = [] := by
  rcases h.cases_head with he | ⟨_, ⟨⟩, h⟩
  · cases he
    exact .inl rfl
  rcases h.cases_head with he | ⟨_, ⟨⟩, _⟩
  cases he
  exact .inr rfl

end Questions

/-! ## Attempts -/

/-- A lookahead succeeds if no alternative that it holds matches. -/
theorem isSome_lookahead {g : Grammar} {input : Input α} {active : List (Nat × Nat)}
    {pending : List (List Atom)} {m : Mark} {value : List Char} {alternatives : List (List Atom)}
    {pos : Nat} :
    (attempt g input active pending (.group m true value alternatives) pos).value.isSome =
      !(alternatives.any fun atoms => (chainEnd? g input active pending pos atoms).isSome) := by
  have hsome : (choose g input active pending alternatives pos none).value.isSome =
      alternatives.any fun atoms => (chainEnd? g input active pending pos atoms).isSome := by
    rw [isSome_choose, Option.isSome_none, Bool.false_or]
  rw [attempt_value, Atom.isLookahead, Bool.true_or, if_pos rfl, once_group_value, ← hsome]
  cases (choose g input active pending alternatives pos none).value <;> rfl

/-- **What follows matters only where it is asked for.** An atom is attempted, be it a lookahead or
inverted. If every question that a lazy repetition asks meanwhile, whether what is pending inside
the atom and behind it matches, has the answer that it has for what is pending inside alone, then
the attempt comes out as it does with nothing behind the atom. In particular a lookahead then
succeeds exactly if none of its alternatives matches on its own. -/
theorem attempt_isolated (g : Grammar) (input : Input α) (active : List (Nat × Nat))
    (pending : List (List Atom)) (a : Atom) (pos : Nat)
    (hanswers : ∀ active' inner pos', Reaches g input (.attempt active pending a pos)
        (.continues active' (inner ++ pending) pos') →
      (continues g input active' (inner ++ pending) pos').value =
        (continues g input active' inner pos').value) :
    (attempt g input active pending a pos).value = (attempt g input active [] a pos).value ∧
      ∀ m value alternatives, a = .group m true value alternatives →
        ((attempt g input active pending a pos).value.isSome = true ↔
          ∀ atoms ∈ alternatives, chainEnd? g input active [] pos atoms = none) := by
  have hfree : Independent g input [] pending [] (.attempt active pending a pos) := by
    intro c hreaches
    refine ⟨fun place hplace => absurd hplace List.not_mem_nil, ?_⟩
    rintro active' inner pos' rfl
    rw [List.append_nil] at hreaches ⊢
    exact (hanswers active' inner pos' hreaches).symm
  have halone : (attempt g input active pending a pos).value =
      (attempt g input active [] a pos).value :=
    ((matching_independent g input [] pending []).2.1 active pending a pos hfree active []
      (List.append_nil active).symm (.inr ⟨[], rfl, rfl⟩)).symm
  refine ⟨halone, ?_⟩
  rintro m value alternatives rfl
  rw [halone, isSome_lookahead, Bool.not_eq_true', List.any_eq_false]
  simp only [Option.not_isSome_iff_eq_none]

/-- The atom that stands for a quoted character. -/
def quoted (handle : Nat) (c : Char) : Atom :=
  .leaf ⟨handle, false, .once⟩ ⟨.literal, ['\'', c, '\''], ⟨[c], .text [c]⟩, false⟩

/-- The rule of a single alternative that is compiled first. -/
def single (atoms : List Atom) : Rule where
  id := "R"
  kind := .lexer
  handle := 2
  alternatives := [atoms]

/-- A lookahead with a lazy repetition in front of a character. -/
def deniedLazily : Atom :=
  .group ⟨3, false, .once⟩ true ['.', '*', '?', ' ', '\'', 'b', '\'']
    [[.leaf ⟨4, false, { Quantifier.zeroOrMore with lazy := true }⟩
        ⟨.expression, ['.'], .any, false⟩,
      quoted 5 'b']]

theorem ruleOf_deniedLazily :
    ({} : Builder).ruleOf { id := "R", body := "(?! .*? 'b') 'b'" } =
      ⟨[], .ok (single [deniedLazily, quoted 6 'b'])⟩ := by
  have hbody : ({} : Builder).bodyOf { id := "R", body := "(?! .*? 'b') 'b'" } =
      ⟨[], .ok ([[deniedLazily, quoted 6 'b']], none)⟩ := by
    with_unfolding_all rfl
  unfold Builder.ruleOf
  rw [hbody]
  cbv

/-- In front of two of the characters the repetition asks once whether the second atom of the
lookahead matches and then what is behind the lookahead. -/
theorem question_of_deniedLazily {g : Grammar} {active : List (Nat × Nat)}
    {pending : List (List Atom)} {pos : Nat}
    (h : Reaches g (.ofUnits ['b', 'b']) (.attempt [(2, 0)] [[quoted 6 'b'], []] deniedLazily 0)
      (.continues active pending pos)) :
    active = [(2, 0)] ∧ pending = [[quoted 5 'b'], [quoted 6 'b'], []] ∧ pos = 0 ∨
      active = [(2, 0)] ∧ pending = [[quoted 6 'b'], []] ∧ pos = 1 ∨ pending.length < 2 := by
  have heager : ∀ handle, ∀ b ∈ [quoted handle 'b'], b.EagerIn g := by
    intro handle b hb c hc
    rw [List.mem_singleton.1 hb] at hc
    cases hc
    rfl
  have hstop : (steps g (.ofUnits ['b', 'b']) [(2, 0)] [[quoted 6 'b'], []]
      (.begin (some (quoted 5 'b').handle) 0) [quoted 5 'b']).value.stop = 1 := by cbv
  have hasked := question_of_repeated rfl (by cbv)
    (question_of_steps (heager 5) (question_of_attempt h))
  rcases question_of_continues (heager 5) hasked with hinside | hasked
  · exact .inl hinside
  rcases question_of_continues (heager 6) (hstop ▸ hasked) with hbehind | hasked
  · exact .inr (.inl hbehind)
  rcases question_of_continues_end hasked with rfl | rfl
  · exact .inr (.inr (by decide))
  · exact .inr (.inr (by decide))

/-- In front of two of the characters the question has the same answer with and without what is
behind the lookahead, and the lookahead fails as its alternative matches. -/
theorem attempt_isolated_before_second :
    let g := (({} : Builder).compile { id := "R", body := "(?! .*? 'b') 'b'" }).1.build.value
    let pending := [[quoted 6 'b'], []]
    g.rules = [single [deniedLazily, quoted 6 'b']] ∧
      Reaches g (.ofUnits ['b', 'b']) (.attempt [(2, 0)] pending deniedLazily 0)
        (.continues [(2, 0)] ([[quoted 5 'b']] ++ pending) 0) ∧
      (∀ active inner pos,
        Reaches g (.ofUnits ['b', 'b']) (.attempt [(2, 0)] pending deniedLazily 0)
          (.continues active (inner ++ pending) pos) →
        (continues g (.ofUnits ['b', 'b']) active (inner ++ pending) pos).value =
          (continues g (.ofUnits ['b', 'b']) active inner pos).value) ∧
      (attempt g (.ofUnits ['b', 'b']) [(2, 0)] pending deniedLazily 0).value =
        (attempt g (.ofUnits ['b', 'b']) [(2, 0)] [] deniedLazily 0).value ∧
      (attempt g (.ofUnits ['b', 'b']) [(2, 0)] pending deniedLazily 0).value.isSome = false := by
  intro g pending
  have hasked : Reaches g (.ofUnits ['b', 'b']) (.attempt [(2, 0)] pending deniedLazily 0)
      (.continues [(2, 0)] ([[quoted 5 'b']] ++ pending) 0) :=
    .head .once (.head .choose (.head .alternative (.head .first
      (.head (.turn Bool.false_ne_true) (.single (.ask ⟨by decide, by decide⟩ rfl))))))
  have hanswers : ∀ active inner pos,
      Reaches g (.ofUnits ['b', 'b']) (.attempt [(2, 0)] pending deniedLazily 0)
        (.continues active (inner ++ pending) pos) →
      (continues g (.ofUnits ['b', 'b']) active (inner ++ pending) pos).value =
        (continues g (.ofUnits ['b', 'b']) active inner pos).value := by
    intro active inner pos hreaches
    rcases question_of_deniedLazily hreaches with ⟨rfl, he, rfl⟩ | ⟨rfl, he, rfl⟩ | hlt
    · obtain rfl : inner = [[quoted 5 'b']] := List.append_cancel_right he
      cbv
    · obtain rfl : inner = [] := List.append_cancel_right he
      cbv
    · rw [List.length_append] at hlt
      exact absurd hlt (Nat.not_lt.2 (Nat.le_add_left 2 inner.length))
  obtain ⟨halone, hdecides⟩ :=
    attempt_isolated g (.ofUnits ['b', 'b']) [(2, 0)] pending deniedLazily 0 hanswers
  have hmatches : chainEnd? g (.ofUnits ['b', 'b']) [(2, 0)] [] 0
      [.leaf ⟨4, false, { Quantifier.zeroOrMore with lazy := true }⟩
        ⟨.expression, ['.'], .any, false⟩, quoted 5 'b'] = some 1 := by cbv
  have hfails : (attempt g (.ofUnits ['b', 'b']) [(2, 0)] pending deniedLazily 0).value.isSome =
      false := by
    refine Bool.eq_false_iff.2 fun hsome => ?_
    have hnone := (hdecides _ _ _ rfl).1 hsome _ List.mem_cons_self
    cases hmatches.symm.trans hnone
  exact ⟨Builder.rules_of_first ruleOf_deniedLazily, hasked, hanswers, halone, hfails⟩

/-- The lookahead succeeds although its alternative matches, since a second such character would
have to follow the first. -/
theorem lookahead_misled_by_pending :
    let g := (({} : Builder).compile { id := "R", body := "(?! .*? 'b') 'b'" }).1.build.value
    g.Built ∧ g.diagnostics = [] ∧ g.rules = [single [deniedLazily, quoted 6 'b']] ∧
      Reaches g (.ofUnits ['b']) (.start (single [deniedLazily, quoted 6 'b']) 0)
        (.attempt [(2, 0)] [[quoted 6 'b'], []] deniedLazily 0) ∧
      (attempt g (.ofUnits ['b']) [(2, 0)] [[quoted 6 'b'], []] deniedLazily 0).value.isSome =
        true ∧
      (attempt g (.ofUnits ['b']) [(2, 0)] [] deniedLazily 0).value.isSome = false := by
  intro g
  have hg : g.Built := .of_reachable (.compile _ (.new {}))
  have hdiagnostics : g.diagnostics = [] := by
    unfold g Builder.compile
    rw [ruleOf_deniedLazily]
    cbv
  have hreaches : Reaches g (.ofUnits ['b']) (.start (single [deniedLazily, quoted 6 'b']) 0)
      (.attempt [(2, 0)] [[quoted 6 'b'], []] deniedLazily 0) :=
    (reaches_first rfl Nat.one_pos).trans (.head .first (.single (.look rfl)))
  exact ⟨hg, hdiagnostics, Builder.rules_of_first ruleOf_deniedLazily, hreaches, by cbv, by cbv⟩

end Matching

end Lexigram
