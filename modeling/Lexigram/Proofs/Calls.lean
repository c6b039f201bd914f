import Lexigram.Proofs.Arena
import Lexigram.Proofs.Values
import Mathlib.Logic.Relation

/-!
# Calls

A match is a tree of calls of the functions of the matcher. Some statements are about every call
that is made while a rule is matched, so calls are things of their own here.

**Calls** (`Call`). One of the functions with its arguments. **Making** (`Makes`). A call makes
another: there is one case for each place at which one function calls another, under the conditions
under which that place is reached. **Reaching** (`Reaches`). A call makes another, directly or
through others. **What is ahead** (`Call.aheads`). The atoms that a call is about and all that is
pending, in the order in which they have to follow; before a choice, for each alternative.

Main result: `Reaches.inherits`. A property of atoms that the rules have and that groups hand on to
what they hold is a property of all atoms that are ahead of any call.
-/

namespace Lexigram

namespace Matching

variable {α : Type}

/-! ## Calls and what is ahead of them -/

/-- A call of one of the functions of the matcher. -/
inductive Call (α : Type) where
  | steps (active : List (Nat × Nat)) (pending : List (List Atom)) (tree : SyntaxTree α)
    (atoms : List Atom)
  | repeated (active : List (Nat × Nat)) (pending : List (List Atom)) (a : Atom) (pos : Nat)
  | turns (active : List (Nat × Nat)) (pending : List (List Atom)) (a : Atom)
    (tree : SyntaxTree α) (count : Nat)
  | continues (active : List (Nat × Nat)) (pending : List (List Atom)) (pos : Nat)
  | attempt (active : List (Nat × Nat)) (pending : List (List Atom)) (a : Atom) (pos : Nat)
  | once (active : List (Nat × Nat)) (pending : List (List Atom)) (a : Atom) (pos : Nat)
  | choose (active : List (Nat × Nat)) (pending : List (List Atom))
    (alternatives : List (List Atom)) (pos : Nat) (fallback : Option (SyntaxTree α))

namespace Call

/-- The call with which a rule is matched from a position. -/
def start (r : Rule) (pos : Nat) : Call α :=
  .steps [(r.handle, pos)] [] (.begin (some r.handle) pos) [r.head]

/-- The rules that are active during a call, with the positions at which they were entered. -/
def active : Call α → List (Nat × Nat)
  | steps active _ _ _ | repeated active _ _ _ | turns active _ _ _ _ | continues active _ _
  | attempt active _ _ _ | once active _ _ _ | choose active _ _ _ _ => active

/-- The position from which a call goes on. -/
def place : Call α → Nat
  | steps _ _ tree _ | turns _ _ _ tree _ => tree.stop
  | repeated _ _ _ pos | continues _ _ pos | attempt _ _ _ pos | once _ _ _ pos
  | choose _ _ _ pos _ => pos

/-- What may have to follow from the position on: all atoms to come, the pending ones last. -/
def aheads : Call α → List (List Atom)
  | steps _ pending _ atoms => [atoms ++ pending.flatten]
  | repeated _ pending a _ | turns _ pending a _ _ | attempt _ pending a _ | once _ pending a _ =>
    [a :: pending.flatten]
  | continues _ pending _ => [pending.flatten]
  | choose _ pending alternatives _ _ => alternatives.map (· ++ pending.flatten)

end Call

/-! ## Making calls -/

variable [Readable α]

/-- A call makes another. -/
inductive Makes (g : Grammar) (input : Input α) : Call α → Call α → Prop
  /-- The first of some atoms. -/
  | first {active pending tree a atoms} :
    Makes g input (.steps active pending tree (a :: atoms))
      (.repeated active (atoms :: pending) a tree.stop)
  /-- The atoms behind one that matched. -/
  | rest {active pending tree a atoms step} :
    (repeated g input active (atoms :: pending) a tree.stop).value = step →
    step.matched = true → ¬(atoms.isEmpty && tree.children.isEmpty) = true →
    Makes g input (.steps active pending tree (a :: atoms))
      (.steps active pending (tree.absorb step) atoms)
  | look {active pending a pos} : a.isLookahead = true →
    Makes g input (.repeated active pending a pos) (.attempt active pending a pos)
  | turn {active pending a pos} : ¬a.isLookahead = true →
    Makes g input (.repeated active pending a pos)
      (.turns active pending a (.begin (some a.handle) pos) 0)
  /-- A lazy repetition asks whether what is pending matches. -/
  | ask {active pending a tree count} :
    count < a.mark.quantifier.max ∧ tree.stop < input.size →
    (a.mark.quantifier.lazy && accepts input a count tree.stop) = true →
    Makes g input (.turns active pending a tree count) (.continues active pending tree.stop)
  | try {active pending a tree count} :
    count < a.mark.quantifier.max ∧ tree.stop < input.size →
    (asks g input active pending a count tree.stop).value = false →
    Makes g input (.turns active pending a tree count) (.attempt active pending a tree.stop)
  /-- The turns behind one that consumed something. -/
  | again {active pending a tree count turn} :
    count < a.mark.quantifier.max ∧ tree.stop < input.size →
    (asks g input active pending a count tree.stop).value = false →
    (attempt g input active pending a tree.stop).value = some turn → tree.stop < turn.stop →
    Makes g input (.turns active pending a tree count)
      (.turns active pending a (tree.merge turn) (count + 1))
  | skip {active outer pos} :
    Makes g input (.continues active ([] :: outer) pos) (.continues active outer pos)
  /-- The first part of what is pending. -/
  | part {active outer a atoms pos} :
    Makes g input (.continues active ((a :: atoms) :: outer) pos)
      (.steps active outer (.begin (some a.handle) pos) (a :: atoms))
  /-- What is pending behind a part that matched. -/
  | parts {active outer a atoms pos part} :
    (steps g input active outer (.begin (some a.handle) pos) (a :: atoms)).value = part →
    part.matched = true →
    Makes g input (.continues active ((a :: atoms) :: outer) pos)
      (.continues active outer part.stop)
  | once {active pending a pos} :
    Makes g input (.attempt active pending a pos) (.once active pending a pos)
  /-- A rule is entered. -/
  | enter {active pending m name pos r} : g.find? name = some r →
    Readable.standsFor? (α := α) r = none → pos < input.size → (r.handle, pos) ∉ active →
    Makes g input (.once active pending (.reference m name) pos)
      (.steps ((r.handle, pos) :: active) pending (.begin (some r.handle) pos) [r.head])
  | choose {active pending m lookahead value alternatives pos} :
    Makes g input (.once active pending (.group m lookahead value alternatives) pos)
      (.choose active pending alternatives pos none)
  | alternative {active pending atoms alternatives pos fallback} :
    Makes g input (.choose active pending (atoms :: alternatives) pos fallback)
      (.steps active pending (.begin (atoms.head?.map Atom.handle) pos) atoms)
  /-- The alternatives behind one that consumed nothing. -/
  | alternatives {active pending atoms alternatives pos fallback first} :
    (steps g input active pending (.begin (atoms.head?.map Atom.handle) pos) atoms).value = first →
    ¬first.isAbsolute = true →
    Makes g input (.choose active pending (atoms :: alternatives) pos fallback)
      (.choose active pending alternatives pos
        (fallback.or (if first.matched then some first else none)))

section

variable {g : Grammar} {input : Input α}

/-- A call makes another, directly or through others, or is it. -/
abbrev Reaches (g : Grammar) (input : Input α) : Call α → Call α → Prop :=
  Relation.ReflTransGen (Makes g input)

/-- What holds of a call and of all calls that it leads to. -/
def Throughout (g : Grammar) (input : Input α) (p : Call α → Prop) (c : Call α) : Prop :=
  ∀ c', Reaches g input c c' → p c'

theorem Throughout.self {p : Call α → Prop} {c : Call α} (h : Throughout g input p c) : p c :=
  h c .refl

theorem Throughout.made {p : Call α → Prop} {c c' : Call α} (h : Throughout g input p c)
    (hmakes : Makes g input c c') : Throughout g input p c' :=
  fun c'' hreaches => h c'' (.head hmakes hreaches)

section

variable {active : List (Nat × Nat)} {pending : List (List Atom)} {r : Rule}

/-- The first alternative of a rule is tried where the rule is matched. -/
theorem reaches_first {pos : Nat} {atoms : List Atom} {alternatives : List (List Atom)}
    (hr : r.alternatives = atoms :: alternatives) (hp : pos < input.size) :
    Reaches g input (.steps active pending (.begin (some r.handle) pos) [r.head])
      (.steps active ([] :: pending) (.begin (atoms.head?.map Atom.handle) pos) atoms) := by
  have hchoose : Reaches g input (.once active ([] :: pending) r.head pos)
      (.steps active ([] :: pending) (.begin (atoms.head?.map Atom.handle) pos) atoms) := by
    rw [Rule.head, hr]
    exact .head .choose (.single .alternative)
  exact .head .first (.head (.turn Bool.false_ne_true)
    (.head (.try ⟨Nat.one_pos, hp⟩ rfl) (.head .once hchoose)))

/-- A rule that is referred to once is matched where the reference stands. -/
theorem reaches_rule {tree : SyntaxTree α} {handle : Nat} {inverted : Bool} {name : String}
    {atoms : List Atom} (hr : g.find? name = some r)
    (hu : Readable.standsFor? (α := α) r = none) (hp : tree.stop < input.size)
    (ha : (r.handle, tree.stop) ∉ active) :
    Reaches g input
      (.steps active pending tree (.reference ⟨handle, inverted, .once⟩ name :: atoms))
      (.steps ((r.handle, tree.stop) :: active) (atoms :: pending)
        (.begin (some r.handle) tree.stop) [r.head]) :=
  .head .first (.head (.turn Bool.false_ne_true)
    (.head (.try ⟨Nat.one_pos, hp⟩ rfl) (.head .once (.single (.enter hr hu hp ha)))))

end

end

/-! ## What atoms hand on -/

/-- A property that rules have and that groups hand on to the atoms in them. -/
structure Inherited (g : Grammar) (p : Atom → Prop) : Prop where
  rule : ∀ r ∈ g.rules, p r.head
  inside : ∀ m lookahead value alternatives, p (.group m lookahead value alternatives) →
    ∀ atoms ∈ alternatives, ∀ a ∈ atoms, p a

theorem mem_flatten_cons {b : Atom} {atoms : List Atom} {alternatives : List (List Atom)} :
    b ∈ Atom.flatten (atoms :: alternatives) ↔
      (∃ a ∈ atoms, b ∈ Atom.flatten [[a]]) ∨ b ∈ Atom.flatten alternatives := by
  induction atoms with
  | nil => simp
  | cons a atoms ih =>
    rw [Atom.flatten_cons, List.mem_cons, List.mem_append, ih, List.exists_mem_cons_iff,
      Atom.flatten_cons, List.mem_cons, List.mem_append, Atom.flatten_nil_cons, Atom.flatten_nil]
    simp only [List.not_mem_nil, or_false, or_assoc]

/-- What is in an atom of an alternative is in the alternatives. -/
theorem mem_flatten {a b : Atom} {atoms : List Atom} {alternatives : List (List Atom)}
    (hb : b ∈ Atom.flatten [[a]]) (ha : a ∈ atoms) (hatoms : atoms ∈ alternatives) :
    b ∈ Atom.flatten alternatives := by
  induction alternatives with
  | nil => cases hatoms
  | cons first alternatives ih =>
    rw [mem_flatten_cons]
    rcases List.mem_cons.1 hatoms with rfl | hatoms
    · exact .inl ⟨a, ha, hb⟩
    · exact .inr (ih hatoms)

theorem mem_flatten_self (a : Atom) : a ∈ Atom.flatten [[a]] := by
  rw [Atom.flatten_cons]
  exact List.mem_cons_self

/-- What holds of all atoms of the rules holds of all that is in the atoms ahead of a call. -/
theorem Inherited.of_atoms {g : Grammar} {p : Atom → Prop}
    (h : ∀ r ∈ g.rules, p r.head ∧ ∀ b ∈ r.atoms, p b) :
    Inherited g fun a => ∀ b ∈ Atom.flatten [[a]], p b where
  rule := by
    intro r hr b hb
    rw [Atom.flatten_cons, Atom.flatten_nil_cons, Atom.flatten_nil, List.append_nil] at hb
    rcases List.mem_cons.1 hb with rfl | hb
    · exact (h r hr).1
    · exact (h r hr).2 b hb
  inside := by
    intro m lookahead value alternatives hgroup atoms hatoms a ha b hb
    refine hgroup b ?_
    rw [Atom.flatten_cons]
    exact List.mem_cons_of_mem _ (List.mem_append_left _ (mem_flatten hb ha hatoms))

section Inheritance

variable {g : Grammar} {input : Input α} {p : Atom → Prop} {c c' : Call α}

/-- All atoms ahead of a call have a property. -/
def Call.All (p : Atom → Prop) (c : Call α) : Prop := ∀ ahead ∈ c.aheads, ∀ a ∈ ahead, p a

omit [Readable α] in
theorem Call.all_iff {ahead : List Atom} (h : c.aheads = [ahead]) :
    c.All p ↔ ∀ a ∈ ahead, p a := by
  rw [Call.All, h]
  simp only [List.mem_singleton, forall_eq]

theorem Makes.inherits (h : Makes g input c c') (hp : Inherited g p) (hc : c.All p) : c'.All p := by
  cases h with
  | first => exact hc
  | rest =>
    rw [Call.all_iff rfl] at hc ⊢
    exact fun b hb => hc b (List.mem_cons_of_mem _ hb)
  | look => exact hc
  | turn => exact hc
  | ask =>
    rw [Call.all_iff rfl] at hc ⊢
    exact fun b hb => hc b (List.mem_cons_of_mem _ hb)
  | «try» => exact hc
  | again => exact hc
  | skip => exact hc
  | part => exact hc
  | parts =>
    rw [Call.all_iff rfl] at hc ⊢
    exact fun b hb => hc b (List.mem_append_right _ hb)
  | once => exact hc
  | enter hr =>
    rw [Call.all_iff rfl] at hc ⊢
    intro b hb
    rcases List.mem_cons.1 hb with rfl | hb
    · exact hp.rule _ (Rule.findIn?_eq_some hr).1
    · exact hc b (List.mem_cons_of_mem _ hb)
  | choose =>
    rw [Call.all_iff rfl] at hc
    intro ahead hahead b hb
    obtain ⟨atoms, hatoms, rfl⟩ := List.mem_map.1 hahead
    rcases List.mem_append.1 hb with hb | hb
    · exact hp.inside _ _ _ _ (hc _ List.mem_cons_self) atoms hatoms b hb
    · exact hc b (List.mem_cons_of_mem _ hb)
  | alternative =>
    rw [Call.all_iff rfl]
    exact hc _ List.mem_cons_self
  | alternatives => exact fun ahead hahead => hc ahead (List.mem_cons_of_mem _ hahead)

/-- **Atoms inherit from the rules.** -/
theorem Reaches.inherits (h : Reaches g input c c') (hp : Inherited g p) (hc : c.All p) :
    c'.All p := by
  induction h with
  | refl => exact hc
  | tail _ hmakes ih => exact hmakes.inherits hp ih

omit [Readable α] in
theorem Call.start_all {r : Rule} {pos : Nat} (hp : Inherited g p) (hr : r ∈ g.rules) :
    (Call.start r pos : Call α).All p := by
  rw [Call.all_iff rfl]
  intro a ha
  rw [List.mem_singleton.1 ha]
  exact hp.rule r hr

end Inheritance

end Matching

end Lexigram
