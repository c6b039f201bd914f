import Lexigram.Proofs.Endings
import Lexigram.Proofs.Registry

/-!
# Links

Every reference of a built grammar, whichever builder compiled it, is linked as its name asks for in
this grammar: to the rule that has the name, or else to a rule without alternatives that stands in
for undefined ones.

**Kinds of rules** (`Rule.Cased`). The case of its id decides whether a rule is a lexer rule, and it
does so for every rule that a builder accepts. So a reference whose name is undefined here, or names
a parser rule, never named a lexer rule before.

**References** (`Node.Linked`). Linking ends with a rule that stands in for undefined ones whenever
a reference needs it.

**Linking again** (`Node.relink`). Linking goes over the nodes as they are left by an earlier
grammar: it sets the target of each reference, and its kind only if the target is a lexer rule. What
comes out does not depend on the earlier links.

**Matching** (`Matching.atomEnd?_undefined`). What stands in for an undefined rule never matches, so
neither does a chain that cannot do without it.

Main result: `Grammar.Built.linked`.
-/

namespace Lexigram

/-! ## Kinds of rules -/

/-- A rule is a lexer rule if and only if the case of its id says so. -/
def Rule.Cased (r : Rule) : Prop :=
  r.kind = .ofId r.id ∨ r.kind = .fragment ∧ RuleKind.ofId r.id = .lexer

theorem RuleKind.ofId_cases (id : String) : ofId id = .lexer ∨ ofId id = .parser := by
  unfold ofId
  split
  · split
    · exact .inl rfl
    · exact .inr rfl
  · exact .inr rfl

theorem Rule.Cased.isLexer {r : Rule} (h : r.Cased) :
    r.kind.isLexer = (RuleKind.ofId r.id).isLexer := by
  rcases h with h | ⟨h, hid⟩
  · rw [h]
  · rw [h, hid]
    rfl

theorem Rule.Cased.kind_ne_unknown {r : Rule} (h : r.Cased) : r.kind ≠ .unknown := by
  rcases h with h | ⟨h, -⟩
  · rw [h]
    rcases RuleKind.ofId_cases r.id with hid | hid <;> rw [hid] <;> nofun
  · rw [h]
    nofun

namespace Builder

theorem ruleOf_cased {b : Builder} {d : Definition} {r : Rule}
    (h : (b.ruleOf d).result = .ok r) : r.Cased := by
  obtain ⟨-, alternatives, command, -, -, rfl⟩ := ruleOf_eq_ok.1 h
  unfold Rule.Cased ruleWith
  dsimp only
  split
  · next hfragment =>
    rw [Bool.and_eq_true] at hfragment
    refine .inr ⟨rfl, (RuleKind.ofId_cases d.id).resolve_right fun hid => ?_⟩
    rw [hid] at hfragment
    exact Bool.false_ne_true hfragment.2
  · exact .inl rfl

/-- **The case of its id decides on every rule.** -/
theorem Reachable.cased {b : Builder} (h : Reachable b) : ∀ r ∈ b.rules, r.Cased := by
  induction h with
  | new settings => exact List.forall_mem_nil _
  | extending _ ih =>
    intro r hr
    replace hr : r ∈ Grammar.rules _ := hr
    rw [rules_build] at hr
    exact ih r hr
  | named name _ ih => exact ih
  | @compile b d _ ih =>
    intro r hr
    unfold Builder.compile at hr
    split at hr
    · next ds q hq =>
      rw [rules_insert, rules_report] at hr
      rcases mem_insertRule hr with hr | rfl
      · exact ih r hr
      · exact ruleOf_cased (congrArg Checked.result hq)
    · exact ih r hr
  | diagnosed ds _ ih => exact ih

end Builder

theorem Grammar.Built.cased {g : Grammar} (hg : g.Built) {name : String} {r : Rule}
    (hr : g.find? name = some r) : r.Cased := by
  obtain ⟨b, hb, rfl⟩ := hg
  have hmem := (Rule.findIn?_eq_some hr).1
  rw [Builder.rules_build] at hmem
  exact hb.cased r hmem

/-! ## Nodes -/

namespace Atom

/-- An atom between its neighbours. -/
structure Place where
  prev : Option Nat
  next : Option Nat
  atom : Atom

mutual

/-- The places of an atom and of what it holds. -/
def placesOf (prev next : Option Nat) (a : Atom) : List Place :=
  ⟨prev, next, a⟩ ::
    match a with
    | .leaf _ _ | .reference _ _ => []
    | .group _ _ _ alternatives => placesOfAll alternatives

/-- The places of a chain behind the atom `prev`. -/
def placesOfChain (prev : Option Nat) : List Atom → List Place
  | [] => []
  | a :: atoms => placesOf prev (atoms.head?.map handle) a ++ placesOfChain (some a.handle) atoms

/-- The places of alternatives. -/
def placesOfAll : List (List Atom) → List Place
  | [] => []
  | atoms :: alternatives => placesOfChain none atoms ++ placesOfAll alternatives

end

mutual

theorem atoms_placesOf (prev next : Option Nat) : ∀ a,
    (placesOf prev next a).map Place.atom = a :: flatten a.inner
  | .leaf _ _ | .reference _ _ => by simp [placesOf, inner]
  | .group _ _ _ alternatives => by
    rw [placesOf, List.map_cons, atoms_placesOfAll alternatives, inner]

theorem atoms_placesOfChain (prev : Option Nat) : ∀ atoms,
    (placesOfChain prev atoms).map Place.atom = flatten [atoms]
  | [] => by simp [placesOfChain]
  | a :: atoms => by
    rw [placesOfChain, List.map_append, atoms_placesOf prev _ a, atoms_placesOfChain _ atoms,
      flatten_cons, List.cons_append]

/-- The places of some alternatives are those of their atoms. -/
theorem atoms_placesOfAll : ∀ alternatives,
    (placesOfAll alternatives).map Place.atom = flatten alternatives
  | [] => by simp [placesOfAll]
  | atoms :: alternatives => by
    rw [placesOfAll, List.map_append, atoms_placesOfChain none atoms,
      atoms_placesOfAll alternatives, ← flatten_chain]

end

end Atom

/-! ## References -/

/-- Whether a node stands for a rule that it names. -/
def NodeKind.isReference : NodeKind → Bool
  | lexerRule | lexerFragment | parserRule => true
  | composite | expression | literal => false

/-- The kind that a name suggests for a reference. -/
def NodeKind.ofName (name : String) : NodeKind :=
  if (RuleKind.ofId name).isLexer then .lexerRule else .parserRule

/-- The name that a node has as a reference. -/
def Node.name (n : Node) : String := String.ofList n.value

/-- A reference is linked in a grammar as its name asks for. -/
structure Node.Linked (g : Grammar) (n : Node) : Prop where
  /-- The target is the rule that has the name. -/
  defined : ∀ r, g.find? n.name = some r → n.target = some r.handle ∧
    ∃ t ∈ g.nodes, t.handle = r.handle ∧ t.id = n.name ∧ t.ruleKind = r.kind
  /-- Without such a rule it is one that matches nothing. -/
  undefined : g.find? n.name = none → ∃ t ∈ g.nodes, n.target = some t.handle ∧
    t.kind = .composite ∧ t.ruleKind = .unknown ∧ t.children = []
  fragment : ∀ r, g.find? n.name = some r → r.kind = .fragment → n.kind = .lexerFragment
  lexer : ∀ r, g.find? n.name = some r → r.kind = .lexer → n.kind = .lexerRule
  other : (∀ r, g.find? n.name = some r → r.kind = .parser) → n.kind = .ofName n.name
  /-- There are no other kinds of rules. -/
  exhaustive : ∀ r, g.find? n.name = some r →
    r.kind = .fragment ∨ r.kind = .lexer ∨ r.kind = .parser

namespace Grammar

variable {g : Grammar} {r : Rule}

/-- The node of a place in a rule. -/
def placeNode (g : Grammar) (r : Rule) (p : Atom.Place) : Node := g.atomNode r p.prev p.next p.atom

mutual

theorem nodesOfAtom_eq (prev next : Option Nat) : ∀ a,
    g.nodesOfAtom r prev next a = (Atom.placesOf prev next a).map (g.placeNode r)
  | .leaf _ _ | .reference _ _ => rfl
  | .group _ _ _ alternatives => by
    rw [nodesOfAtom, Atom.placesOf, nodesOfAlternatives_eq alternatives]
    rfl

theorem nodesOfChain_eq (prev : Option Nat) : ∀ atoms,
    g.nodesOfChain r prev atoms = (Atom.placesOfChain prev atoms).map (g.placeNode r)
  | [] => rfl
  | a :: atoms => by
    rw [nodesOfChain, Atom.placesOfChain, List.map_append, nodesOfAtom_eq prev _ a,
      nodesOfChain_eq _ atoms]

theorem nodesOfAlternatives_eq : ∀ alternatives,
    g.nodesOfAlternatives r alternatives = (Atom.placesOfAll alternatives).map (g.placeNode r)
  | [] => rfl
  | atoms :: alternatives => by
    rw [nodesOfAlternatives, Atom.placesOfAll, List.map_append, nodesOfChain_eq none atoms,
      nodesOfAlternatives_eq alternatives]

end

/-- A reference among the nodes is one among the atoms of a block. -/
theorem exists_reference {n : Node} (hn : n ∈ g.nodes) (hkind : n.kind.isReference = true) :
    ∃ r ∈ g.blocks, ∃ prev next m name, .reference m name ∈ r.atoms ∧
      n = g.atomNode r prev next (.reference m name) := by
  have hblocks : n ∈ g.blocks.flatMap g.nodesOfRule := by
    rcases List.mem_cons.1 hn with rfl | hn
    · simp [NodeKind.isReference] at hkind
    rcases List.mem_cons.1 hn with rfl | hn
    · simp [NodeKind.isReference] at hkind
    · exact hn
  obtain ⟨r, hr, hn⟩ := List.mem_flatMap.1 hblocks
  rcases List.mem_cons.1 hn with rfl | hn
  · simp [NodeKind.isReference] at hkind
  rw [nodesOfAlternatives_eq] at hn
  obtain ⟨⟨prev, next, a⟩, hplace, rfl⟩ := List.mem_map.1 hn
  have ha : a ∈ r.atoms := by
    rw [Rule.atoms, ← Atom.atoms_placesOfAll]
    exact List.mem_map_of_mem hplace
  cases a with
  | leaf m l =>
    rw [placeNode, atomNode] at hkind
    dsimp only at hkind
    split at hkind <;> simp [NodeKind.isReference] at hkind
  | reference m name => exact ⟨r, hr, prev, next, m, name, ha, rfl⟩
  | group m lookahead value alternatives =>
    simp [placeNode, atomNode, NodeKind.isReference] at hkind

theorem name_atomNode (prev next : Option Nat) (m : Mark) (name : String) :
    (g.atomNode r prev next (.reference m name)).name = name := String.ofList_toList

/-- **There is a stand-in wherever one is needed.** -/
theorem Built.exists_placeholder (hg : g.Built) {name : String} (hr : r ∈ g.blocks)
    (hname : name ∈ r.references) (hnone : g.find? name = none) :
    ∃ t ∈ g.nodes, g.placeholder? = some t.handle ∧ t.kind = .composite ∧ t.ruleKind = .unknown ∧
      t.children = [] := by
  obtain ⟨b, -, rfl⟩ := hg
  -- A block that was added while the grammar was built is there because a reference needs it.
  have hunresolved : hasUnresolved b.blocks b.rules = true := by
    by_contra hresolved
    rw [Builder.blocks_build, if_neg hresolved] at hr
    rw [find?, Builder.rules_build] at hnone
    refine hresolved (List.any_eq_true.2 ⟨r, hr, List.any_eq_true.2 ⟨name, hname, ?_⟩⟩)
    rw [hnone, Option.isNone_none]
  have hblocks := Builder.blocks_build b
  rw [if_pos hunresolved] at hblocks
  generalize b.build.value = g at *
  generalize hp : Builder.placeholder (Rule.nextHandle b.blocks) = p at hblocks
  have hplaceholder : g.placeholder? = some p.handle := by
    rw [placeholder?, hblocks, List.filter_append, ← hp]
    simp [Builder.placeholder]
  have hmem : p ∈ g.blocks := by
    rw [hblocks]
    exact List.mem_append_right _ (List.mem_singleton_self p)
  exact ⟨_, mem_nodes_of_mem_blocks hmem List.mem_cons_self, hplaceholder, rfl,
    by subst hp; rfl, by subst hp; rfl⟩

theorem referenceKind_eq_ofName {name : String}
    (h : ∀ r, g.find? name = some r → r.kind = .parser) :
    g.referenceKind name = .ofName name := by
  unfold referenceKind
  cases hr : g.find? name with
  | none => rfl
  | some r =>
    rw [Option.map_some, h r hr]
    rfl

/-- **Every reference is linked as its name asks for.** -/
theorem Built.linked_node (hg : g.Built) {n : Node} (hn : n ∈ g.nodes)
    (hkind : n.kind.isReference = true) : n.Linked g := by
  obtain ⟨r, hr, prev, next, m, name, ha, rfl⟩ := exists_reference hn hkind
  have htarget : (g.atomNode r prev next (.reference m name)).target = g.referenceTarget? name :=
    rfl
  have hkind' : (g.atomNode r prev next (.reference m name)).kind = g.referenceKind name := rfl
  have hname : name ∈ r.references := List.mem_filterMap.2 ⟨_, ha, rfl⟩
  constructor <;> simp only [name_atomNode, htarget, hkind']
  case defined =>
    intro q hq
    obtain ⟨hmem, rfl⟩ := Rule.findIn?_eq_some hq
    have hnode := mem_nodes_of_mem_blocks (hg.mem_blocks hmem) List.mem_cons_self
    exact ⟨by rw [referenceTarget?, hq]; rfl, _, hnode, rfl, rfl, rfl⟩
  case undefined =>
    intro hnone
    obtain ⟨t, ht, hplaceholder, hrest⟩ := hg.exists_placeholder hr hname hnone
    exact ⟨t, ht, by rw [referenceTarget?, hnone]; exact hplaceholder, hrest⟩
  case fragment =>
    intro q hq hfragment
    rw [referenceKind, hq, Option.map_some, hfragment]
  case lexer =>
    intro q hq hlexer
    rw [referenceKind, hq, Option.map_some, hlexer]
  case other => exact referenceKind_eq_ofName
  case exhaustive =>
    intro q hq
    have hcased := hg.cased hq
    rcases hk : q.kind with _ | _ | _ | _
    · exact .inr (.inl rfl)
    · exact .inl rfl
    · exact .inr (.inr rfl)
    · exact absurd hk hcased.kind_ne_unknown

end Grammar

/-! ## Linking again -/

/-- A node as it is linked in a grammar, given how it is linked so far. A reference gets the target
that its name has there. Its kind is set if the target is a lexer rule, and kept otherwise. -/
def Node.relink (g : Grammar) (n : Node) : Node :=
  if n.kind.isReference then
    match g.find? n.name with
    | none => { n with target := g.placeholder? }
    | some r =>
      { n with
        target := some r.handle
        kind :=
          match r.kind with
          | .fragment => .lexerFragment
          | .lexer => .lexerRule
          | .parser | .unknown => n.kind }
  else n

namespace Grammar

/-- A grammar without rules, in which no reference has a target. -/
def unlinked : Grammar where
  name := none
  parent := none
  settings := {}
  blocks := []
  rules := []
  diagnostics := []

variable {p g : Grammar}

theorem isReference_referenceKind (name : String) : (p.referenceKind name).isReference = true := by
  unfold referenceKind
  split
  · rfl
  · rfl
  · split <;> rfl

/-- A kind that a name has once lasts, unless the name means a lexer rule in the end. -/
theorem referenceKind_lasts (hp : ∀ name r, p.find? name = some r → r.Cased)
    (hg : ∀ name r, g.find? name = some r → r.Cased)
    (hgrows : ∀ name, (p.find? name).isSome → (g.find? name).isSome) {name : String}
    (hparser : ∀ r, g.find? name = some r → r.kind = .parser) :
    p.referenceKind name = .ofName name := by
  refine referenceKind_eq_ofName fun q hq => ?_
  obtain ⟨r, hr⟩ := Option.isSome_iff_exists.1 (hgrows name (by rw [hq]; rfl))
  have hidq := (Rule.findIn?_eq_some hq).2
  have hidr := (Rule.findIn?_eq_some hr).2
  have hlexer : q.kind.isLexer = false := by
    rw [(hp name q hq).isLexer, hidq, ← hidr, ← (hg name r hr).isLexer, hparser r hr]
    rfl
  rcases hk : q.kind with _ | _ | _ | _
  · rw [hk] at hlexer
    exact absurd hlexer (by decide)
  · rw [hk] at hlexer
    exact absurd hlexer (by decide)
  · rfl
  · exact absurd hk (hp name q hq).kind_ne_unknown

theorem relink_atomNode (hp : ∀ name r, p.find? name = some r → r.Cased)
    (hg : ∀ name r, g.find? name = some r → r.Cased)
    (hgrows : ∀ name, (p.find? name).isSome → (g.find? name).isSome) (r : Rule)
    (prev next : Option Nat) (a : Atom) :
    (p.atomNode r prev next a).relink g = g.atomNode r prev next a := by
  cases a with
  | leaf m l =>
    have hkind : (p.atomNode r prev next (.leaf m l)).kind.isReference = false := by
      rw [atomNode]
      dsimp only
      split <;> rfl
    rw [Node.relink, hkind, if_neg Bool.false_ne_true]
    rfl
  | group m lookahead value alternatives => rfl
  | reference m name =>
    have hkind : (p.atomNode r prev next (.reference m name)).kind.isReference = true :=
      isReference_referenceKind name
    rw [Node.relink, hkind, if_pos rfl, name_atomNode]
    cases hq : g.find? name with
    | none =>
      have hlasts : p.referenceKind name = g.referenceKind name := by
        rw [referenceKind_lasts hp hg hgrows (by simp [hq]), referenceKind_eq_ofName (by simp [hq])]
      simp only [atomNode, hlasts, referenceTarget?, hq, Option.map_none, Option.none_or]
    | some q =>
      have hlast : g.referenceKind name = match q.kind with
          | .fragment => .lexerFragment
          | .lexer => .lexerRule
          | .parser | .unknown => p.referenceKind name := by
        rcases hk : q.kind with _ | _ | _ | _
        · simp [referenceKind, hq, hk]
        · simp [referenceKind, hq, hk]
        -- Here the kind is kept, so it must be the one that the name suggests.
        · have hparser : ∀ r, g.find? name = some r → r.kind = .parser := by
            intro r hr
            rw [hq] at hr
            cases hr
            exact hk
          dsimp only
          rw [referenceKind_lasts hp hg hgrows hparser, referenceKind_eq_ofName hparser]
        · exact absurd hk (hg name q hq).kind_ne_unknown
      simp only [atomNode, hlast, referenceTarget?, hq, Option.map_some, Option.some_or]

/-- **Linking again makes up for all earlier linking.** If every id of one grammar is also one of
another, linking the nodes of the one in the other gives the nodes of the other. -/
theorem relink_nodesOfRule (hp : ∀ name r, p.find? name = some r → r.Cased)
    (hg : ∀ name r, g.find? name = some r → r.Cased)
    (hgrows : ∀ name, (p.find? name).isSome → (g.find? name).isSome) (r : Rule) :
    (p.nodesOfRule r).map (Node.relink g) = g.nodesOfRule r := by
  have halternatives : (p.nodesOfAlternatives r r.alternatives).map (Node.relink g) =
      g.nodesOfAlternatives r r.alternatives := by
    rw [nodesOfAlternatives_eq, nodesOfAlternatives_eq, List.map_map]
    exact List.map_congr_left fun place _ => relink_atomNode hp hg hgrows r _ _ _
  rw [nodesOfRule, List.map_cons, halternatives]
  rfl

end Grammar

namespace Builder

/-- A builder that extends a grammar, directly or through others, whatever it changes. -/
inductive Inherits (p : Grammar) : Builder → Prop
  | extending : Inherits p (Builder.extending p)
  | again {b : Builder} : Inherits p b → Inherits p (Builder.extending b.build.value)
  | named {b : Builder} (name : String) : Inherits p b → Inherits p { b with name := some name }
  | compile {b : Builder} (d : Definition) : Inherits p b → Inherits p (b.compile d).1
  | diagnosed {b : Builder} (ds : List Diagnostic) :
      Inherits p b → Inherits p { b with diagnostics := ds }

/-- A definition adds a rule, or it changes neither rules nor blocks. -/
theorem grows_compile (b : Builder) (d : Definition) :
    b.blocks <+: (b.compile d).1.blocks ∧
      ∀ name, (Rule.findIn? b.rules name).isSome →
        (Rule.findIn? (b.compile d).1.rules name).isSome := by
  rcases b.compile_cases d with ⟨ds, r, hc, -⟩ | ⟨ds, e, hc⟩
  · rw [hc]
    refine ⟨?_, fun name hname => ?_⟩
    · rw [blocks_insert, blocks_report]
      exact List.prefix_append _ _
    · rw [rules_insert, rules_report, findIn?_insertRule]
      split
      · rfl
      · exact hname
  · rw [hc]
    exact ⟨List.prefix_rfl, fun _ hname => hname⟩

/-- **What is inherited stays.** -/
theorem Inherits.grows {p : Grammar} {b : Builder} (h : Inherits p b) :
    p.blocks <+: b.blocks ∧
      ∀ name, (p.find? name).isSome → (Rule.findIn? b.rules name).isSome := by
  induction h with
  | extending => exact ⟨List.prefix_rfl, fun _ hname => hname⟩
  | @again b _ ih =>
    refine ⟨ih.1.trans ?_, fun name hname => ?_⟩
    · change b.blocks <+: b.build.value.blocks
      rw [blocks_build]
      split
      · exact List.prefix_append _ _
      · exact List.prefix_rfl
    · change (Rule.findIn? b.build.value.rules name).isSome
      rw [rules_build]
      exact ih.2 name hname
  | named name _ ih => exact ih
  | @compile b d _ ih =>
    obtain ⟨hblocks, hrules⟩ := b.grows_compile d
    exact ⟨ih.1.trans hblocks, fun name hname => hrules name (ih.2 name hname)⟩
  | diagnosed ds _ ih => exact ih

end Builder

/-! ## Undefined references -/

namespace Matching

section Undefined

variable {α : Type} [Readable α] {g : Grammar} {input : Input α} {active : List (Nat × Nat)}
variable {pending : List (List Atom)} {m : Mark} {name : String} {pos : Nat}

/-- **A reference to nothing does not match** if it is needed. -/
theorem atomEnd?_undefined (hnone : g.find? name = none) (hm : m.inverted = false)
    (hmin : 1 ≤ m.quantifier.min) :
    atomEnd? g input active pending pos (.reference m name) = none := by
  have haccepts (pos : Nat) : accepts input (.reference m name) 0 pos = false := by
    rw [accepts, Quantifier.admits, Bool.and_eq_false_imp]
    intro hadmits
    rw [Bool.and_eq_true, decide_eq_true_eq] at hadmits
    exact absurd hmin (Nat.not_le.2 (Nat.lt_succ_of_le hadmits.1))
  have hattempt (pos : Nat) :
      (attempt g input active pending (.reference m name) pos).value = none := by
    rw [attempt_value, once_undefined_value g input active pending pos m hnone]
    simp [Atom.isLookahead, Atom.mark, hm]
  have hturns : (turns g input active pending (.reference m name)
      (.begin (some (Atom.reference m name).handle) pos) 0).value =
      (.begin (some (Atom.reference m name).handle) pos, 0) := by
    by_cases hgo : 0 < (Atom.reference m name).mark.quantifier.max ∧
        (SyntaxTree.begin (α := α) (some (Atom.reference m name).handle) pos).stop < input.size
    · have hasks (pos : Nat) :
          (asks g input active pending (.reference m name) 0 pos).value = false := by
        rw [asks, haccepts, Bool.and_false, if_neg Bool.false_ne_true, Noted.value_pure]
      rw [turns_go_value _ _ _ _ _ _ _ hgo, hasks, if_neg Bool.false_ne_true, hattempt]
    · exact turns_stop_value _ _ _ _ _ _ _ hgo
  rw [atomEnd?_turns (by simp [Atom.isLookahead]), hturns, turnsEnd?]
  dsimp only
  rw [haccepts, if_neg Bool.false_ne_true]

/-- A chain does not match if one of its atoms never does. -/
theorem chainEnd?_append_of_none {a : Atom}
    (h : ∀ pending pos, atomEnd? g input active pending pos a = none) (front back : List Atom) :
    chainEnd? g input active pending pos (front ++ a :: back) = none := by
  induction front generalizing pos with
  | nil => rw [List.nil_append, chainEnd?_cons, h, Option.bind_none]
  | cons b front ih =>
    rw [List.cons_append, chainEnd?_cons, Option.bind_eq_none_iff]
    exact fun stop _ => ih

theorem run_not_matched {atoms : List Atom}
    (h : ∀ active, chainEnd? g input active [] pos atoms = none) :
    (run g input atoms pos).value.matched = false := by
  cases atoms with
  | nil => rfl
  | cons a atoms =>
    rw [run]
    split
    · have hending : (steps g input [(a.handle, pos)] [] (.begin (some a.handle) pos)
          (a :: atoms)).value.ending? = none := (steps_ending rfl).trans (h _)
      rw [← SyntaxTree.isSome_ending?, hending, Option.isSome_none]
    · rfl

end Undefined

end Matching

/-! ## The result -/

namespace Grammar

/-- **Linking is complete and current.** In a built grammar every reference, inherited or not, is
linked as its name asks for. The nodes of its blocks are what linking makes of them as they were
compiled, and the nodes of an inherited block are what linking makes of them as they were linked in
any grammar that this one extends. A reference that is needed and not inverted never matches if its
name is undefined, nor does a chain that it is part of, whatever is read and wherever. -/
theorem Built.linked {g : Grammar} (hg : g.Built) :
    (∀ n ∈ g.nodes, n.kind.isReference = true → n.Linked g) ∧
    (∀ r ∈ g.blocks, (unlinked.nodesOfRule r).map (Node.relink g) = g.nodesOfRule r) ∧
    (∀ p b, p.Built → Builder.Inherits p b → b.build.value = g → ∀ r ∈ p.blocks,
      r ∈ g.blocks ∧ (p.nodesOfRule r).map (Node.relink g) = g.nodesOfRule r) ∧
    ∀ n ∈ g.nodes, n.kind.isReference = true → n.inverted = false → 1 ≤ n.quantifier.min →
      g.find? n.name = none → ∀ (α : Type) [Readable α] (input : Input α) (pos : Nat),
        (Matching.runNode g input n.handle pos).value.matched = false ∧
        ∀ active pending front back, Matching.chainEnd? g input active pending pos
          (front ++ .reference ⟨n.handle, n.inverted, n.quantifier⟩ n.name :: back) = none := by
  have hcased : ∀ name r, g.find? name = some r → r.Cased := fun _ _ => hg.cased
  refine ⟨fun n => hg.linked_node, fun r _ => ?_, fun p b hp hb hbuild r hr => ?_,
    fun n hn hkind hinverted hmin hnone α _ input pos => ?_⟩
  · exact relink_nodesOfRule (by simp [unlinked, find?, Rule.findIn?]) hcased
      (by simp [unlinked, find?, Rule.findIn?]) r
  · obtain ⟨hblocks, hrules⟩ := hb.again.grows
    subst hbuild
    exact ⟨hblocks.subset hr, relink_nodesOfRule (fun _ _ => hp.cased) hcased hrules r⟩
  · obtain ⟨r, hr, prev, next, m, name, ha, rfl⟩ := exists_reference hn hkind
    have hmark : (g.atomNode r prev next (.reference m name)).inverted = m.inverted ∧
        (g.atomNode r prev next (.reference m name)).quantifier = m.quantifier ∧
        (g.atomNode r prev next (.reference m name)).handle = m.handle := ⟨rfl, rfl, rfl⟩
    obtain ⟨hi, hq, hh⟩ := hmark
    rw [hi] at hinverted
    rw [hq] at hmin
    rw [name_atomNode] at hnone
    have hnever : ∀ active pending pos,
        Matching.atomEnd? g input active pending pos (.reference m name) = none :=
      fun _ _ _ => Matching.atomEnd?_undefined hnone hinverted hmin
    rw [hi, hq, hh, name_atomNode]
    refine ⟨?_, fun active pending front back =>
      Matching.chainEnd?_append_of_none (hnever active) front back⟩
    obtain ⟨atoms, hchain⟩ := hg.chain?_atom hr ha
    change g.chain? m.handle = _ at hchain
    rw [Matching.runNode, hchain, Option.getD_some]
    exact Matching.run_not_matched fun active =>
      Matching.chainEnd?_append_of_none (hnever active) [] atoms

/-- A rule of two references. -/
def pairing : Rule where
  id := "A"
  kind := .lexer
  handle := 2
  alternatives := [[.reference ⟨3, false, .once⟩ "X", .reference ⟨4, false, .once⟩ "Y"]]

/-- A grammar whose one reference is to a fragment that a grammar extending it makes an ordinary
rule, and whose other one is undefined in both. -/
theorem linked_pairing :
    let b := (({} : Builder).compile { id := "A", body := "X Y" }).1
    let p := (b.compile { id := "X", body := "'x'", options := ["fragment"] }).1.build.value
    let g := ((Builder.extending p).compile { id := "X", body := "'x'" }).1.build.value
    g.Built ∧ pairing ∈ p.blocks ∧
      (p.nodesOfRule pairing).map Node.kind = [.composite, .lexerFragment, .lexerRule] ∧
      (g.nodesOfRule pairing).map Node.kind = [.composite, .lexerRule, .lexerRule] ∧
      (p.nodesOfRule pairing).map (Node.relink g) = g.nodesOfRule pairing ∧
      (∀ n ∈ g.nodes, n.kind.isReference = true → n.Linked g) ∧
      ∀ pos, (Matching.runNode g (.ofUnits ['x']) 4 pos).value.matched = false := by
  intro b p g
  have hb : Builder.Reachable (b.compile { id := "X", body := "'x'", options := ["fragment"] }).1 :=
    .compile _ (.compile _ (.new {}))
  have hp : p.Built := .of_reachable hb
  have hg : g.Built := .of_reachable (.compile _ (.extending hb))
  have hmem : pairing ∈ p.blocks := by
    have hhead : p.blocks.head? = some pairing := by
      unfold p b
      cbv
    exact List.mem_of_head? hhead
  have hkinds : (p.nodesOfRule pairing).map Node.kind =
      [.composite, .lexerFragment, .lexerRule] := by
    unfold p b
    cbv
  have hkinds' : (g.nodesOfRule pairing).map Node.kind =
      [.composite, .lexerRule, .lexerRule] := by
    unfold g p b
    cbv
  have hnone : g.find? "Y" = none := by
    unfold g p b
    cbv
  obtain ⟨hlinked, -, hagain, hnever⟩ := hg.linked
  obtain ⟨hinherited, hrelink⟩ := hagain p _ hp (.compile _ .extending) rfl pairing hmem
  have hnode : g.atomNode pairing (some 3) none (.reference ⟨4, false, .once⟩ "Y") ∈ g.nodes :=
    mem_nodes_of_mem_blocks hinherited (.tail _ (.tail _ (.head _)))
  refine ⟨hg, hmem, hkinds, hkinds', hrelink, hlinked, fun pos => ?_⟩
  exact (hnever _ hnode (isReference_referenceKind "Y") rfl (Nat.le_refl 1)
    (by rw [name_atomNode]; exact hnone) Char (.ofUnits ['x']) pos).1

end Grammar

end Lexigram
