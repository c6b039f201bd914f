import Lexigram.Proofs.Drafts
import Lexigram.Proofs.Inheritance
import Lexigram.Proofs.RuleTrees

/-!
# The nodes of a builder are a forest

A builder makes the nodes of each rule behind those that it has. Whatever is done with it, its nodes
are the trees of the rules that were compiled, one behind the other, each from the handle on that
was answered for the rule. Between them stand single nodes for undefined rules.

**Operations** (`Arena.step`). Next to a builder, the list of its nodes is changed in place. A
definition that compiles adds nodes and enters the first of them among the children of the root.
Building links the references, and adds a node if some of them lead nowhere.

**The invariant** (`Arena.Holds`). The nodes are those of the blocks of the builder, each block
linked in some grammar of which the builder has all ids. So linking makes them the nodes of the
grammar that is built (`Arena.Holds.link_eq`).

**Forests** (`Forest`). Blocks that are numbered without a gap are a forest, in whatever grammars
they are linked (`Grammar.forest_blocks`).

Main result: `Arena.isForest_run`.
-/

namespace Lexigram

open Grammar (unlinked headHandles)

/-! ## Forests -/

/-- The node of the group of all rules. -/
def Node.root (children : List Nat) : Node :=
  { handle := Grammar.root, id := "<root>", value := "<root>".toList, kind := .composite,
    ruleKind := .unknown, children }

/-- The node of the rule that accepts any character. -/
def Node.unmatched (id : String) : Node :=
  { handle := Grammar.unmatched, id, value := ['.'], kind := .expression, ruleKind := .lexer,
    pattern := some .any }

/-- The node of a rule that stands in for undefined ones. -/
def Node.standIn (handle : Nat) : Node :=
  { handle, id := Grammar.placeholderId, value := Grammar.placeholderId.toList, kind := .composite,
    ruleKind := .unknown }

/-- Nodes with the handles from `base` on, one tree behind the other: those of rules, which have the
given heads, and single nodes that stand in for undefined rules. -/
inductive Forest : Nat → List Nat → List Node → Prop
  | nil (base : Nat) : Forest base [] []
  | tree {base : Nat} {heads : List Nat} {tree nodes : List Node} : RuleTree base tree →
      Forest (base + tree.length) heads nodes → Forest base (base :: heads) (tree ++ nodes)
  | standIn {base : Nat} {heads : List Nat} {nodes : List Node} :
      Forest (base + 1) heads nodes → Forest base heads (Node.standIn base :: nodes)

theorem Forest.numbered {base : Nat} {heads : List Nat} {nodes : List Node}
    (h : Forest base heads nodes) : nodes.map Node.handle = List.range' base nodes.length := by
  induction h with
  | nil base => rfl
  | @tree base heads tree nodes htree _ ih =>
    have hnumbered := htree.joined.numbered
    rw [List.map_map, List.length_map] at hnumbered
    have htree : tree.map Node.handle = List.range' base tree.length := hnumbered
    rw [List.map_append, htree, ih, List.length_append, List.range'_append_1]
  | standIn _ ih =>
    rw [List.map_cons, ih, List.length_cons, List.range'_succ]
    rfl

theorem Forest.formed {base : Nat} {heads : List Nat} {nodes : List Node}
    (h : Forest base heads nodes) : ∀ n ∈ nodes, n.Formed := by
  induction h with
  | nil base => exact List.forall_mem_nil _
  | tree htree _ ih =>
    intro n hn
    rcases List.mem_append.1 hn with hn | hn
    · exact htree.formed n hn
    · exact ih n hn
  | standIn _ ih =>
    intro n hn
    rcases List.mem_cons.1 hn with rfl | hn
    · exact ⟨by simp [Node.standIn], fun _ => rfl, fun _ => rfl⟩
    · exact ih n hn

/-- The tree of a rule begins where its head is. -/
theorem Forest.exists_tree {base : Nat} {heads : List Nat} {nodes : List Node}
    (h : Forest base heads nodes) :
    ∀ head ∈ heads, base ≤ head ∧
      ∃ tree, RuleTree head tree ∧ tree <+: nodes.drop (head - base) := by
  induction h with
  | nil base => exact List.forall_mem_nil _
  | @tree base heads tree nodes htree _ ih =>
    intro head hhead
    rcases List.mem_cons.1 hhead with rfl | hhead
    · refine ⟨Nat.le_refl head, tree, htree, ?_⟩
      rw [Nat.sub_self]
      exact List.prefix_append tree nodes
    · obtain ⟨hle, found, hfound, hprefix⟩ := ih head hhead
      refine ⟨by omega, found, hfound, ?_⟩
      have hdrop : head - base = tree.length + (head - (base + tree.length)) := by omega
      rwa [hdrop, List.drop_length_add_append]
  | @standIn base heads nodes _ ih =>
    intro head hhead
    obtain ⟨hle, found, hfound, hprefix⟩ := ih head hhead
    refine ⟨by omega, found, hfound, ?_⟩
    have hdrop : head - base = head - (base + 1) + 1 := by omega
    rwa [hdrop, List.drop_succ_cons]

/-! ## Blocks -/

/-- A rule that was compiled, or one that stands in for undefined ones. -/
def Rule.Known (r : Rule) : Prop :=
  r.Filled ∧ r.kind ≠ .unknown ∨ ∃ handle, r = Builder.placeholder handle

theorem Rule.nextHandle_eq_sum (blocks : List Rule) :
    nextHandle blocks = 2 + (blocks.map size).sum := by
  rw [nextHandle]
  congr 1
  induction blocks with
  | nil => rfl
  | cons r blocks ih => rw [List.foldr_cons, ih, List.map_cons, List.sum_cons]

theorem Builder.Reachable.known {b : Builder} (h : b.Reachable) : ∀ r ∈ b.blocks, r.Known := by
  induction h with
  | new settings => exact List.forall_mem_nil _
  | @extending b _ ih =>
    intro r hr
    replace hr : r ∈ b.build.value.blocks := hr
    rw [blocks_build] at hr
    split at hr
    · rcases List.mem_append.1 hr with hr | hr
      · exact ih r hr
      · exact .inr ⟨_, List.mem_singleton.1 hr⟩
    · exact ih r hr
  | named name _ ih => exact ih
  | @compile b d _ ih =>
    intro r hr
    unfold Builder.compile at hr
    split at hr
    · next ds q hq =>
      rw [blocks_insert, blocks_report] at hr
      rcases List.mem_append.1 hr with hr | hr
      · exact ih r hr
      · rw [List.mem_singleton.1 hr]
        have hrule := congrArg Checked.result hq
        exact .inl ⟨ruleOf_filled hrule, (ruleOf_cased hrule).kind_ne_unknown⟩
    · exact ih r hr
  | diagnosed ds _ ih => exact ih

namespace Grammar

variable {g : Grammar} {r : Rule}

theorem nodesOfRule_placeholder (handle : Nat) :
    g.nodesOfRule (Builder.placeholder handle) = [Node.standIn handle] := rfl

theorem length_nodesOfRule : (g.nodesOfRule r).length = r.size := by
  rw [nodesOfRule, List.length_cons, nodesOfAlternatives_eq, List.length_map, Rule.size, Rule.atoms,
    ← Atom.atoms_placesOfAll, List.length_map]

/-- The handles of the rules among some blocks that were compiled. -/
def compiledHeads (blocks : List Rule) : List Nat :=
  (blocks.filter fun r => r.kind ≠ .unknown).map Rule.handle

theorem compiledHeads_append (blocks blocks' : List Rule) :
    compiledHeads (blocks ++ blocks') = compiledHeads blocks ++ compiledHeads blocks' := by
  rw [compiledHeads, List.filter_append, List.map_append]
  rfl

/-- **Blocks behind one another are a forest**, in whatever grammars their nodes are linked. -/
theorem forest_blocks {base : Nat} {parts : List (Grammar × Rule)}
    (hlaid : Rule.Laid base (parts.map Prod.snd)) (hknown : ∀ part ∈ parts, part.2.Known) :
    Forest base (compiledHeads (parts.map Prod.snd))
      (parts.flatMap fun part => part.1.nodesOfRule part.2) := by
  induction parts generalizing base with
  | nil => exact .nil base
  | cons part parts ih =>
    obtain ⟨p, r⟩ := part
    obtain ⟨hhandle, hcounted, hlaid⟩ := hlaid
    dsimp only at hhandle hcounted hlaid
    subst hhandle
    have hrest := ih hlaid fun q hq => hknown q (.tail _ hq)
    rw [List.flatMap_cons]
    rcases hknown (p, r) (.head _) with ⟨hfilled, hkind⟩ | ⟨handle, rfl⟩
    · have hheads : compiledHeads (((p, r) :: parts).map Prod.snd) =
          r.handle :: compiledHeads (parts.map Prod.snd) := by
        simp [compiledHeads, hkind]
      rw [hheads]
      refine .tree (ruleTree_nodesOfRule hcounted hfilled) ?_
      rw [length_nodesOfRule]
      exact hrest
    · have hsize : (Builder.placeholder handle).size = 1 := by
        simp [Rule.size, Rule.atoms, Builder.placeholder]
      have hheads : compiledHeads (((p, Builder.placeholder handle) :: parts).map Prod.snd) =
          compiledHeads (parts.map Prod.snd) := by
        simp [compiledHeads, Builder.placeholder]
      rw [hheads, nodesOfRule_placeholder]
      rw [hsize] at hrest
      exact .standIn hrest

end Grammar

theorem Builder.nodes_build (b : Builder) :
    b.build.value.nodes =
      .root (b.rules.map Rule.handle) :: .unmatched b.settings.unmatchedId ::
        (b.blocks.flatMap b.build.value.nodesOfRule ++
          if Grammar.hasUnresolved b.blocks b.rules then
            [.standIn (Rule.nextHandle b.blocks)]
          else []) := by
  rw [Grammar.nodes, rules_build, settings_build, blocks_build]
  split
  · rw [List.flatMap_append]
    rfl
  · rw [List.append_nil]
    rfl

/-! ## Operations -/

/-- A builder with the nodes that it has made. -/
structure Arena where
  builder : Builder
  nodes : List Node
  /-- The handles that it has answered. -/
  heads : List Nat

/-- What is done with a builder. -/
inductive Operation where
  | compile (d : Definition)
  | rename (name : String)
  /-- Problems are taken from and added to those that were found so far. -/
  | diagnose (ds : List Diagnostic)
  /-- The grammar is built, and a builder that extends it takes over. -/
  | extend

namespace Arena

/-- A builder that starts from nothing. -/
def new (settings : Settings) : Arena where
  builder := { settings }
  nodes := [.root [], .unmatched settings.unmatchedId]
  heads := []

/-- Makes the nodes of a definition behind those that there are. -/
def draft (a : Arena) (d : Definition) : Checked (Draft × Option Command) :=
  Draft.readBody d.id (Builder.ruleWith d a.nodes.length [] none).kind a.builder.settings.cap
    a.nodes.length d.body.toList

/-- Gives the node of a rule what its definition says besides the body. -/
def complete (d : Definition) (command : Option Command) (n : Node) : Node :=
  let r := Builder.ruleWith d n.handle [] command
  { n with order := r.order, categories := r.categories, options := r.options, command }

/-- Enters a rule among the children of the group of all rules. -/
def enter (a : Arena) (id : String) (handle : Nat) (n : Node) : Node :=
  let table := Register.enter ⟨a.builder.register.index, n.children⟩ (id, handle)
  { n with children := table.children }

/-- Compiles a definition. Its nodes are kept if it compiles. -/
def compile (a : Arena) (d : Definition) : Arena :=
  match a.builder.compile d, (a.draft d).result with
  | (b, .ok handle), .ok (draft, command) =>
    { builder := b
      nodes := (a.nodes ++ (draft.modify handle (complete d command)).nodes).modify Grammar.root
        (a.enter d.id handle)
      heads := a.heads ++ [handle] }
  | (b, _), _ => { a with builder := b }

theorem builder_compile (a : Arena) (d : Definition) :
    (a.compile d).builder = (a.builder.compile d).1 := by
  unfold compile
  rcases a.builder.compile d with ⟨b, _ | handle⟩
  · rfl
  · rcases (a.draft d).result with _ | ⟨draft, command⟩ <;> rfl

/-- Links the references, with one more node if some of them need it. -/
def link (a : Arena) : List Node :=
  a.nodes.map (Node.relink a.builder.build.value) ++
    if Grammar.hasUnresolved a.builder.blocks a.builder.rules then [.standIn a.nodes.length] else []

/-- What an operation leaves. -/
def step (a : Arena) : Operation → Arena
  | .compile d => a.compile d
  | .rename name => { a with builder := { a.builder with name := some name } }
  | .diagnose ds => { a with builder := { a.builder with diagnostics := ds } }
  | .extend => { a with builder := .extending a.builder.build.value, nodes := a.link }

/-- The arena after some operations. -/
def run (settings : Settings) (ops : List Operation) : Arena := ops.foldl step (new settings)

/-! ## What operations keep -/

/-- The nodes of a builder are those of some parts: its blocks, each with the grammar in which the
nodes of the block are linked. All ids of that grammar are ids of the builder. -/
structure Holds (a : Arena) (parts : List (Grammar × Rule)) : Prop where
  reachable : a.builder.Reachable
  blocks : a.builder.blocks = parts.map Prod.snd
  nodes : a.nodes = .root (a.builder.rules.map Rule.handle) ::
    .unmatched a.builder.settings.unmatchedId ::
      parts.flatMap fun part => part.1.nodesOfRule part.2
  heads : a.heads = Grammar.compiledHeads a.builder.blocks
  cased : ∀ part ∈ parts, ∀ name r, part.1.find? name = some r → r.Cased
  grown : ∀ part ∈ parts, ∀ name, (part.1.find? name).isSome →
    (Rule.findIn? a.builder.rules name).isSome

namespace Holds

variable {a : Arena} {parts : List (Grammar × Rule)}

/-- The next node gets the next handle. -/
theorem length_nodes (h : a.Holds parts) : a.nodes.length = Rule.nextHandle a.builder.blocks := by
  have hparts : (parts.flatMap fun part => part.1.nodesOfRule part.2).length =
      ((parts.map Prod.snd).map Rule.size).sum := by
    rw [List.length_flatMap, List.map_map]
    congr 1
    exact List.map_congr_left fun part _ => Grammar.length_nodesOfRule
  rw [h.nodes, Rule.nextHandle_eq_sum, h.blocks, List.length_cons, List.length_cons, hparts]
  omega

theorem forest (h : a.Holds parts) :
    ∃ rest, a.nodes = .root (a.builder.rules.map Rule.handle) ::
      .unmatched a.builder.settings.unmatchedId :: rest ∧ Forest 2 a.heads rest := by
  have hlaid := h.reachable.ordered.laid
  have hknown := h.reachable.known
  rw [h.blocks] at hlaid hknown
  refine ⟨_, h.nodes, ?_⟩
  rw [h.heads, h.blocks]
  exact Grammar.forest_blocks hlaid fun part hpart => hknown _ (List.mem_map_of_mem hpart)

/-- **Linking makes the nodes of the grammar that is built.** -/
theorem link_eq (h : a.Holds parts) : a.link = a.builder.build.value.nodes := by
  have hcased : ∀ name r, a.builder.build.value.find? name = some r → r.Cased := fun _ _ =>
    (Grammar.Built.of_reachable h.reachable).cased
  have hrules := Builder.rules_build a.builder
  have hparts : (parts.flatMap fun part => part.1.nodesOfRule part.2).map
      (Node.relink a.builder.build.value) =
        a.builder.blocks.flatMap a.builder.build.value.nodesOfRule := by
    rw [h.blocks, List.flatMap_map, List.map_flatMap]
    refine List.flatMap_congr fun part hpart => ?_
    refine Grammar.relink_nodesOfRule (h.cased part hpart) hcased (fun name hname => ?_) part.2
    rw [Grammar.find?, hrules]
    exact h.grown part hpart name hname
  rw [link, h.nodes, List.map_cons, List.map_cons, hparts, Builder.nodes_build, ← h.nodes,
    h.length_nodes]
  rfl

theorem new (settings : Settings) : (new settings).Holds [] where
  reachable := .new settings
  blocks := rfl
  nodes := rfl
  heads := rfl
  cased := List.forall_mem_nil _
  grown := List.forall_mem_nil _

/-- Building the grammar links all blocks in it. -/
theorem extend (h : a.Holds parts) :
    (a.step .extend).Holds
      (a.builder.build.value.blocks.map fun r => (a.builder.build.value, r)) where
  reachable := .extending h.reachable
  blocks := by
    rw [List.map_map]
    exact (List.map_id _).symm
  nodes := by
    rw [List.flatMap_map]
    exact h.link_eq
  heads := by
    show a.heads = Grammar.compiledHeads a.builder.build.value.blocks
    rw [h.heads, Builder.blocks_build]
    split
    · rw [Grammar.compiledHeads_append]
      exact (List.append_nil _).symm
    · rfl
  cased := by
    intro part hpart name r hr
    obtain ⟨q, -, rfl⟩ := List.mem_map.1 hpart
    exact (Grammar.Built.of_reachable h.reachable).cased hr
  grown := by
    intro part hpart name hname
    obtain ⟨q, -, rfl⟩ := List.mem_map.1 hpart
    exact hname

/-- What is made of a definition that compiles are the nodes of its rule. -/
theorem draft_eq (h : a.Holds parts) {d : Definition} {r : Rule}
    (hr : (a.builder.ruleOf d).result = .ok r) :
    ∃ draft command, (a.draft d).result = .ok (draft, command) ∧
      (draft.modify r.handle (complete d command)).nodes = unlinked.nodesOfRule r := by
  obtain ⟨-, alternatives, command, hread, -, rfl⟩ := Builder.ruleOf_eq_ok.1 hr
  have hdraft : (a.draft d).result = .ok (⟨d.id, (Builder.ruleWith d a.nodes.length [] none).kind,
      a.nodes.length, unlinked.nodesOfRule
        { id := d.id, kind := (Builder.ruleWith d a.nodes.length [] none).kind,
          handle := a.nodes.length, alternatives }⟩, command) := by
    rw [draft, Draft.readBody_eq]
    rw [← h.length_nodes] at hread
    exact Checked.result_bind_eq_ok.2 ⟨_, hread, rfl⟩
  refine ⟨_, command, hdraft, ?_⟩
  have hnodes : unlinked.nodesOfAlternatives
        { id := d.id, kind := (Builder.ruleWith d a.nodes.length [] none).kind,
          handle := a.nodes.length, alternatives } alternatives =
      unlinked.nodesOfAlternatives (Builder.ruleWith d a.nodes.length alternatives command)
        alternatives := by
    apply Grammar.nodesOfAlternatives_congr <;> rfl
  rw [← h.length_nodes, Draft.modify]
  change List.modify _ (a.nodes.length - a.nodes.length) _ = _
  rw [Nat.sub_self, Grammar.nodesOfRule, List.modify_zero_cons, hnodes]
  rfl

/-- **A definition that compiles adds a tree.** -/
theorem compile_of_ok (h : a.Holds parts) {d : Definition} {ds : List Diagnostic} {r : Rule}
    (hrule : a.builder.ruleOf d = ⟨ds, .ok r⟩) :
    a.compile d =
      { builder := (a.builder.report ds).insert r
        nodes := .root (((a.builder.report ds).insert r).rules.map Rule.handle) ::
          (a.nodes.tail ++ unlinked.nodesOfRule r)
        heads := a.heads ++ [r.handle] } := by
  have hr : (a.builder.ruleOf d).result = .ok r := congrArg Checked.result hrule
  have hcompile : a.builder.compile d = ((a.builder.report ds).insert r, .ok r.handle) := by
    rw [Builder.compile, hrule]
  have hordered : (a.builder.report ds).Ordered :=
    ⟨h.reachable.ordered.laid, h.reachable.ordered.listed, h.reachable.ordered.distinct⟩
  have hchildren : ((a.builder.report ds).insert r).rules.map Rule.handle =
      ((a.builder.report ds).register.enter (r.id, r.handle)).children :=
    congrArg Register.children (Builder.register_insert hordered r)
  obtain ⟨draft, command, hdraft, hnodes⟩ := h.draft_eq hr
  rw [compile, hcompile, hdraft]
  dsimp only
  rw [hnodes, hchildren, h.nodes, Builder.id_of_ruleOf hr]
  rfl

/-- A definition that fails adds nothing. -/
theorem compile_of_error {d : Definition} {ds : List Diagnostic} {e : CompileError}
    (hrule : a.builder.ruleOf d = ⟨ds, .error e⟩) :
    a.compile d = { a with builder := a.builder.report ds } := by
  have hcompile : a.builder.compile d = (a.builder.report ds, .error e) := by
    rw [Builder.compile, hrule]
  rw [compile, hcompile]

theorem compile (h : a.Holds parts) (d : Definition) : ∃ parts', (a.compile d).Holds parts' := by
  have hreachable := h.reachable.compile d
  cases hrule : a.builder.ruleOf d with
  | mk ds result =>
  cases result with
  | error e =>
    refine ⟨parts, ?_⟩
    rw [Builder.compile, hrule] at hreachable
    rw [compile_of_error hrule]
    exact ⟨hreachable, h.blocks, h.nodes, h.heads, h.cased, h.grown⟩
  | ok r =>
    have hkind : r.kind ≠ .unknown :=
      (Builder.ruleOf_cased (congrArg Checked.result hrule)).kind_ne_unknown
    refine ⟨parts ++ [(unlinked, r)], ?_⟩
    have hgrows := (a.builder.grows_compile d).2
    rw [Builder.compile, hrule] at hreachable hgrows
    rw [h.compile_of_ok hrule]
    refine
      { reachable := hreachable
        blocks := ?blocks
        nodes := ?nodes
        heads := ?heads
        cased := ?cased
        grown := ?grown }
    case blocks =>
      show ((a.builder.report ds).insert r).blocks = _
      rw [Builder.blocks_insert, Builder.blocks_report, h.blocks, List.map_append]
      rfl
    case nodes =>
      dsimp only
      rw [h.nodes, Builder.settings_insert, List.flatMap_append, List.flatMap_singleton]
      rfl
    case heads =>
      dsimp only
      rw [Builder.blocks_insert, Builder.blocks_report, Grammar.compiledHeads_append, h.heads]
      simp [Grammar.compiledHeads, hkind]
    case cased =>
      intro part hpart
      rcases List.mem_append.1 hpart with hpart | hpart
      · exact h.cased part hpart
      · intro name q hq
        rw [List.mem_singleton.1 hpart] at hq
        simp [unlinked, Grammar.find?, Rule.findIn?] at hq
    case grown =>
      intro part hpart name hname
      rcases List.mem_append.1 hpart with hpart | hpart
      · exact hgrows name (h.grown part hpart name hname)
      · rw [List.mem_singleton.1 hpart] at hname
        simp [unlinked, Grammar.find?, Rule.findIn?] at hname

theorem step (h : a.Holds parts) (op : Operation) : ∃ parts', (a.step op).Holds parts' := by
  cases op with
  | compile d => exact h.compile d
  | rename name =>
    exact ⟨parts, .named name h.reachable, h.blocks, h.nodes, h.heads, h.cased, h.grown⟩
  | diagnose ds =>
    exact ⟨parts, .diagnosed ds h.reachable, h.blocks, h.nodes, h.heads, h.cased, h.grown⟩
  | extend => exact ⟨_, h.extend⟩

theorem run (settings : Settings) (ops : List Operation) :
    ∃ parts, (run settings ops).Holds parts := by
  induction ops using List.reverseRecOn with
  | nil => exact ⟨[], .new settings⟩
  | append_singleton ops op ih =>
    obtain ⟨parts, h⟩ := ih
    rw [Arena.run, List.foldl_append]
    exact h.step op

end Holds

/-- The operations lead to all the states of a builder. -/
theorem exists_run {b : Builder} (h : b.Reachable) :
    ∃ settings ops, (run settings ops).builder = b := by
  have hstep {settings : Settings} {ops : List Operation} (op : Operation) :
      run settings (ops ++ [op]) = (run settings ops).step op := List.foldl_append
  induction h with
  | new settings => exact ⟨settings, [], rfl⟩
  | extending _ ih =>
    obtain ⟨settings, ops, rfl⟩ := ih
    exact ⟨settings, ops ++ [.extend], by rw [hstep, step]⟩
  | named name _ ih =>
    obtain ⟨settings, ops, rfl⟩ := ih
    exact ⟨settings, ops ++ [.rename name], by rw [hstep, step]⟩
  | compile d _ ih =>
    obtain ⟨settings, ops, rfl⟩ := ih
    exact ⟨settings, ops ++ [.compile d], by rw [hstep, step, builder_compile]⟩
  | diagnosed ds _ ih =>
    obtain ⟨settings, ops, rfl⟩ := ih
    exact ⟨settings, ops ++ [.diagnose ds], by rw [hstep, step]⟩

/-! ## The result -/

/-- The nodes of a builder are a forest of rules. -/
structure IsForest (a : Arena) : Prop where
  /-- Behind the two nodes that every builder has, the trees of the rules stand one behind the
  other, and single nodes that stand in for undefined rules between them. -/
  forest : ∃ rest, a.nodes = .root (a.builder.rules.map Rule.handle) ::
    .unmatched a.builder.settings.unmatchedId :: rest ∧ Forest 2 a.heads rest
  /-- The handle of a node says where it is. -/
  numbered : a.nodes.map Node.handle = List.range a.nodes.length
  /-- From the handle that was answered for a rule on there is the tree of the rule. -/
  tree : ∀ head ∈ a.heads, ∃ tree, RuleTree head tree ∧ tree <+: a.nodes.drop head
  formed : ∀ n ∈ a.nodes, n.Formed
  /-- A definition that compiles adds its tree, of which it answers the head. -/
  compiled : ∀ d handle, (a.builder.compile d).2 = .ok handle → handle = a.nodes.length ∧
    (a.compile d).heads = a.heads ++ [handle] ∧
    ∃ tree, RuleTree handle tree ∧ (a.compile d).nodes.tail = a.nodes.tail ++ tree
  /-- A definition that fails adds nothing. -/
  failed : ∀ d e, (a.builder.compile d).2 = .error e →
    (a.compile d).nodes = a.nodes ∧ (a.compile d).heads = a.heads
  /-- Linking makes the nodes of the grammar that is built. -/
  links : a.link = a.builder.build.value.nodes
  /-- The nodes of that grammar are a forest of the same rules. -/
  built : ∃ rest, a.builder.build.value.nodes = .root (a.builder.rules.map Rule.handle) ::
    .unmatched a.builder.settings.unmatchedId :: rest ∧ Forest 2 a.heads rest

theorem Holds.isForest {a : Arena} {parts : List (Grammar × Rule)} (h : a.Holds parts) :
    a.IsForest := by
  obtain ⟨rest, hnodes, hforest⟩ := h.forest
  have hfirst : (Node.root (a.builder.rules.map Rule.handle)).Formed :=
    ⟨by simp [Node.root], fun _ => rfl, fun _ => rfl⟩
  have hsecond : (Node.unmatched a.builder.settings.unmatchedId).Formed :=
    ⟨by simp [Node.unmatched], fun h => absurd rfl h, fun h => absurd h Bool.false_ne_true⟩
  refine
    { forest := ⟨rest, hnodes, hforest⟩
      numbered := ?numbered
      tree := fun head hhead => ?tree
      formed := fun n hn => ?formed
      compiled := fun d handle hanswer => ?compiled
      failed := fun d e hanswer => ?failed
      links := h.link_eq
      built := ?built }
  case numbered =>
    rw [hnodes, List.map_cons, List.map_cons, hforest.numbered, List.range_eq_range']
    rfl
  case tree =>
    obtain ⟨hle, tree, htree, hprefix⟩ := hforest.exists_tree head hhead
    have hdrop : head = head - 2 + 2 := (Nat.sub_add_cancel hle).symm
    refine ⟨tree, htree, ?_⟩
    rw [hnodes, hdrop, List.drop_succ_cons, List.drop_succ_cons]
    exact hprefix
  case formed =>
    rw [hnodes] at hn
    rcases List.mem_cons.1 hn with rfl | hn
    · exact hfirst
    rcases List.mem_cons.1 hn with rfl | hn
    · exact hsecond
    · exact hforest.formed n hn
  case compiled =>
    cases hrule : a.builder.ruleOf d with
    | mk ds result =>
    rw [Builder.compile, hrule] at hanswer
    cases result with
    | error e => cases hanswer
    | ok r =>
      cases hanswer
      have hr : (a.builder.ruleOf d).result = .ok r := congrArg Checked.result hrule
      obtain ⟨hhandle, hcounted⟩ := Builder.ruleOf_counted hr
      rw [h.compile_of_ok hrule]
      refine ⟨hhandle.trans h.length_nodes.symm, rfl, unlinked.nodesOfRule r, ?_, rfl⟩
      exact Grammar.ruleTree_nodesOfRule hcounted (Builder.ruleOf_filled hr)
  case failed =>
    cases hrule : a.builder.ruleOf d with
    | mk ds result =>
    rw [Builder.compile, hrule] at hanswer
    cases result with
    | ok r => cases hanswer
    | error e => exact ⟨by rw [Holds.compile_of_error hrule], by rw [Holds.compile_of_error hrule]⟩
  case built =>
    obtain ⟨rest, hlinked, hforest⟩ := h.extend.forest
    change a.link = .root (a.builder.build.value.rules.map Rule.handle) ::
      .unmatched a.builder.build.value.settings.unmatchedId :: rest at hlinked
    rw [h.link_eq, Builder.rules_build, Builder.settings_build] at hlinked
    exact ⟨rest, hlinked, hforest⟩

/-- **The nodes of a builder are a forest**, whatever is done with it, in whatever order. -/
theorem isForest_run (settings : Settings) (ops : List Operation) :
    (run settings ops).IsForest := by
  obtain ⟨parts, h⟩ := Holds.run settings ops
  exact h.isForest

/-- A definition that fails, a node that stands in for an undefined rule, and an inherited rule that
is replaced. -/
example :
    let ops : List Operation :=
      [.compile { id := "A", body := "'a' B | A" }, .compile { id := "B", body := "|" }, .extend,
        .compile { id := "A", body := "'b'" }]
    (run {} ops).heads = [2, 7] ∧
      (run {} ops).nodes.map Node.joint =
        [⟨0, none, none, [7]⟩, ⟨1, none, none, []⟩, ⟨2, none, none, [3, 5]⟩, ⟨3, some 4, none, []⟩,
          ⟨4, none, some 3, []⟩, ⟨5, none, none, []⟩, ⟨6, none, none, []⟩, ⟨7, none, none, [8]⟩,
          ⟨8, none, none, []⟩] := by
  cbv

end Arena

end Lexigram
