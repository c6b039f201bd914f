import Lexigram.Proofs.Links

/-!
# Rules are trees

The nodes of a rule that was read are a tree. From the node of the rule, links lead forward to each
other node of the rule, and to each of them once.

**Trees** (`Joint.Tree`). Whether nodes are a tree depends on how they are linked, and on nothing
else.

**How trees grow** (`Joint.Branches`). A node has a key: its handle, and the node in front of it.
The keys to which nodes lead, with those that are led to from outside, are a permutation of the keys
that nodes have. So each node is led to once, and what is in front of a node leads to it. Branches
grow beside each other and below a node, as atoms do.

**Nothing is empty** (`Rule.Filled`). The reader of bodies refuses empty alternatives, so what is a
group holds something.

Main result: `Grammar.ruleTree_nodesOfRule`.
-/

namespace Lexigram

open Atom (Counts Place flatten flatten_nil flatten_nil_cons flatten_cons flatten_chain placesOf
  placesOfChain placesOfAll)
open Grammar (headHandles)

/-! ## Trees of joints -/

/-- How a node is linked to other nodes. -/
structure Joint where
  handle : Nat
  next : Option Nat
  prev : Option Nat
  children : List Nat

namespace Joint

/-- The handles to which a node leads. -/
def links (j : Joint) : List Nat := j.children ++ j.next.toList

/-- Nodes with consecutive handles are linked as a tree below the first one. -/
structure Tree (head : Nat) (joints : List Joint) : Prop where
  nonempty : joints ≠ []
  numbered : joints.map handle = List.range' head joints.length
  /-- Links lead to later nodes of the same tree. -/
  forward : ∀ j ∈ joints, ∀ h ∈ j.links, j.handle < h ∧ h < head + joints.length
  /-- Each node but the first is led to once. -/
  once : (joints.flatMap links).Perm (List.range' (head + 1) (joints.length - 1))
  next : ∀ j ∈ joints, ∀ h ∈ j.next, ∃ k ∈ joints, k.handle = h ∧ k.prev = some j.handle
  prev : ∀ k ∈ joints, ∀ h ∈ k.prev, ∃ j ∈ joints, j.handle = h ∧ j.next = some k.handle
  /-- What is inside of a node begins there. -/
  first : ∀ j ∈ joints, ∀ h ∈ j.children, ∃ k ∈ joints, k.handle = h ∧ k.prev = none

/-- One node leads to another. -/
def Leads (joints : List Joint) (h h' : Nat) : Prop := ∃ j ∈ joints, j.handle = h ∧ h' ∈ j.links

/-- **No way along the links is endless.** -/
theorem Tree.wellFounded {head : Nat} {joints : List Joint} (h : Tree head joints) :
    WellFounded (flip (Leads joints)) := by
  refine Subrelation.wf ?_ (measure fun n => head + joints.length - n).wf
  rintro n m ⟨j, hj, rfl, hn⟩
  have := h.forward j hj n hn
  show head + joints.length - n < head + joints.length - j.handle
  omega

/-- **From the first node there is a way to every other.** -/
theorem Tree.reached {head : Nat} {joints : List Joint} (h : Tree head joints) {j : Joint}
    (hj : j ∈ joints) : Relation.ReflTransGen (Leads joints) head j.handle := by
  -- What leads to a node has a smaller handle.
  induction hn : j.handle using Nat.strong_induction_on generalizing j with
  | _ n ih =>
    subst hn
    have hmem : j.handle ∈ List.range' head joints.length := by
      rw [← h.numbered]
      exact List.mem_map_of_mem hj
    rw [List.mem_range'_1] at hmem
    rcases Nat.eq_or_lt_of_le hmem.1 with he | hlt
    · rw [← he]
    · have hled : j.handle ∈ joints.flatMap links := by
        rw [h.once.mem_iff, List.mem_range'_1]
        omega
      obtain ⟨k, hk, hlink⟩ := List.mem_flatMap.1 hled
      exact (ih _ (h.forward k hk _ hlink).1 hk rfl).tail ⟨k, hk, rfl, hlink⟩

/-! ## How trees grow -/

/-- The handle of a node with that of the node in front of it. -/
def key (j : Joint) : Nat × Option Nat := (j.handle, j.prev)

/-- The keys of the nodes to which a node leads. -/
def exits (j : Joint) : List (Nat × Option Nat) :=
  j.children.map (·, none) ++ j.next.toList.map (·, some j.handle)

theorem map_exits (j : Joint) : j.exits.map Prod.fst = j.links := by
  simp [exits, links, Function.comp_def]

theorem map_key (joints : List Joint) : (joints.map key).map Prod.fst = joints.map handle := by
  rw [List.map_map]
  rfl

/-- Nodes with the handles from `base` up to `stop` that are led to from outside by `entries`. -/
structure Branches (base stop : Nat) (entries : List (Nat × Option Nat))
    (joints : List Joint) : Prop where
  le : base ≤ stop
  numbered : joints.map handle = List.range' base (stop - base)
  forward : ∀ j ∈ joints, ∀ h ∈ j.links, j.handle < h ∧ h < stop
  /-- What leads to a node knows the node in front of it. -/
  led : (entries ++ joints.flatMap exits).Perm (joints.map key)

namespace Branches

variable {base middle stop : Nat} {entries entries' : List (Nat × Option Nat)}
variable {j : Joint} {joints joints' : List Joint}

theorem nil (h : Counts base stop []) : Branches base stop [] [] where
  le := h.1
  numbered := h.2
  forward := List.forall_mem_nil _
  led := .nil

/-- Branches are put beside each other. -/
theorem append (h : Branches base middle entries joints)
    (h' : Branches middle stop entries' joints') :
    Branches base stop (entries ++ entries') (joints ++ joints') where
  le := Nat.le_trans h.le h'.le
  numbered := by
    have hmiddle : middle = base + (middle - base) := (Nat.add_sub_cancel' h.le).symm
    have hstop : middle - base + (stop - middle) = stop - base := by
      have := h.le
      have := h'.le
      omega
    rw [List.map_append, h.numbered, h'.numbered, ← hstop, ← List.range'_append_1, ← hmiddle]
  forward := by
    intro j hj e he
    rcases List.mem_append.1 hj with hj | hj
    · obtain ⟨hlt, hstop⟩ := h.forward j hj e he
      exact ⟨hlt, Nat.lt_of_lt_of_le hstop h'.le⟩
    · exact h'.forward j hj e he
  led := by
    rw [List.flatMap_append, List.map_append, List.append_assoc]
    refine List.Perm.trans ?_ (h.led.append h'.led)
    rw [List.append_assoc]
    exact (List.perm_append_comm_assoc _ _ _).append_left entries

/-- A node grows above its branches. -/
theorem node (h : Branches (j.handle + 1) stop j.exits joints) :
    Branches j.handle stop [j.key] (j :: joints) where
  le := Nat.le_of_succ_le h.le
  numbered := by
    have hstop : stop - j.handle = stop - (j.handle + 1) + 1 := by
      have := h.le
      omega
    rw [List.map_cons, h.numbered, hstop, List.range'_succ]
  forward := by
    intro k hk e he
    rcases List.mem_cons.1 hk with rfl | hk
    · -- Where the node leads to is one of the nodes below it.
      rw [← map_exits] at he
      have hmem : e ∈ joints.map handle := by
        rw [← map_key]
        exact (h.led.map Prod.fst).subset (by simp [he])
      rw [h.numbered, List.mem_range'_1] at hmem
      have := h.le
      omega
    · exact h.forward k hk e he
  led := h.led.cons j.key

/-- **Branches below one node are a tree.** -/
theorem tree (h : Branches base stop [(base, none)] joints) : Tree base joints := by
  have hlength : joints.length = stop - base := by
    rw [← List.length_map handle, h.numbered, List.length_range']
  have hpos : 0 < joints.length := by
    rw [← List.length_map key]
    exact List.length_pos_of_mem (h.led.subset List.mem_cons_self)
  have hexit : ∀ j ∈ joints, ∀ e ∈ j.exits, ∃ k ∈ joints, k.handle = e.1 ∧ k.prev = e.2 := by
    intro j hj e he
    obtain ⟨k, hk, rfl⟩ := List.mem_map.1 (h.led.subset (.tail _ (List.mem_flatMap_of_mem hj he)))
    exact ⟨k, hk, rfl, rfl⟩
  refine
    { nonempty := List.ne_nil_of_length_pos hpos
      numbered := by rw [h.numbered, hlength]
      forward := fun j hj e he => ?forward
      once := ?once
      next := fun j hj e he => ?next
      prev := fun k hk e he => ?prev
      first := fun j hj e he => ?first }
  case forward =>
    obtain ⟨hlt, hstop⟩ := h.forward j hj e he
    have := h.le
    omega
  case once =>
    have hled := h.led.map Prod.fst
    rw [map_key, h.numbered, ← hlength, ← Nat.sub_add_cancel hpos, List.range'_succ,
      List.map_append, List.map_flatMap] at hled
    simp only [map_exits] at hled
    exact hled.cons_inv
  case next =>
    refine hexit j hj (e, some j.handle) (List.mem_append_right _ ?_)
    exact List.mem_map_of_mem (Option.mem_toList.2 he)
  case prev =>
    rcases List.mem_append.1 (h.led.mem_iff.2 (List.mem_map_of_mem hk)) with hentry | hexits
    · -- Nothing is in front of the first node.
      have hnone : k.prev = none := congrArg Prod.snd (List.mem_singleton.1 hentry)
      simp [hnone] at he
    · obtain ⟨j, hj, hmem⟩ := List.mem_flatMap.1 hexits
      rcases List.mem_append.1 hmem with hmem | hmem
      · obtain ⟨c, -, hc⟩ := List.mem_map.1 hmem
        have hnone : none = k.prev := congrArg Prod.snd hc
        simp [← hnone] at he
      · obtain ⟨c, hnext, hc⟩ := List.mem_map.1 hmem
        have hhandle : c = k.handle := congrArg Prod.fst hc
        have hprev : some j.handle = k.prev := congrArg Prod.snd hc
        rw [← hprev] at he
        rw [hhandle] at hnext
        exact ⟨j, hj, Option.some.inj he, Option.mem_toList.1 hnext⟩
  case first =>
    exact hexit j hj (e, none) (List.mem_append_left _ (List.mem_map_of_mem he))

end Branches

end Joint

/-! ## The joints of a rule -/

/-- How the atom of a place is linked. -/
def Atom.Place.joint (p : Place) : Joint :=
  ⟨p.atom.handle, p.next, p.prev, headHandles p.atom.inner⟩

/-- How a node is linked. -/
def Node.joint (n : Node) : Joint := ⟨n.handle, n.next, n.prev, n.children⟩

namespace Joint

theorem placesOf_eq_cons (prev next : Option Nat) (a : Atom) :
    placesOf prev next a = ⟨prev, next, a⟩ :: placesOfAll a.inner := by
  cases a <;> rfl

mutual

theorem branches_inside : ∀ (a : Atom) {base stop : Nat}, Counts base stop (flatten a.inner) →
    Branches base stop ((headHandles a.inner).map (·, none))
      ((placesOfAll a.inner).map Place.joint)
  | .leaf _ _, _, _, h | .reference _ _, _, _, h => .nil (by rwa [Atom.inner, flatten_nil] at h)
  | .group _ _ _ alternatives, base, stop, h => branches_alternatives alternatives h

/-- A chain hangs on the node in front of it. -/
theorem branches_chain (prev : Option Nat) : ∀ (atoms : List Atom) {base stop : Nat},
    Counts base stop (flatten [atoms]) →
    Branches base stop ((atoms.head?.map Atom.handle).toList.map (·, prev))
      ((placesOfChain prev atoms).map Place.joint)
  | [], _, _, h => .nil (by rwa [flatten_nil_cons, flatten_nil] at h)
  | a :: atoms, base, stop, h => by
    rw [flatten_cons] at h
    obtain ⟨rfl, hrest⟩ := h.of_cons
    obtain ⟨hinside, hbehind⟩ := hrest.of_append
    have hbelow := (branches_inside a hinside).append (branches_chain (some a.handle) atoms hbehind)
    rw [placesOfChain, placesOf_eq_cons, List.cons_append, List.map_cons, List.map_append]
    exact Branches.node (j := Place.joint ⟨prev, atoms.head?.map Atom.handle, a⟩) hbelow

theorem branches_alternatives : ∀ (alternatives : List (List Atom)) {base stop : Nat},
    Counts base stop (flatten alternatives) →
    Branches base stop ((headHandles alternatives).map (·, none))
      ((placesOfAll alternatives).map Place.joint)
  | [], _, _, h => .nil (by rwa [flatten_nil] at h)
  | atoms :: alternatives, base, stop, h => by
    rw [flatten_chain] at h
    obtain ⟨hchain, hothers⟩ := h.of_append
    have hbranches := (branches_chain none atoms hchain).append
      (branches_alternatives alternatives hothers)
    rw [placesOfAll, List.map_append]
    cases atoms <;> exact hbranches

end

end Joint

namespace Grammar

variable {g : Grammar} {r : Rule}

theorem joint_placeNode (p : Place) : (g.placeNode r p).joint = p.joint := by
  obtain ⟨prev, next, a⟩ := p
  cases a <;> rfl

theorem joints_nodesOfRule :
    (g.nodesOfRule r).map Node.joint =
      ⟨r.handle, none, none, headHandles r.alternatives⟩ ::
        (placesOfAll r.alternatives).map Place.joint := by
  rw [nodesOfRule, List.map_cons, nodesOfAlternatives_eq, List.map_map]
  refine congrArg _ (List.map_congr_left fun p _ => joint_placeNode p)

/-- **The nodes of a rule are linked as a tree.** -/
theorem tree_nodesOfRule (h : r.Counted) :
    Joint.Tree r.handle ((g.nodesOfRule r).map Node.joint) := by
  let head : Joint := Place.joint ⟨none, none, r.head⟩
  have hexits : head.exits = (headHandles r.alternatives).map (·, none) := List.append_nil _
  have hbelow : Joint.Branches (head.handle + 1) (r.handle + r.size) head.exits
      ((placesOfAll r.alternatives).map Place.joint) := by
    rw [hexits]
    exact Joint.branches_inside r.head h
  rw [joints_nodesOfRule]
  exact hbelow.node.tree

end Grammar

/-! ## Nothing is empty -/

namespace Rule

/-- Every group among some atoms has an alternative that is not empty. -/
def GroupsFilled (atoms : List Atom) : Prop :=
  ∀ m lookahead value inner, .group m lookahead value inner ∈ atoms → headHandles inner ≠ []

/-- A rule has an alternative that is not empty, and so have its groups. -/
structure Filled (r : Rule) : Prop where
  head : headHandles r.alternatives ≠ []
  groups : GroupsFilled r.atoms

theorem groupsFilled_nil : GroupsFilled [] :=
  fun _ _ _ _ h => absurd h List.not_mem_nil

theorem headHandles_ne_nil {atoms : List Atom} {others : List (List Atom)} (h : atoms ≠ []) :
    headHandles (atoms :: others) ≠ [] := by
  cases atoms with
  | nil => exact absurd rfl h
  | cons a atoms => exact List.cons_ne_nil _ _

/-- **Nothing that is read is empty.** -/
theorem readAlternatives_filled {r : Region} {start : Nat} {first : Bool} {base next : Nat}
    {s : List Char} {atoms : List Atom} {others : List (List Atom)}
    (h : (readAlternatives r start first base s).result = .ok (atoms, others, next)) :
    (first = true → atoms ≠ []) ∧ GroupsFilled (flatten (atoms :: others)) := by
  fun_induction readAlternatives r start first base s generalizing atoms others next with
  | case1 | case4 | case6 => simp at h
  | case2 r start first base hfirst =>
    obtain ⟨rfl, rfl, rfl⟩ : [] = atoms ∧ [] = others ∧ _ = next := by simpa using h
    refine ⟨fun htrue => absurd htrue hfirst, ?_⟩
    rw [flatten_nil_cons, flatten_nil]
    exact groupsFilled_nil
  | case3 _ _ _ _ _ _ _ ih => exact ih h
  | case5 r start first base t hfirst _ ih =>
    obtain ⟨⟨atoms', others', next'⟩, hread, hpure⟩ := Checked.result_bind_eq_ok.1 h
    obtain ⟨rfl, rfl, rfl⟩ : [] = atoms ∧ atoms' :: others' = others ∧ next' = next := by
      simpa using hpure
    rw [flatten_nil_cons]
    exact ⟨fun htrue => absurd htrue hfirst, (ih hread).2⟩
  | case7 r start first base c t _ _ ds o _ ihinner ihrest =>
    rw [Checked.result_after] at h
    obtain ⟨⟨inner, middle⟩, hinner, h⟩ := Checked.result_bind_eq_ok.1 h
    have hinside : GroupsFilled (flatten (if o.head.isGroup then inner else [])) ∧
        (o.head.isGroup = true → headHandles inner ≠ []) := by
      split at hinner
      · next hg =>
        obtain ⟨⟨atoms', others', next'⟩, hread, hpure⟩ := Checked.result_bind_eq_ok.1 hinner
        cases hpure
        obtain ⟨hfirst, hgroups⟩ := ihinner hread
        rw [if_pos hg]
        exact ⟨hgroups, fun _ => headHandles_ne_nil (hfirst rfl)⟩
      · next hg =>
        cases hinner
        rw [if_neg hg, flatten_nil]
        exact ⟨groupsFilled_nil, fun htrue => absurd htrue hg⟩
    dsimp only at h
    split at h
    · simp at h
    · next quantifier rest hq =>
      obtain ⟨⟨atoms', others', next'⟩, hread, hpure⟩ := Checked.result_bind_eq_ok.1 h
      obtain ⟨-, hrest⟩ := ihrest _ _ _ _ hq hread
      cases hpure
      refine ⟨fun _ => List.cons_ne_nil _ _, fun m lookahead value inner' hmem => ?_⟩
      rw [flatten_cons, Head.inner_toAtom, isGroup_readEndAnchor] at hmem
      rcases List.mem_cons.1 hmem with hhead | hmem
      · -- The atom itself is a group only if its head is that of one.
        cases hclosed : (readEndAnchor o.head rest).1 with
        | leaf l => simp [hclosed, Head.toAtom] at hhead
        | reference name => simp [hclosed, Head.toAtom] at hhead
        | group closed =>
          have hgroup : o.head.isGroup = true := by
            rw [← isGroup_readEndAnchor o.head rest, hclosed]
            rfl
          rw [hclosed, Head.toAtom] at hhead
          injection hhead with _ _ _ hinner'
          rw [hinner']
          exact hinside.2 hgroup
      · rcases List.mem_append.1 hmem with hmem | hmem
        · exact hinside.1 _ _ _ _ hmem
        · exact hrest _ _ _ _ hmem

theorem readBody_filled {id : String} {cap base : Nat} {src : List Char}
    {alternatives : List (List Atom)} {command : Option Command}
    (h : (readBody id cap base src).result = .ok (alternatives, command)) :
    headHandles alternatives ≠ [] ∧ GroupsFilled (flatten alternatives) := by
  unfold readBody at h
  obtain ⟨⟨body, command'⟩, -, h⟩ := Checked.result_bind_eq_ok.1 h
  dsimp only at h
  split at h
  · simp at h
  · obtain ⟨⟨atoms, others, next⟩, hread, hpure⟩ := Checked.result_bind_eq_ok.1 h
    cases hpure
    obtain ⟨hfirst, hgroups⟩ := readAlternatives_filled hread
    exact ⟨headHandles_ne_nil (hfirst rfl), hgroups⟩

end Rule

/-- The rule of a definition has an alternative, and so have its groups. -/
theorem Builder.ruleOf_filled {b : Builder} {d : Definition} {r : Rule}
    (h : (b.ruleOf d).result = .ok r) : r.Filled := by
  obtain ⟨-, alternatives, command, hread, -, rfl⟩ := ruleOf_eq_ok.1 h
  obtain ⟨hhead, hgroups⟩ := Rule.readBody_filled hread
  exact ⟨hhead, hgroups⟩

/-! ## Trees of nodes -/

/-- The fields of a node are those of its kind. -/
structure Node.Formed (n : Node) : Prop where
  pattern : n.pattern.isSome = true ↔ n.kind = .literal ∨ n.kind = .expression
  children : n.children ≠ [] → n.kind = .composite
  lookahead : n.lookahead = true → n.kind = .composite

/-- Some nodes are those of a rule, which begin with its own. -/
structure RuleTree (head : Nat) (nodes : List Node) : Prop where
  joined : Joint.Tree head (nodes.map Node.joint)
  wellFounded : WellFounded (flip (Joint.Leads (nodes.map Node.joint)))
  reached : ∀ n ∈ nodes, Relation.ReflTransGen (Joint.Leads (nodes.map Node.joint)) head n.handle
  formed : ∀ n ∈ nodes, n.Formed
  root : ∀ n ∈ nodes, n.handle = head → n.kind = .composite ∧ n.next = none
  owner : ∀ n ∈ nodes, n.owner = if n.handle = head then none else some head
  /-- A group holds something. -/
  filled : ∀ n ∈ nodes, n.kind = .composite → n.children ≠ []

namespace Grammar

variable {g : Grammar} {r : Rule}

theorem not_isReference {kind : NodeKind} (h : kind.isReference = true) :
    kind ≠ .literal ∧ kind ≠ .expression ∧ kind ≠ .composite := by
  cases kind <;> simp_all [NodeKind.isReference]

theorem atomNode_formed (prev next : Option Nat) (a : Atom) :
    (g.atomNode r prev next a).Formed := by
  cases a with
  | leaf m l =>
    refine ⟨?_, fun h => absurd rfl h, fun h => absurd h Bool.false_ne_true⟩
    by_cases hl : l.kind = .literal <;> simp [atomNode, hl]
  | reference m name =>
    obtain ⟨hliteral, hexpression, -⟩ := not_isReference (isReference_referenceKind (p := g) name)
    refine ⟨?_, fun h => absurd rfl h, fun h => absurd h Bool.false_ne_true⟩
    simp [atomNode, hliteral, hexpression]
  | group m lookahead value inner => exact ⟨by simp [atomNode], fun _ => rfl, fun _ => rfl⟩

theorem composite_atomNode {prev next : Option Nat} {a : Atom}
    (h : (g.atomNode r prev next a).kind = .composite) :
    ∃ m lookahead value inner, a = .group m lookahead value inner := by
  cases a with
  | leaf m l =>
    rw [atomNode] at h
    dsimp only at h
    split at h <;> cases h
  | reference m name => exact absurd h (not_isReference (isReference_referenceKind name)).2.2
  | group m lookahead value inner => exact ⟨m, lookahead, value, inner, rfl⟩

/-- **The nodes of a rule that was read are a tree.** -/
theorem ruleTree_nodesOfRule (hc : r.Counted) (hf : r.Filled) :
    RuleTree r.handle (g.nodesOfRule r) := by
  have htree := tree_nodesOfRule (g := g) hc
  have hatom : ∀ n ∈ g.nodesOfAlternatives r r.alternatives, ∃ prev next, ∃ a ∈ r.atoms,
      n = g.atomNode r prev next a ∧ n.handle ≠ r.handle := by
    intro n hn
    rw [nodesOfAlternatives_eq] at hn
    obtain ⟨⟨prev, next, a⟩, hplace, rfl⟩ := List.mem_map.1 hn
    have ha : a ∈ r.atoms := by
      rw [Rule.atoms, ← Atom.atoms_placesOfAll]
      exact List.mem_map_of_mem hplace
    have hhandle : (g.atomNode r prev next a).handle = a.handle := by cases a <;> rfl
    refine ⟨prev, next, a, ha, rfl, ?_⟩
    have := (hc.mem ha).1
    show (g.atomNode r prev next a).handle ≠ r.handle
    omega
  refine
    { joined := htree
      wellFounded := htree.wellFounded
      reached := fun n hn => htree.reached (List.mem_map_of_mem hn)
      formed := fun n hn => ?formed
      root := fun n hn hhead => ?root
      owner := fun n hn => ?owner
      filled := fun n hn hkind => ?filled }
  case formed =>
    rcases List.mem_cons.1 hn with rfl | hn
    · exact ⟨by simp, fun _ => rfl, fun _ => rfl⟩
    · obtain ⟨prev, next, a, -, rfl, -⟩ := hatom n hn
      exact atomNode_formed prev next a
  case root =>
    rcases List.mem_cons.1 hn with rfl | hn
    · exact ⟨rfl, rfl⟩
    · obtain ⟨-, -, -, -, -, hother⟩ := hatom n hn
      exact absurd hhead hother
  case owner =>
    rcases List.mem_cons.1 hn with rfl | hn
    · exact (if_pos rfl).symm
    · obtain ⟨prev, next, a, -, rfl, hother⟩ := hatom n hn
      rw [if_neg hother]
      cases a <;> rfl
  case filled =>
    rcases List.mem_cons.1 hn with rfl | hn
    · exact hf.head
    · obtain ⟨prev, next, a, ha, rfl, -⟩ := hatom n hn
      obtain ⟨m, lookahead, value, inner, rfl⟩ := composite_atomNode hkind
      exact hf.groups m lookahead value inner ha

end Grammar

end Lexigram
