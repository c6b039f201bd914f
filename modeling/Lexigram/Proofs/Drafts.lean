import Lexigram.Proofs.Links
import Lexigram.Proofs.OffsetBodies

/-!
# Rules made node by node

The nodes of a rule can be made while its body is read, one at a time and linked in place. What
comes out are the nodes of the rule that is read, with the same diagnostics, or the same error.

**Drafts** (`Draft`). The nodes that have been made so far. One more is made behind them (`alloc`),
and any of them can be changed where it is (`modify`).

**Making** (`Draft.readInto`). An atom gets its node when it has been opened. What is inside of it
is made next, then what stands behind it is noted, and last it is linked to the atom in front of it.
The first atom of an alternative is entered into the group when the alternative has been read.

**The rest of a call** (`Draft.extend`). A call that goes on from half a rule leaves the nodes it
found, but for two links: from the last node of its chain to the next one, and from the group to the
first nodes of alternatives. With one atom less to read there is one node more, and the rest is the
same (`Draft.extend_atom`).

Main result: `Draft.readBody_eq`.
-/

namespace Lexigram

/-- Two steps agree if they go on alike from every value of the first part. -/
theorem Checked.bind_congr_ok {α β : Type} {x : Checked α} {f g : α → Checked β}
    (h : ∀ a, x.result = .ok a → f a = g a) : x >>= f = x >>= g := by
  obtain ⟨ds, r⟩ := x
  cases r with
  | error e => rfl
  | ok a =>
    show Checked.mk (ds ++ (f a).diagnostics) (f a).result = _
    rw [h a rfl]
    rfl

/-- The nodes of the atoms of a rule depend on three things that the rule has. -/
theorem Grammar.nodesOfAlternatives_congr {g : Grammar} {r r' : Rule} (hid : r.id = r'.id)
    (hkind : r.kind = r'.kind) (hhandle : r.handle = r'.handle) (alternatives : List (List Atom)) :
    g.nodesOfAlternatives r alternatives = g.nodesOfAlternatives r' alternatives := by
  rw [nodesOfAlternatives_eq, nodesOfAlternatives_eq]
  refine List.map_congr_left fun place _ => ?_
  obtain ⟨prev, next, a⟩ := place
  cases a <;> simp only [placeNode, atomNode, hid, hkind, hhandle]

/-- A rule of which some nodes have been made. They have the handles from `base` on. -/
structure Draft where
  id : String
  kind : RuleKind
  base : Nat
  nodes : List Node := []

namespace Draft

open Grammar (unlinked headHandles)
open Rule (Region Opening readOpening readQuantifier readEndAnchor readInner readClosing)

/-! ## Making and changing nodes -/

/-- The handle that the next node gets. -/
def next (d : Draft) : Nat := d.base + d.nodes.length

/-- Makes one more node. All but the first belong to the first. -/
def alloc (d : Draft) (kind : NodeKind) : Draft :=
  let n : Node :=
    { handle := d.next
      id := d.id
      value := d.id.toList
      kind
      ruleKind := d.kind
      owner := if d.nodes.isEmpty then none else some d.base }
  { d with nodes := d.nodes ++ [n] }

/-- Changes the node that has a handle. -/
def modify (d : Draft) (handle : Nat) (f : Node → Node) : Draft :=
  { d with nodes := d.nodes.modify (handle - d.base) f }

/-- Makes the node of an atom whose opening was read. -/
def allocHead (d : Draft) (o : Opening) : Draft :=
  match o.head with
  | .leaf l =>
    (d.alloc (if l.kind = .literal then .literal else .expression)).modify d.next fun n =>
      { n with value := l.value, pattern := some l.pattern, anchoredEnd := l.anchoredEnd }
  | .reference name =>
    (d.alloc (.ofName (String.ofList name))).modify d.next fun n => { n with value := name }
  | .group lookahead =>
    (d.alloc .composite).modify d.next fun n => { n with value := Text.trim o.inside, lookahead }

/-- Writes the text of an atom into its node. -/
def write (head : Rule.Head) (n : Node) : Node :=
  match head with
  | .leaf l => { n with value := l.value, anchoredEnd := l.anchoredEnd }
  | .reference _ | .group _ => n

/-- Links a node to the one in front of it in its chain, and that to the node. -/
def link (d : Draft) (last : Option Nat) (handle : Nat) : Draft :=
  match last with
  | some last =>
    (d.modify last fun n => { n with next := some handle }).modify handle fun n =>
      { n with prev := some last }
  | none => d

/-- Enters the first atom of an alternative, which has to have one. -/
def addHead (d : Draft) (r : Region) (composite start : Nat) : Option Nat → Checked Draft
  | none => .fail (.malformedBody r.rule start .emptyAlternative)
  | some head => pure (d.modify composite fun n => { n with children := n.children ++ [head] })

/-- Reads on in the alternatives of the node `composite`. The current one began where `start` says,
and `head` and `last` are the first and the last of its atoms so far. -/
def readInto (d : Draft) (r : Region) (composite start : Nat) (head last : Option Nat)
    (s : List Char) : Checked Draft :=
  match s with
  | [] => d.addHead r composite start head
  | c :: t =>
    if Text.isAsciiBlank c then d.readInto r composite start head last t
    else if c = '|' then do
      let d ← d.addHead r composite start head
      d.readInto r composite (r.offset t) none none t
    else
      match _ho : readOpening r (c :: t) with
      | ⟨ds, .error e⟩ => ⟨ds, .error e⟩
      | ⟨ds, .ok o⟩ =>
        .after ds do
          let e ←
            (if o.head.isGroup then
              (d.allocHead o).readInto (r.inside o) d.next ((r.inside o).offset o.inside) none none
                o.inside
            else pure (d.allocHead o))
          let e := e.modify d.next fun n => { n with inverted := o.inverted }
          match _hq : readQuantifier r o.rest with
          | ⟨_, .error e⟩ => .fail e
          | ⟨_, .ok (quantifier, rest)⟩ =>
            let closed := readEndAnchor o.head rest
            let e := e.modify d.next fun n => { n with quantifier }
            let e := e.modify d.next (write closed.1)
            (e.link last d.next).readInto r composite start (head.or (some d.next)) (some d.next)
              closed.2
termination_by s.length
decreasing_by
  · simp
  · simp
  · exact (Rule.length_readOpening (congrArg Checked.result _ho)).1
  · have hl := Rule.length_readOpening (congrArg Checked.result _ho)
    have hr := Rule.length_readQuantifier (congrArg Checked.result _hq)
    have ha := Rule.length_readEndAnchor o.head rest
    exact Nat.lt_of_le_of_lt (Nat.le_trans ha hr) hl.2

/-- A rule of which only the first node has been made. -/
def begun (id : String) (kind : RuleKind) (base : Nat) : Draft :=
  (Draft.mk id kind base []).alloc .composite

/-- Makes the nodes of a rule whose body is read. -/
def readBody (id : String) (kind : RuleKind) (cap base : Nat) (src : List Char) :
    Checked (Draft × Option Command) := do
  let (body, command) ← .lift (Rule.splitTerminator id src >>= Rule.splitCommand id)
  if (Text.trim body).isEmpty then .fail (.emptyRule id)
  else
    let d ← (begun id kind base).readInto ⟨id, cap, Text.byteLength body⟩ base 0 none none body
    pure (d, command)

/-! ## The nodes so far and those to come -/

/-- A node was made. -/
def Has (d : Draft) (handle : Nat) : Prop := d.base ≤ handle ∧ handle < d.next

/-- The draft with more nodes behind those that it has. -/
def append (d : Draft) (nodes : List Node) : Draft := { d with nodes := d.nodes ++ nodes }

/-- The rule of which the nodes are. -/
def rule (d : Draft) : Rule := { id := d.id, kind := d.kind, handle := d.base, alternatives := [] }

variable {d : Draft} {handle : Nat} {n : Node} {nodes nodes' : List Node} {f g : Node → Node}

@[simp] theorem next_modify : (d.modify handle f).next = d.next := by simp [next, modify]

@[simp] theorem next_append : (d.append nodes).next = d.next + nodes.length := by
  simp [next, append, Nat.add_assoc]

theorem base_modify : (d.modify handle f).base = d.base := rfl

theorem rule_append : (d.append nodes).rule = d.rule := rfl

@[simp] theorem append_nil : d.append [] = d := by simp [append]

@[simp] theorem append_append : (d.append nodes).append nodes' = d.append (nodes ++ nodes') := by
  simp [append]

@[simp] theorem modify_modify :
    (d.modify handle f).modify handle g = d.modify handle (g ∘ f) := by
  simp [modify, List.modify_modify_eq]

@[simp] theorem has_modify {handle' : Nat} : (d.modify handle' f).Has handle ↔ d.Has handle := by
  rw [Has, Has, base_modify, next_modify]

theorem Has.append (h : d.Has handle) : (d.append nodes).Has handle := by
  obtain ⟨hbase, hnext⟩ := h
  exact ⟨hbase, by simp only [next_append]; omega⟩

theorem has_next (h : handle = d.next) : (d.append (n :: nodes)).Has handle := by
  subst h
  have hbase : d.base ≤ d.next := Nat.le_add_right d.base d.nodes.length
  exact ⟨hbase, by simp⟩

/-- Nodes behind do not hinder a change. -/
theorem modify_append (h : d.Has handle) :
    (d.append nodes).modify handle f = (d.modify handle f).append nodes := by
  have hlt : handle - d.base < d.nodes.length := by
    have := h.1
    have := h.2
    simp only [next] at this
    omega
  have hmodify : ∀ (l : List Node) (i : Nat), i < l.length →
      (l ++ nodes).modify i f = l.modify i f ++ nodes := by
    intro l i hi
    induction l generalizing i with
    | nil => simp at hi
    | cons m l ih =>
      cases i with
      | zero => simp
      | succ i => simpa using ih i (by simpa using hi)
  simp [modify, append, hmodify _ _ hlt]

/-- The first of the nodes behind is the next one. -/
theorem modify_next (h : handle = d.next) :
    (d.append (n :: nodes)).modify handle f = d.append (f n :: nodes) := by
  subst h
  have hmodify : ∀ l : List Node, (l ++ n :: nodes).modify l.length f = l ++ f n :: nodes := by
    intro l
    induction l with
    | nil => simp
    | cons m l ih => simpa using ih
  simp [modify, append, next, hmodify]

/-! ## Atoms -/

/-- The node that an atom has before it is linked in its chain and in the grammar. -/
abbrev node (d : Draft) (prev next : Option Nat) (a : Atom) : Node :=
  unlinked.atomNode d.rule prev next a

/-- The nodes of some alternatives before they are linked in the grammar. -/
abbrev nodesOf (d : Draft) (alternatives : List (List Atom)) : List Node :=
  unlinked.nodesOfAlternatives d.rule alternatives

/-- A node that is made is that of an atom with nothing around it, behind it and inside of it. -/
theorem allocHead_eq (h : d.nodes ≠ []) (o : Opening) :
    d.allocHead o =
      d.append [d.node none none (o.head.toAtom ⟨d.next, false, .once⟩ o.inside [])] := by
  have howner : d.nodes.isEmpty = false := by simpa using h
  have halloc (kind : NodeKind) : d.alloc kind = d.append [{
      handle := d.next, id := d.id, value := d.id.toList, kind, ruleKind := d.kind,
      owner := some d.base }] := by
    simp [alloc, append, howner]
  unfold allocHead
  cases o.head with
  | leaf l =>
    dsimp only
    rw [halloc, modify_next rfl]
    rfl
  | reference name =>
    dsimp only
    have hname : (String.ofList name).toList = name := String.toList_ofList
    rw [halloc, modify_next rfl, node, Rule.Head.toAtom, Grammar.atomNode, hname]
    rfl
  | group lookahead =>
    dsimp only
    rw [halloc, modify_next rfl]
    rfl

/-- The next node behind a chain is linked to its last one. -/
def lead (d : Draft) : Option Nat → Option Nat → Draft
  | some last, some handle => d.modify last fun n => { n with next := some handle }
  | _, _ => d

/-- Atoms are entered among the first ones of alternatives. -/
def addChildren (d : Draft) (composite : Nat) (heads : List Nat) : Draft :=
  d.modify composite fun n => { n with children := n.children ++ heads }

/-- The draft with the nodes of what is left of a chain and of the alternatives behind it. -/
def extend (d : Draft) (composite : Nat) (head last : Option Nat) (atoms : List Atom)
    (others : List (List Atom)) : Draft :=
  let first := atoms.head?.map Atom.handle
  ((d.lead last first).addChildren composite ((head.or first).toList ++ headHandles others)).append
    (unlinked.nodesOfChain d.rule last atoms ++ d.nodesOf others)

section Reading

variable {r : Region} {composite start : Nat} {head last : Option Nat} {c : Char} {s t : List Char}
variable {a : Atom} {atoms : List Atom} {others : List (List Atom)} {o : Opening}

theorem headHandles_cons :
    headHandles (atoms :: others) = (atoms.head?.map Atom.handle).toList ++ headHandles others := by
  cases atoms <;> rfl

theorem nodesOfAtom_eq_cons (prev next : Option Nat) :
    unlinked.nodesOfAtom d.rule prev next a = d.node prev next a :: d.nodesOf a.inner := by
  cases a <;> rfl

/-- What changes in the node of an atom when its place becomes known. -/
theorem node_next (prev : Option Nat) (next next' : Option Nat) :
    { d.node prev next a with next := next' } = d.node prev next' a := by
  cases a <;> rfl

theorem node_prev (prev prev' : Option Nat) (next : Option Nat) :
    { d.node prev next a with prev := prev' } = d.node prev' next a := by
  cases a <;> rfl

theorem has_lead (next : Option Nat) : (d.lead last next).Has handle ↔ d.Has handle := by
  unfold lead
  split <;> simp

theorem rule_lead (next : Option Nat) : (d.lead last next).rule = d.rule := by
  unfold lead
  split <;> rfl

theorem next_lead (next : Option Nat) : (d.lead last next).next = d.next := by
  unfold lead
  split <;> simp

theorem lead_next (next : Option Nat) {nodes : List Node} (hnext : d.next = handle) :
    (d.append (d.node last none a :: nodes)).lead (some handle) next =
      d.append (d.node last next a :: nodes) := by
  subst hnext
  cases next with
  | none => rfl
  | some next => rw [lead, modify_next rfl, node_next]

/-- **One atom more.** If the next node is that of an atom, linked to what is in front of it and
with its inside behind it, what is left of the chain goes on behind that. -/
theorem extend_atom (ha : a.handle = d.next) (hcomposite : d.Has composite) :
    ((d.lead last (some d.next)).append (d.node last none a :: d.nodesOf a.inner)).extend composite
        (head.or (some d.next)) (some d.next) atoms others =
      d.extend composite head last (a :: atoms) others := by
  have hnode : d.node last none a = (d.lead last (some d.next)).node last none a := by
    rw [node, node, rule_lead]
  have hheads : (head.or (some d.next)).or (atoms.head?.map Atom.handle) =
      head.or ((a :: atoms).head?.map Atom.handle) := by
    simp [ha]
  have hnodes : unlinked.nodesOfChain d.rule last (a :: atoms) =
      d.node last (atoms.head?.map Atom.handle) a :: d.nodesOf a.inner ++
        unlinked.nodesOfChain d.rule (some d.next) atoms := by
    rw [Grammar.nodesOfChain, nodesOfAtom_eq_cons, ha]
  unfold extend
  dsimp only
  rw [hnode, lead_next _ (next_lead _), hheads, hnodes, addChildren,
    modify_append ((has_lead _).2 hcomposite)]
  simp only [nodesOf]
  rw [rule_append]
  simp [addChildren, ha, node, rule_lead]

/-! ## Reading is making -/

/-- Makes the nodes of an atom and of what is inside of it. -/
def readInside (d : Draft) (r : Region) (o : Opening) : Checked Draft :=
  if o.head.isGroup then
    (d.allocHead o).readInto (r.inside o) d.next ((r.inside o).offset o.inside) none none o.inside
  else pure (d.allocHead o)

/-- Writes down what was read behind an atom, and links it to the one in front of it. -/
def closeAtom (d : Draft) (handle : Nat) (last : Option Nat) (o : Opening) (q : Quantifier)
    (closed : Rule.Head) : Draft :=
  let d := d.modify handle fun n => { n with inverted := o.inverted }
  let d := d.modify handle fun n => { n with quantifier := q }
  let d := d.modify handle (write closed)
  d.link last handle

theorem readInto_steps (hc : ¬Text.isAsciiBlank c) (hbar : c ≠ '|') :
    d.readInto r composite start head last (c :: t) = (do
      let o ← readOpening r (c :: t)
      let e ← d.readInside r o
      let closed ← readClosing r o
      (e.closeAtom d.next last o closed.1.1 closed.1.2).readInto r composite start
        (head.or (some d.next)) (some d.next) closed.2) := by
  rw [readInto, if_neg hc, if_neg hbar]
  split
  · next ds e ho =>
    rw [ho]
    rfl
  · next ds o ho =>
    rw [ho]
    congr 1
    refine congrArg _ (funext fun inside => ?_)
    have hnone := Rule.readQuantifier_diagnostics r o.rest
    dsimp only [readClosing]
    split
    · next hq =>
      rw [hq] at hnone ⊢
      subst hnone
      rfl
    · next hq =>
      rw [hq] at hnone ⊢
      subst hnone
      rfl

/-- What is read behind an atom and in front of it completes its node. -/
theorem write_node (h : Nat) (inverted : Bool) (q : Quantifier) (head : Rule.Head) (s : List Char)
    (inside : List Char) (inner : List (List Atom)) :
    write (readEndAnchor head s).1
        { d.node none none (head.toAtom ⟨h, false, .once⟩ inside inner) with
          inverted := inverted, quantifier := q } =
      d.node none none ((readEndAnchor head s).1.toAtom ⟨h, inverted, q⟩ inside inner) := by
  fun_cases readEndAnchor head s with
  | case1 value p rest => rfl
  | case2 => cases head <;> rfl

theorem closeAtom_eq (q : Quantifier) (s : List Char) {inner : List (List Atom)}
    {nodes : List Node} (hlast : ∀ p ∈ last, d.Has p) :
    (d.append (d.node none none (o.head.toAtom ⟨d.next, false, .once⟩ o.inside inner) ::
        nodes)).closeAtom d.next last o q (readEndAnchor o.head s).1 =
      (d.lead last (some d.next)).append
        (d.node last none
          ((readEndAnchor o.head s).1.toAtom ⟨d.next, o.inverted, q⟩ o.inside inner) :: nodes) := by
  let n := d.node none none (o.head.toAtom ⟨d.next, false, .once⟩ o.inside inner)
  have hwritten : (((d.append (n :: nodes)).modify d.next fun n =>
      { n with inverted := o.inverted }).modify d.next fun n => { n with quantifier := q }).modify
        d.next (write (readEndAnchor o.head s).1) =
      d.append (d.node none none
        ((readEndAnchor o.head s).1.toAtom ⟨d.next, o.inverted, q⟩ o.inside inner) :: nodes) := by
    rw [modify_next rfl, modify_next rfl, modify_next rfl, ← write_node]
  rw [closeAtom, hwritten]
  cases last with
  | none => rfl
  | some last =>
    rw [link, modify_append (hlast last rfl), modify_next next_modify.symm, node_prev]
    rfl

theorem addHead_some (h : Nat) :
    d.addHead r composite start (some h) = pure (d.addChildren composite [h]) := rfl

theorem extend_nil {h : Nat} :
    d.extend composite (some h) last [] [] = d.addChildren composite [h] := by
  cases last <;> exact append_nil

/-- Behind a bar the next alternative begins. -/
theorem extend_bar {h : Nat} :
    (d.addChildren composite [h]).extend composite none none atoms others =
      d.extend composite (some h) last [] (atoms :: others) := by
  have hlead : d.lead last none = d := by cases last <;> rfl
  have hfirst (next : Option Nat) : (d.addChildren composite [h]).lead none next =
      d.addChildren composite [h] := rfl
  have hchildren (heads : List Nat) : (d.addChildren composite [h]).addChildren composite heads =
      d.addChildren composite (h :: heads) := by
    simp only [addChildren, modify_modify]
    congr 1
    funext n
    simp
  unfold extend
  dsimp only
  rw [List.head?_nil, Option.map_none, hlead, hfirst, hchildren, headHandles_cons]
  rfl

/-- The alternatives of a group that was just begun are behind it. -/
theorem extend_group (hnode : (d.node none none a).children = []) :
    (d.append [d.node none none a]).extend d.next none none atoms others =
      d.append ({ d.node none none a with children := headHandles (atoms :: others) } ::
        d.nodesOf (atoms :: others)) := by
  have hlead : (d.append [d.node none none a]).lead none (atoms.head?.map Atom.handle) =
      d.append [d.node none none a] := rfl
  have hnodes : d.nodesOf (atoms :: others) =
      unlinked.nodesOfChain d.rule none atoms ++ d.nodesOf others := rfl
  unfold extend
  dsimp only
  rw [hlead, addChildren, modify_next rfl, hnode, headHandles_cons, hnodes, append_append]
  rfl

/-- What is inside of an atom is made behind it. -/
theorem readInside_eq (h : d.nodes ≠ [])
    (hread : o.head.isGroup = true →
      (d.allocHead o).readInto (r.inside o) d.next ((r.inside o).offset o.inside) none none
        o.inside = (do
          let read ← Rule.readAlternatives (r.inside o) ((r.inside o).offset o.inside) true
            (d.next + 1) o.inside
          pure ((d.allocHead o).extend d.next none none read.1 read.2.1))) :
    d.readInside r o = (do
      let inside ← readInner r d.next o
      pure (d.append (d.node none none (o.head.toAtom ⟨d.next, false, .once⟩ o.inside inside.1) ::
        d.nodesOf inside.1))) := by
  unfold readInside readInner
  cases hhead : o.head with
  | leaf l => simp [Rule.Head.isGroup, allocHead_eq h, hhead, nodesOf, Grammar.nodesOfAlternatives]
  | reference name =>
    simp [Rule.Head.isGroup, allocHead_eq h, hhead, nodesOf, Grammar.nodesOfAlternatives]
  | group lookahead =>
    have hgroup : (Rule.Head.group lookahead).isGroup = true := rfl
    rw [hhead] at hread
    rw [if_pos hgroup, if_pos hgroup, hread hgroup, bind_assoc]
    refine bind_congr fun read => ?_
    rw [pure_bind, allocHead_eq h, hhead, extend_group rfl]
    rfl

theorem length_nodesOf (alternatives : List (List Atom)) :
    (d.nodesOf alternatives).length = (Atom.flatten alternatives).length := by
  rw [nodesOf, Grammar.nodesOfAlternatives_eq, List.length_map, ← Atom.atoms_placesOfAll,
    List.length_map]

/-- The handle behind the inside of an atom is the next one when the nodes of both are made. -/
theorem next_of_readInner {inside : List (List Atom) × Nat}
    (h : (readInner r d.next o).result = .ok inside) (next : Option Nat) :
    ((d.lead last next).append (n :: d.nodesOf inside.1)).next = inside.2 := by
  rw [next_append, next_lead, List.length_cons, length_nodesOf]
  unfold readInner at h
  split at h
  · obtain ⟨⟨atoms, others, behind⟩, hread, hpure⟩ := Checked.result_bind_eq_ok.1 h
    cases hpure
    have hlength := (Rule.readAlternatives_counts hread).length
    dsimp only at hlength ⊢
    omega
  · cases h
    simp

theorem inner_of_readInner {base : Nat} {inside : List (List Atom) × Nat}
    (h : (readInner r base o).result = .ok inside) (s : List Char) (m : Mark) :
    ((readEndAnchor o.head s).1.toAtom m o.inside inside.1).inner = inside.1 := by
  rw [Rule.Head.inner_toAtom, Rule.isGroup_readEndAnchor]
  unfold readInner at h
  split at h
  · next hgroup => rw [if_pos hgroup]
  · next hgroup =>
    cases h
    exact if_neg hgroup

/-- **Reading is making.** -/
theorem readInto_eq (hcomposite : d.Has composite) (hlast : ∀ p ∈ last, d.Has p)
    (hhead : head.isNone = last.isNone) :
    d.readInto r composite start head last s = (do
      let read ← Rule.readAlternatives r start head.isNone d.next s
      pure (d.extend composite head last read.1 read.2.1)) := by
  -- Every turn leaves fewer characters, and so does the inside of a group.
  induction hn : s.length using Nat.strong_induction_on
    generalizing d r composite start head last s with
  | _ n ih =>
  subst hn
  have hnodes : d.nodes ≠ [] := by
    intro hnil
    have := hcomposite.1
    have := hcomposite.2
    simp [next, hnil] at this
    omega
  cases s with
  | nil =>
    rw [readInto, Rule.readAlternatives]
    cases head with
    | none => rfl
    | some head =>
      rw [addHead_some]
      exact congrArg pure extend_nil.symm
  | cons c t =>
    have ht : t.length < (c :: t).length := Nat.lt_succ_self _
    by_cases hc : Text.isAsciiBlank c = true
    · rw [readInto, if_pos hc, Rule.readAlternatives, if_pos hc]
      exact ih _ ht hcomposite hlast hhead rfl
    by_cases hbar : c = '|'
    · subst hbar
      rw [readInto, if_neg hc, if_pos rfl, Rule.readAlternatives, if_neg hc, if_pos rfl]
      cases head with
      | none => rfl
      | some head =>
        -- The next alternative begins.
        have hrest : (d.addChildren composite [head]).readInto r composite (r.offset t) none none
            t = _ := ih _ ht (has_modify.2 hcomposite) (by simp) rfl rfl
        have hsame : (d.addChildren composite [head]).next = d.next := next_modify
        rw [addHead_some, pure_bind, hrest, Option.isNone_some, if_neg Bool.false_ne_true,
          bind_assoc, hsame, Option.isNone_none]
        refine bind_congr fun read => ?_
        rw [pure_bind, extend_bar]
    · -- One atom more: what it opens with, what is inside, and what closes it.
      rw [readInto_steps hc hbar, Rule.readAlternatives_steps hc hbar]
      simp only [bind_assoc, pure_bind]
      refine Checked.bind_congr_ok fun o ho => ?_
      have hlength := Rule.length_readOpening ho
      have hinside := d.readInside_eq (r := r) (o := o) hnodes fun _ => by
        rw [allocHead_eq hnodes]
        have hread : (d.append [d.node none none
            (o.head.toAtom ⟨d.next, false, .once⟩ o.inside [])]).readInto (r.inside o) d.next
              ((r.inside o).offset o.inside) none none o.inside = _ :=
          ih _ hlength.1 (has_next rfl) (by simp) rfl rfl
        simpa using hread
      rw [hinside]
      simp only [bind_assoc, pure_bind]
      refine Checked.bind_congr_ok fun inside hin => Checked.bind_congr_ok fun closed hclosed => ?_
      have hshorter := Rule.length_readClosing hclosed
      obtain ⟨⟨q, rest⟩, -, hpure⟩ := Checked.result_bind_eq_ok.1 hclosed
      cases hpure
      dsimp only at hshorter ⊢
      rw [closeAtom_eq q rest hlast]
      generalize ha : (readEndAnchor o.head rest).1.toAtom ⟨d.next, o.inverted, q⟩ o.inside
        inside.1 = a
      have hhandle : a.handle = d.next := by rw [← ha, Rule.Head.handle_toAtom]
      have hinner : a.inner = inside.1 := by rw [← ha, inner_of_readInner hin]
      have hmade : ∀ p ∈ some d.next,
          ((d.lead last (some d.next)).append
            (d.node last none a :: d.nodesOf inside.1)).Has p := by
        rintro p ⟨⟩
        exact has_next (next_lead _).symm
      rw [ih _ (by omega) ((has_lead _).2 hcomposite).append hmade (by simp) rfl,
        next_of_readInner hin]
      have hlater : (head.or (some d.next)).isNone = false := by simp
      rw [hlater]
      refine congrArg _ (funext fun read => ?_)
      rw [← hinner, extend_atom hhandle hcomposite]

end Reading

/-! ## Bodies -/

theorem extend_begun (id : String) (kind : RuleKind) (base : Nat) (atoms : List Atom)
    (others : List (List Atom)) :
    (begun id kind base).extend base none none atoms others =
      ⟨id, kind, base, unlinked.nodesOfRule
        { id, kind, handle := base, alternatives := atoms :: others }⟩ := by
  have hnodes : unlinked.nodesOfAlternatives
        { id, kind, handle := base, alternatives := atoms :: others } (atoms :: others) =
      (begun id kind base).nodesOf (atoms :: others) := by
    apply Grammar.nodesOfAlternatives_congr <;> rfl
  rw [Grammar.nodesOfRule, hnodes, headHandles_cons]
  simp [extend, lead, addChildren, modify, append, begun, alloc, next, nodesOf,
    Grammar.nodesOfAlternatives]

/-- **A body that is read is the rule that is made**, node by node, with the same diagnostics, or
the same error. -/
theorem readBody_eq (id : String) (kind : RuleKind) (cap base : Nat) (src : List Char) :
    readBody id kind cap base src = (do
      let (alternatives, command) ← Rule.readBody id cap base src
      pure (⟨id, kind, base, unlinked.nodesOfRule { id, kind, handle := base, alternatives }⟩,
        command)) := by
  unfold readBody Rule.readBody
  rw [bind_assoc]
  refine bind_congr fun split => ?_
  obtain ⟨body, command⟩ := split
  dsimp only
  split
  · rfl
  · have hbase : (begun id kind base).Has base := ⟨Nat.le_refl base, Nat.lt_succ_self base⟩
    have hmade : (begun id kind base).readInto ⟨id, cap, Text.byteLength body⟩ base 0 none none
        body = _ := readInto_eq hbase (by simp) rfl
    rw [hmade, bind_assoc, bind_assoc]
    refine bind_congr fun read => ?_
    rw [pure_bind, pure_bind, extend_begun]

end Draft

end Lexigram
