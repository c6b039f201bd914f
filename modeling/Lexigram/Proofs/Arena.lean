import Lexigram.Grammar.Builder
import Lexigram.Grammar.Node
import Mathlib.Data.List.Nodup

/-!
# The handles of built grammars

What can be relied upon in a grammar that a builder has made.

**Building** (`Builder.Reachable`, `Grammar.Built`). A builder starts empty or from a grammar that
was built before. It is given names and definitions in any order, and problems can be taken from
and added to those it has recorded.

**The invariant** (`Builder.Ordered`). The blocks take up the handles from 2 on without a gap, each
rule before its atoms (`Rule.Laid`). The rules of the grammar are some of the blocks, no two of one
id.

**Numbering** (`Atom.Counts`). The reader of rule bodies counts: the atoms of the alternatives that
it reads have consecutive handles in the order of the text, those inside a group behind that of the
group.

Main results: `Grammar.Built.chain?_handle`, `Grammar.Built.eq_of_handle_eq` and
`Grammar.Built.find?_id`.
-/

namespace Lexigram

/-! ## Numbering -/

namespace Atom

/-- The alternatives inside an atom. -/
def inner : Atom → List (List Atom)
  | leaf _ _ | reference _ _ => []
  | group _ _ _ alternatives => alternatives

@[simp] theorem flatten_nil : flatten [] = [] := by rw [flatten]

@[simp] theorem flatten_nil_cons (alternatives : List (List Atom)) :
    flatten ([] :: alternatives) = flatten alternatives := by
  rw [flatten]

theorem flatten_cons (a : Atom) (atoms : List Atom) (alternatives : List (List Atom)) :
    flatten ((a :: atoms) :: alternatives) =
      a :: (flatten a.inner ++ flatten (atoms :: alternatives)) := by
  cases a <;> simp [flatten, inner]

theorem flatten_chain (atoms : List Atom) (alternatives : List (List Atom)) :
    flatten (atoms :: alternatives) = flatten [atoms] ++ flatten alternatives := by
  induction atoms with
  | nil => rw [flatten_nil_cons, flatten_nil_cons, flatten_nil, List.nil_append]
  | cons a atoms ih => rw [flatten_cons, flatten_cons, ih, List.cons_append, List.append_assoc]

/-- Some atoms have the handles from `base` up to `next`. -/
def Counts (base next : Nat) (atoms : List Atom) : Prop :=
  base ≤ next ∧ atoms.map handle = List.range' base (next - base)

theorem Counts.nil (base : Nat) : Counts base base [] := ⟨Nat.le_refl base, by simp⟩

theorem Counts.append {base middle next : Nat} {atoms atoms' : List Atom}
    (h : Counts base middle atoms) (h' : Counts middle next atoms') :
    Counts base next (atoms ++ atoms') := by
  obtain ⟨hle, hatoms⟩ := h
  obtain ⟨hle', hatoms'⟩ := h'
  refine ⟨Nat.le_trans hle hle', ?_⟩
  rw [List.map_append, hatoms, hatoms', show middle = base + 1 * (middle - base) by omega,
    show base + 1 * (middle - base) - base = middle - base by omega, List.range'_append]
  congr 1
  omega

theorem Counts.cons {base next : Nat} {a : Atom} {atoms : List Atom} (ha : a.handle = base)
    (h : Counts (base + 1) next atoms) : Counts base next (a :: atoms) := by
  have hone : Counts base (base + 1) [a] := by
    refine ⟨Nat.le_succ base, ?_⟩
    rw [List.map_singleton, ha, Nat.add_sub_cancel_left]
    rfl
  exact hone.append h

theorem Counts.of_cons {base next : Nat} {a : Atom} {atoms : List Atom}
    (h : Counts base next (a :: atoms)) : a.handle = base ∧ Counts (base + 1) next atoms := by
  obtain ⟨hle, hatoms⟩ := h
  have hlength := congrArg List.length hatoms
  rw [List.length_map, List.length_cons, List.length_range'] at hlength
  rw [List.map_cons, show next - base = next - (base + 1) + 1 by omega, List.range'_succ] at hatoms
  obtain ⟨ha, hrest⟩ := List.cons.inj hatoms
  exact ⟨ha, by omega, hrest⟩

theorem Counts.of_append {base next : Nat} {atoms atoms' : List Atom}
    (h : Counts base next (atoms ++ atoms')) :
    Counts base (base + atoms.length) atoms ∧ Counts (base + atoms.length) next atoms' := by
  induction atoms generalizing base with
  | nil => exact ⟨.nil base, h⟩
  | cons a atoms ih =>
    obtain ⟨ha, hrest⟩ := h.of_cons
    obtain ⟨hfront, hback⟩ := ih hrest
    rw [List.length_cons, ← Nat.add_assoc, Nat.add_right_comm]
    exact ⟨.cons ha hfront, hback⟩

theorem Counts.length {base next : Nat} {atoms : List Atom} (h : Counts base next atoms) :
    next = base + atoms.length := by
  have hlength := congrArg List.length h.2
  rw [List.length_map, List.length_range'] at hlength
  have := h.1
  omega

theorem Counts.mem {base next : Nat} {atoms : List Atom} {a : Atom} (h : Counts base next atoms)
    (ha : a ∈ atoms) : base ≤ a.handle ∧ a.handle < next := by
  have hmem : a.handle ∈ atoms.map handle := List.mem_map_of_mem ha
  rw [h.2, List.mem_range'_1] at hmem
  have := h.1
  omega

end Atom

namespace Rule

open Atom (Counts flatten flatten_nil flatten_nil_cons flatten_cons)

@[simp] theorem Head.handle_toAtom (head : Head) (mark : Mark) (inside : List Char)
    (alternatives : List (List Atom)) :
    (head.toAtom mark inside alternatives).handle = mark.handle := by
  cases head <;> rfl

theorem Head.inner_toAtom (head : Head) (mark : Mark) (inside : List Char)
    (alternatives : List (List Atom)) :
    (head.toAtom mark inside alternatives).inner = if head.isGroup then alternatives else [] := by
  cases head <;> rfl

/-- A dollar sign behind a quantifier leaves a group a group. -/
theorem isGroup_readEndAnchor (head : Head) (s : List Char) :
    (readEndAnchor head s).1.isGroup = head.isGroup := by
  unfold readEndAnchor
  split <;> rfl

/-- **Reading counts.** The atoms of the alternatives that are read have the handles from the given
one up to the next. -/
theorem readAlternatives_counts {r : Region} {start : Nat} {first : Bool} {base next : Nat}
    {s : List Char} {atoms : List Atom} {others : List (List Atom)}
    (h : (readAlternatives r start first base s).result = .ok (atoms, others, next)) :
    Counts base next (flatten (atoms :: others)) := by
  fun_induction readAlternatives r start first base s generalizing atoms others next with
  | case1 | case4 | case6 => simp at h
  | case2 =>
    obtain ⟨rfl, rfl, rfl⟩ : [] = atoms ∧ [] = others ∧ _ = next := by simpa using h
    rw [flatten_nil_cons, flatten_nil]
    exact .nil _
  | case3 _ _ _ _ _ _ _ ih => exact ih h
  | case5 r start first base t _ _ ih =>
    obtain ⟨⟨atoms', others', next'⟩, hread, hpure⟩ := Checked.result_bind_eq_ok.1 h
    obtain ⟨rfl, rfl, rfl⟩ : [] = atoms ∧ atoms' :: others' = others ∧ next' = next := by
      simpa using hpure
    rw [flatten_nil_cons]
    exact ih hread
  | case7 r start first base c t _ _ ds o _ ihinner ihrest =>
    rw [Checked.result_after] at h
    obtain ⟨⟨inner, middle⟩, hinner, h⟩ := Checked.result_bind_eq_ok.1 h
    -- What stands inside takes the handles behind that of the atom.
    have hinside : Counts (base + 1) middle (flatten (if o.head.isGroup then inner else [])) := by
      split at hinner
      · next hg =>
        obtain ⟨⟨atoms', others', next'⟩, hread, hpure⟩ := Checked.result_bind_eq_ok.1 hinner
        cases hpure
        rw [if_pos hg]
        exact ihinner hread
      · next hg =>
        cases hinner
        rw [if_neg hg, flatten_nil]
        exact .nil _
    dsimp only at h
    split at h
    · simp at h
    · next quantifier rest hq =>
      obtain ⟨⟨atoms', others', next'⟩, hread, hpure⟩ := Checked.result_bind_eq_ok.1 h
      have hrest := ihrest _ _ _ _ hq hread
      cases hpure
      rw [flatten_cons]
      refine .cons (Head.handle_toAtom _ _ _ _) (.append ?_ hrest)
      rw [Head.inner_toAtom, isGroup_readEndAnchor]
      exact hinside

theorem readBody_counts {rule : String} {cap base : Nat} {src : List Char}
    {alternatives : List (List Atom)} {command : Option Command}
    (h : (readBody rule cap base src).result = .ok (alternatives, command)) :
    ∃ next, Counts (base + 1) next (flatten alternatives) := by
  unfold readBody at h
  obtain ⟨⟨body, command'⟩, -, h⟩ := Checked.result_bind_eq_ok.1 h
  dsimp only at h
  split at h
  · simp at h
  · obtain ⟨⟨atoms, others, next⟩, hread, hpure⟩ := Checked.result_bind_eq_ok.1 h
    cases hpure
    exact ⟨next, readAlternatives_counts hread⟩

/-! ## Blocks -/

/-- Among rules of different ids, an id leads to the one that has it. -/
theorem findIn?_eq_some_iff {rules : List Rule} {name : String} {r : Rule}
    (hids : (rules.map Rule.id).Nodup) :
    findIn? rules name = some r ↔ r ∈ rules ∧ r.id = name := by
  refine ⟨findIn?_eq_some, ?_⟩
  rintro ⟨hr, rfl⟩
  cases hf : findIn? rules r.id with
  | none =>
    have hne := List.find?_eq_none.1 hf r hr
    simp at hne
  | some q =>
    obtain ⟨hq, hid⟩ := findIn?_eq_some hf
    rw [List.inj_on_of_nodup_map hids hq hr hid]

/-- A rule has its handle in front of those of its atoms, which are consecutive. -/
def Counted (r : Rule) : Prop := Counts (r.handle + 1) (r.handle + r.size) r.atoms

/-- Some blocks take up the handles from `base` on without a gap. -/
def Laid : Nat → List Rule → Prop
  | _, [] => True
  | base, r :: blocks => r.handle = base ∧ r.Counted ∧ Laid (base + r.size) blocks

theorem Counted.of_counts {r : Rule} {next : Nat} (h : Counts (r.handle + 1) next r.atoms) :
    r.Counted := by
  have hnext : next = r.handle + r.size := by
    rw [h.length, size]
    unfold atoms
    omega
  rwa [hnext] at h

theorem Laid.concat {base : Nat} {blocks : List Rule} {r : Rule} (h : Laid base blocks)
    (hr : r.handle = base + blocks.foldr (fun r n => r.size + n) 0) (hc : r.Counted) :
    Laid base (blocks ++ [r]) := by
  induction blocks generalizing base with
  | nil => exact ⟨by simpa using hr, hc, trivial⟩
  | cons q blocks ih =>
    obtain ⟨hq, hcq, hrest⟩ := h
    refine ⟨hq, hcq, ih hrest ?_⟩
    rw [hr, List.foldr_cons]
    omega

theorem Laid.le {base : Nat} {blocks : List Rule} {r : Rule} (h : Laid base blocks)
    (hr : r ∈ blocks) : base ≤ r.handle := by
  induction blocks generalizing base with
  | nil => simp at hr
  | cons q blocks ih =>
    obtain ⟨hq, -, hrest⟩ := h
    rcases List.mem_cons.1 hr with rfl | hr
    · exact Nat.le_of_eq hq.symm
    · have := ih hrest hr
      omega

theorem Laid.counted {base : Nat} {blocks : List Rule} {r : Rule} (h : Laid base blocks)
    (hr : r ∈ blocks) : r.Counted := by
  induction blocks generalizing base with
  | nil => simp at hr
  | cons q blocks ih =>
    obtain ⟨-, hc, hrest⟩ := h
    rcases List.mem_cons.1 hr with rfl | hr
    · exact hc
    · exact ih hrest hr

/-- Different blocks have different handles. -/
theorem Laid.eq_of_handle_eq {base : Nat} {blocks : List Rule} {r q : Rule} (h : Laid base blocks)
    (hr : r ∈ blocks) (hq : q ∈ blocks) (he : r.handle = q.handle) : r = q := by
  induction blocks generalizing base with
  | nil => simp at hr
  | cons p blocks ih =>
    obtain ⟨hp, -, hrest⟩ := h
    have hsize : 0 < p.size := Nat.succ_pos _
    rcases List.mem_cons.1 hr with hrp | hr <;> rcases List.mem_cons.1 hq with hqp | hq
    · rw [hrp, hqp]
    · have hle := hrest.le hq
      rw [← he, hrp] at hle
      omega
    · have hle := hrest.le hr
      rw [he, hqp] at hle
      omega
    · exact ih hrest hr hq

/-- A chain inside some alternatives begins with an atom of these. -/
theorem chainIn?_eq_none {handle : Nat} {alternatives : List (List Atom)}
    (h : ∀ a ∈ flatten alternatives, a.handle ≠ handle) :
    Grammar.chainIn? handle alternatives = none := by
  fun_induction Grammar.chainIn? handle alternatives with
  | case1 => rfl
  | case2 alternatives ih => exact ih (by rwa [flatten_nil_cons] at h)
  | case3 m lookahead value inner atoms alternatives hm =>
    rw [flatten_cons] at h
    exact absurd hm (h _ List.mem_cons_self)
  | case4 m lookahead value inner atoms alternatives _ ihinner ih =>
    rw [flatten_cons] at h
    have hinner := ihinner fun a ha => h a (List.mem_cons_of_mem _ (List.mem_append_left _ ha))
    have hrest := ih fun a ha => h a (List.mem_cons_of_mem _ (List.mem_append_right _ ha))
    rw [hinner, hrest]
    rfl
  | case5 a atoms alternatives _ ha =>
    rw [flatten_cons] at h
    exact absurd ha (h a List.mem_cons_self)
  | case6 a atoms alternatives _ _ ih =>
    rw [flatten_cons] at h
    exact ih fun b hb => h b (List.mem_cons_of_mem _ (List.mem_append_right _ hb))

/-- Among atoms with different handles, the chain of a handle begins with the atom that has it. -/
theorem chainIn?_of_mem {a : Atom} {alternatives : List (List Atom)}
    (hdistinct : ((flatten alternatives).map Atom.handle).Nodup) (ha : a ∈ flatten alternatives) :
    ∃ atoms, Grammar.chainIn? a.handle alternatives = some (a :: atoms) := by
  fun_induction Grammar.chainIn? a.handle alternatives with
  | case1 => simp at ha
  | case2 alternatives ih => exact ih (by rwa [flatten_nil_cons] at hdistinct) (by simpa using ha)
  | case3 m lookahead value inner atoms alternatives hm =>
    rw [flatten_cons] at hdistinct ha
    have heq := List.inj_on_of_nodup_map hdistinct List.mem_cons_self ha hm
    exact ⟨atoms, by rw [heq]⟩
  | case4 m lookahead value inner atoms alternatives hm ihinner ih =>
    rw [flatten_cons, List.map_cons, List.nodup_cons, List.map_append, List.nodup_append]
      at hdistinct
    obtain ⟨-, hinner, hrest, hapart⟩ := hdistinct
    rw [flatten_cons, List.mem_cons, List.mem_append] at ha
    rcases ha with rfl | ha | ha
    · exact absurd rfl hm
    · obtain ⟨rest, hchain⟩ := ihinner hinner ha
      exact ⟨rest, by rw [hchain, Option.some_or]⟩
    · have hnone : Grammar.chainIn? a.handle inner = none :=
        chainIn?_eq_none fun b hb =>
          hapart _ (List.mem_map_of_mem hb) _ (List.mem_map_of_mem ha)
      rw [hnone, Option.none_or]
      exact ih hrest ha
  | case5 b atoms alternatives _ hb =>
    rw [flatten_cons] at hdistinct ha
    have heq := List.inj_on_of_nodup_map hdistinct List.mem_cons_self ha hb
    exact ⟨atoms, by rw [heq]⟩
  | case6 b atoms alternatives hgroup hb ih =>
    have hleaf : b.inner = [] := by
      cases b with
      | leaf | reference => rfl
      | group m lookahead value inner => exact absurd rfl (hgroup m lookahead value inner)
    rw [flatten_cons, hleaf, flatten_nil, List.nil_append] at hdistinct ha
    rcases List.mem_cons.1 ha with rfl | ha
    · exact absurd rfl hb
    · exact ih (List.nodup_cons.1 hdistinct).2 ha

/-- The block of a handle is found by it. -/
theorem Laid.findSome? {base : Nat} {blocks : List Rule} {r : Rule} (h : Laid base blocks)
    (hr : r ∈ blocks) :
    (blocks.findSome? fun q =>
      if q.handle = r.handle then some [q.head] else Grammar.chainIn? r.handle q.alternatives) =
      some [r.head] := by
  induction blocks generalizing base with
  | nil => simp at hr
  | cons q blocks ih =>
    have heq := h.eq_of_handle_eq List.mem_cons_self hr
    obtain ⟨hq, hc, hrest⟩ := h
    rw [List.findSome?_cons]
    by_cases he : q.handle = r.handle
    · rw [if_pos he, heq he]
    · rw [if_neg he]
      have hr' := (List.mem_cons.1 hr).resolve_left fun hrq => he (hrq ▸ rfl)
      have hnone : Grammar.chainIn? r.handle q.alternatives = none := by
        refine chainIn?_eq_none fun a ha hh => ?_
        have hlt := (hc.mem ha).2
        have hle := hrest.le hr'
        omega
      rw [hnone]
      exact ih hrest hr'

/-- The chain of an atom is found by its handle. -/
theorem Laid.findSome?_atom {base : Nat} {blocks : List Rule} {r : Rule} {a : Atom}
    (h : Laid base blocks) (hr : r ∈ blocks) (ha : a ∈ r.atoms) :
    ∃ atoms, (blocks.findSome? fun q =>
      if q.handle = a.handle then some [q.head] else Grammar.chainIn? a.handle q.alternatives) =
      some (a :: atoms) := by
  induction blocks generalizing base with
  | nil => simp at hr
  | cons q blocks ih =>
    obtain ⟨hq, hc, hrest⟩ := h
    rw [List.findSome?_cons]
    rcases List.mem_cons.1 hr with rfl | hr
    · have hlt := (hc.mem ha).1
      have hdistinct : ((flatten r.alternatives).map Atom.handle).Nodup := by
        change (r.atoms.map Atom.handle).Nodup
        rw [hc.2]
        exact List.nodup_range'
      obtain ⟨atoms, hchain⟩ := chainIn?_of_mem hdistinct ha
      exact ⟨atoms, by rw [if_neg (by omega), hchain]⟩
    · have hafter : base + q.size < a.handle := by
        have hle := hrest.le hr
        have hlt := (hrest.counted hr).mem ha
        omega
      have hnone : Grammar.chainIn? a.handle q.alternatives = none := by
        refine chainIn?_eq_none fun b hb hh => ?_
        have hlt := (hc.mem hb).2
        omega
      obtain ⟨atoms, hfound⟩ := ih hrest hr
      exact ⟨atoms, by rw [if_neg (by omega), hnone]; exact hfound⟩

end Rule

/-! ## Building -/

namespace Builder

open Rule (Laid Counted)

/-- The states of a builder. -/
inductive Reachable : Builder → Prop
  | new (settings : Settings) : Reachable { settings }
  | extending {b : Builder} : Reachable b → Reachable (extending b.build.value)
  | named {b : Builder} (name : String) : Reachable b → Reachable { b with name := some name }
  | compile {b : Builder} (d : Definition) : Reachable b → Reachable (b.compile d).1
  /-- Problems are taken from and added to those that were found so far. -/
  | diagnosed {b : Builder} (ds : List Diagnostic) :
      Reachable b → Reachable { b with diagnostics := ds }

theorem Reachable.compileAll {b : Builder} (h : Reachable b) (ds : List Definition) :
    Reachable (b.compileAll ds).1 := by
  fun_induction Builder.compileAll b ds with
  | case1 b => exact h
  | case2 b d ds b' _ hc ih => exact ih (by simpa only [hc] using h.compile d)
  | case3 b d ds b' e hc _ ih => exact ih (by simpa only [hc] using h.compile d)
  | case4 b d ds b' e hc _ => simpa only [hc] using h.compile d

/-- The blocks are numbered without a gap, and the rules are blocks with distinct ids. -/
structure Ordered (b : Builder) : Prop where
  laid : Laid 2 b.blocks
  listed : ∀ r ∈ b.rules, r ∈ b.blocks
  distinct : (b.rules.map Rule.id).Nodup

@[simp] theorem blocks_report (b : Builder) (ds : List Diagnostic) :
    (b.report ds).blocks = b.blocks := rfl

@[simp] theorem rules_report (b : Builder) (ds : List Diagnostic) :
    (b.report ds).rules = b.rules := rfl

theorem blocks_insert (b : Builder) (r : Rule) : (b.insert r).blocks = b.blocks ++ [r] := by
  unfold insert
  split
  · rfl
  · split <;> rfl

theorem rules_insert (b : Builder) (r : Rule) : (b.insert r).rules = insertRule b.rules r := by
  unfold insert
  split
  · rfl
  · split <;> rfl

theorem mem_insertRule {rules : List Rule} {r q : Rule} (h : q ∈ insertRule rules r) :
    q ∈ rules ∨ q = r := by
  unfold insertRule at h
  split at h
  · obtain ⟨p, hp, he⟩ := List.mem_map.1 h
    split at he
    · exact .inr he.symm
    · exact .inl (he ▸ hp)
  · simpa using h

/-- A rule keeps the ids distinct, since it takes the place of the one with its own. -/
theorem nodup_insertRule {rules : List Rule} {r : Rule} (h : (rules.map Rule.id).Nodup) :
    ((insertRule rules r).map Rule.id).Nodup := by
  unfold insertRule
  split
  · have hids : (rules.map fun s => if s.id == r.id then r else s).map Rule.id =
        rules.map Rule.id := by
      rw [List.map_map]
      refine List.map_congr_left fun s _ => ?_
      rw [Function.comp_apply]
      split
      · next hs => exact (beq_iff_eq.1 hs).symm
      · rfl
    rwa [hids]
  · next hnone =>
    rw [List.map_append, List.map_singleton]
    refine List.nodup_append.2 ⟨h, List.pairwise_singleton _ _, fun id hid id' hid' heq => ?_⟩
    rw [List.mem_singleton.1 hid'] at heq
    obtain ⟨s, hs, he⟩ := List.mem_map.1 hid
    refine hnone (List.find?_isSome.2 ⟨s, hs, ?_⟩)
    rw [beq_iff_eq, he, heq]

theorem Ordered.insert {b : Builder} {r : Rule} (h : Ordered b)
    (hr : r.handle = Rule.nextHandle b.blocks) (hc : r.Counted) : Ordered (b.insert r) where
  laid := by
    rw [blocks_insert]
    exact h.laid.concat hr hc
  listed := fun q hq => by
    rw [rules_insert] at hq
    rw [blocks_insert, List.mem_append, List.mem_singleton]
    exact (mem_insertRule hq).imp_left (h.listed q)
  distinct := by
    rw [rules_insert]
    exact nodup_insertRule h.distinct

/-- The rule of a definition, given what was read of its body. -/
def ruleWith (d : Definition) (handle : Nat) (alternatives : List (List Atom))
    (command : Option Command) : Rule :=
  let options := (RuleOptions.ofTags (.ofId d.id) d.id d.options).1
  { id := d.id
    kind := if options.fragment && (RuleKind.ofId d.id).isLexer then .fragment else .ofId d.id
    handle
    alternatives
    order := d.order.getD Rule.lastOrder
    categories := d.categories
    options := { options with skip := options.skip || command.any fun c => c.name == "skip" }
    command }

theorem bodyOf_result (b : Builder) (d : Definition) :
    (b.bodyOf d).result =
      (Rule.readBody d.id b.settings.cap (Rule.nextHandle b.blocks) d.body.toList).result := by
  unfold bodyOf
  split <;> next h => rw [h]

/-- **When a definition compiles.** Its body can be read and is not nothing but calls of the rule
itself. -/
theorem ruleOf_eq_ok {b : Builder} {d : Definition} {r : Rule} :
    (b.ruleOf d).result = .ok r ↔
      d.id.isEmpty = false ∧ ∃ alternatives command,
        (Rule.readBody d.id b.settings.cap (Rule.nextHandle b.blocks) d.body.toList).result =
          .ok (alternatives, command) ∧
        isFatallyRecursive d.id alternatives = false ∧
        r = ruleWith d (Rule.nextHandle b.blocks) alternatives command := by
  rw [← bodyOf_result]
  unfold ruleOf
  by_cases hid : d.id.isEmpty
  · simp [hid]
  · simp only [hid, Bool.false_eq_true, if_false, true_and]
    constructor
    · intro h
      obtain ⟨_, -, h⟩ := Checked.result_bind_eq_ok.1 h
      obtain ⟨⟨alternatives, command⟩, hbody, h⟩ := Checked.result_bind_eq_ok.1 h
      refine ⟨alternatives, command, hbody, ?_⟩
      dsimp only at h
      split at h
      · obtain ⟨_, -, h⟩ := Checked.result_bind_eq_ok.1 h
        cases h
      · next hfatal =>
        cases h
        exact ⟨Bool.eq_false_iff.2 hfatal, rfl⟩
    · rintro ⟨alternatives, command, hbody, hfatal, rfl⟩
      refine Checked.result_bind_eq_ok.2 ⟨(), rfl, Checked.result_bind_eq_ok.2 ⟨_, hbody, ?_⟩⟩
      dsimp only
      rw [if_neg (Bool.eq_false_iff.1 hfatal)]
      rfl

theorem id_of_ruleOf {b : Builder} {d : Definition} {r : Rule} (h : (b.ruleOf d).result = .ok r) :
    r.id = d.id := by
  obtain ⟨-, _, _, -, -, rfl⟩ := ruleOf_eq_ok.1 h
  rfl

/-- The rule of a definition takes the next handle. -/
theorem ruleOf_counted {b : Builder} {d : Definition} {r : Rule}
    (h : (b.ruleOf d).result = .ok r) :
    r.handle = Rule.nextHandle b.blocks ∧ r.Counted := by
  obtain ⟨-, alternatives, command, hread, -, rfl⟩ := ruleOf_eq_ok.1 h
  obtain ⟨next, hnext⟩ := Rule.readBody_counts hread
  exact ⟨rfl, .of_counts hnext⟩

theorem Ordered.compile {b : Builder} (h : Ordered b) (d : Definition) :
    Ordered (b.compile d).1 := by
  unfold Builder.compile
  split
  · next ds r hr =>
    obtain ⟨hhandle, hc⟩ := ruleOf_counted (congrArg Checked.result hr)
    exact Ordered.insert ⟨h.laid, h.listed, h.distinct⟩ hhandle hc
  · exact ⟨h.laid, h.listed, h.distinct⟩

theorem rules_build (b : Builder) : b.build.value.rules = b.rules := by
  by_cases h : Grammar.hasUnresolved b.blocks b.rules <;> simp [build, h]

/-- The rules after a first definition in which no problem is found. -/
theorem rules_of_first {d : Definition} {r : Rule}
    (hrule : ({} : Builder).ruleOf d = ⟨[], .ok r⟩) :
    (({} : Builder).compile d).1.build.value.rules = [r] := by
  rw [rules_build, compile, hrule]
  exact rules_insert _ r

theorem blocks_build (b : Builder) :
    b.build.value.blocks =
      if Grammar.hasUnresolved b.blocks b.rules then
        b.blocks ++ [placeholder (Rule.nextHandle b.blocks)]
      else b.blocks := by
  by_cases h : Grammar.hasUnresolved b.blocks b.rules <;> simp [build, h]

/-- Left recursion among the rules is a problem of the grammar. -/
theorem mem_diagnostics_build (b : Builder) {d : Diagnostic}
    (h : d ∈ LeftRecursion.warnings b.rules) : d ∈ b.build.value.diagnostics := by
  by_cases hu : Grammar.hasUnresolved b.blocks b.rules <;> simp [build, hu, report, h]

theorem placeholder_counted (handle : Nat) : (placeholder handle).Counted := by
  have h : Atom.Counts (handle + 1) (handle + 1) (placeholder handle).atoms := by
    rw [Rule.atoms, placeholder, Atom.flatten_nil]
    exact .nil _
  exact .of_counts h

theorem Ordered.build {b : Builder} (h : Ordered b) : Ordered (extending b.build.value) where
  laid := by
    show Laid 2 b.build.value.blocks
    rw [blocks_build]
    split
    · exact h.laid.concat rfl (placeholder_counted _)
    · exact h.laid
  listed := fun r hr => by
    replace hr : r ∈ b.build.value.rules := hr
    show r ∈ b.build.value.blocks
    rw [rules_build] at hr
    rw [blocks_build]
    split
    · exact List.mem_append_left _ (h.listed r hr)
    · exact h.listed r hr
  distinct := by
    show (b.build.value.rules.map Rule.id).Nodup
    rw [rules_build]
    exact h.distinct

/-- **Building numbers the blocks.** A builder keeps its invariant whatever it is given. -/
theorem Reachable.ordered {b : Builder} (h : Reachable b) : Ordered b := by
  induction h with
  | new settings => exact ⟨trivial, by simp, .nil⟩
  | extending _ ih => exact ih.build
  | named name _ ih => exact ⟨ih.laid, ih.listed, ih.distinct⟩
  | compile d _ ih => exact ih.compile d
  | diagnosed ds _ ih => exact ⟨ih.laid, ih.listed, ih.distinct⟩

end Builder

/-! ## Built grammars -/

namespace Grammar

theorem mem_rules_of_mem_candidates {g : Grammar} {kind : RuleKind} {r : Rule}
    (h : r ∈ g.candidates kind) : r ∈ g.rules := by
  rw [candidates, List.mem_mergeSort] at h
  exact List.mem_of_mem_filter h

theorem mem_nodes_of_mem_blocks {g : Grammar} {r : Rule} {n : Node} (h : r ∈ g.blocks)
    (hn : n ∈ g.nodesOfRule r) : n ∈ g.nodes :=
  List.mem_cons_of_mem _ (List.mem_cons_of_mem _ (List.mem_flatMap_of_mem h hn))

/-- A grammar that some builder has made. -/
def Built (g : Grammar) : Prop := ∃ b : Builder, b.Reachable ∧ b.build.value = g

namespace Built

variable {g : Grammar}

theorem of_reachable {b : Builder} (h : b.Reachable) : Built b.build.value := ⟨b, h, rfl⟩

theorem laid (h : Built g) : Rule.Laid 2 g.blocks := by
  obtain ⟨b, hb, rfl⟩ := h
  exact hb.ordered.build.laid

theorem mem_blocks (h : Built g) {r : Rule} (hr : r ∈ g.rules) : r ∈ g.blocks := by
  obtain ⟨b, hb, rfl⟩ := h
  exact hb.ordered.build.listed r hr

theorem nodup_ids (h : Built g) : (g.rules.map Rule.id).Nodup := by
  obtain ⟨b, hb, rfl⟩ := h
  exact hb.ordered.build.distinct

theorem mem_diagnostics (h : Built g) {d : Diagnostic}
    (hd : d ∈ LeftRecursion.warnings g.rules) : d ∈ g.diagnostics := by
  obtain ⟨b, -, rfl⟩ := h
  rw [Builder.rules_build] at hd
  exact b.mem_diagnostics_build hd

/-- The handles 0 and 1 belong to no rule. -/
theorem two_le_handle (h : Built g) {r : Rule} (hr : r ∈ g.rules) : 2 ≤ r.handle :=
  h.laid.le (h.mem_blocks hr)

/-- **The handle of a rule stands for the rule.** -/
theorem chain?_handle (h : Built g) {r : Rule} (hr : r ∈ g.rules) :
    g.chain? r.handle = some [r.head] := by
  have hle := h.two_le_handle hr
  rw [chain?, if_neg (by unfold root; omega), if_neg (by unfold unmatched; omega)]
  exact h.laid.findSome? (h.mem_blocks hr)

/-- **The handle of an atom stands for the chain that begins with it.** -/
theorem chain?_atom (h : Built g) {r : Rule} {a : Atom} (hr : r ∈ g.blocks) (ha : a ∈ r.atoms) :
    ∃ atoms, g.chain? a.handle = some (a :: atoms) := by
  have hle := h.laid.le hr
  have hlt := (h.laid.counted hr).mem ha
  rw [chain?, if_neg (by unfold root; omega), if_neg (by unfold unmatched; omega)]
  exact h.laid.findSome?_atom hr ha

/-- **Different rules have different handles.** -/
theorem eq_of_handle_eq (h : Built g) {r q : Rule} (hr : r ∈ g.rules) (hq : q ∈ g.rules)
    (he : r.handle = q.handle) : r = q :=
  h.laid.eq_of_handle_eq (h.mem_blocks hr) (h.mem_blocks hq) he

/-- **Every rule is found by its id.** -/
theorem find?_id (h : Built g) {r : Rule} (hr : r ∈ g.rules) : g.find? r.id = some r :=
  (Rule.findIn?_eq_some_iff h.nodup_ids).2 ⟨hr, rfl⟩

end Built

end Grammar

end Lexigram
