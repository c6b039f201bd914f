import Lexigram.Proofs.Arena
import Mathlib

/-!
# A builder is an ordered map

A builder keeps its rules in one list. To whoever looks handles up by id and goes through the rules
in order, it is a table, and a definition that fails does not touch it.

**The table** (`Register`). Handles by id, and the handles in the order in which the group of all
rules has them. A new handle takes the place of the one that its id had, or else the last place.

**One definition** (`Builder.compile_cases`, `Builder.register_insert`). A definition that compiles
enters its handle; one that fails only leaves problems behind.

**Many definitions** (`Builder.compileEach`). By induction on the calls, each of which may fail.

**Candidates** (`StablySorted`). The rules that are tried everywhere are sorted by their order, and
rules of one order stay in the order of the table.

Main result: `Builder.compileEach_holds`.
-/

namespace Lexigram

/-! ## Tables of handles -/

/-- Handles by id, and all of them in their order. -/
@[ext]
structure Register where
  index : String → Option Nat
  children : List Nat

namespace Register

/-- Puts a handle under an id, in the place of the one that was there, or at the end. -/
def enter (t : Register) (entry : String × Nat) : Register where
  index := Function.update t.index entry.1 (some entry.2)
  children :=
    match t.index entry.1 with
    | some previous =>
      if previous ∈ t.children then t.children.replace previous entry.2
      else t.children ++ [entry.2]
    | none => t.children ++ [entry.2]

/-- What is found under an id is what was entered last. -/
theorem index_foldl_enter (t : Register) (entries : List (String × Nat)) (id : String) :
    (entries.foldl enter t).index id = (entries.reverse.lookup id).or (t.index id) := by
  induction entries generalizing t with
  | nil => rfl
  | cons entry entries ih =>
    obtain ⟨name, handle⟩ := entry
    have hlookup : ((entries.reverse ++ [(name, handle)]).lookup id) =
        (entries.reverse.lookup id).or (if id = name then some handle else none) := by
      rw [List.lookup_append, List.lookup_cons, List.lookup_nil]
      by_cases hid : id = name
      · rw [if_pos hid, beq_iff_eq.2 hid]
      · rw [if_neg hid, beq_eq_false_iff_ne.2 hid]
    rw [List.foldl_cons, ih, List.reverse_cons, hlookup, Option.or_assoc]
    congr 1
    change Function.update t.index name (some handle) id = _
    by_cases hid : id = name
    · rw [if_pos hid, hid, Function.update_self, Option.some_or]
    · rw [if_neg hid, Function.update_of_ne hid, Option.none_or]

end Register

/-! ## Lists without duplicates -/

section Duplicates

variable {α : Type} [BEq α] [LawfulBEq α]

theorem nodup_eraseDups (l : List α) : l.eraseDups.Nodup := by
  induction hn : l.length using Nat.strong_induction_on generalizing l with
  | _ n ih =>
    cases l with
    | nil => simp
    | cons a l =>
      have hle := List.length_filter_le (fun b => !b == a) l
      rw [List.eraseDups_cons, List.nodup_cons, List.mem_eraseDups, List.mem_filter]
      exact ⟨by simp, ih _ (by rw [← hn, List.length_cons]; omega) _ rfl⟩

theorem eraseDups_eq_self {l : List α} (h : l.Nodup) : l.eraseDups = l := by
  induction l with
  | nil => rfl
  | cons a l ih =>
    obtain ⟨ha, hl⟩ := List.nodup_cons.1 h
    rw [List.eraseDups_cons, List.filter_eq_self.2, ih hl]
    intro b hb
    rw [Bool.not_eq_true', beq_eq_false_iff_ne]
    rintro rfl
    exact ha hb

theorem eraseDups_append_cons_of_mem {l l' : List α} {a : α} (h : a ∈ l) :
    (l ++ a :: l').eraseDups = (l ++ l').eraseDups := by
  have hremove : (a :: l').removeAll l = l'.removeAll l := by
    rw [List.removeAll, List.removeAll, List.filter_cons_of_neg]
    simpa using h
  rw [List.eraseDups_append, List.eraseDups_append, hremove]

end Duplicates

/-! ## Rules by id -/

namespace Builder

open Rule (nextHandle)

variable {rules : List Rule} {r : Rule}

theorem findIn?_insertRule (rules : List Rule) (r : Rule) (id : String) :
    Rule.findIn? (insertRule rules r) id =
      if id = r.id then some r else Rule.findIn? rules id := by
  unfold insertRule
  split
  · next hfound =>
    -- Replacing keeps the ids, so the search stops at the same rule.
    have hids : ((fun s : Rule => s.id == id) ∘ fun s => if s.id == r.id then r else s) =
        fun s => s.id == id := by
      funext s
      rw [Function.comp_apply]
      split
      · next hs => rw [beq_iff_eq.1 hs]
      · rfl
    rw [Rule.findIn?, List.find?_map, hids]
    change (Rule.findIn? rules id).map _ = _
    split
    · next hid =>
      obtain ⟨s, hs⟩ := Option.isSome_iff_exists.1 hfound
      rw [hid, hs, Option.map_some, if_pos (beq_iff_eq.2 (Rule.findIn?_eq_some hs).2)]
    · next hid =>
      cases hs : Rule.findIn? rules id with
      | none => rfl
      | some s =>
        rw [Option.map_some, if_neg]
        rw [beq_iff_eq, (Rule.findIn?_eq_some hs).2]
        exact hid
  · next hnone =>
    rw [Bool.not_eq_true, Option.isSome_eq_false_iff, Option.isNone_iff_eq_none] at hnone
    rw [Rule.findIn?, List.find?_append]
    change (Rule.findIn? rules id).or _ = _
    split
    · next hid =>
      rw [hid, hnone, Option.none_or, List.find?_singleton, if_pos (beq_self_eq_true r.id)]
    · next hid =>
      have hother : ¬(r.id == id) = true := fun he => hid (beq_iff_eq.1 he).symm
      rw [List.find?_singleton, if_neg hother, Option.or_none]

theorem isSome_findIn? {id : String} :
    (Rule.findIn? rules id).isSome = true ↔ id ∈ rules.map Rule.id := by
  rw [Rule.findIn?, List.find?_isSome, List.mem_map]
  simp only [beq_iff_eq]

theorem ids_insertRule (rules : List Rule) (r : Rule) :
    (insertRule rules r).map Rule.id =
      if r.id ∈ rules.map Rule.id then rules.map Rule.id else rules.map Rule.id ++ [r.id] := by
  unfold insertRule
  simp only [isSome_findIn?]
  split
  · rw [List.map_map]
    refine List.map_congr_left fun s _ => ?_
    rw [Function.comp_apply]
    split
    · next hs => exact (beq_iff_eq.1 hs).symm
    · rfl
  · rw [List.map_append, List.map_singleton]

/-- Replacing a rule replaces its handle. -/
theorem handles_replace {s : Rule} (hids : (rules.map Rule.id).Nodup)
    (hhandles : (rules.map Rule.handle).Nodup) (hs : s ∈ rules) (hid : s.id = r.id) :
    (rules.map fun q => if q.id == r.id then r else q).map Rule.handle =
      (rules.map Rule.handle).replace s.handle r.handle := by
  induction rules with
  | nil => cases hs
  | cons q rules ih =>
    rw [List.map_cons, List.nodup_cons] at hids hhandles
    rw [List.map_cons, List.map_cons, List.map_cons]
    rcases List.mem_cons.1 hs with rfl | hs
    · have hrest : (rules.map fun q => if q.id == r.id then r else q) = rules := by
        conv_rhs => rw [← List.map_id rules]
        refine List.map_congr_left fun p hp => if_neg fun he => hids.1 ?_
        rw [hid, ← beq_iff_eq.1 he]
        exact List.mem_map_of_mem hp
      rw [hrest, if_pos (beq_iff_eq.2 hid), List.replace_cons_self]
    · have hother : ¬(q.id == r.id) = true := by
        rw [beq_iff_eq, ← hid]
        exact fun he => hids.1 (he ▸ List.mem_map_of_mem hs)
      have hhandle : (s.handle == q.handle) = false := by
        rw [beq_eq_false_iff_ne]
        exact fun he => hhandles.1 (he ▸ List.mem_map_of_mem hs)
      rw [if_neg hother, List.replace_cons, hhandle, ih hids.2 hhandles.2 hs]

/-! ## One definition -/

/-- The table of a builder. -/
def register (b : Builder) : Register where
  index id := (Rule.findIn? b.rules id).map Rule.handle
  children := b.rules.map Rule.handle

theorem Ordered.nodup_children {b : Builder} (h : b.Ordered) : b.register.children.Nodup := by
  refine List.Nodup.map_on (fun r hr q hq he => ?_) h.distinct.of_map
  exact h.laid.eq_of_handle_eq (h.listed r hr) (h.listed q hq) he

theorem mem_children_of_index {b : Builder} {id : String} {handle : Nat}
    (h : b.register.index id = some handle) : handle ∈ b.register.children := by
  obtain ⟨r, hr, rfl⟩ := Option.map_eq_some_iff.1 h
  exact List.mem_map_of_mem (Rule.findIn?_eq_some hr).1

/-- **A rule enters its handle.** The id of a rule that is replaced leads to one of the handles in
the table, so that a new one never comes last for want of the old one. -/
theorem register_insert {b : Builder} (h : b.Ordered) (r : Rule) :
    (b.insert r).register = b.register.enter (r.id, r.handle) := by
  have hindex : (b.insert r).register.index = (b.register.enter (r.id, r.handle)).index := by
    funext id
    change (Rule.findIn? (b.insert r).rules id).map Rule.handle =
      Function.update b.register.index r.id (some r.handle) id
    rw [rules_insert, findIn?_insertRule, Function.update_apply]
    split <;> rfl
  have hchildren : (b.insert r).register.children =
      (b.register.enter (r.id, r.handle)).children := by
    change (b.insert r).rules.map Rule.handle = _
    rw [rules_insert, Register.enter]
    dsimp only
    cases hfound : Rule.findIn? b.rules r.id with
    | none =>
      have hnone : b.register.index r.id = none := congrArg (Option.map Rule.handle) hfound
      rw [hnone, insertRule, if_neg]
      · exact List.map_append
      · rw [hfound]
        decide
    | some s =>
      have hs : b.register.index r.id = some s.handle := congrArg (Option.map Rule.handle) hfound
      obtain ⟨hmem, hid⟩ := Rule.findIn?_eq_some hfound
      rw [hs]
      dsimp only
      rw [if_pos (mem_children_of_index hs), insertRule, if_pos (by rw [hfound]; rfl)]
      exact handles_replace h.distinct h.nodup_children hmem hid
  rw [Register.ext_iff]
  exact ⟨hindex, hchildren⟩

/-- **What a definition does.** It adds a rule with its id and the next handle, or it leaves nothing
behind but problems. -/
theorem compile_cases (b : Builder) (d : Definition) :
    (∃ ds r, b.compile d = ((b.report ds).insert r, .ok r.handle) ∧ r.id = d.id) ∨
      ∃ ds e, b.compile d = (b.report ds, .error e) := by
  unfold compile
  split
  · next ds r hr => exact .inl ⟨ds, r, rfl, id_of_ruleOf (congrArg Checked.result hr)⟩
  · next ds e _ => exact .inr ⟨ds, e, rfl⟩

/-! ## Many definitions -/

/-- Compiles definitions one after the other, also behind those that fail, and lists the answers. -/
def compileEach (b : Builder) : List Definition → Builder × List (Except CompileError Nat)
  | [] => (b, [])
  | d :: ds =>
    let after := b.compile d
    let rest := compileEach after.1 ds
    (rest.1, after.2 :: rest.2)

/-- The ids of the definitions that compiled, with the handles that were answered. -/
def entriesOf (b : Builder) (ds : List Definition) : List (String × Nat) :=
  (ds.zip (b.compileEach ds).2).filterMap fun (d, answer) =>
    answer.toOption.map fun handle => (d.id, handle)

theorem entriesOf_cons (b : Builder) (d : Definition) (ds : List Definition) :
    b.entriesOf (d :: ds) =
      ((b.compile d).2.toOption.map fun handle => (d.id, handle)).toList ++
        (b.compile d).1.entriesOf ds := by
  rw [entriesOf, compileEach]
  dsimp only
  rw [List.zip_cons_cons, List.filterMap_cons, entriesOf]
  cases (b.compile d).2 <;> rfl

theorem Reachable.compileEach {b : Builder} (h : b.Reachable) (ds : List Definition) :
    (b.compileEach ds).1.Reachable := by
  induction ds generalizing b with
  | nil => exact h
  | cons d ds ih => exact ih (h.compile d)

theorem register_compileEach {b : Builder} (h : b.Reachable) (ds : List Definition) :
    (b.compileEach ds).1.register = (b.entriesOf ds).foldl Register.enter b.register := by
  induction ds generalizing b with
  | nil => rfl
  | cons d ds ih =>
    have hstep : (b.compile d).1.register =
        ((b.compile d).2.toOption.map fun handle => (d.id, handle)).toList.foldl Register.enter
          b.register := by
      rcases b.compile_cases d with ⟨problems, r, hb, hid⟩ | ⟨problems, e, hb⟩
      · have hreport : (b.report problems).Ordered :=
          ⟨h.ordered.laid, h.ordered.listed, h.ordered.distinct⟩
        rw [hb, ← hid]
        exact register_insert hreport r
      · rw [hb]
        rfl
    rw [entriesOf_cons, List.foldl_append, ← hstep]
    exact ih (h.compile d)

/-- Ids are in the order in which they were first defined. -/
theorem ids_compileEach {b : Builder} (h : b.Reachable) (ds : List Definition) :
    (b.compileEach ds).1.rules.map Rule.id =
      (b.rules.map Rule.id ++ (b.entriesOf ds).map Prod.fst).eraseDups := by
  induction ds generalizing b with
  | nil =>
    change _ = (_ ++ []).eraseDups
    rw [List.append_nil, eraseDups_eq_self h.ordered.distinct]
    rfl
  | cons d ds ih =>
    have hrest := ih (h.compile d)
    rw [entriesOf_cons]
    change ((b.compile d).1.compileEach ds).1.rules.map Rule.id = _
    rw [hrest]
    rcases b.compile_cases d with ⟨problems, r, hb, hid⟩ | ⟨problems, e, hb⟩
    · have hids : (b.compile d).1.rules.map Rule.id =
          if d.id ∈ b.rules.map Rule.id then b.rules.map Rule.id
          else b.rules.map Rule.id ++ [d.id] := by
        rw [hb, ← hid, ← ids_insertRule, ← rules_report b problems, ← rules_insert]
      have hanswer : (b.compile d).2.toOption = some r.handle := by
        rw [hb]
        rfl
      rw [hanswer, hids, Option.map_some, Option.toList_some, List.singleton_append, List.map_cons]
      split
      · next hmem => rw [eraseDups_append_cons_of_mem hmem]
      · rw [List.append_assoc, List.singleton_append]
    · rw [hb]
      rfl

/-! ## Candidates -/

/-- A list is another one sorted by a key. What has the same key stays in its order. -/
def StablySorted {α : Type} (key : α → Int) (l sorted : List α) : Prop :=
  sorted.Pairwise (fun a b => key a ≤ key b) ∧
    ∀ k, sorted.filter (key · = k) = l.filter (key · = k)

theorem stablySorted_mergeSort {α : Type} (key : α → Int) (l : List α) :
    StablySorted key l (l.mergeSort fun a b => key a ≤ key b) := by
  have htrans : ∀ a b c : α, decide (key a ≤ key b) = true → decide (key b ≤ key c) = true →
      decide (key a ≤ key c) = true := by
    simp only [decide_eq_true_eq]
    omega
  have htotal : ∀ a b : α, (decide (key a ≤ key b) || decide (key b ≤ key a)) = true := by
    simp only [Bool.or_eq_true, decide_eq_true_eq]
    omega
  refine ⟨?_, fun k => ?_⟩
  · simpa only [decide_eq_true_eq] using List.pairwise_mergeSort htrans htotal l
  · -- What has the key is a sorted part of the list, and no more of it is in the sorted list.
    have hpart : (l.filter (key · = k)).Pairwise fun a b => decide (key a ≤ key b) = true := by
      refine List.pairwise_of_forall_mem_list fun a ha b hb => ?_
      have ha := (List.mem_filter.1 ha).2
      have hb := (List.mem_filter.1 hb).2
      simp only [decide_eq_true_eq] at ha hb ⊢
      omega
    have hsublist := (List.sublist_mergeSort htrans htotal hpart List.filter_sublist).filter
      (key · = k)
    rw [List.filter_filter] at hsublist
    simp only [Bool.and_self] at hsublist
    have hperm := (List.mergeSort_perm l fun a b => decide (key a ≤ key b)).filter (key · = k)
    exact (hsublist.eq_of_length hperm.length_eq.symm).symm

/-! ## The result -/

/-- The node of a rule belongs to no other rule. -/
theorem exists_node {g : Grammar} {r : Rule} (h : r ∈ g.blocks) :
    ∃ n ∈ g.nodes, n.handle = r.handle ∧ n.id = r.id ∧ n.kind = .composite ∧ n.owner = none :=
  ⟨_, Grammar.mem_nodes_of_mem_blocks h List.mem_cons_self, rfl, rfl, rfl, rfl⟩

theorem children_eq {b : Builder} (h : b.Ordered) :
    b.register.children = (b.rules.map Rule.id).filterMap b.register.index := by
  have hindex : ∀ r ∈ b.rules, b.register.index r.id = some r.handle := fun r hr =>
    congrArg (Option.map Rule.handle) ((Rule.findIn?_eq_some_iff h.distinct).2 ⟨hr, rfl⟩)
  rw [List.filterMap_map]
  change b.rules.map Rule.handle = _
  rw [← List.filterMap_eq_map]
  exact List.filterMap_congr fun r hr => (hindex r hr).symm

theorem stablySorted_candidates (g : Grammar) (kind : RuleKind) :
    StablySorted Rule.order (g.rules.filter fun r => r.kind = kind ∧ r.options.hidden = false)
      (g.candidates kind) := by
  have hfilter : (g.rules.filter fun r => r.kind = kind ∧ r.options.hidden = false) =
      g.rules.filter fun r => !r.options.hidden && r.kind == kind := by
    refine List.filter_congr fun r _ => ?_
    rw [Bool.eq_iff_iff]
    simp only [decide_eq_true_eq, Bool.and_eq_true, Bool.not_eq_true', beq_iff_eq, and_comm]
  rw [hfilter]
  exact stablySorted_mergeSort Rule.order _

/-- What a builder holds once it has been given some definitions, of which those that compiled have
made the entries. -/
structure Holds (c b : Builder) (entries : List (String × Nat)) : Prop where
  /-- The handles were entered one after the other. -/
  entered : c.register = entries.foldl Register.enter b.register
  /-- An id leads to the handle that was answered last, or else to the one that was there before. -/
  last : ∀ id, c.register.index id = (entries.reverse.lookup id).or (b.register.index id)
  /-- The ids are in the order in which they were first defined. -/
  first : c.rules.map Rule.id = (b.rules.map Rule.id ++ entries.map Prod.fst).eraseDups
  /-- The group of all rules has the handles that the ids lead to, and no others. -/
  children : c.register.children = (c.rules.map Rule.id).filterMap c.register.index
  distinct : c.register.children.Nodup
  /-- What an id leads to is a rule of that id, inside no other. -/
  keyed : ∀ id handle, c.register.index id = some handle → handle ∈ c.register.children ∧
    ∃ n ∈ c.build.value.nodes,
      n.handle = handle ∧ n.id = id ∧ n.kind = .composite ∧ n.owner = none
  /-- A definition that fails leaves nothing but problems. -/
  atomic : ∀ d e, (c.compile d).2 = .error e → ∃ problems, (c.compile d).1 = c.report problems
  rules : c.build.value.rules = c.rules
  /-- What is tried everywhere are the rules that are not hidden, sorted by their order. -/
  lexerRules : StablySorted Rule.order
    (c.rules.filter fun r => r.kind = .lexer ∧ r.options.hidden = false) c.build.value.lexerRules
  parserRules : StablySorted Rule.order
    (c.rules.filter fun r => r.kind = .parser ∧ r.options.hidden = false) c.build.value.parserRules

/-- **A builder is an ordered map with atomic failure.** Whatever definitions a builder is given,
those that compile enter their handles one after the other, and those that fail enter nothing. -/
theorem compileEach_holds {b : Builder} (h : b.Reachable) (ds : List Definition) :
    (b.compileEach ds).1.Holds b (b.entriesOf ds) := by
  have htable := register_compileEach h ds
  have hreachable := h.compileEach ds
  have hrules := rules_build (b.compileEach ds).1
  refine
    { entered := htable
      last := fun id => by rw [htable, Register.index_foldl_enter]
      first := ids_compileEach h ds
      children := children_eq hreachable.ordered
      distinct := hreachable.ordered.nodup_children
      keyed := fun id handle hid => ⟨mem_children_of_index hid, ?_⟩
      atomic := fun d e he => ?_
      rules := hrules
      lexerRules := hrules ▸ stablySorted_candidates _ .lexer
      parserRules := hrules ▸ stablySorted_candidates _ .parser }
  · obtain ⟨r, hr, rfl⟩ := Option.map_eq_some_iff.1 hid
    obtain ⟨hmem, rfl⟩ := Rule.findIn?_eq_some hr
    rw [← hrules] at hmem
    exact exists_node (Grammar.Built.mem_blocks (.of_reachable hreachable) hmem)
  · rcases (b.compileEach ds).1.compile_cases d with ⟨problems, r, hc, -⟩ | ⟨problems, e', hc⟩
    · rw [hc] at he
      cases he
    · exact ⟨problems, by rw [hc]⟩

/-- In a builder that extends a grammar an inherited rule is replaced, a definition fails, and a new
rule is defined twice. -/
theorem compileEach_holds_extending :
    let first : Definition := { id := "A", body := "'a'" }
    let ds : List Definition :=
      [{ id := "B", body := "'b'" }, { id := "A", body := "A" }, { id := "A", body := "'c'" },
        { id := "B", body := "A" }]
    let b := extending (({} : Builder).compile first).1.build.value
    b.Reachable ∧ b.entriesOf ds = [("B", 4), ("A", 6), ("B", 8)] ∧
      (b.compileEach ds).1.Holds b (b.entriesOf ds) := by
  intro first ds b
  have hb : b.Reachable := .extending (.compile first (.new {}))
  refine ⟨hb, ?_, compileEach_holds hb ds⟩
  unfold b ds first
  cbv

end Builder

end Lexigram
