import Lexigram.Proofs.LeftRecursion
import Lexigram.Proofs.Registry

/-!
# Warnings about undefined rules

Building warns of every reference to a rule that is not defined. It goes through all rules that were
ever accepted, so a rule that was replaced since, by a later definition or by a grammar that extends
the one it belongs to, still counts; and it warns once for a rule id and a name, however many
references and definitions there are.

**What else is noticed** (`Checked.Leaves`). Reading a body only ever warns of escapes, and neither
the options of a rule nor left recursion give rise to a warning about an undefined rule.

**The warnings of the references** (`Grammar.mem_linkWarnings`). One for each rule and name that are
suspect, without a duplicate.

**The rules that count** (`Builder.Accepted`). The definitions that a builder and those it extends
have accepted, in the order in which they came. By induction on them, the blocks of the builder are
these rules and some that stand in for undefined ones, which refer to nothing.

Main result: `Builder.Accepted.countP_unknownRule`.
-/

namespace Lexigram

/-! ## What steps leave behind -/

namespace Checked

variable {α β : Type} {p : Diagnostic → Prop}

/-- All diagnostics of a step satisfy a predicate. -/
def Leaves (p : Diagnostic → Prop) (x : Checked α) : Prop := ∀ d ∈ x.diagnostics, p d

theorem leaves_pure (a : α) : Leaves p (pure a : Checked α) := List.forall_mem_nil p

theorem leaves_fail (e : CompileError) : Leaves p (fail e : Checked α) := List.forall_mem_nil p

theorem leaves_lift (r : Except CompileError α) : Leaves p (lift r) := List.forall_mem_nil p

theorem leaves_after {ds : List Diagnostic} {x : Checked α} (hds : ∀ d ∈ ds, p d)
    (hx : Leaves p x) : Leaves p (after ds x) :=
  List.forall_mem_append.2 ⟨hds, hx⟩

theorem leaves_bind {x : Checked α} {f : α → Checked β} (hx : Leaves p x)
    (hf : ∀ a, x.result = .ok a → Leaves p (f a)) : Leaves p (x >>= f) := by
  obtain ⟨ds, r⟩ := x
  cases r with
  | error e => exact hx
  | ok a => exact List.forall_mem_append.2 ⟨hx, hf a rfl⟩

theorem Leaves.mono {q : Diagnostic → Prop} {x : Checked α} (hx : Leaves p x)
    (h : ∀ d, p d → q d) : Leaves q x :=
  fun d hd => h d (hx d hd)

end Checked

/-- A warning about an escape without a meaning. -/
def Diagnostic.OfEscape (d : Diagnostic) : Prop := ∃ c, d.problem = .unknownEscape c

namespace Rule

open Checked

theorem Region.leaves_fail {α : Type} {p : Diagnostic → Prop} (r : Region) (left : List Char)
    (fault : BodyFault) : Leaves p (r.fail left fault : Checked α) :=
  Checked.leaves_fail _

theorem readQuoted_leaves (r : Region) (s : List Char) :
    (readQuoted r s).Leaves Diagnostic.OfEscape := by
  unfold readQuoted
  split
  · exact leaves_fail _
  · refine leaves_after (fun d hd => ?_) (leaves_pure _)
    obtain ⟨⟨pos, c⟩, -, rfl⟩ := List.mem_map.1 hd
    exact ⟨c, rfl⟩

theorem readLiteral_leaves (r : Region) (s : List Char) :
    (readLiteral r s).Leaves Diagnostic.OfEscape := by
  unfold readLiteral
  refine leaves_bind (readQuoted_leaves r s) fun ⟨text, rest⟩ _ => ?_
  dsimp only
  split
  · exact r.leaves_fail s _
  split
  · split
    · refine leaves_bind (readQuoted_leaves r _) fun ⟨upper, rest⟩ _ => ?_
      dsimp only
      split
      · split
        · exact leaves_pure _
        · exact leaves_fail _
      · exact r.leaves_fail s _
    · exact r.leaves_fail _ _
  · split
    · exact leaves_pure _
    · exact leaves_fail _

theorem readExpression_leaves (r : Region) (s : List Char) :
    (readExpression r s).Leaves Diagnostic.OfEscape := by
  have hsplit (t : List Char) : (splitClassSource r s t).Leaves Diagnostic.OfEscape := by
    unfold splitClassSource
    split
    · split
      · exact leaves_pure _
      · exact leaves_fail _
    · exact leaves_pure _
    · exact r.leaves_fail s _
  unfold readExpression
  refine leaves_bind (hsplit _) fun ⟨body, rest⟩ _ => ?_
  dsimp only
  split
  · exact leaves_pure _
  · exact leaves_fail _

theorem splitGroup_leaves (r : Region) (s inner : List Char) (fault : BodyFault) :
    (splitGroup r s inner fault).Leaves Diagnostic.OfEscape := by
  unfold splitGroup
  refine leaves_bind (leaves_lift _) fun o _ => ?_
  split
  · split
    · exact r.leaves_fail s _
    · exact leaves_pure _
  · exact leaves_fail _

theorem readHead_leaves (r : Region) (inverted : Bool) (start s : List Char) :
    (readHead r inverted start s).Leaves Diagnostic.OfEscape := by
  unfold readHead
  split
  · exact r.leaves_fail start _
  · exact leaves_bind (readLiteral_leaves r _) fun _ _ => leaves_pure _
  · split
    · exact r.leaves_fail start _
    · exact leaves_bind (splitGroup_leaves r _ _ _) fun _ _ => leaves_pure _
  · exact leaves_bind (splitGroup_leaves r _ _ _) fun _ _ => leaves_pure _
  · exact leaves_fail _
  · split
    · exact leaves_bind (readExpression_leaves r _) fun _ _ => leaves_pure _
    · split
      · exact leaves_pure _
      · exact r.leaves_fail _ _

theorem readOpening_leaves (r : Region) (s : List Char) :
    (readOpening r s).Leaves Diagnostic.OfEscape := by
  unfold readOpening
  split <;> exact readHead_leaves r _ _ _

theorem readAlternatives_leaves (r : Region) (start : Nat) (first : Bool) (base : Nat)
    (s : List Char) : (readAlternatives r start first base s).Leaves Diagnostic.OfEscape := by
  fun_induction readAlternatives r start first base s with
  | case1 | case4 => exact leaves_fail _
  | case2 => exact leaves_pure _
  | case3 _ _ _ _ _ _ _ ih => exact ih
  | case5 r start first base t _ _ ih => exact leaves_bind ih fun _ _ => leaves_pure _
  | case6 r start first base c t _ _ ds e ho =>
    have hopening := readOpening_leaves r (c :: t)
    rw [ho] at hopening
    exact hopening
  | case7 r start first base c t _ _ ds o ho ihinner ihrest =>
    have hopening := readOpening_leaves r (c :: t)
    rw [ho] at hopening
    refine leaves_after hopening (leaves_bind ?_ fun inside _ => ?_)
    · split
      · exact leaves_bind ihinner fun _ _ => leaves_pure _
      · exact leaves_pure _
    · dsimp only
      split
      · exact leaves_fail _
      · next quantifier rest hq =>
        exact leaves_bind (ihrest _ _ _ _ hq) fun _ _ => leaves_pure _

/-- **Reading a body warns of escapes only.** -/
theorem readBody_leaves (rule : String) (cap base : Nat) (src : List Char) :
    (readBody rule cap base src).Leaves Diagnostic.OfEscape := by
  unfold readBody
  refine leaves_bind (leaves_lift _) fun ⟨body, command⟩ _ => ?_
  dsimp only
  split
  · exact leaves_fail _
  · exact leaves_bind (readAlternatives_leaves _ _ _ _ _) fun _ _ => leaves_pure _

end Rule

/-! ## Problems that are not about undefined rules -/

/-- Whether a diagnostic is about a reference in some rule to a rule that is not defined. -/
def Diagnostic.isUnresolved (rule name : String) (d : Diagnostic) : Bool :=
  d.rule = some rule ∧ d.problem = .unknownRule name

/-- A diagnostic that is not about an undefined rule. -/
def Diagnostic.Resolved (d : Diagnostic) : Prop := ∀ name, d.problem ≠ .unknownRule name

theorem Diagnostic.Resolved.isUnresolved_eq_false {d : Diagnostic} (h : d.Resolved)
    (rule name : String) : d.isUnresolved rule name = false :=
  decide_eq_false fun ⟨_, hproblem⟩ => h name hproblem

/-- Tags of options give rise to problems with options. -/
theorem RuleOptions.ofTags_resolved (kind : RuleKind) (rule : String) (tags : List String) :
    ∀ d ∈ (ofTags kind rule tags).2, d.Resolved := by
  have hsetting (tag : String) (present lexerOnly : Bool) :
      ∀ d ∈ settingProblems kind rule tag present lexerOnly, d.Resolved := by
    intro d hd name
    rcases List.mem_append.1 hd with hd | hd <;>
      obtain ⟨-, hd⟩ := List.mem_ite_nil_right.1 hd <;> cases List.mem_singleton.1 hd <;> nofun
  have hinsert (o : RuleOptions) (tag : String) : ∀ d ∈ (o.insert kind rule tag).2, d.Resolved := by
    unfold RuleOptions.insert
    split
    · exact hsetting _ _ _
    · exact hsetting _ _ _
    · exact hsetting _ _ _
    · exact hsetting _ _ _
    · exact List.forall_mem_nil _
    · intro d hd name
      cases List.mem_singleton.1 hd
      nofun
  unfold ofTags
  refine List.foldlRecOn (motive := fun state : RuleOptions × List Diagnostic =>
    ∀ d ∈ state.2, d.Resolved) tags _ (List.forall_mem_nil _) fun state hstate tag _ => ?_
  exact List.forall_mem_append.2 ⟨hstate, hinsert state.1 tag⟩

namespace Builder

open Checked

/-- **Compiling a definition finds no undefined rule.** -/
theorem ruleOf_leaves (b : Builder) (d : Definition) : (b.ruleOf d).Leaves Diagnostic.Resolved := by
  have hescape {d : Diagnostic} : d.OfEscape → d.Resolved := by
    rintro ⟨c, hc⟩ name hname
    rw [hc] at hname
    cases hname
  have hbody : (b.bodyOf d).Leaves Diagnostic.Resolved := by
    have hread := Rule.readBody_leaves d.id b.settings.cap (Rule.nextHandle b.blocks) d.body.toList
    unfold bodyOf
    split
    · next ds read hds =>
      rw [hds] at hread
      exact hread.mono fun _ => hescape
    · next ds e hds =>
      rw [hds] at hread
      intro d' hd'
      dsimp only at hd'
      split at hd'
      · rcases List.mem_append.1 hd' with hd' | hd'
        · exact hescape (hread d' hd')
        · cases List.mem_singleton.1 hd'
          exact fun _ => nofun
      · exact hescape (hread d' hd')
  unfold ruleOf
  split
  · exact leaves_fail _
  · refine leaves_bind (RuleOptions.ofTags_resolved _ _ _) fun _ _ => ?_
    refine leaves_bind hbody fun ⟨alternatives, command⟩ _ => ?_
    dsimp only
    split
    · refine leaves_bind (fun d' hd' => ?_) fun _ _ => leaves_fail _
      cases List.mem_singleton.1 hd'
      exact fun _ => nofun
    · exact leaves_pure _

end Builder

/-! ## The warnings of the references -/

namespace Grammar

theorem mem_linkWarnings {blocks rules : List Rule} {d : Diagnostic} :
    d ∈ linkWarnings blocks rules ↔
      ∃ q ∈ blocks, ∃ name ∈ q.references, ∃ problem,
        referenceProblem? rules q.kind name = some problem ∧
          d = .warning q.id .empty problem := by
  simp only [linkWarnings, List.mem_eraseDups, List.mem_flatMap, List.mem_filterMap,
    Option.map_eq_some_iff, eq_comm (a := d)]

theorem referenceProblem?_eq_unknownRule {rules : List Rule} {kind : RuleKind}
    {name name' : String} :
    referenceProblem? rules kind name = some (.unknownRule name') ↔
      name = name' ∧ Rule.findIn? rules name = none := by
  unfold referenceProblem?
  split
  · next h => simp [h]
  · next target h =>
    rw [h]
    split <;> split <;> simp

/-- **One warning for a rule and an undefined name**, if some block with the id of the rule refers
to it. -/
theorem countP_linkWarnings (blocks rules : List Rule) (rule name : String) :
    (linkWarnings blocks rules).countP (Diagnostic.isUnresolved rule name) =
      if (∃ q ∈ blocks, q.id = rule ∧ name ∈ q.references) ∧ Rule.findIn? rules name = none then 1
      else 0 := by
  -- Among these warnings the rule and the name determine the whole diagnostic.
  have honly : ∀ d ∈ linkWarnings blocks rules, d.isUnresolved rule name = true ↔
      d = .warning rule .empty (.unknownRule name) := by
    intro d hd
    obtain ⟨q, -, -, -, problem, -, rfl⟩ := mem_linkWarnings.1 hd
    simp [Diagnostic.isUnresolved, Diagnostic.warning]
  have hmem : Diagnostic.warning rule .empty (.unknownRule name) ∈ linkWarnings blocks rules ↔
      (∃ q ∈ blocks, q.id = rule ∧ name ∈ q.references) ∧ Rule.findIn? rules name = none := by
    rw [mem_linkWarnings]
    constructor
    · rintro ⟨q, hq, name', hname, problem, hproblem, heq⟩
      cases heq
      obtain ⟨rfl, hnone⟩ := referenceProblem?_eq_unknownRule.1 hproblem
      exact ⟨⟨q, hq, rfl, hname⟩, hnone⟩
    · rintro ⟨⟨q, hq, rfl, hname⟩, hnone⟩
      exact ⟨q, hq, name, hname, _, referenceProblem?_eq_unknownRule.2 ⟨rfl, hnone⟩, rfl⟩
  have hcount : (linkWarnings blocks rules).countP (Diagnostic.isUnresolved rule name) =
      (linkWarnings blocks rules).count (.warning rule .empty (.unknownRule name)) := by
    refine List.countP_congr fun d hd => ?_
    rw [honly d hd, beq_iff_eq]
  have hnodup : (linkWarnings blocks rules).Nodup := nodup_eraseDups _
  rw [hcount, hnodup.count]
  simp only [hmem]

end Grammar

/-! ## Builders made by definitions -/

namespace Builder

/-- A builder that was made by definitions alone, with the rules that it and those it extends have
accepted. -/
inductive Accepted : Builder → List Rule → Prop
  | new (settings : Settings) : Accepted { settings } []
  | extending {b : Builder} {rs : List Rule} :
      Accepted b rs → Accepted (Builder.extending b.build.value) rs
  | named {b : Builder} {rs : List Rule} (name : String) :
      Accepted b rs → Accepted { b with name := some name } rs
  | compile {b : Builder} {rs : List Rule} (d : Definition) :
      Accepted b rs → Accepted (b.compile d).1 (rs ++ (b.ruleOf d).result.toOption.toList)

theorem diagnostics_build (b : Builder) :
    b.build.value.diagnostics =
      b.diagnostics ++ Grammar.linkWarnings b.blocks b.rules ++ LeftRecursion.warnings b.rules := by
  by_cases h : Grammar.hasUnresolved b.blocks b.rules <;> simp [build, h, report]

theorem references_placeholder (handle : Nat) : (placeholder handle).references = [] := by
  simp [Rule.references, Rule.atoms, placeholder]

/-- The blocks of a builder after a definition are those before it and its rule. -/
theorem blocks_compile (b : Builder) (d : Definition) :
    (b.compile d).1.blocks = b.blocks ++ (b.ruleOf d).result.toOption.toList := by
  unfold compile
  split
  · next hr => rw [hr, blocks_insert, blocks_report]; rfl
  · next hr => rw [hr]; exact (List.append_nil _).symm

namespace Accepted

variable {b : Builder} {rs : List Rule}

/-- **The blocks are the accepted rules**, but for some that refer to nothing. -/
theorem mem_blocks (h : Accepted b rs) {q : Rule} {name : String} (hname : name ∈ q.references) :
    q ∈ b.blocks ↔ q ∈ rs := by
  induction h with
  | new settings => rfl
  | @extending b rs _ ih =>
    rw [← ih]
    change q ∈ b.build.value.blocks ↔ _
    rw [blocks_build]
    split
    · rw [List.mem_append, List.mem_singleton, or_iff_left]
      rintro rfl
      simp [references_placeholder] at hname
    · rfl
  | named name _ ih => exact ih
  | compile d _ ih => rw [blocks_compile, List.mem_append, List.mem_append, ih]

/-- **Before the end of building no undefined rule is reported.** -/
theorem resolved (h : Accepted b rs) : ∀ d ∈ b.diagnostics, d.Resolved := by
  induction h with
  | new settings => exact List.forall_mem_nil _
  | extending _ _ => exact List.forall_mem_nil _
  | named name _ ih => exact ih
  | @compile b rs d _ ih =>
    have hleaves := ruleOf_leaves b d
    unfold Builder.compile
    split
    · next ds r hr =>
      rw [hr] at hleaves
      have hall := List.forall_mem_append.2 ⟨ih, hleaves⟩
      unfold Builder.insert
      split
      · exact hall
      split
      · refine List.forall_mem_append.2 ⟨hall, fun d' hd' => ?_⟩
        cases List.mem_singleton.1 hd'
        exact fun _ => nofun
      · exact hall
    · next ds e hr =>
      rw [hr] at hleaves
      exact List.forall_mem_append.2 ⟨ih, hleaves⟩

/-- **When an undefined rule is reported.** A built grammar has a warning about a reference of a
rule to an undefined one if and only if some definition of the rule that was accepted refers to it,
be it the last one or one that was replaced since, and has it only once. -/
theorem countP_unknownRule (h : Accepted b rs) (rule name : String) :
    b.build.value.diagnostics.countP (Diagnostic.isUnresolved rule name) =
      if (∃ q ∈ rs, q.id = rule ∧ name ∈ q.references) ∧ b.build.value.find? name = none then 1
      else 0 := by
  have hbefore : b.diagnostics.countP (Diagnostic.isUnresolved rule name) = 0 :=
    List.countP_eq_zero.2 fun d hd =>
      Bool.eq_false_iff.1 ((h.resolved d hd).isUnresolved_eq_false rule name)
  have hcycles : (LeftRecursion.warnings b.rules).countP (Diagnostic.isUnresolved rule name) = 0 :=
    List.countP_eq_zero.2 fun d hd => by
      obtain ⟨path, hpath⟩ := LeftRecursion.problem_of_mem_warnings hd
      simp [Diagnostic.isUnresolved, hpath]
  have hblocks : (∃ q ∈ b.blocks, q.id = rule ∧ name ∈ q.references) ↔
      ∃ q ∈ rs, q.id = rule ∧ name ∈ q.references :=
    exists_congr fun q => by
      constructor <;> rintro ⟨hq, hid, hname⟩ <;> simp_all [h.mem_blocks hname]
  rw [diagnostics_build, List.countP_append, List.countP_append, hbefore, hcycles,
    Grammar.countP_linkWarnings, Grammar.find?, rules_build, Nat.zero_add, Nat.add_zero]
  simp only [hblocks]

/-- A rule that refers to one that is not defined. -/
def wanting (handle : Nat) : Rule where
  id := "A"
  kind := .lexer
  handle
  alternatives := [[.reference ⟨handle + 1, false, .once⟩ "Missing"]]

/-- A rule with the same id that refers to nothing. -/
def lettered (handle : Nat) : Rule where
  id := "A"
  kind := .lexer
  handle
  alternatives :=
    [[.leaf ⟨handle + 1, false, .once⟩ ⟨.literal, "'a'".toList, ⟨['a'], .text ['a']⟩, false⟩]]

theorem references_wanting (handle : Nat) : (wanting handle).references = ["Missing"] := by
  simp [Rule.references, Rule.atoms, wanting, Atom.flatten]

theorem references_lettered (handle : Nat) : (lettered handle).references = [] := by
  simp [Rule.references, Rule.atoms, lettered, Atom.flatten]

/-- A rule that was replaced by a grammar which extends its own still counts. -/
theorem countP_unknownRule_overridden :
    let b := (({} : Builder).compile { id := "A", body := "Missing" }).1
    let b' := ((Builder.extending b.build.value).compile { id := "A", body := "'a'" }).1
    Accepted b' [wanting 2, lettered 5] ∧ b'.build.value.find? "Missing" = none ∧
      b'.build.value.diagnostics.countP (Diagnostic.isUnresolved "A" "Missing") = 1 := by
  intro b b'
  have h : Accepted b' [wanting 2, lettered 5] := by
    have hfirst : (({} : Builder).ruleOf { id := "A", body := "Missing" }).result =
        .ok (wanting 2) := by
      cbv
    have hsecond :
        ((Builder.extending b.build.value).ruleOf { id := "A", body := "'a'" }).result =
          .ok (lettered 5) := by
      unfold b
      cbv
    have h : Accepted b' _ := .compile _ (.extending (.compile _ (.new {})))
    rwa [hfirst, hsecond] at h
  have hnone : b'.build.value.find? "Missing" = none := by
    unfold b' b
    cbv
  have hcount := h.countP_unknownRule "A" "Missing"
  have hmem : "Missing" ∈ (wanting 2).references := by simp [references_wanting]
  rw [if_pos ⟨⟨wanting 2, List.mem_cons_self, rfl, hmem⟩, hnone⟩] at hcount
  exact ⟨h, hnone, hcount⟩

/-- **Warnings do not speak of the last definitions only.** When a definition without references
takes the place of one that refers to an undefined rule, the warning remains. -/
theorem unknownRule_replaced :
    ¬ ∀ b rs, Accepted b rs → ∀ rule name,
      b.build.value.diagnostics.countP (Diagnostic.isUnresolved rule name) =
        if (∃ q ∈ b.build.value.find? rule, name ∈ q.references) ∧
          b.build.value.find? name = none then 1
        else 0 := by
  intro hlive
  let b := (({} : Builder).compile { id := "A", body := "Missing" }).1
  let b' := (b.compile { id := "A", body := "'a'" }).1
  have h : Accepted b' _ := .compile _ (.compile _ (.new {}))
  have hdiagnostics : b'.build.value.diagnostics =
      [.warning "A" .empty .duplicateDefinition, .warning "A" .empty (.unknownRule "Missing")] := by
    unfold b' b
    cbv
  have hfind : b'.build.value.find? "A" =
      some (lettered 4) := by
    unfold b' b
    cbv
  have hcount := hlive b' _ h "A" "Missing"
  rw [hdiagnostics, hfind, if_neg] at hcount
  · exact absurd hcount (by decide)
  · rintro ⟨⟨q, hq, hmem⟩, -⟩
    cases hq
    simp [references_lettered] at hmem

end Accepted

end Builder

end Lexigram
