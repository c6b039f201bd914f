import Lexigram.Proofs.RuleLines
import Mathlib

/-!
# Displayed grammars are documents

A grammar is displayed in the form in which it could have been written. Whether it can be loaded again
depends on the characters in its categories and options, which are displayed for people.

**Displayed grammars** (`Grammar.read_render`, `Grammar.read_render_error`). By induction on the rules:
each line declares its rule, and the first line of an illegible rule is where the reading ends.

**Displayed rules** (`Rule.ruleOf_definition`). The definition that is displayed of a rule makes the
same rule in the same builder, apart from the texts of groups, in which blanks have been put right.

**Whole documents** (`Builder.Documents`). A builder that is given what a document declares has only
rules with declared definitions. This holds at first and after each definition.

Main result: `Grammar.exists_restoredBy_iff`.
-/

namespace Lexigram

open Document (Declared isGrammarName)

theorem exists_of_map_eq_ok {ε α β : Type} {x : Except ε α} {f : α → β} {b : β}
    (h : x.map f = .ok b) : ∃ a, x = .ok a ∧ f a = b := by
  cases x with
  | error e => cases h
  | ok a => exact ⟨a, rfl, Except.ok.inj h⟩

/-! ## Displayed grammars are read -/

namespace Grammar

variable {g : Grammar} {name : String}

theorem toList_render (hname : g.name = some name) (hparent : g.parent = none) :
    g.render.toList =
      (Document.header name :: g.rules.map fun r => '\n' :: r.line).flatMap (· ++ [';']) ++ ['\n'] := by
  have hlines : ∀ rules : List Rule,
      '\n' :: rules.flatMap (fun r => (r.render ++ "\n").toList) =
        (rules.map fun r => '\n' :: r.line).flatMap (· ++ [';']) ++ ['\n'] := by
    intro rules
    induction rules with
    | nil => rfl
    | cons r rules ih =>
      have hnewline : "\n".toList = ['\n'] := rfl
      rw [List.flatMap_cons, String.toList_append, r.toList_render, hnewline, List.append_assoc,
        List.singleton_append, ih]
      simp
  have hrender : g.render = "grammar " ++ name ++ ";\n" ++ "" ++
      String.join (g.rules.map fun r => r.render ++ "\n") := by
    rw [render, hname, hparent]
    rfl
  have hend : ";\n".toList = [';', '\n'] := rfl
  rw [hrender, String.toList_append, String.toList_append, String.toList_append, String.toList_join,
    List.flatMap_map, List.flatMap_cons, Document.header, hend, String.toList_empty, List.append_nil,
    List.append_assoc, List.append_assoc, List.append_assoc, ← hlines]
  rfl

section Read

variable (hisName : isGrammarName name.toList = true) (hname : g.name = some name)
  (hparent : g.parent = none) (hrules : ∀ r ∈ g.rules, r.Compiled)

include hisName hname hparent hrules

/-- The statements of a displayed grammar are the lines of its rules. -/
theorem exists_read_render :
    ∃ sts : List Document.Statement, sts.map Document.Statement.text = g.rules.map Rule.line ∧
      Document.read g.render.toList = sts.foldlM Document.addStatement { name } := by
  have hstatements : ∀ s ∈ g.rules.map fun r => '\n' :: r.line, Document.IsStatement s :=
    List.forall_mem_map.2 fun r hr => (hrules r hr).isStatement
  have hblanks : ∀ c ∈ ['\n'], Text.isBlank c = true := List.all_eq_true.1 (by decide)
  obtain ⟨sts, htexts, hread⟩ := Document.exists_read_lines hisName hstatements hblanks
  refine ⟨sts, ?_, toList_render hname hparent ▸ hread⟩
  rw [htexts, List.map_map]
  refine List.map_congr_left fun r hr => ?_
  rw [Function.comp_apply, ← List.singleton_append,
    Text.trim_blank_append hblanks, (hrules r hr).trim_line.1]

/-- **A legible grammar is read again**: its document declares its rules. -/
theorem read_render (hlegible : ∀ r ∈ g.rules, r.isLegible = true) :
    Document.read g.render.toList = .ok { name, rules := g.rules.map Rule.definition } := by
  obtain ⟨sts, htexts, hread⟩ := exists_read_render hisName hname hparent hrules
  rw [hread]
  refine Document.foldlM_addStatement (htexts ▸ ?_) _
  clear htexts hread
  generalize g.rules = rules at hrules hlegible
  rw [List.forall₂_map_left_iff, List.forall₂_map_right_iff, List.forall₂_same]
  exact fun r hr => (hrules r hr).declares (hlegible r hr)

/-- **An illegible grammar is refused**, for the attributes of the first rule that is illegible. -/
theorem read_render_error (hillegible : ∃ r ∈ g.rules, r.isLegible = false) :
    ∃ r ∈ g.rules, r.isLegible = false ∧
      Document.read g.render.toList = .error (.invalidAttributes r.id) := by
  obtain ⟨sts, htexts, hread⟩ := exists_read_render hisName hname hparent hrules
  rw [hread]
  clear hread
  generalize ({ name } : Document) = d
  generalize g.rules = rules at hrules hillegible htexts
  induction rules generalizing sts d with
  | nil => simp at hillegible
  | cons r rules ih =>
    cases sts with
    | nil => cases htexts
    | cons st sts =>
      obtain ⟨hst, htexts⟩ := List.cons.inj htexts
      obtain ⟨hr, hrules⟩ := List.forall_mem_cons.1 hrules
      have hstatement : st = ⟨st.line, r.line⟩ := hst ▸ rfl
      cases hlegible : r.isLegible with
      | false =>
        refine ⟨r, List.mem_cons_self, hlegible, ?_⟩
        rw [List.foldlM_cons, hstatement, hr.refuses hlegible]
        rfl
      | true =>
        have hrest : ∃ q ∈ rules, q.isLegible = false := by
          obtain ⟨q, hq, hfalse⟩ := hillegible
          rcases List.mem_cons.1 hq with rfl | hq
          · rw [hlegible] at hfalse
            cases hfalse
          · exact ⟨q, hq, hfalse⟩
        obtain ⟨q, hq, hfalse, hread⟩ :=
          ih sts { d with rules := d.rules ++ [r.definition] } hrules hrest htexts
        refine ⟨q, List.mem_cons_of_mem _ hq, hfalse, ?_⟩
        rw [List.foldlM_cons, hstatement, hr.declares hlegible]
        exact hread

end Read

end Grammar

/-! ## Displayed rules are compiled -/

namespace Atom

theorem onlySelfCalls_retitle (id : String) (alternatives : List (List Atom)) :
    Builder.onlySelfCalls id (retitleAll alternatives) = Builder.onlySelfCalls id alternatives := by
  fun_induction Builder.onlySelfCalls id alternatives with
  | case1 => rw [retitleAll, Builder.onlySelfCalls]
  | case2 m name alternatives ih =>
    rw [retitleAll, retitleChain, retitleChain, retitle, Builder.onlySelfCalls, ih]
  | case3 m lookahead value inner alternatives ihinner ih =>
    rw [retitleAll, retitleChain, retitleChain, retitle, Builder.onlySelfCalls, ihinner, ih]
    cases inner <;> rfl
  | case4 atoms alternatives href hgroup =>
    rw [retitleAll]
    cases atoms with
    | nil => simp [retitleChain, Builder.onlySelfCalls]
    | cons a atoms =>
      cases atoms with
      | nil =>
        cases a with
        | leaf m l => simp [retitleChain, retitle, Builder.onlySelfCalls]
        | reference m name => exact absurd rfl (href m name)
        | group m lookahead value inner => exact absurd rfl (hgroup m lookahead value inner)
      | cons b atoms => cases a <;> simp [retitleChain, retitle, Builder.onlySelfCalls]

theorem isFatallyRecursive_retitle (id : String) (alternatives : List (List Atom)) :
    Builder.isFatallyRecursive id (retitleAll alternatives) =
      Builder.isFatallyRecursive id alternatives := by
  rw [Builder.isFatallyRecursive, Builder.isFatallyRecursive, onlySelfCalls_retitle]
  cases alternatives <;> rfl

end Atom

namespace Rule

variable {r : Rule}

theorem order_attributes (r : Rule) : r.attributes.order.getD lastOrder = r.order := by
  rw [attributes]
  by_cases h : r.order = lastOrder
  · rw [if_pos h, h, Option.getD_none]
  · rw [if_neg h, Option.getD_some]

/-- The rule with the texts that its groups have when it is displayed. -/
def retitle (r : Rule) : Rule := { r with alternatives := Atom.retitleAll r.alternatives }

theorem render_retitle (r : Rule) : r.retitle.render = r.render := by
  have hline : r.retitle.line = r.line := by
    rw [line, line, retitle, renderBody, renderBody, Atom.renderAlternatives_retitle]
    rfl
  rw [← String.toList_inj, toList_render, toList_render, hline]

/-- The rule of the definition that declares a rule is this rule. -/
theorem ruleWith_definition (hplain : r.options.Plain)
    (hkind : r.kind =
      if r.options.fragment && (RuleKind.ofId r.id).isLexer then .fragment else .ofId r.id)
    (hskip : (r.options.skip || r.command.any fun c => c.name == "skip") = r.options.skip)
    (alternatives : List (List Atom)) :
    Builder.ruleWith r.definition r.handle alternatives r.command = { r with alternatives } := by
  have hid : r.definition.id = r.id := rfl
  have hoptions : (RuleOptions.ofTags (.ofId r.id) r.id r.definition.options).1 = r.options :=
    RuleOptions.ofTags_declaredTags hplain
  have horder : r.definition.order.getD lastOrder = r.order := r.order_attributes
  have hcategories : r.definition.categories = r.categories := rfl
  rw [Builder.ruleWith, hid, hoptions, horder, hcategories, hskip, ← hkind]

/-- A rule that is displayed compiles to itself. -/
theorem ruleOf_definition {b : Builder} {e : Definition} (he : Declared e) (hb : b.settings = {})
    (hr : (b.ruleOf e).result = .ok r) : (b.ruleOf r.definition).result = .ok r.retitle := by
  have hplain := Compiled.plain ⟨b, e, he, hb, hr⟩
  obtain ⟨hid, alternatives, command, hread, hfatal, rfl⟩ := Builder.ruleOf_eq_ok.1 hr
  rw [hb] at hread
  refine Builder.ruleOf_eq_ok.2 ⟨hid, Atom.retitleAll alternatives, command, ?_, ?_, ?_⟩
  · rw [hb, definition, String.toList_ofList]
    exact readBody_renderBody hread
  · rw [← hfatal]
    exact Atom.isFatallyRecursive_retitle _ _
  · refine (ruleWith_definition hplain rfl ?_ _).symm
    rw [Builder.ruleWith, Bool.or_assoc, Bool.or_self]

/-- **A displayed rule compiles** to a rule with its options that is displayed as it is. -/
theorem Compiled.exists_ruleOf (h : r.Compiled) :
    ∃ q, (({} : Builder).ruleOf r.definition).result = .ok q ∧
      q.options = r.options ∧ q.render = r.render := by
  obtain ⟨b, e, he, hb, hr⟩ := h
  have hagain := ruleOf_definition he hb hr
  rw [b.ruleOf_shift, hb] at hagain
  cases hq : (({} : Builder).ruleOf r.definition).result with
  | error e =>
    rw [hq] at hagain
    cases hagain
  | ok q =>
    rw [hq] at hagain
    have hshift : q.renumber (· + (nextHandle b.blocks - 2)) = r.retitle := Except.ok.inj hagain
    have hoptions : (q.renumber (· + (nextHandle b.blocks - 2))).options = r.retitle.options := by
      rw [hshift]
    refine ⟨q, rfl, hoptions, ?_⟩
    rw [← render_renumber (· + (nextHandle b.blocks - 2)) q, hshift, render_retitle]

end Rule

/-! ## What documents make -/

namespace Builder

/-- A builder has been given what a document of some name declares, and nothing else. -/
structure Documents (name : String) (b : Builder) : Prop where
  reachable : b.Reachable
  name : b.name = some name
  parent : b.parent = none
  settings : b.settings = {}
  compiled : ∀ r ∈ b.rules, r.Compiled

variable {name : String} {b : Builder} {d : Definition} {ds : List Definition}

theorem Documents.new (name : String) : Documents name { name := some name } where
  reachable := .named name (.new {})
  name := rfl
  parent := rfl
  settings := rfl
  compiled := by simp

theorem insert_name (b : Builder) (r : Rule) :
    (b.insert r).name = b.name ∧ (b.insert r).parent = b.parent := by
  unfold insert
  split
  · exact ⟨rfl, rfl⟩
  · split <;> exact ⟨rfl, rfl⟩

theorem Documents.compile (h : Documents name b) (hd : Declared d) :
    Documents name (b.compile d).1 := by
  have hreachable := h.reachable.compile d
  obtain ⟨problems, hb⟩ := b.compile_eq d
  rw [hb] at hreachable ⊢
  cases hr : (b.ruleOf d).result with
  | error e =>
    rw [hr] at hreachable
    exact ⟨hreachable, h.name, h.parent, h.settings, h.compiled⟩
  | ok r =>
    rw [hr] at hreachable
    obtain ⟨hname, hparent⟩ := (b.report problems).insert_name r
    refine ⟨hreachable, hname.trans h.name, hparent.trans h.parent,
      (settings_insert _ r).trans h.settings, fun q hq => ?_⟩
    rw [rules_insert] at hq
    rcases mem_insertRule hq with hq | rfl
    · exact h.compiled q hq
    · exact ⟨b, d, hd, h.settings, hr⟩

theorem Documents.compileAll (h : Documents name b) (hds : ∀ d ∈ ds, Declared d) :
    Documents name (b.compileAll ds).1 := by
  induction ds generalizing b with
  | nil => exact h
  | cons d ds ih =>
    obtain ⟨hd, hds⟩ := List.forall_mem_cons.1 hds
    have hafter := h.compile hd
    rw [Builder.compileAll]
    generalize b.compile d = after at hafter
    obtain ⟨c, _ | handle⟩ := after
    · dsimp only
      split
      · exact ih hafter hds
      · exact hafter
    · exact ih hafter hds

theorem name_build (b : Builder) :
    b.build.value.name = b.name ∧ b.build.value.parent = b.parent := by
  by_cases h : Grammar.hasUnresolved b.blocks b.rules <;> simp [build, report, h]

/-! ## Displayed rules are built again -/

variable {rules : List Rule}

/-- Displayed rules compile to rules with their options that are displayed as they are. -/
theorem map_stack_definitions (hrules : ∀ r ∈ rules, r.Compiled) (base : Nat) :
    let built := Rule.stack base (firstRules {} (rules.map Rule.definition))
    built.map Rule.options = rules.map Rule.options ∧
      built.map Rule.render = rules.map Rule.render := by
  induction rules generalizing base with
  | nil => exact ⟨rfl, rfl⟩
  | cons r rules ih =>
    obtain ⟨hr, hrules⟩ := List.forall_mem_cons.1 hrules
    obtain ⟨q, hq, hoptions, hrender⟩ := hr.exists_ruleOf
    obtain ⟨ihoptions, ihrender⟩ := ih hrules (base + q.size)
    rw [List.map_cons, firstRules_cons hq, Rule.stack]
    refine ⟨?_, ?_⟩
    · rw [List.map_cons, List.map_cons, ihoptions, ← hoptions]
      rfl
    · rw [List.map_cons, List.map_cons, ihrender, Rule.render_renumber, ← hrender]

/-- **Displayed rules are built again** with their options, and displayed as they are. -/
theorem exists_grammarOf_definitions (hrules : ∀ r ∈ rules, r.Compiled)
    (hids : (rules.map Rule.id).Nodup)
    (hdeclared : ∀ d ∈ rules.map Rule.definition, Declared d) :
    ∃ g, ({ name := some name } : Builder).grammarOf (rules.map Rule.definition) = .ok g ∧
      g.name = some name ∧ g.parent = none ∧ g.rules.map Rule.options = rules.map Rule.options ∧
      g.rules.map Rule.render = rules.map Rule.render := by
  have hcompiles : ∀ d ∈ rules.map Rule.definition, d.compiles {} :=
    List.forall_mem_map.2 fun r hr => by
      obtain ⟨q, hq, -⟩ := (hrules r hr).exists_ruleOf
      exact Definition.compiles_iff.2 ⟨q, hq⟩
  obtain ⟨-, hok⟩ := compileAll_tolerable (b := { name := some name }) fun d hd =>
    Definition.isTolerable_of_compiles (hcompiles d hd)
  have hstack := rules_compileAll (b := { name := some name }) hcompiles
    (by rwa [List.map_nil, List.nil_append, List.map_map])
  have hdocuments := (Documents.new name).compileAll hdeclared
  refine ⟨_, grammarOf_of_compileAll (Prod.ext rfl hok), ?_, ?_, ?_⟩
  · rw [(name_build _).1, hdocuments.name]
  · rw [(name_build _).2, hdocuments.parent]
  · rw [rules_build, hstack]
    exact map_stack_definitions hrules 0

end Builder

/-! ## The result -/

namespace Grammar

/-- A document restores a grammar: it is what is displayed of the grammar, it declares the rules of
the grammar, and what is built of it has the same options and is displayed alike. -/
structure RestoredBy (g : Grammar) (d : Document) (g' : Grammar) : Prop where
  read : Document.read g.render.toList = .ok d
  name : g.name = some d.name
  parent : d.parent = none
  ids : d.rules.map Definition.id = g.rules.map Rule.id
  orders : d.rules.map Definition.effectiveOrder = g.rules.map Rule.order
  categories : d.rules.map Definition.categories = g.rules.map Rule.categories
  built : ({ name := some d.name } : Builder).grammarOf d.rules = .ok g'
  options : g'.rules.map Rule.options = g.rules.map Rule.options
  render : g'.render = g.render

theorem render_congr {g g' : Grammar} (hname : g'.name = g.name) (hparent : g'.parent = g.parent)
    (hrules : g'.rules.map Rule.render = g.rules.map Rule.render) : g'.render = g.render := by
  have hlines : ∀ rules : List Rule, rules.map (fun r => r.render ++ "\n") =
      (rules.map Rule.render).map (· ++ "\n") := fun rules => by
    rw [List.map_map]
    rfl
  rw [render, render, hname, hparent, hlines, hlines, hrules]

/-- What the rules of a document make is a grammar of compiled rules. -/
theorem compiled_of_document {src : List Char} {d : Document} {g : Grammar}
    (hread : Document.read src = .ok d)
    (hbuilt : ({ name := some d.name } : Builder).grammarOf d.rules = .ok g) :
    isGrammarName d.name.toList = true ∧ g.name = some d.name ∧ g.parent = none ∧ g.Built ∧
      ∀ r ∈ g.rules, r.Compiled := by
  obtain ⟨hisName, hdeclared⟩ := Document.declared_of_read hread
  have h := (Builder.Documents.new d.name).compileAll hdeclared
  rw [Builder.grammarOf] at hbuilt
  split at hbuilt
  · next b _ hb =>
    cases hbuilt
    rw [hb] at h
    refine ⟨hisName, (b.name_build).1.trans h.name, (b.name_build).2.trans h.parent,
      .of_reachable h.reachable, ?_⟩
    rw [Builder.rules_build]
    exact h.compiled
  · cases hbuilt

/-- **A displayed grammar is a document if it is legible**, and only then. The grammar that the rules
of a document make is restored by what is displayed of it, unless a category or an option has a
character that is displayed by its number, or a closing brace with a colon behind it. -/
theorem exists_restoredBy_iff {src : List Char} {d : Document} {g : Grammar}
    (hread : Document.read src = .ok d)
    (hbuilt : ({ name := some d.name } : Builder).grammarOf d.rules = .ok g) :
    (∃ d' g', g.RestoredBy d' g') ↔ ∀ r ∈ g.rules, r.isLegible = true := by
  obtain ⟨hisName, hname, hparent, hgrammar, hrules⟩ := compiled_of_document hread hbuilt
  constructor
  · rintro ⟨d', g', h⟩
    by_contra hillegible
    simp only [not_forall, Bool.not_eq_true] at hillegible
    obtain ⟨r, hr, hfalse⟩ := hillegible
    obtain ⟨q, -, -, herror⟩ := read_render_error hisName hname hparent hrules ⟨r, hr, hfalse⟩
    cases h.read.symm.trans herror
  · intro hlegible
    have hrender := read_render hisName hname hparent hrules hlegible
    obtain ⟨g', hg', hname', hparent', hoptions, hlines⟩ :=
      @Builder.exists_grammarOf_definitions d.name _ hrules hgrammar.nodup_ids
        (Document.declared_of_read hrender).2
    have hrestored : g.RestoredBy { name := d.name, rules := g.rules.map Rule.definition } g' :=
      { read := hrender
        name := hname
        parent := rfl
        ids := List.map_map
        orders := by
          rw [List.map_map]
          exact List.map_congr_left fun r _ => r.order_attributes
        categories := List.map_map
        built := hg'
        options := hoptions
        render := render_congr (hname'.trans hname.symm) (hparent'.trans hparent.symm) hlines }
    exact ⟨_, g', hrestored⟩

/-- Tags with a brace and with a quote in them, and an option that a command repeats. -/
theorem exists_restoredBy_of_quote :
    let src := "grammar G; A \x7b \"order\": -1, \"categories\": [\"\\\"\\u007d\"] \x7d: 'a'  B | A;
      fragment B \x7b \"options\": [\"b\", \"skip\"] \x7d: 'b'+->skip;".toList
    ∃ d g, Document.read src = .ok d ∧
      ({ name := some d.name } : Builder).grammarOf d.rules = .ok g ∧
      (∀ r ∈ g.rules, r.isLegible = true) ∧ ∃ d' g', g.RestoredBy d' g' := by
  intro src
  let ds : List Definition :=
    [{ id := "A", body := "'a'  B | A", order := some (-1), categories := ["\"\x7d"] },
      { id := "B", body := "'b'+->skip", options := ["b", "skip", "fragment"] }]
  have hread : Document.read src = .ok { name := "G", rules := ds } := by decide +kernel
  have hlegible : (({ name := some "G" } : Builder).grammarOf ds).map
      (fun g => g.rules.all Rule.isLegible) = .ok true := by
    unfold ds
    cbv
  obtain ⟨g, hbuilt, hall⟩ := exists_of_map_eq_ok hlegible
  have hall := List.all_eq_true.1 hall
  exact ⟨_, g, hread, hbuilt, hall, (exists_restoredBy_iff hread hbuilt).2 hall⟩

/-- An accent that belongs to the character in front of it is displayed by its number, and that is
no way to write it in a document. -/
theorem not_restored_of_accent :
    let src := "grammar G; A \x7b \"categories\": [\"e\u0301\"] \x7d: 'a';".toList
    ∃ d g, Document.read src = .ok d ∧ d.parent = none ∧
      ({ name := some d.name } : Builder).grammarOf d.rules = .ok g ∧ g.diagnostics = [] ∧
      Document.read g.render.toList = .error (.invalidAttributes "A") := by
  intro src
  let ds : List Definition := [{ id := "A", body := "'a'", categories := ["e\u0301"] }]
  have hread : Document.read src = .ok { name := "G", rules := ds } := by decide +kernel
  have hillegible : (({ name := some "G" } : Builder).grammarOf ds).map
      (fun g => (g.rules.map fun r => (r.id, r.isLegible), g.diagnostics)) =
        .ok ([("A", false)], []) := by
    unfold ds
    cbv
  obtain ⟨g, hbuilt, hg⟩ := exists_of_map_eq_ok hillegible
  obtain ⟨hrule, hdiagnostics⟩ := Prod.mk.inj hg
  obtain ⟨hisName, hname, hparent, -, hrules⟩ := compiled_of_document hread hbuilt
  have hmem : ∀ r ∈ g.rules, (r.id, r.isLegible) = ("A", false) := fun r hr =>
    List.mem_singleton.1 (hrule ▸ List.mem_map_of_mem hr)
  obtain ⟨r, hr, -⟩ := List.mem_map.1 (hrule ▸ List.mem_singleton_self ("A", false))
  have hfalse := (Prod.mk.inj (hmem r hr)).2
  obtain ⟨q, hq, -, herror⟩ := read_render_error hisName hname hparent hrules ⟨r, hr, hfalse⟩
  rw [(Prod.mk.inj (hmem q hq)).1] at herror
  exact ⟨_, g, hread, rfl, hbuilt, hdiagnostics, herror⟩

end Grammar

end Lexigram
