import Lexigram.Proofs.Reading
import Lexigram.Proofs.RenumberedBlocks
import Mathlib

/-!
# Inheritance is flattening

A grammar that extends another one is the grammar of all their definitions, apart from the handles
of its rules.

**Handles.** A builder that starts from a grammar goes on behind the handles of that grammar, among
which may be one of a rule that stood in for undefined ones. So the handles of the same rule differ
by what was left out before it: renumbering is monotone.

**The simulation** (`Builder.Renumbers`). Two builders that differ in their handles alone still do
after any definition, since the reader of rule bodies only counts. Starting over from the built
grammar of the second leaves a gap and nothing else.

Main result: `Grammar.extendAll_eq_renumber`.
-/

namespace Lexigram

open Rule (nextHandle)

namespace Rule

/-- The handles of a block are below the next one. -/
theorem Laid.add_size_le {base : Nat} {blocks : List Rule} {r : Rule} (h : Laid base blocks)
    (hr : r ∈ blocks) : r.handle + r.size ≤ base + blocks.foldr (fun r n => r.size + n) 0 := by
  induction blocks generalizing base with
  | nil => simp at hr
  | cons q blocks ih =>
    obtain ⟨hq, -, hrest⟩ := h
    rw [List.foldr_cons]
    rcases List.mem_cons.1 hr with rfl | hr
    · omega
    · have := ih hrest hr
      omega

end Rule

/-! ## Building in stages -/

/-- The grammar that a builder makes with some more definitions. -/
def Builder.grammarOf (b : Builder) (ds : List Definition) : Except CompileError Grammar :=
  match b.compileAll ds with
  | (b, .ok _) => .ok b.build.value
  | (_, .error e) => .error e

/-- The last of the grammars that extend one another, from `g` on, by some definitions each. -/
def Grammar.extendAll (g : Grammar) : List (List Definition) → Except CompileError Grammar
  | [] => .ok g
  | ds :: stages => (Builder.extending g).grammarOf ds >>= fun g => extendAll g stages

/-- Whether a definition compiles, or fails for a cause for which only its rule is left out. -/
def Definition.isTolerable (settings : Settings) (d : Definition) : Bool :=
  match (({ settings } : Builder).ruleOf d).result with
  | .ok _ => true
  | .error e => e.isRecoverable

/-! ## Rules at other handles -/

namespace Builder

variable {φ : Nat → Nat}

theorem onlySelfCalls_renumber (id : String) (alternatives : List (List Atom)) :
    onlySelfCalls id (Atom.renumberAll φ alternatives) = onlySelfCalls id alternatives := by
  fun_induction onlySelfCalls id alternatives with
  | case1 => rw [Atom.renumberAll, onlySelfCalls]
  | case2 m name alternatives ih =>
    rw [Atom.renumberAll, Atom.renumberChain, Atom.renumberChain, Atom.renumber, onlySelfCalls, ih]
    rfl
  | case3 m lookahead value inner alternatives ihinner ih =>
    rw [Atom.renumberAll, Atom.renumberChain, Atom.renumberChain, Atom.renumber, onlySelfCalls, ih,
      ihinner]
    cases inner <;> rfl
  | case4 atoms alternatives href hgroup =>
    -- What is neither a single reference nor a single group stays so.
    rw [Atom.renumberAll, onlySelfCalls]
    · rintro m name hone
      rw [Atom.renumberChain_eq_map, List.map_eq_singleton_iff] at hone
      obtain ⟨a, rfl, ha⟩ := hone
      cases a with
      | reference m name => exact href m name rfl
      | leaf | group => cases ha
    · rintro m lookahead value inner hone
      rw [Atom.renumberChain_eq_map, List.map_eq_singleton_iff] at hone
      obtain ⟨a, rfl, ha⟩ := hone
      cases a with
      | group m lookahead value inner => exact hgroup m lookahead value inner rfl
      | leaf | reference => cases ha

theorem isFatallyRecursive_renumber (id : String) (alternatives : List (List Atom)) :
    isFatallyRecursive id (Atom.renumberAll φ alternatives) =
      isFatallyRecursive id alternatives := by
  rw [isFatallyRecursive, isFatallyRecursive, onlySelfCalls_renumber]
  cases alternatives <;> rfl

section Rules

variable {b b' : Builder} (hs : b'.settings = b.settings)
variable (hnext : φ (nextHandle b.blocks) = nextHandle b'.blocks)
variable (hφ : ∀ h, nextHandle b.blocks ≤ h → φ (h + 1) = φ h + 1)

include hs hnext hφ

/-- The rule of a definition is the same apart from its handles. -/
theorem ruleOf_renumber (d : Definition) :
    (b'.ruleOf d).result = (b.ruleOf d).result.map (Rule.renumber φ) := by
  unfold ruleOf
  split
  · rfl
  · simp only [Checked.result_bind, bodyOf_result, hs, ← hnext, Rule.readBody_renumber hφ]
    show Except.bind (.ok ()) _ = Except.map _ (Except.bind (.ok ()) _)
    cases (Rule.readBody d.id b.settings.cap (nextHandle b.blocks) d.body.toList).result with
    | error e => rfl
    | ok read =>
      show Checked.result (if _ then _ else _) = Except.map _ (Checked.result (if _ then _ else _))
      rw [isFatallyRecursive_renumber]
      split <;> rfl

end Rules

/-- A definition makes the same rule in every builder, apart from the handles. -/
theorem ruleOf_shift (b : Builder) (d : Definition) :
    (b.ruleOf d).result = (({ settings := b.settings } : Builder).ruleOf d).result.map
      (Rule.renumber (· + (nextHandle b.blocks - 2))) := by
  have hsettings : b.settings = ({ settings := b.settings } : Builder).settings := rfl
  have hnext : nextHandle [] + (nextHandle b.blocks - 2) = nextHandle b.blocks :=
    Nat.add_sub_cancel' (Nat.le_add_right 2 _)
  exact ruleOf_renumber (φ := (· + (nextHandle b.blocks - 2))) hsettings hnext
    (fun n _ => Nat.add_right_comm n 1 _) d

/-! ## What compiling does to the rules -/

theorem settings_insert (b : Builder) (r : Rule) : (b.insert r).settings = b.settings := by
  unfold insert
  split
  · rfl
  · split <;> rfl

theorem compile_eq (b : Builder) (d : Definition) : ∃ ds, b.compile d =
    match (b.ruleOf d).result with
    | .ok r => ((b.report ds).insert r, .ok r.handle)
    | .error e => (b.report ds, .error e) := by
  refine ⟨(b.ruleOf d).diagnostics, ?_⟩
  unfold compile
  split <;> next h => rw [h]

theorem insertRule_renumber (rules : List Rule) (r : Rule) :
    insertRule (rules.map (Rule.renumber φ)) (r.renumber φ) =
      (insertRule rules r).map (Rule.renumber φ) := by
  have hfound : (Rule.findIn? (rules.map (Rule.renumber φ)) (r.renumber φ).id).isSome =
      (Rule.findIn? rules r.id).isSome := by
    rw [Rule.findIn?_renumber, Option.isSome_map]
    rfl
  unfold insertRule
  rw [hfound, apply_ite (List.map (Rule.renumber φ)), List.map_append, List.map_singleton,
    List.map_map, List.map_map]
  congr 1
  refine List.map_congr_left fun s _ => ?_
  rw [Function.comp_apply, Function.comp_apply, apply_ite (Rule.renumber φ)]
  rfl

/-! ## The simulation -/

/-- Two builders have the same rules at different handles. Those to come have handles one behind
the other in both. -/
structure Renumbers (φ : Nat → Nat) (b b' : Builder) : Prop where
  mono : StrictMono φ
  root : φ Grammar.root = Grammar.root
  unmatched : φ Grammar.unmatched = Grammar.unmatched
  next : ∀ n, φ (nextHandle b.blocks + n) = nextHandle b'.blocks + n
  settings : b'.settings = b.settings
  rules : b'.rules = b.rules.map (Rule.renumber φ)
  ordered : b.Ordered

theorem nextHandle_concat (blocks : List Rule) (r : Rule) :
    nextHandle (blocks ++ [r]) = nextHandle blocks + r.size := by
  have hfold : ∀ n, blocks.foldr (fun r n => r.size + n) n =
      blocks.foldr (fun r n => r.size + n) 0 + n := by
    intro n
    induction blocks with
    | nil => exact (Nat.zero_add n).symm
    | cons q blocks ih => rw [List.foldr_cons, List.foldr_cons, ih, Nat.add_assoc]
  rw [nextHandle, nextHandle, List.foldr_append, List.foldr_cons, List.foldr_nil, hfold]
  omega

theorem Renumbers.compile {b b' : Builder} (h : Renumbers φ b b') (d : Definition) :
    Renumbers φ (b.compile d).1 (b'.compile d).1 ∧
      (b'.compile d).2 = (b.compile d).2.map φ := by
  have hφ : ∀ n, nextHandle b.blocks ≤ n → φ (n + 1) = φ n + 1 := by
    intro n hn
    obtain ⟨k, rfl⟩ := Nat.exists_eq_add_of_le hn
    rw [Nat.add_assoc, h.next, h.next, Nat.add_assoc]
  have hrule := ruleOf_renumber h.settings (h.next 0) hφ d
  have hordered := h.ordered.compile d
  obtain ⟨ds, hb⟩ := compile_eq b d
  obtain ⟨ds', hb'⟩ := compile_eq b' d
  rw [hrule] at hb'
  rw [hb] at hordered
  rw [hb, hb']
  cases hr : (b.ruleOf d).result with
  | error e =>
    rw [hr] at hordered
    exact ⟨⟨h.mono, h.root, h.unmatched, h.next, h.settings, h.rules, hordered⟩, rfl⟩
  | ok r =>
    rw [hr] at hordered
    refine ⟨⟨h.mono, h.root, h.unmatched, ?_, ?_, ?_, hordered⟩, rfl⟩
    · intro n
      dsimp only [Except.map]
      rw [blocks_insert, blocks_insert, blocks_report, blocks_report, nextHandle_concat,
        nextHandle_concat, Nat.add_assoc, h.next, Rule.size_renumber, Nat.add_assoc]
    · dsimp only [Except.map]
      rw [settings_insert, settings_insert]
      exact h.settings
    · dsimp only [Except.map]
      rw [rules_insert, rules_insert, rules_report, rules_report, h.rules, insertRule_renumber]

theorem Renumbers.compileAll {b b' : Builder} (h : Renumbers φ b b') (ds : List Definition) :
    Renumbers φ (b.compileAll ds).1 (b'.compileAll ds).1 ∧
      (b'.compileAll ds).2 = (b.compileAll ds).2 := by
  induction ds generalizing b b' with
  | nil => exact ⟨h, rfl⟩
  | cons d ds ih =>
    obtain ⟨hcompile, hresult⟩ := h.compile d
    rw [Builder.compileAll, Builder.compileAll]
    generalize b.compile d = after at hcompile hresult
    generalize b'.compile d = after' at hcompile hresult
    obtain ⟨c, result⟩ := after
    obtain ⟨c', result'⟩ := after'
    obtain rfl : result' = result.map φ := hresult
    cases result with
    | ok handle => exact ih hcompile
    | error e =>
      dsimp only [Except.map]
      split
      · exact ih hcompile
      · exact ⟨hcompile, rfl⟩

/-- Starting over from the grammar built so far leaves out one handle or none. -/
theorem nextHandle_extending (b : Builder) :
    ∃ gap, nextHandle (extending b.build.value).blocks = nextHandle b.blocks + gap := by
  show ∃ gap, nextHandle b.build.value.blocks = _
  rw [blocks_build]
  split
  · exact ⟨_, nextHandle_concat _ _⟩
  · exact ⟨0, rfl⟩

theorem settings_build (b : Builder) : b.build.value.settings = b.settings := by
  by_cases h : Grammar.hasUnresolved b.blocks b.rules <;> simp [build, h, report]

/-- The handles from `start` on moved by `gap`. -/
def openGap (start gap : Nat) (φ : Nat → Nat) (n : Nat) : Nat :=
  if n < start then φ n else φ n + gap

theorem strictMono_openGap (hφ : StrictMono φ) (start gap : Nat) :
    StrictMono (openGap start gap φ) := by
  intro m n hmn
  have := hφ hmn
  unfold openGap
  split <;> split <;> omega

theorem Renumbers.extending {b b' : Builder} (h : Renumbers φ b b') :
    ∃ ψ, Renumbers ψ b (extending b'.build.value) := by
  obtain ⟨gap, hgap⟩ := nextHandle_extending b'
  have hbelow : ∀ n < nextHandle b.blocks, φ n = openGap (nextHandle b.blocks) gap φ n :=
    fun n hn => (if_pos hn).symm
  have htwo : 2 ≤ nextHandle b.blocks := Nat.le_add_right 2 _
  refine ⟨openGap (nextHandle b.blocks) gap φ, strictMono_openGap h.mono _ _, ?root, ?unmatched,
    ?next, (settings_build b').trans h.settings, ?rules, h.ordered⟩
  case root => exact (hbelow 0 (by omega)).symm.trans h.root
  case unmatched => exact (hbelow 1 (by omega)).symm.trans h.unmatched
  case next =>
    intro n
    rw [hgap, Nat.add_right_comm, ← h.next]
    exact if_neg (by omega)
  case rules =>
    show b'.build.value.rules = _
    rw [rules_build, h.rules]
    refine List.map_congr_left fun r hr => ?_
    have hblock := h.ordered.listed r hr
    have hsize : 0 < r.size := Nat.succ_pos _
    have hle : r.handle + r.size ≤ nextHandle b.blocks := h.ordered.laid.add_size_le hblock
    refine Rule.renumber_congr (hbelow _ (by omega)) fun a ha => hbelow _ ?_
    have := ((h.ordered.laid.counted hblock).mem ha).2
    omega

theorem Renumbers.build {b b' : Builder} (h : Renumbers φ b b') :
    b.build.value.Renumbered φ b'.build.value where
  injective := h.mono.injective
  unmatched := h.unmatched
  root := h.root
  settings := by rw [settings_build, settings_build, h.settings]
  rules := by rw [rules_build, rules_build, h.rules]

/-! ## All stages -/

theorem settings_compile (b : Builder) (d : Definition) :
    (b.compile d).1.settings = b.settings := by
  obtain ⟨ds, hb⟩ := compile_eq b d
  rw [hb]
  split
  · exact settings_insert _ _
  · rfl

theorem compileAll_append {b c : Builder} {ds : List Definition}
    (h : b.compileAll ds = (c, .ok ())) (ds' : List Definition) :
    b.compileAll (ds ++ ds') = c.compileAll ds' := by
  fun_induction compileAll b ds with
  | case1 b =>
    obtain rfl : b = c := congrArg Prod.fst h
    rfl
  | case2 b d ds b' _ hc ih =>
    rw [List.cons_append, compileAll, hc]
    exact ih h
  | case3 b d ds b' e hc he ih =>
    rw [List.cons_append, compileAll, hc]
    exact (if_pos he).trans (ih h)
  | case4 b d ds b' e hc he => simp at h

/-- A definition that is tolerable does not stop a builder with the same settings. -/
theorem isRecoverable_of_compile {b : Builder} {d : Definition} {e : CompileError}
    (hd : d.isTolerable b.settings) (he : (b.compile d).2 = .error e) : e.isRecoverable := by
  have hrule := b.ruleOf_shift d
  obtain ⟨ds, hb⟩ := compile_eq b d
  rw [Definition.isTolerable] at hd
  rw [hb, hrule] at he
  split at hd
  · next r hr => simp [hr, Except.map] at he
  · next e' hr =>
    obtain rfl : e' = e := by simpa [hr, Except.map] using he
    exact hd

theorem compileAll_tolerable {b : Builder} {ds : List Definition}
    (hds : ∀ d ∈ ds, d.isTolerable b.settings) :
    (b.compileAll ds).1.settings = b.settings ∧ (b.compileAll ds).2 = .ok () := by
  induction ds generalizing b with
  | nil => exact ⟨rfl, rfl⟩
  | cons d ds ih =>
    have hsettings := settings_compile b d
    have hd : ∀ e, (b.compile d).2 = .error e → e.isRecoverable := fun e =>
      isRecoverable_of_compile (hds d List.mem_cons_self)
    have hrest := ih (b := (b.compile d).1) fun d hd => by
      rw [hsettings]
      exact hds d (List.mem_cons_of_mem _ hd)
    rw [hsettings] at hrest
    rw [compileAll]
    generalize b.compile d = after at hd hrest
    obtain ⟨c, _ | handle⟩ := after
    · next e =>
      dsimp only
      rw [if_pos (hd e rfl)]
      exact hrest
    · exact hrest

theorem grammarOf_of_compileAll {b c : Builder} {ds : List Definition}
    (h : b.compileAll ds = (c, .ok ())) : b.grammarOf ds = .ok c.build.value := by
  rw [grammarOf, h]

/-- Building in stages is building at once, apart from the handles. -/
theorem Renumbers.extendAll {b b' : Builder} (h : Renumbers φ b b')
    {stages : List (List Definition)}
    (hds : ∀ d ∈ stages.flatten, d.isTolerable b.settings) :
    ∃ flat staged ψ, b.grammarOf stages.flatten = .ok flat ∧
      b'.build.value.extendAll stages = .ok staged ∧ StrictMono ψ ∧ flat.Renumbered ψ staged := by
  induction stages generalizing φ b b' with
  | nil => exact ⟨_, _, φ, rfl, rfl, h.mono, h.build⟩
  | cons ds stages ih =>
    obtain ⟨ψ, hψ⟩ := h.extending
    obtain ⟨hsim, hresult⟩ := hψ.compileAll ds
    obtain ⟨hsettings, hok⟩ := compileAll_tolerable (b := b) fun d hd =>
      hds d (List.mem_append_left _ hd)
    rw [hok] at hresult
    obtain ⟨flat, staged, χ, hflat, hstaged, hχ⟩ := ih hsim fun d hd => by
      rw [hsettings]
      exact hds d (List.mem_append_right _ hd)
    refine ⟨flat, staged, χ, ?_, ?_, hχ⟩
    · rw [grammarOf] at hflat ⊢
      rw [List.flatten_cons, compileAll_append (Prod.ext rfl hok), hflat]
    · rw [Grammar.extendAll, grammarOf_of_compileAll (Prod.ext rfl hresult)]
      exact hstaged

theorem Renumbers.new (settings : Settings) : Renumbers id { settings } { settings } where
  mono := strictMono_id
  root := rfl
  unmatched := rfl
  next _ := rfl
  settings := rfl
  rules := rfl
  ordered := (Reachable.new settings).ordered

end Builder

namespace Grammar

/-- **Inheritance is flattening.** When all definitions compile or are left out, building some of
them and then extending the grammar by the others stage by stage ends with the grammar of all of
them, apart from a renumbering of the handles: with the same rules, also those tried to make tokens
and to group them, displayed as before, under the same names, and with the same outcome for every
text. -/
theorem extendAll_eq_renumber (settings : Settings) (first : List Definition)
    (stages : List (List Definition))
    (hds : ∀ d ∈ first ++ stages.flatten, d.isTolerable settings) :
    ∃ flat staged φ,
      ({ settings } : Builder).grammarOf (first ++ stages.flatten) = .ok flat ∧
      (({ settings } : Builder).grammarOf first >>= fun g => g.extendAll stages) = .ok staged ∧
      StrictMono φ ∧ φ root = root ∧ φ unmatched = unmatched ∧
      staged.rules = flat.rules.map (Rule.renumber φ) ∧
      staged.lexerRules = flat.lexerRules.map (Rule.renumber φ) ∧
      staged.parserRules = flat.parserRules.map (Rule.renumber φ) ∧
      staged.rules.map Rule.render = flat.rules.map Rule.render ∧
      (∀ name, staged.find? name = (flat.find? name).map (Rule.renumber φ)) ∧
      ∀ (o : Block.Options) (text : List Char),
        let b := (Block.process flat o 0 text 0).value.1
        let b' := (Block.process staged o 0 text 0).value.1
        b' = b.renumber φ ∧ b'.tree = (b.tree.renumber φ).carry (Token.renumber φ) 0 ∧
          b'.groupings = b.groupings.map (Option.map (Rule.renumber φ)) := by
  have hfirst : ∀ d ∈ first, d.isTolerable settings := fun d hd =>
    hds d (List.mem_append_left _ hd)
  obtain ⟨hsettings, hok⟩ := Builder.compileAll_tolerable (b := { settings }) hfirst
  obtain ⟨flat, staged, φ, hflat, hstaged, hmono, h⟩ :=
    ((Builder.Renumbers.new settings).compileAll first).1.extendAll fun d hd => by
      rw [hsettings]
      exact hds d (List.mem_append_right _ hd)
  have hrender : staged.rules.map Rule.render = flat.rules.map Rule.render := by
    rw [h.rules, List.map_map]
    exact List.map_congr_left fun r _ => Rule.render_renumber φ r
  refine ⟨flat, staged, φ, ?_, ?_, hmono, h.root, h.unmatched, h.rules, h.mirrored.lexerRules,
    h.mirrored.parserRules, hrender, h.mirrored.find?, ?_⟩
  · rw [Builder.grammarOf] at hflat ⊢
    rw [Builder.compileAll_append (Prod.ext rfl hok), hflat]
  · rw [Builder.grammarOf_of_compileAll (Prod.ext rfl hok)]
    exact hstaged
  · intro o text b b'
    have hblock : b' = b.renumber φ := Block.ofText_renumber h.mirrored o 0 text 0
    refine ⟨hblock, ?_, ?_⟩
    · rw [hblock, Block.tree_renumber h.root]
    · rw [hblock, Block.groupings_renumber]

/-- A rule that stood in for an undefined one, a rule that is replaced and two that are left out. -/
theorem extendAll_eq_renumber_overridden :
    let first : List Definition :=
      [{ id := "A", body := "'a'" }, { id := "list", body := "A missing*" }]
    let second : List Definition :=
      [{ id := "A", body := "'b'" }, { id := "loop", body := "loop" }, { id := "none", body := "" }]
    (∀ d ∈ first ++ [second].flatten, d.isTolerable {}) ∧
    ∃ flat staged φ,
      ({} : Builder).grammarOf (first ++ [second].flatten) = .ok flat ∧
      (({} : Builder).grammarOf first >>= fun g => g.extendAll [second]) = .ok staged ∧
      StrictMono φ ∧ φ root = root ∧ φ unmatched = unmatched ∧
      staged.rules = flat.rules.map (Rule.renumber φ) ∧
      staged.lexerRules = flat.lexerRules.map (Rule.renumber φ) ∧
      staged.parserRules = flat.parserRules.map (Rule.renumber φ) ∧
      staged.rules.map Rule.render = flat.rules.map Rule.render ∧
      (∀ name, staged.find? name = (flat.find? name).map (Rule.renumber φ)) ∧
      ∀ (o : Block.Options) (text : List Char),
        let b := (Block.process flat o 0 text 0).value.1
        let b' := (Block.process staged o 0 text 0).value.1
        b' = b.renumber φ ∧ b'.tree = (b.tree.renumber φ).carry (Token.renumber φ) 0 ∧
          b'.groupings = b.groupings.map (Option.map (Rule.renumber φ)) := by
  intro first second
  have hall : (first ++ [second].flatten).all (·.isTolerable {}) = true := by
    unfold first second
    cbv
  have hds := List.all_eq_true.1 hall
  exact ⟨hds, extendAll_eq_renumber {} first [second] hds⟩

end Grammar

end Lexigram
