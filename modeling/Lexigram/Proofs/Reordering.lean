import Lexigram.Proofs.Inheritance
import Lexigram.Proofs.Registry
import Mathlib

/-!
# The order of definitions only breaks ties

Definitions of different rules can be given in any order, if no two of them ask for the same order.

**Where rules go** (`Rule.stack`). What is read of a body does not depend on the builder, apart from
the handles. So a builder puts the same rules behind one another, each as far up as those in front
of it need.

**Handles** (`Rule.exists_stack_perm`). By induction on how the definitions are rearranged.
Exchanging two neighbours exchanges two stretches of handles.

**Candidates** (`Grammar.Mirrored.of_perm`). An id finds the same rule in whatever order the rules
are, and rules of different orders can only be sorted in one way.

Main result: `Grammar.process_perm`.
-/

namespace Lexigram

open Rule (nextHandle)

/-! ## Rules behind one another -/

namespace Rule

/-- A rule with the handles of the first rule of a grammar. -/
structure IsFirst (r : Rule) : Prop where
  handle : r.handle = 2
  counted : r.Counted

/-- Rules with the handles of first rules, moved up so that they are behind one another. -/
def stack (base : Nat) : List Rule → List Rule
  | [] => []
  | r :: rules => r.renumber (· + base) :: stack (base + r.size) rules

variable {φ : Nat → Nat} {rules rules' : List Rule}

/-- What moves all handles of a rule alike moves the rule. -/
theorem IsFirst.renumber_shift {r : Rule} (h : r.IsFirst) {m n : Nat}
    (hφ : ∀ k, 2 ≤ k → k < r.size + 2 → φ (k + m) = k + n) :
    (r.renumber (· + m)).renumber φ = r.renumber (· + n) := by
  have hsize : 0 < r.size := Nat.succ_pos _
  have hhandle := h.handle
  rw [renumber_renumber]
  refine renumber_congr (hφ _ (by omega) (by omega)) fun a ha => ?_
  have := h.counted.mem ha
  exact hφ _ (by omega) (by omega)

/-- What leaves all handles of some rules alone leaves the rules alone. -/
theorem map_stack_eq_self {base : Nat} (hrules : ∀ r ∈ rules, r.IsFirst)
    (hφ : ∀ k, base + 2 ≤ k → φ k = k) : (stack base rules).map (renumber φ) = stack base rules := by
  induction rules generalizing base with
  | nil => rfl
  | cons r rules ih =>
    obtain ⟨hr, hrules⟩ := List.forall_mem_cons.1 hrules
    rw [stack, List.map_cons, hr.renumber_shift fun k hk _ => hφ _ (by omega),
      ih hrules fun k hk => hφ k (by omega)]

/-- The handles from `low` on with the first `m` of them behind the `n` that follow these. -/
def exchange (low m n k : Nat) : Nat :=
  if k < low then k else if k < low + m then k + n else if k < low + m + n then k - m else k

theorem exchange_injective (low m n : Nat) : Function.Injective (exchange low m n) := by
  intro j k h
  unfold exchange at h
  split_ifs at h <;> omega

/-- **Rearranging rules renumbers them.** -/
theorem exists_stack_perm (hperm : rules.Perm rules') (hrules : ∀ r ∈ rules, r.IsFirst)
    (base : Nat) :
    ∃ φ, Function.Injective φ ∧ (∀ k < base + 2, φ k = k) ∧
      (stack base rules').Perm ((stack base rules).map (renumber φ)) := by
  induction hperm generalizing base with
  | nil => exact ⟨fun k => k, fun _ _ h => h, fun _ _ => rfl, .nil⟩
  | cons r _ ih =>
    obtain ⟨hr, hrules⟩ := List.forall_mem_cons.1 hrules
    obtain ⟨φ, hinjective, hbelow, hperm⟩ := ih hrules (base + r.size)
    refine ⟨φ, hinjective, fun k hk => hbelow k (by omega), ?_⟩
    rw [stack, stack, List.map_cons, hr.renumber_shift fun k _ hk => hbelow _ (by omega)]
    exact hperm.cons _
  | swap r q rules =>
    obtain ⟨hq, hrules⟩ := List.forall_mem_cons.1 hrules
    obtain ⟨hr, hrules⟩ := List.forall_mem_cons.1 hrules
    refine ⟨exchange (base + 2) q.size r.size, exchange_injective _ _ _, fun k hk => if_pos hk, ?_⟩
    have hmoveq : (q.renumber (· + base)).renumber (exchange (base + 2) q.size r.size) =
        q.renumber (· + (base + r.size)) := hq.renumber_shift fun k _ _ => by
      unfold exchange
      rw [if_neg (by omega), if_pos (by omega), Nat.add_assoc]
    have hmover : (r.renumber (· + (base + q.size))).renumber (exchange (base + 2) q.size r.size) =
        r.renumber (· + base) := hr.renumber_shift fun k _ _ => by
      unfold exchange
      rw [if_neg (by omega), if_neg (by omega), if_pos (by omega)]
      omega
    have hrest : (stack (base + q.size + r.size) rules).map
        (renumber (exchange (base + 2) q.size r.size)) = stack (base + q.size + r.size) rules :=
      map_stack_eq_self hrules fun k hk => by
        unfold exchange
        rw [if_neg (by omega), if_neg (by omega), if_neg (by omega)]
    simp only [stack, List.map_cons, hmoveq, hmover, hrest, Nat.add_right_comm base r.size q.size]
    exact .swap _ _ _
  | trans hperm _ ih ih' =>
    obtain ⟨φ, hφ, hbelow, hstack⟩ := ih hrules base
    obtain ⟨ψ, hψ, hbelow', hstack'⟩ := ih' (fun r hr => hrules r (hperm.mem_iff.2 hr)) base
    refine ⟨ψ ∘ φ, hψ.comp hφ, fun k hk => ?_, ?_⟩
    · rw [Function.comp_apply, hbelow k hk, hbelow' k hk]
    · have hcomp : renumber (ψ ∘ φ) = renumber ψ ∘ renumber φ :=
        funext fun r => (renumber_renumber φ r ψ).symm
      rw [hcomp, ← List.map_map]
      exact hstack'.trans (hstack.map _)

end Rule

/-! ## Rearranged grammars -/

section Permuted

variable {rules rules' : List Rule}

/-- In whatever order rules of different ids are, an id finds the same one. -/
theorem Rule.findIn?_perm (hperm : rules'.Perm rules) (hids : (rules.map Rule.id).Nodup)
    (name : String) : Rule.findIn? rules' name = Rule.findIn? rules name := by
  ext r
  rw [Rule.findIn?_eq_some_iff hids, Rule.findIn?_eq_some_iff ((hperm.map _).nodup_iff.2 hids),
    hperm.mem_iff]

/-- **Rearranged rules of different ids and orders make the same grammar.** -/
theorem Grammar.Mirrored.of_perm {φ : Nat → Nat} {g g' : Grammar} (hφ : Function.Injective φ)
    (hunmatched : φ Grammar.unmatched = Grammar.unmatched)
    (hroot : φ Grammar.root = Grammar.root)
    (hsettings : g'.settings = g.settings)
    (hrules : g'.rules.Perm (g.rules.map (Rule.renumber φ)))
    (hids : (g.rules.map Rule.id).Nodup) (horders : (g.rules.map Rule.order).Nodup) :
    g.Mirrored φ g' where
  injective := hφ
  unmatched := hunmatched
  root := hroot
  settings := hsettings
  find? name := by
    have hids' : ((g.rules.map (Rule.renumber φ)).map Rule.id).Nodup := by
      rw [List.map_map]
      exact hids
    rw [Grammar.find?, Rule.findIn?_perm hrules hids', Rule.findIn?_renumber]
    rfl
  candidates kind := by
    have hsorted : ((g.candidates kind).map (Rule.renumber φ)).Pairwise
        fun r q => r.order ≤ q.order :=
      List.pairwise_map.2 (Builder.stablySorted_candidates g kind).1
    have hperm : (g'.candidates kind).Perm ((g.candidates kind).map (Rule.renumber φ)) := by
      have hfilter : (fun r : Rule => !r.options.hidden && r.kind == kind) ∘ Rule.renumber φ =
          fun r => !r.options.hidden && r.kind == kind := rfl
      refine (List.mergeSort_perm _ _).trans ((hrules.filter _).trans ?_)
      rw [List.filter_map, hfilter]
      exact ((List.mergeSort_perm _ _).map _).symm
    refine hperm.eq_of_pairwise (fun r q hr hq hle hge => ?_)
      (Builder.stablySorted_candidates g' kind).1 hsorted
    -- Both are renumbered rules of the first grammar, in which an order belongs to one rule.
    obtain ⟨r, hr', rfl⟩ := List.mem_map.1 (hperm.mem_iff.1 hr)
    obtain ⟨q, hq', rfl⟩ := List.mem_map.1 hq
    have horder : r.order = q.order := Int.le_antisymm hle hge
    rw [List.inj_on_of_nodup_map horders (mem_rules_of_mem_candidates hr')
      (mem_rules_of_mem_candidates hq') horder]

end Permuted

/-! ## Definitions in any order -/

/-- What a definition asks to be ordered by. -/
def Definition.effectiveOrder (d : Definition) : Int := d.order.getD Rule.lastOrder

/-- Whether a definition compiles. -/
def Definition.compiles (settings : Settings) (d : Definition) : Bool :=
  match (({ settings } : Builder).ruleOf d).result with
  | .ok _ => true
  | .error _ => false

theorem Definition.compiles_iff {settings : Settings} {d : Definition} :
    d.compiles settings ↔ ∃ r, (({ settings } : Builder).ruleOf d).result = .ok r := by
  rw [compiles]
  split <;> simp [*]

theorem Definition.isTolerable_of_compiles {settings : Settings} {d : Definition}
    (h : d.compiles settings) : d.isTolerable settings := by
  obtain ⟨r, hr⟩ := compiles_iff.1 h
  rw [isTolerable, hr]

namespace Builder

/-- The rules of some definitions, each with the handles that it would have as the first one. -/
def firstRules (settings : Settings) (ds : List Definition) : List Rule :=
  ds.filterMap fun d => (({ settings } : Builder).ruleOf d).result.toOption

variable {settings : Settings} {b : Builder} {d : Definition} {ds ds' : List Definition} {r : Rule}

theorem order_of_ruleOf (h : (b.ruleOf d).result = .ok r) : r.order = d.effectiveOrder := by
  obtain ⟨-, _, _, -, -, rfl⟩ := ruleOf_eq_ok.1 h
  rfl

theorem firstRules_cons (h : (({ settings } : Builder).ruleOf d).result = .ok r) :
    firstRules settings (d :: ds) = r :: firstRules settings ds := by
  rw [firstRules, List.filterMap_cons, h]
  rfl

theorem isFirst_of_mem (h : r ∈ firstRules settings ds) : r.IsFirst := by
  obtain ⟨d, -, hd⟩ := List.mem_filterMap.1 h
  cases hr : (({ settings } : Builder).ruleOf d).result with
  | error e => rw [hr] at hd; cases hd
  | ok q =>
    rw [hr] at hd
    obtain rfl : q = r := Option.some.inj hd
    exact ⟨(ruleOf_counted hr).1, (ruleOf_counted hr).2⟩

/-- What a definition of a new rule that compiles does to a builder. -/
theorem compile_new (hr : (({ settings := b.settings } : Builder).ruleOf d).result = .ok r)
    (hid : d.id ∉ b.rules.map Rule.id) :
    ∃ c handle, b.compile d = (c, .ok handle) ∧ c.settings = b.settings ∧
      c.rules = b.rules ++ [r.renumber (· + (nextHandle b.blocks - 2))] ∧
      nextHandle c.blocks - 2 = nextHandle b.blocks - 2 + r.size := by
  obtain ⟨problems, hcompile⟩ := b.compile_eq d
  rw [ruleOf_shift, hr] at hcompile
  refine ⟨_, _, hcompile, settings_insert _ _, ?_, ?_⟩
  · have hnone : ¬(Rule.findIn? b.rules (r.renumber (· + (nextHandle b.blocks - 2))).id).isSome := by
      rw [isSome_findIn?, Rule.renumber, id_of_ruleOf hr]
      exact hid
    rw [rules_insert, insertRule, rules_report, if_neg hnone]
  · have hle : 2 ≤ nextHandle b.blocks := Nat.le_add_right 2 _
    rw [blocks_insert, blocks_report, nextHandle_concat, Rule.size_renumber]
    omega

/-- **Definitions of new rules are put behind one another.** -/
theorem rules_compileAll (hds : ∀ d ∈ ds, d.compiles b.settings)
    (hids : (b.rules.map Rule.id ++ ds.map Definition.id).Nodup) :
    (b.compileAll ds).1.rules =
      b.rules ++ Rule.stack (nextHandle b.blocks - 2) (firstRules b.settings ds) := by
  induction ds generalizing b with
  | nil => exact (List.append_nil _).symm
  | cons d ds ih =>
    obtain ⟨hd, hds⟩ := List.forall_mem_cons.1 hds
    obtain ⟨r, hr⟩ := Definition.compiles_iff.1 hd
    have hid : d.id ∉ b.rules.map Rule.id := fun hmem =>
      (List.nodup_append.1 hids).2.2 _ hmem _ List.mem_cons_self rfl
    obtain ⟨c, handle, hcompile, hsettings, hrules, hnext⟩ := compile_new hr hid
    have hids' : (c.rules.map Rule.id ++ ds.map Definition.id).Nodup := by
      rw [hrules, List.map_append, List.map_singleton, List.append_assoc, List.singleton_append,
        Rule.renumber, id_of_ruleOf hr]
      exact hids
    rw [compileAll, hcompile]
    dsimp only
    rw [ih (by rwa [hsettings]) hids', hsettings, hrules, hnext, firstRules_cons hr, Rule.stack,
      List.append_assoc, List.singleton_append]

/-- The ids and orders of the rules are those of their definitions. -/
theorem map_stack_firstRules {α : Type} {f : Rule → α} {f' : Definition → α}
    (hf : ∀ d r, (({ settings } : Builder).ruleOf d).result = .ok r → f r = f' d)
    (hmove : ∀ φ r, f (Rule.renumber φ r) = f r) (hds : ∀ d ∈ ds, d.compiles settings)
    (base : Nat) : (Rule.stack base (firstRules settings ds)).map f = ds.map f' := by
  induction ds generalizing base with
  | nil => rfl
  | cons d ds ih =>
    obtain ⟨hd, hds⟩ := List.forall_mem_cons.1 hds
    obtain ⟨r, hr⟩ := Definition.compiles_iff.1 hd
    rw [firstRules_cons hr, Rule.stack, List.map_cons, List.map_cons, ih hds, hmove, hf d r hr]

/-- **Definitions of different rules and orders can be rearranged.** -/
theorem exists_mirrored (hperm : ds'.Perm ds) (hds : ∀ d ∈ ds, d.compiles settings)
    (hids : (ds.map Definition.id).Nodup) (horders : (ds.map Definition.effectiveOrder).Nodup) :
    ∃ g g' φ, ({ settings } : Builder).grammarOf ds = .ok g ∧
      ({ settings } : Builder).grammarOf ds' = .ok g' ∧
      g'.rules.Perm (g.rules.map (Rule.renumber φ)) ∧ g.Mirrored φ g' := by
  have hds' : ∀ d ∈ ds', d.compiles settings := fun d hd => hds d (hperm.mem_iff.1 hd)
  have hids' : (ds'.map Definition.id).Nodup := (hperm.map _).nodup_iff.2 hids
  obtain ⟨hsettings, hok⟩ := compileAll_tolerable (b := { settings }) fun d hd =>
    Definition.isTolerable_of_compiles (hds d hd)
  obtain ⟨hsettings', hok'⟩ := compileAll_tolerable (b := { settings }) fun d hd =>
    Definition.isTolerable_of_compiles (hds' d hd)
  have hrules := rules_compileAll (b := { settings }) hds hids
  have hrules' := rules_compileAll (b := { settings }) hds' hids'
  obtain ⟨φ, hinjective, hbelow, hstack⟩ := Rule.exists_stack_perm
    (hperm.symm.filterMap fun d => (({ settings } : Builder).ruleOf d).result.toOption)
    (fun r => isFirst_of_mem) 0
  have hmoved : (({ settings } : Builder).compileAll ds').1.build.value.rules.Perm
      ((({ settings } : Builder).compileAll ds).1.build.value.rules.map (Rule.renumber φ)) := by
    rw [rules_build, rules_build, hrules, hrules']
    exact hstack
  refine ⟨_, _, φ, grammarOf_of_compileAll (Prod.ext rfl hok),
    grammarOf_of_compileAll (Prod.ext rfl hok'), hmoved,
    .of_perm hinjective (hbelow 1 (by decide)) (hbelow 0 (by decide)) ?_ hmoved ?_ ?_⟩
  · rw [settings_build, settings_build, hsettings, hsettings']
  · have hid : (Rule.stack 0 (firstRules settings ds)).map Rule.id = ds.map Definition.id :=
      map_stack_firstRules (fun _ _ => id_of_ruleOf) (fun _ _ => rfl) hds 0
    rw [rules_build, hrules]
    exact hid ▸ hids
  · have horder :
        (Rule.stack 0 (firstRules settings ds)).map Rule.order = ds.map Definition.effectiveOrder :=
      map_stack_firstRules (fun _ _ => order_of_ruleOf) (fun _ _ => rfl) hds 0
    rw [rules_build, hrules]
    exact horder ▸ horders

end Builder

namespace Grammar

/-- **The order of definitions only breaks ties.** When definitions of different rules all compile
and no two of them have the same order, all rearrangements of them make the same grammar, apart from
a renumbering of the handles: the same rules are found under the same names and are tried in the same
order to make tokens and to group them, and every text has the same outcome. -/
theorem process_perm (settings : Settings) {ds ds' : List Definition} (hperm : ds'.Perm ds)
    (hids : (ds.map Definition.id).Nodup) (hds : ∀ d ∈ ds, d.compiles settings)
    (horders : (ds.map Definition.effectiveOrder).Nodup) :
    ∃ g g' φ,
      ({ settings } : Builder).grammarOf ds = .ok g ∧
      ({ settings } : Builder).grammarOf ds' = .ok g' ∧
      Function.Injective φ ∧ φ root = root ∧ φ unmatched = unmatched ∧
      g'.rules.Perm (g.rules.map (Rule.renumber φ)) ∧
      g'.lexerRules = g.lexerRules.map (Rule.renumber φ) ∧
      g'.parserRules = g.parserRules.map (Rule.renumber φ) ∧
      (∀ name, g'.find? name = (g.find? name).map (Rule.renumber φ)) ∧
      ∀ (o : Block.Options) (text : List Char),
        let b := (Block.process g o 0 text 0).value.1
        let b' := (Block.process g' o 0 text 0).value.1
        b' = b.renumber φ ∧ b'.tree = (b.tree.renumber φ).carry (Token.renumber φ) 0 ∧
          b'.groupings = b.groupings.map (Option.map (Rule.renumber φ)) := by
  obtain ⟨g, g', φ, hg, hg', hrules, h⟩ := Builder.exists_mirrored hperm hds hids horders
  refine ⟨g, g', φ, hg, hg', h.injective, h.root, h.unmatched, hrules, h.lexerRules, h.parserRules,
    h.find?, fun o text => ?_⟩
  have hblock : (Block.process g' o 0 text 0).value.1 =
      (Block.process g o 0 text 0).value.1.renumber φ := Block.ofText_renumber h o 0 text 0
  refine ⟨hblock, ?_, ?_⟩
  · rw [hblock, Block.tree_renumber h.root]
  · rw [hblock, Block.groupings_renumber]

/-- A rule that calls two others comes in front of them and between them. -/
theorem process_perm_of_list :
    let list : Definition := { id := "list", body := "A+ SEP missing?", order := some 5 }
    let a : Definition := { id := "A", body := "'a'", order := some 1 }
    let sep : Definition := { id := "SEP", body := "','" }
    let ds := [list, a, sep]
    let ds' := [sep, list, a]
    ds'.Perm ds ∧ (ds.map Definition.id).Nodup ∧ (∀ d ∈ ds, d.compiles {}) ∧
    (ds.map Definition.effectiveOrder).Nodup ∧
    ∃ g g' φ,
      ({} : Builder).grammarOf ds = .ok g ∧
      ({} : Builder).grammarOf ds' = .ok g' ∧
      Function.Injective φ ∧ φ root = root ∧ φ unmatched = unmatched ∧
      g'.rules.Perm (g.rules.map (Rule.renumber φ)) ∧
      g'.lexerRules = g.lexerRules.map (Rule.renumber φ) ∧
      g'.parserRules = g.parserRules.map (Rule.renumber φ) ∧
      (∀ name, g'.find? name = (g.find? name).map (Rule.renumber φ)) ∧
      ∀ (o : Block.Options) (text : List Char),
        let b := (Block.process g o 0 text 0).value.1
        let b' := (Block.process g' o 0 text 0).value.1
        b' = b.renumber φ ∧ b'.tree = (b.tree.renumber φ).carry (Token.renumber φ) 0 ∧
          b'.groupings = b.groupings.map (Option.map (Rule.renumber φ)) := by
  intro list a sep ds ds'
  have hperm : ds'.Perm ds := @List.perm_append_comm _ [sep] [list, a]
  have hids : (ds.map Definition.id).Nodup := by decide
  have hall : ds.all (·.compiles {}) = true := by
    unfold ds list a sep
    cbv
  have hds := List.all_eq_true.1 hall
  have horders : (ds.map Definition.effectiveOrder).Nodup := by decide
  exact ⟨hperm, hids, hds, horders, process_perm {} hperm hids hds horders⟩

end Grammar

end Lexigram
