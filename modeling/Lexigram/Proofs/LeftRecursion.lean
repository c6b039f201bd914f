import Lexigram.Proofs.Cycles
import Lexigram.Proofs.Nullable

/-!
# Rules without left recursion

If no left recursion is reported, the rules are layered: no rule can stand first in itself.

**Layers** (`Layered`). A set of rules is closed when it has every rule that may match nothing if
the rules in the set may. Relative to such a set, no rule precedes itself.

**Collecting** (`Collected`). The names that can stand first are collected with the answers at hand,
some of which may be wrong. But an answer that let the collecting stop stays in the memory, so the
names that are left out are not missed relative to the last memory. Its rules are the set.

Main result: `layered_of_warnings`.
-/

namespace Lexigram.LeftRecursion

/-- No rule can stand first in itself if only the rules with the names in `empty` may match
nothing, and no other rule may. -/
structure Layered (rules : List Rule) (empty : String → Prop) : Prop where
  closed : ∀ name r, Rule.findIn? rules name = some r → AnyVanishes empty r.alternatives →
    empty name
  acyclic : Acyclic rules empty

/-! ## Collecting -/

/-- What collecting from some state leads to: an answer whether input is consumed, and a state with
more names and answers. Relative to the last memory, what is said to consume input does not vanish,
and all names that lead are collected. -/
structure Collected (rules : List Rule) (final : Memo) (p : Prefixes) (turn : Bool × Prefixes)
    (vanishes : Prop) (leads : String → Prop) : Prop where
  grows : p.memo.Extends turn.2.memo
  subset : p.names ⊆ turn.2.names
  consumes : turn.2.memo.Extends final → turn.1 = true → ¬vanishes
  collects : turn.2.memo.Extends final → ∀ name, leads name →
    (Rule.findIn? rules name).isSome = true → name ∈ turn.2.names
  justified : turn.2.memo.Extends final → p.memo.Justified final rules →
    turn.2.memo.Justified final rules

variable {rules : List Rule} {final : Memo} {p : Prefixes}

/-- Where nothing can stand first, there is nothing to collect. -/
theorem Collected.same {b : Bool} {vanishes : Prop} {leads : String → Prop}
    (hb : b = true → ¬vanishes) (hleads : ∀ name, ¬leads name) :
    Collected rules final p (b, p) vanishes leads where
  grows := .refl p.memo
  subset := List.Subset.refl p.names
  consumes _ := hb
  collects _ name hname := absurd hname (hleads name)
  justified _ h := h

theorem mem_insert (p : Prefixes) (name : String) : name ∈ (p.insert name).names := by
  unfold Prefixes.insert
  split
  · next h => exact List.contains_iff_mem.1 h
  · exact List.mem_append_right _ (List.mem_singleton_self name)

theorem subset_insert (p : Prefixes) (name : String) : p.names ⊆ (p.insert name).names := by
  unfold Prefixes.insert
  split
  · exact List.Subset.refl p.names
  · exact List.subset_append_left p.names [name]

theorem memo_insert (p : Prefixes) (name : String) : (p.insert name).memo = p.memo := by
  unfold Prefixes.insert
  split <;> rfl

/-- The state in which a reference is asked for. -/
def noted (rules : List Rule) (p : Prefixes) (name : String) : Prefixes :=
  if (Rule.findIn? rules name).isSome then p.insert name else p

/-- What asking for a rule leaves in the memory. -/
theorem lookup_atomNullable {m : Mark} {name : String} {r : Rule} (hm : ¬m.inverted = true)
    (hr : Rule.findIn? rules name = some r) (memo : Memo) :
    ((atomNullable rules [] (.reference m name)).run memo).2.lookup name =
      some ((atomNullable rules [] (.reference m name)).run memo).1 := by
  cases hname : memo.lookup name with
  | some answer => rw [atomNullable_known hm hname, hname]
  | none =>
    rw [atomNullable_unknown hm hname, if_neg List.not_mem_nil, hr]
    exact List.lookup_cons_self

theorem collectAtom_inverted {m : Mark} {name : String} (hm : m.inverted = true) :
    (collectAtom rules (.reference m name)).run p = (true, noted rules p name) := by
  rw [collectAtom, noted]
  by_cases hsome : (Rule.findIn? rules name).isSome = true
  · rw [if_pos hsome, if_pos hsome, if_pos hm]
    rfl
  · rw [if_neg hsome, if_neg hsome, if_pos hm]
    rfl

theorem collectAtom_reference {m : Mark} {name : String} (hm : ¬m.inverted = true) :
    (collectAtom rules (.reference m name)).run p =
      (!((atomNullable rules [] (.reference m name)).run p.memo).1,
        ⟨((atomNullable rules [] (.reference m name)).run p.memo).2,
          (noted rules p name).names⟩) := by
  rw [collectAtom, noted]
  by_cases hsome : (Rule.findIn? rules name).isSome = true
  · rw [if_pos hsome, if_pos hsome, if_neg hm, ← memo_insert p name]
    rfl
  · rw [if_neg hsome, if_neg hsome, if_neg hm]
    rfl

theorem reference_collected (m : Mark) (name : String) :
    Collected rules final p ((collectAtom rules (.reference m name)).run p)
      (AtomVanishes (final.Admits rules) (.reference m name))
      (fun name' => AtomLeads (final.Admits rules) name' (.reference m name)) := by
  have hmemo : (noted rules p name).memo = p.memo := by
    rw [noted]
    split
    · exact memo_insert p name
    · rfl
  have hnames : p.names ⊆ (noted rules p name).names := by
    rw [noted]
    split
    · exact subset_insert p name
    · exact List.Subset.refl p.names
  have hcollects : ∀ name', AtomLeads (final.Admits rules) name' (.reference m name) →
      (Rule.findIn? rules name').isSome = true → name' ∈ (noted rules p name).names := by
    rintro name' rfl hsome
    rw [noted, if_pos hsome]
    exact mem_insert p name
  by_cases hm : m.inverted = true
  · rw [collectAtom_inverted hm]
    refine ⟨?_, hnames, fun _ _ hvanishes => ?_, fun _ => hcollects, fun _ h => ?_⟩
    · rw [hmemo]
      exact .refl p.memo
    · rw [AtomVanishes, hm] at hvanishes
      cases hvanishes.1
    · rwa [hmemo]
  · have hopen : p.memo.Open [] := fun name' hmem => absurd hmem List.not_mem_nil
    have hgrows := (nullable_grows rules).2.1 [] (.reference m name) p.memo hopen
    rw [collectAtom_reference hm]
    refine ⟨hgrows.1, hnames, fun hfinal hno hvanishes => ?_, fun _ => hcollects,
      fun hfinal hjustified => ?_⟩
    · rw [AtomVanishes] at hvanishes
      obtain ⟨r, hr⟩ := Option.isSome_iff_exists.1 hvanishes.2.1
      have hanswer := hfinal name _ (lookup_atomNullable hm hr p.memo)
      have hyes := (Memo.admits_iff hanswer hr).1 hvanishes.2
      dsimp only at hno
      rw [hyes] at hno
      cases hno
    · have hdecides := (nullable_decides rules final).2.1 [] (.reference m name)
        fun name' hmem => absurd hmem List.not_mem_nil
      exact (hdecides p.memo hopen hjustified hfinal).2.2

theorem group_collected {m : Mark} {lookahead : Bool} {value : List Char}
    {alternatives : List (List Atom)}
    (h : Collected rules final p ((collectAll rules alternatives).run p)
      (AnyVanishes (final.Admits rules) alternatives)
      fun name => AnyLeads (final.Admits rules) name alternatives) :
    Collected rules final p ((collectAtom rules (.group m lookahead value alternatives)).run p)
      (AtomVanishes (final.Admits rules) (.group m lookahead value alternatives))
      fun name => AtomLeads (final.Admits rules) name (.group m lookahead value alternatives) := by
  rw [collectAtom]
  refine ⟨h.grows, h.subset, fun hfinal hadvances hvanishes => ?_, h.collects, h.justified⟩
  have hconsumes := h.consumes hfinal
  generalize hturn : (collectAll rules alternatives).run p = turn at *
  replace hadvances : ((turn.1 && !alternatives.isEmpty || m.inverted) && !lookahead) = true := by
    rw [StateT.run_bind, hturn] at hadvances
    exact hadvances
  rw [AtomVanishes] at hvanishes
  rcases hvanishes with hl | ⟨hm, hany⟩
  · simp [hl] at hadvances
  · simp [hm] at hadvances
    exact hconsumes hadvances.1.1 hany

theorem chain_cons_collected {a : Atom} {atoms : List Atom}
    (hatom : Collected rules final p ((collectAtom rules a).run p)
      (AtomVanishes (final.Admits rules) a) fun name => AtomLeads (final.Admits rules) name a)
    (hrest : ∀ p, Collected rules final p ((collectChain rules atoms).run p)
      (ChainVanishes (final.Admits rules) atoms)
      fun name => ChainLeads (final.Admits rules) name atoms) :
    Collected rules final p ((collectChain rules (a :: atoms)).run p)
      (ChainVanishes (final.Admits rules) (a :: atoms))
      fun name => ChainLeads (final.Admits rules) name (a :: atoms) := by
  rw [collectChain, StateT.run_bind]
  generalize (collectAtom rules a).run p = turn at *
  obtain ⟨advances, p'⟩ := turn
  show Collected rules final p ((if advances && !a.mark.quantifier.isOptional then pure true
    else collectChain rules atoms : StateM Prefixes Bool).run p') _ _
  by_cases hstop : (advances && !a.mark.quantifier.isOptional) = true
  · -- Where collecting stops, the atom does not vanish, so no name behind it leads.
    rw [if_pos hstop]
    rw [Bool.and_eq_true, Bool.not_eq_true'] at hstop
    have hnever : p'.memo.Extends final → ¬(a.mark.quantifier.isOptional = true ∨
        AtomVanishes (final.Admits rules) a) := by
      rintro hfinal (ho | hvanishes)
      · rw [hstop.2] at ho
        cases ho
      · exact hatom.consumes hfinal hstop.1 hvanishes
    refine ⟨hatom.grows, hatom.subset, fun hfinal _ hvanishes => ?_,
      fun hfinal name hleads hsome => ?_, hatom.justified⟩
    · rw [ChainVanishes] at hvanishes
      exact hnever hfinal hvanishes.1
    · rw [ChainLeads] at hleads
      rcases hleads with hleads | ⟨hempty, -⟩
      · exact hatom.collects hfinal name hleads hsome
      · exact absurd hempty (hnever hfinal)
  · rw [if_neg hstop]
    have h := hrest p'
    refine ⟨hatom.grows.trans h.grows, List.Subset.trans hatom.subset h.subset,
      fun hfinal hadvances hvanishes => ?_, fun hfinal name hleads hsome => ?_,
      fun hfinal hjustified => ?_⟩
    · rw [ChainVanishes] at hvanishes
      exact h.consumes hfinal hadvances hvanishes.2
    · rw [ChainLeads] at hleads
      rcases hleads with hleads | ⟨-, hleads⟩
      · exact h.subset (hatom.collects (h.grows.trans hfinal) name hleads hsome)
      · exact h.collects hfinal name hleads hsome
    · exact h.justified hfinal (hatom.justified (h.grows.trans hfinal) hjustified)

theorem any_cons_collected {atoms : List Atom} {alternatives : List (List Atom)}
    (hchain : Collected rules final p ((collectChain rules atoms).run p)
      (ChainVanishes (final.Admits rules) atoms)
      fun name => ChainLeads (final.Admits rules) name atoms)
    (hrest : ∀ p, Collected rules final p ((collectAll rules alternatives).run p)
      (AnyVanishes (final.Admits rules) alternatives)
      fun name => AnyLeads (final.Admits rules) name alternatives) :
    Collected rules final p ((collectAll rules (atoms :: alternatives)).run p)
      (AnyVanishes (final.Admits rules) (atoms :: alternatives))
      fun name => AnyLeads (final.Admits rules) name (atoms :: alternatives) := by
  rw [collectAll, StateT.run_bind]
  generalize (collectChain rules atoms).run p = turn at *
  obtain ⟨advances, p'⟩ := turn
  have h := hrest p'
  show Collected rules final p
    (((collectAll rules alternatives) >>= fun others => pure (advances && others)).run p') _ _
  rw [StateT.run_bind]
  generalize (collectAll rules alternatives).run p' = turn' at *
  obtain ⟨others, p''⟩ := turn'
  refine ⟨hchain.grows.trans h.grows, List.Subset.trans hchain.subset h.subset,
    fun hfinal hboth hvanishes => ?_, fun hfinal name hleads hsome => ?_,
    fun hfinal hjustified => ?_⟩
  · replace hboth : (advances && others) = true := hboth
    rw [Bool.and_eq_true] at hboth
    rw [AnyVanishes] at hvanishes
    rcases hvanishes with hvanishes | hvanishes
    · exact hchain.consumes (h.grows.trans hfinal) hboth.1 hvanishes
    · exact h.consumes hfinal hboth.2 hvanishes
  · rw [AnyLeads] at hleads
    rcases hleads with hleads | hleads
    · exact h.subset (hchain.collects (h.grows.trans hfinal) name hleads hsome)
    · exact h.collects hfinal name hleads hsome
  · exact h.justified hfinal (hchain.justified (h.grows.trans hfinal) hjustified)

/-- **Collecting misses no name.** Relative to the last memory, whatever it begins with. -/
theorem all_collected (rules : List Rule) (final : Memo) (alternatives : List (List Atom)) :
    ∀ p, Collected rules final p ((collectAll rules alternatives).run p)
      (AnyVanishes (final.Admits rules) alternatives)
      fun name => AnyLeads (final.Admits rules) name alternatives := by
  refine (collectChain.mutual_induct rules
    (fun atoms => ∀ p, Collected rules final p ((collectChain rules atoms).run p)
      (ChainVanishes (final.Admits rules) atoms)
      fun name => ChainLeads (final.Admits rules) name atoms)
    (fun a => ∀ p, Collected rules final p ((collectAtom rules a).run p)
      (AtomVanishes (final.Admits rules) a) fun name => AtomLeads (final.Admits rules) name a)
    (fun alternatives => ∀ p, Collected rules final p ((collectAll rules alternatives).run p)
      (AnyVanishes (final.Admits rules) alternatives)
      fun name => AnyLeads (final.Admits rules) name alternatives)
    ?leaf ?defined ?undefined ?group ?anyNil ?anyCons ?chainNil ?chainCons).2.2 alternatives
  case leaf =>
    intro m l p
    rw [collectAtom]
    exact .same (fun _ hvanishes => by rwa [AtomVanishes] at hvanishes)
      fun name hleads => by rwa [AtomLeads] at hleads
  case defined =>
    intro m name hsome p
    exact reference_collected m name
  case undefined =>
    intro m name hsome p
    exact reference_collected m name
  case group =>
    intro m lookahead value alternatives hall p
    exact group_collected (hall p)
  case anyNil =>
    intro p
    rw [collectAll]
    exact .same (fun _ hvanishes => by rwa [AnyVanishes] at hvanishes)
      fun name hleads => by rwa [AnyLeads] at hleads
  case anyCons =>
    intro atoms alternatives hchain hrest p
    exact any_cons_collected (hchain p) hrest
  case chainNil =>
    intro p
    rw [collectChain]
    exact .same (fun hno => Bool.noConfusion hno) fun name hleads => by rwa [ChainLeads] at hleads
  case chainCons =>
    intro a atoms hatom hrest p
    exact chain_cons_collected (hatom p) hrest

/-! ## The graph -/

/-- What collecting from rule to rule leads to. -/
structure Graphed (rules : List Rule) (final : Memo) (rest : List Rule) (memo : Memo)
    (turn : Cycles.Graph String × Memo) : Prop where
  grows : memo.Extends turn.2
  follows : turn.2.Extends final → (rest.map Rule.id).Nodup → ∀ r ∈ rest, ∀ name,
    AnyLeads (final.Admits rules) name r.alternatives →
    (Rule.findIn? rules name).isSome = true → Cycles.Follows turn.1 name r.id
  justified : turn.2.Extends final → memo.Justified final rules → turn.2.Justified final rules

theorem prefixGraph_graphed (rules : List Rule) (final : Memo) (rest : List Rule) (memo : Memo) :
    Graphed rules final rest memo ((prefixGraph rules rest).run memo) := by
  induction rest generalizing memo with
  | nil =>
    exact ⟨.refl memo, fun _ _ r hr => absurd hr List.not_mem_nil, fun _ h => h⟩
  | cons r rest ih =>
    have h := all_collected rules final r.alternatives ⟨memo, []⟩
    generalize hturn : (collectAll rules r.alternatives).run ⟨memo, []⟩ = turn at h
    have hrest := ih turn.2.memo
    have hrun : (prefixGraph rules (r :: rest)).run memo =
        ((r.id, turn.2.names) :: ((prefixGraph rules rest).run turn.2.memo).1,
          ((prefixGraph rules rest).run turn.2.memo).2) := by
      rw [prefixGraph, ← hturn]
      rfl
    rw [hrun]
    refine ⟨h.grows.trans hrest.grows, fun hfinal hids q hq name hleads hsome => ?_,
      fun hfinal hjustified => ?_⟩
    · rw [List.map_cons, List.nodup_cons] at hids
      rcases List.mem_cons.1 hq with rfl | hq
      · exact ⟨turn.2.names, List.lookup_cons_self,
          h.collects (hrest.grows.trans hfinal) name hleads hsome⟩
      · have hne : (q.id == r.id) = false := by
          rw [beq_eq_false_iff_ne]
          intro heq
          exact hids.1 (heq ▸ List.mem_map_of_mem hq)
        obtain ⟨names, hlookup, hmem⟩ := hrest.follows hfinal hids.2 q hq name hleads hsome
        exact ⟨names, by rwa [List.lookup_cons, hne], hmem⟩
    · exact hrest.justified hfinal (h.justified (hrest.grows.trans hfinal) hjustified)

theorem problem_of_mem_warnings {rules : List Rule} {d : Diagnostic} (h : d ∈ warnings rules) :
    ∃ path, d.problem = .leftRecursion path := by
  obtain ⟨path, -, rfl⟩ := List.mem_map.1 h
  exact ⟨path, rfl⟩

/-- **The graph has every edge** that there is relative to the last memory or a later one. -/
theorem follows_of_precedes {rules : List Rule} {final : Memo} (hids : (rules.map Rule.id).Nodup)
    (hfinal : ((prefixGraph rules rules).run []).2.Extends final) {name name' : String}
    (h : Precedes rules (final.Admits rules) name name') :
    Cycles.Follows ((prefixGraph rules rules).run []).1 name name' := by
  obtain ⟨r, hr, hleads, hsome⟩ := h
  obtain ⟨hmem, rfl⟩ := Rule.findIn?_eq_some hr
  exact (prefixGraph_graphed rules final rules []).follows hfinal hids r hmem name hleads hsome

theorem mem_ids_of_transGen {rules : List Rule} {empty : String → Prop} {name name' : String}
    (h : Relation.TransGen (Precedes rules empty) name name') : name' ∈ rules.map Rule.id := by
  cases h with
  | single h => exact findIn?_mem h.choose_spec.1
  | tail _ h => exact findIn?_mem h.choose_spec.1

/-- **Without a report the rules are layered.** If no left recursion is reported among rules with
distinct ids, there are rules such that no other may match nothing, and if these may, no rule can
stand first in itself. -/
theorem layered_of_warnings {rules : List Rule} (hids : (rules.map Rule.id).Nodup)
    (h : warnings rules = []) : ∃ empty, Layered rules empty := by
  have hgraphed := prefixGraph_graphed rules ((prefixGraph rules rules).run []).2 rules []
  have hfollows : ∀ name name',
      Precedes rules (((prefixGraph rules rules).run []).2.Admits rules) name name' →
        Cycles.Follows ((prefixGraph rules rules).run []).1 name name' :=
    fun _ _ => follows_of_precedes hids (.refl _)
  generalize hturn : (prefixGraph rules rules).run [] = turn at *
  have hsearch : Cycles.search turn.1 (rules.map Rule.id) = [] := by
    rw [warnings, hturn] at h
    exact List.map_eq_nil_iff.1 h
  have hacyclic : Acyclic rules (turn.2.Admits rules) := by
    intro name hcycle
    have hacc := Cycles.acc_of_search hsearch (mem_ids_of_transGen hcycle)
    exact Cycles.not_transGen_of_acc hacc (Relation.TransGen.mono hfollows name name hcycle)
  have hstart : Memo.Justified [] turn.2 rules := fun name answer hname => by simp at hname
  have hjustified := hgraphed.justified (.refl _) hstart
  refine ⟨turn.2.Admits rules, ⟨fun name r hr hvanishes => ⟨?_, fun hno => ?_⟩, hacyclic⟩⟩
  · rw [hr, Option.isSome_some]
  · obtain ⟨q, hq, hright⟩ := hjustified name false hno
    rw [hr] at hq
    cases hq
    exact hright rfl hacyclic.not_winds hvanishes

end Lexigram.LeftRecursion
