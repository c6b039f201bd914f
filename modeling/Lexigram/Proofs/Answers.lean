import Lexigram.Proofs.Continuations

/-!
# Whether answers can be trusted

The report on left recursion asks of rule after rule whether it may match nothing, and steps over
those of which the answer is yes. A rule that is met again while it is being answered is taken to
consume input, and what was answered meanwhile is kept.

**Questions** (`ask`, `Asked`). Whatever was asked before, the answer yes is right
(`Asked.within`). The answer no is right unless the rule winds (`winds_of_denied`), be it relative
to the answers or to what may really match nothing.

**Reports** (`Reported`). A cycle of rules that can stand first in each other has a reported rule,
unless what may match nothing was denied in front of an edge (`reported_or_denied`). But a rule that
is denied by mistake winds, so that a reported rule can stand first in it
(`exists_reported_of_winds`).

Main result: `Grammar.Built.right_unless_reported`.
-/

namespace Lexigram.LeftRecursion

open Relation (ReflTransGen TransGen)

/-! ## Questions -/

/-- Asks whether a rule may match nothing. -/
def ask (rules : List Rule) (name : String) : StateM Memo Bool :=
  atomNullable rules [] (.reference ⟨Grammar.root, false, .once⟩ name)

/-- A memory that some questions have left, asked one after the other. -/
inductive Asked (rules : List Rule) : Memo → Prop
  | nothing : Asked rules []
  | more {memo : Memo} (name : String) :
    Asked rules memo → Asked rules ((ask rules name).run memo).2

/-- Every rule has an answer. -/
def Memo.Total (memo : Memo) (rules : List Rule) : Prop :=
  ∀ name ∈ rules.map Rule.id, memo.lookup name ≠ none

section Questions

variable {rules : List Rule} {memo final : Memo} {name : String}

theorem Memo.open_nil (memo : Memo) : memo.Open [] := fun _ hmem => absurd hmem List.not_mem_nil

/-- A reference asks for the rule that it is to. -/
theorem atomNullable_eq_ask {m : Mark} (hm : ¬m.inverted = true) :
    atomNullable rules [] (.reference m name) = ask rules name := by
  have hplain : ¬(⟨Grammar.root, false, .once⟩ : Mark).inverted = true := Bool.false_ne_true
  funext memo
  change (atomNullable rules [] (.reference m name)).run memo = (ask rules name).run memo
  cases hname : memo.lookup name with
  | some answer => rw [ask, atomNullable_known hm hname, atomNullable_known hplain hname]
  | none => rw [ask, atomNullable_unknown hm hname, atomNullable_unknown hplain hname]

theorem extends_ask (memo : Memo) (name : String) : memo.Extends ((ask rules name).run memo).2 :=
  ((nullable_grows rules).2.1 [] _ memo memo.open_nil).1

theorem lookup_ask {r : Rule} (hr : Rule.findIn? rules name = some r) (memo : Memo) :
    ((ask rules name).run memo).2.lookup name = some ((ask rules name).run memo).1 :=
  lookup_atomNullable Bool.false_ne_true hr memo

theorem Asked.justified (h : Asked rules memo) (hfinal : memo.Extends final) :
    memo.Justified final rules := by
  induction h with
  | nothing => exact fun name answer hname => by simp at hname
  | more name _ ih =>
    have hbefore := ih ((extends_ask _ name).trans hfinal)
    have hdecides := (nullable_decides rules final).2.1 []
      (.reference ⟨Grammar.root, false, .once⟩ name) fun _ hmem => absurd hmem List.not_mem_nil
    exact (hdecides _ (Memo.open_nil _) hbefore hfinal).2.2

theorem Asked.exists_lookup (h : Asked rules memo) {names : List String}
    (hnames : ∀ name ∈ names, name ∈ rules.map Rule.id) :
    ∃ final, Asked rules final ∧ memo.Extends final ∧ ∀ name ∈ names, final.lookup name ≠ none := by
  induction names with
  | nil => exact ⟨memo, h, .refl memo, fun _ hmem => absurd hmem List.not_mem_nil⟩
  | cons name names ih =>
    obtain ⟨middle, hmiddle, hextends, hall⟩ := ih fun n hn => hnames n (List.mem_cons_of_mem _ hn)
    obtain ⟨r, hr, hid⟩ := List.mem_map.1 (hnames name List.mem_cons_self)
    have hfound : (Rule.findIn? rules name).isSome = true :=
      List.find?_isSome.2 ⟨r, hr, beq_iff_eq.2 hid⟩
    obtain ⟨q, hq⟩ := Option.isSome_iff_exists.1 hfound
    refine ⟨_, hmiddle.more name, hextends.trans (extends_ask middle name), fun n hn => ?_⟩
    rcases List.mem_cons.1 hn with rfl | hn
    · rw [lookup_ask hq]
      exact Option.some_ne_none _
    · obtain ⟨answer, hanswer⟩ := Option.ne_none_iff_exists'.1 (hall n hn)
      rw [extends_ask middle name n answer hanswer]
      exact Option.some_ne_none _

/-- One can go on asking until every rule has an answer. -/
theorem Asked.exists_total (h : Asked rules memo) :
    ∃ final, Asked rules final ∧ memo.Extends final ∧ final.Total rules :=
  h.exists_lookup fun _ hmem => hmem

end Questions

/-! ## Yes -/

section Yes

variable {rules : List Rule} {empty : String → Prop}

/-- The rules of which a memory says yes are in a set. -/
def Memo.Within (memo : Memo) (empty : String → Prop) : Prop :=
  ∀ name, memo.lookup name = some true → empty name

/-- The answer yes is right, and the rules of which the memory says yes stay in a set. -/
def Affirms (empty : String → Prop) (x : StateM Memo Bool) (p : Prop) : Prop :=
  ∀ memo : Memo, memo.Within empty → ((x.run memo).1 = true → p) ∧ (x.run memo).2.Within empty

variable {x : StateM Memo Bool} {p q : Prop}

theorem Affirms.pure {b : Bool} (h : b = true → p) : Affirms empty (pure b) p :=
  fun _ hmemo => ⟨h, hmemo⟩

theorem Affirms.imp (hx : Affirms empty x p) (h : p → q) : Affirms empty x q :=
  fun memo hmemo => ⟨fun hyes => h ((hx memo hmemo).1 hyes), (hx memo hmemo).2⟩

theorem Affirms.bind {f : Bool → StateM Memo Bool} (hx : Affirms empty x p)
    (hf : ∀ b, (b = true → p) → Affirms empty (f b) q) : Affirms empty (x >>= f) q := by
  intro memo hmemo
  obtain ⟨hyes, hmemo'⟩ := hx memo hmemo
  exact hf (x.run memo).1 hyes (x.run memo).2 hmemo'

theorem reference_affirms (hclosed : Closed rules empty) {active : List String} {m : Mark}
    {name : String} (hm : ¬m.inverted = true)
    (h : name ∉ active → ∀ r, Rule.findIn? rules name = some r →
      Affirms empty (anyNullable rules (name :: active) r.alternatives)
        (AnyVanishes empty r.alternatives)) :
    Affirms empty (atomNullable rules active (.reference m name)) (empty name) := by
  intro memo hmemo
  cases hname : memo.lookup name with
  | some answer =>
    rw [atomNullable_known hm hname]
    refine ⟨fun hyes => hmemo name ?_, hmemo⟩
    rw [hname]
    exact congrArg some hyes
  | none =>
    rw [atomNullable_unknown hm hname]
    by_cases ha : name ∈ active
    · rw [if_pos ha]
      exact ⟨fun hyes => Bool.noConfusion hyes, hmemo⟩
    · rw [if_neg ha]
      cases hr : Rule.findIn? rules name with
      | none => exact ⟨fun hyes => Bool.noConfusion hyes, hmemo⟩
      | some r =>
        obtain ⟨hyes, hmemo'⟩ := h ha r hr memo hmemo
        have hempty := fun ht => hclosed name r hr (hyes ht)
        refine ⟨hempty, fun name' hname' => ?_⟩
        dsimp only at hname'
        rw [List.lookup_cons] at hname'
        split at hname'
        · next heq =>
          rw [beq_iff_eq.1 heq]
          exact hempty (Option.some.inj hname')
        · exact hmemo' name' hname'

/-- **The answer yes is right**, whatever is being answered. -/
theorem nullable_affirms (hclosed : Closed rules empty) :
    (∀ active atoms, Affirms empty (chainNullable rules active atoms)
      (ChainVanishes empty atoms)) ∧
    (∀ active a, Affirms empty (atomNullable rules active a) (AtomVanishes empty a)) ∧
    (∀ active alternatives, Affirms empty (anyNullable rules active alternatives)
      (AnyVanishes empty alternatives)) := by
  refine chainNullable.mutual_induct rules _ _ _
    ?chainNil ?chainOptional ?chainCons ?leaf ?inverted ?reference ?lookahead ?invertedGroup
    ?group ?anyNil ?anyCons
  case chainNil =>
    intro active
    rw [chainNullable, ChainVanishes]
    exact .pure fun _ => trivial
  case chainOptional =>
    intro active a atoms ho hrest
    rw [chainNullable, if_pos ho, ChainVanishes]
    exact hrest.imp fun h => ⟨.inl ho, h⟩
  case chainCons =>
    intro active a atoms ho hatom hrest
    rw [chainNullable, if_neg ho, ChainVanishes]
    refine hatom.bind fun answer hyes => ?_
    split
    · next ht => exact hrest.imp fun h => ⟨.inr (hyes ht), h⟩
    · exact .pure fun hf => Bool.noConfusion hf
  case leaf =>
    intro active m l
    rw [atomNullable]
    exact .pure fun hf => Bool.noConfusion hf
  case inverted =>
    intro active m name hm
    rw [atomNullable_inverted hm]
    exact .pure fun hf => Bool.noConfusion hf
  case reference =>
    intro active m name hm hrule
    rw [AtomVanishes]
    exact (reference_affirms hclosed hm hrule).imp fun h => ⟨Bool.not_eq_true _ ▸ hm, h⟩
  case lookahead =>
    intro active m value alternatives
    rw [atomNullable, if_pos rfl, AtomVanishes]
    exact .pure fun _ => .inl rfl
  case invertedGroup =>
    intro active m lookahead value alternatives hl hm
    rw [atomNullable, if_neg hl, if_pos hm]
    exact .pure fun hf => Bool.noConfusion hf
  case group =>
    intro active m lookahead value alternatives hl hm hany
    rw [atomNullable, if_neg hl, if_neg hm, AtomVanishes]
    exact hany.imp fun h => .inr ⟨Bool.not_eq_true _ ▸ hm, h⟩
  case anyNil =>
    intro active
    rw [anyNullable]
    exact .pure fun hf => Bool.noConfusion hf
  case anyCons =>
    intro active atoms alternatives hchain hrest
    rw [anyNullable, AnyVanishes]
    refine hchain.bind fun answer hyes => ?_
    split
    · next ht => exact .pure fun _ => .inl (hyes ht)
    · exact hrest.imp .inr

/-- The rules of which a memory says yes may match nothing. -/
theorem Asked.within {memo : Memo} (h : Asked rules memo) : memo.Within (MayVanish rules) := by
  induction h with
  | nothing => exact fun name hname => by simp at hname
  | more name _ ih => exact ((nullable_affirms (closed_mayVanish rules)).2.1 [] _ _ ih).2

end Yes

/-! ## No -/

section Differences

variable {empty empty' : String → Prop} {name : String}

/-- A name on which two sets disagree can stand first in something, relative to the second set. -/
abbrev Differs (empty empty' : String → Prop) (leads : String → Prop) : Prop :=
  ∃ name, empty name ∧ ¬empty' name ∧ leads name

theorem Differs.imp {leads leads' : String → Prop} (h : ∀ name, leads name → leads' name) :
    Differs empty empty' leads → Differs empty empty' leads' :=
  fun ⟨name, hname, hno, hleads⟩ => ⟨name, hname, hno, h name hleads⟩

/-- An atom is stepped over in both sets, or a name on which they disagree stands first in it. -/
theorem passed_or_differs {a : Atom}
    (hatom : AtomVanishes empty a →
      AtomVanishes empty' a ∨ Differs empty empty' fun name => AtomLeads empty' name a)
    (h : a.mark.quantifier.isOptional = true ∨ AtomVanishes empty a) :
    (a.mark.quantifier.isOptional = true ∨ AtomVanishes empty' a) ∨
      Differs empty empty' fun name => AtomLeads empty' name a :=
  h.elim (fun ho => .inl (.inl ho)) fun ha => (hatom ha).imp_left .inr

mutual

theorem chainVanishes_or_differs : ∀ atoms, ChainVanishes empty atoms →
    ChainVanishes empty' atoms ∨
      Differs empty empty' fun name => ChainLeads empty' name atoms
  | [], _ => .inl (by rw [ChainVanishes]; trivial)
  | a :: atoms, h => by
    rw [ChainVanishes] at h
    rcases passed_or_differs (atomVanishes_or_differs a) h.1 with hfirst | hdiffers
    · exact (chainVanishes_or_differs atoms h.2).imp (fun hrest => ⟨hfirst, hrest⟩)
        (.imp fun _ hleads => .inr ⟨hfirst, hleads⟩)
    · exact .inr (hdiffers.imp fun _ => .inl)

theorem atomVanishes_or_differs : ∀ a, AtomVanishes empty a →
    AtomVanishes empty' a ∨ Differs empty empty' fun name => AtomLeads empty' name a
  | .leaf m l, h => by
    rw [AtomVanishes] at h
    exact h.elim
  | .reference m name, h => by
    rw [AtomVanishes] at h
    by_cases hname : empty' name
    · exact .inl ⟨h.1, hname⟩
    · exact .inr ⟨name, h.2, hname, rfl⟩
  | .group m lookahead value alternatives, h => by
    rw [AtomVanishes] at h
    rcases h with hl | ⟨hm, hany⟩
    · exact .inl (.inl hl)
    · exact (anyVanishes_or_differs alternatives hany).imp_left fun hany => .inr ⟨hm, hany⟩

theorem anyVanishes_or_differs : ∀ alternatives, AnyVanishes empty alternatives →
    AnyVanishes empty' alternatives ∨
      Differs empty empty' fun name => AnyLeads empty' name alternatives
  | [], h => by
    rw [AnyVanishes] at h
    exact h.elim
  | atoms :: alternatives, h => by
    rw [AnyVanishes] at h
    rcases h with h | h
    · exact (chainVanishes_or_differs atoms h).imp .inl (.imp fun _ => .inl)
    · exact (anyVanishes_or_differs alternatives h).imp .inr (.imp fun _ => .inr)

end

mutual

theorem chainLeads_or_differs : ∀ atoms, ChainLeads empty name atoms →
    ChainLeads empty' name atoms ∨
      Differs empty empty' fun name => ChainLeads empty' name atoms
  | [], h => by
    rw [ChainLeads] at h
    exact h.elim
  | a :: atoms, h => by
    rw [ChainLeads] at h
    rcases h with h | ⟨hfirst, hrest⟩
    · exact (atomLeads_or_differs a h).imp .inl (.imp fun _ => .inl)
    · rcases passed_or_differs (atomVanishes_or_differs a) hfirst with hpassed | hdiffers
      · exact (chainLeads_or_differs atoms hrest).imp (fun h => .inr ⟨hpassed, h⟩)
          (.imp fun _ hleads => .inr ⟨hpassed, hleads⟩)
      · exact .inr (hdiffers.imp fun _ => .inl)

theorem atomLeads_or_differs : ∀ a, AtomLeads empty name a →
    AtomLeads empty' name a ∨ Differs empty empty' fun name => AtomLeads empty' name a
  | .leaf m l, h => by
    rw [AtomLeads] at h
    exact h.elim
  | .reference m name', h => .inl (by rwa [AtomLeads] at h ⊢)
  | .group m lookahead value alternatives, h => by
    rw [AtomLeads] at h
    exact anyLeads_or_differs alternatives h

theorem anyLeads_or_differs : ∀ alternatives, AnyLeads empty name alternatives →
    AnyLeads empty' name alternatives ∨
      Differs empty empty' fun name => AnyLeads empty' name alternatives
  | [], h => by
    rw [AnyLeads] at h
    exact h.elim
  | atoms :: alternatives, h => by
    rw [AnyLeads] at h
    rcases h with h | h
    · exact (chainLeads_or_differs atoms h).imp .inl (.imp fun _ => .inl)
    · exact (anyLeads_or_differs alternatives h).imp .inr (.imp fun _ => .inr)

end

end Differences

section No

variable {rules : List Rule} {empty empty' : String → Prop} {final : Memo} {name name' : String}

theorem precedes_mono (h : ∀ name, empty name → empty' name)
    (hprecedes : Precedes rules empty name name') : Precedes rules empty' name name' := by
  obtain ⟨r, hr, hleads, hsome⟩ := hprecedes
  exact ⟨r, hr, anyLeads_mono h _ hleads, hsome⟩

theorem Winds.mono (h : ∀ name, empty name → empty' name) (hwinds : Winds rules empty name) :
    Winds rules empty' name := by
  obtain ⟨name', hleads, hcycle⟩ := hwinds
  have hmono : ∀ name name', Precedes rules empty name name' → Precedes rules empty' name name' :=
    fun _ _ => precedes_mono h
  exact ⟨name', ReflTransGen.mono hmono name' name hleads, TransGen.mono hmono name' name' hcycle⟩

theorem Winds.isSome (h : Winds rules empty name) : (Rule.findIn? rules name).isSome = true := by
  have hdefined : ∀ {name name'}, Precedes rules empty name name' →
      (Rule.findIn? rules name').isSome = true := by
    rintro name name' ⟨r, hr, -⟩
    rw [hr, Option.isSome_some]
  obtain ⟨name', hleads, hcycle⟩ := h
  rcases hleads.cases_tail with rfl | ⟨_, -, hstep⟩
  · obtain ⟨_, -, hstep⟩ := TransGen.tail'_iff.1 hcycle
    exact hdefined hstep
  · exact hdefined hstep

/-- Only rules may match nothing. -/
theorem MayVanish.isSome (h : MayVanish rules name) : (Rule.findIn? rules name).isSome = true :=
  h (fun name => (Rule.findIn? rules name).isSome = true) fun _ _ hr _ =>
    Option.isSome_iff_exists.2 ⟨_, hr⟩

/-- Of which rule a memory does not say no, of that it says yes if every rule has an answer. -/
theorem Asked.mayVanish_of_admits (h : Asked rules final) (htotal : final.Total rules)
    (hadmits : final.Admits rules name) : MayVanish rules name := by
  obtain ⟨r, hr⟩ := Option.isSome_iff_exists.1 hadmits.1
  obtain ⟨answer, hanswer⟩ := Option.ne_none_iff_exists'.1 (htotal name (findIn?_mem hr))
  obtain rfl := (Memo.admits_iff hanswer hr).1 hadmits
  exact h.within name hanswer

/-- **What is denied by mistake winds.** The rules that are admitted or wind are closed: relative to
the admitted rules, any other rule that may match nothing if these may would have a winding one
stand first in it. -/
theorem winds_of_denied (h : Asked rules final) (hname : MayVanish rules name)
    (hno : ¬final.Admits rules name) : Winds rules (final.Admits rules) name := by
  have hclosed : Closed rules fun name =>
      final.Admits rules name ∨ Winds rules (final.Admits rules) name := by
    intro name r hr hvanishes
    by_contra hneither
    obtain ⟨hdenied, hstraight⟩ := not_or.1 hneither
    have hlookup : final.lookup name = some false := by
      by_contra hlookup
      exact hdenied ⟨by rw [hr, Option.isSome_some], hlookup⟩
    obtain ⟨q, hq, hright⟩ := h.justified (.refl final) name false hlookup
    rw [hr] at hq
    cases hq
    have hcases : AnyVanishes (final.Admits rules) r.alternatives ∨
        Differs _ (final.Admits rules) _ :=
      anyVanishes_or_differs _ hvanishes
    rcases hcases with hadmitted | ⟨name', hname', hno', hleads⟩
    · exact hright rfl hstraight hadmitted
    · have hwinds := hname'.resolve_left hno'
      exact hstraight (hwinds.tail ⟨r, hr, hleads, hwinds.isSome⟩)
  exact (hname _ hclosed).resolve_left hno

end No

/-! ## Reports -/

section Reports

variable {rules : List Rule} {empty : String → Prop} {final : Memo} {name : String}

/-- A warning about left recursion is given for a rule. -/
def Reported (rules : List Rule) (name : String) : Prop :=
  ∃ path, Diagnostic.warning name .empty (.leftRecursion path) ∈ warnings rules

/-- The answers that the report on left recursion goes by. -/
def answers (rules : List Rule) : Memo := ((prefixGraph rules rules).run []).2

theorem collectAtom_asked {m : Mark} {name : String} {p : Prefixes} (h : Asked rules p.memo) :
    Asked rules ((collectAtom rules (.reference m name)).run p).2.memo := by
  have hmemo : (noted rules p name).memo = p.memo := by
    rw [noted]
    split
    · exact memo_insert p name
    · rfl
  by_cases hm : m.inverted = true
  · rw [collectAtom_inverted hm]
    rwa [hmemo]
  · rw [collectAtom_reference hm, atomNullable_eq_ask hm]
    exact h.more name

/-- Collecting asks one question after the other. -/
theorem collect_asked (rules : List Rule) :
    (∀ atoms p, Asked rules p.memo → Asked rules ((collectChain rules atoms).run p).2.memo) ∧
    (∀ a p, Asked rules p.memo → Asked rules ((collectAtom rules a).run p).2.memo) ∧
    (∀ alternatives p, Asked rules p.memo →
      Asked rules ((collectAll rules alternatives).run p).2.memo) := by
  refine collectChain.mutual_induct rules _ _ _
    ?leaf ?defined ?undefined ?group ?anyNil ?anyCons ?chainNil ?chainCons
  case leaf =>
    intro m l p h
    rw [collectAtom]
    exact h
  case defined =>
    intro m name _ p h
    exact collectAtom_asked h
  case undefined =>
    intro m name _ p h
    exact collectAtom_asked h
  case group =>
    intro m lookahead value alternatives hall p h
    rw [collectAtom]
    exact hall p h
  case anyNil =>
    intro p h
    rw [collectAll]
    exact h
  case anyCons =>
    intro atoms alternatives hchain hrest p h
    rw [collectAll]
    exact hrest _ (hchain p h)
  case chainNil =>
    intro p h
    rw [collectChain]
    exact h
  case chainCons =>
    intro a atoms hatom hrest p h
    rw [collectChain, StateT.run_bind]
    have hfirst := hatom p h
    generalize (collectAtom rules a).run p = turn at hfirst ⊢
    obtain ⟨advances, p'⟩ := turn
    show Asked rules ((if advances && !a.mark.quantifier.isOptional then pure true
      else collectChain rules atoms : StateM Prefixes Bool).run p').2.memo
    split
    · exact hfirst
    · exact hrest p' hfirst

theorem prefixGraph_asked (rest : List Rule) {memo : Memo} (h : Asked rules memo) :
    Asked rules ((prefixGraph rules rest).run memo).2 := by
  induction rest generalizing memo with
  | nil => exact h
  | cons r rest ih =>
    rw [prefixGraph]
    exact ih ((collect_asked rules).2.2 r.alternatives ⟨memo, []⟩ h)

/-- **The report asks one question after the other.** -/
theorem asked_answers (rules : List Rule) : Asked rules (answers rules) :=
  prefixGraph_asked rules .nothing

/-- A cycle of rules that can stand first in each other, relative to what is admitted, has one that
is reported. -/
theorem exists_reported_of_isCycle {cycle : List String} (hids : (rules.map Rule.id).Nodup)
    (hfinal : (answers rules).Extends final)
    (hcycle : Cycles.IsCycle (Precedes rules (final.Admits rules)) cycle) :
    ∃ name ∈ cycle, Reported rules name := by
  cases cycle with
  | nil => exact hcycle.elim
  | cons name names =>
    have hstart := mem_ids_of_transGen
      (hcycle.transGen (List.mem_append_right names List.mem_cons_self))
    obtain ⟨s, hs, path, hpath, hhead⟩ := Cycles.exists_reported_of_isCycle hstart
      (hcycle.imp fun _ _ _ _ h => follows_of_precedes hids hfinal h)
    refine ⟨s, hs, path, List.mem_map.2 ⟨path, hpath, ?_⟩⟩
    rw [List.headD_eq_head?_getD, hhead, Option.getD_some]

/-- **A cycle is reported unless what may match nothing was denied** in front of one of its
edges. -/
theorem reported_or_denied {cycle : List String} (hids : (rules.map Rule.id).Nodup)
    (hcycle : Cycles.IsCycle (Precedes rules (MayVanish rules)) cycle) :
    (∃ name ∈ cycle, Reported rules name) ∨
      ∃ name ∈ cycle, ∃ denied, Precedes rules (MayVanish rules) denied name ∧
        MayVanish rules denied ∧ (answers rules).lookup denied = some false := by
  by_contra hneither
  obtain ⟨hunreported, hundenied⟩ := not_or.1 hneither
  refine hunreported (exists_reported_of_isCycle hids (.refl _) (hcycle.imp ?_))
  rintro name hname name' - ⟨r, hr, hleads, hsome⟩
  -- What may match nothing and is admitted lets the same names stand first.
  let certain name := (answers rules).Admits rules name ∧ MayVanish rules name
  have hcases : AnyLeads certain name' r.alternatives ∨ Differs _ certain _ :=
    anyLeads_or_differs _ hleads
  rcases hcases with hadmitted | ⟨denied, hdenied, hno, hfirst⟩
  · exact ⟨r, hr, anyLeads_mono (fun _ h => h.1) _ hadmitted, hsome⟩
  · refine absurd ⟨name, hname, denied, ?_, hdenied, ?_⟩ hundenied
    · exact ⟨r, hr, anyLeads_mono (fun _ h => h.2) _ hfirst, hdenied.isSome⟩
    · by_contra hlookup
      exact hno ⟨⟨hdenied.isSome, hlookup⟩, hdenied⟩

/-- **In what winds a reported rule can stand first**, be it through other rules. -/
theorem exists_reported_of_winds (hids : (rules.map Rule.id).Nodup)
    (h : Winds rules (MayVanish rules) name) :
    ∃ s, Reported rules s ∧ ReflTransGen (Precedes rules (MayVanish rules)) s name := by
  obtain ⟨first, hleads, hcycle⟩ := h
  obtain ⟨names, hcycle⟩ := Cycles.exists_isCycle hcycle
  rcases reported_or_denied hids hcycle with ⟨s, hs, hreported⟩ | ⟨n, hn, m, hstep, hm, hlookup⟩
  · exact ⟨s, hreported, (hcycle.reflTransGen hs).trans hleads⟩
  · -- Relative to answers about all rules the denied rule winds, and its cycle is reported.
    obtain ⟨final, hfinal, hextends, htotal⟩ := (asked_answers rules).exists_total
    have hmono : ∀ name, final.Admits rules name → MayVanish rules name :=
      fun _ => hfinal.mayVanish_of_admits htotal
    have hno : ¬final.Admits rules m := fun hadmits => hadmits.2 (hextends m false hlookup)
    obtain ⟨second, hleads', hcycle'⟩ := winds_of_denied hfinal hm hno
    obtain ⟨names', hcycle'⟩ := Cycles.exists_isCycle hcycle'
    obtain ⟨s, hs, hreported⟩ := exists_reported_of_isCycle hids hextends hcycle'
    have hback : ReflTransGen (Precedes rules (MayVanish rules)) s m :=
      ReflTransGen.mono (fun _ _ => precedes_mono hmono) s m
        ((hcycle'.reflTransGen hs).trans hleads')
    exact ⟨s, hreported, (hback.tail hstep).trans ((hcycle.reflTransGen hn).trans hleads)⟩

/-- **A rule that is denied by mistake winds**, also relative to what may match nothing. -/
theorem Asked.winds_of_lookup {memo : Memo} (h : Asked rules memo) (hname : MayVanish rules name)
    (hno : memo.lookup name = some false) : Winds rules (MayVanish rules) name := by
  obtain ⟨final, hfinal, hextends, htotal⟩ := h.exists_total
  have hdenied : ¬final.Admits rules name := fun hadmits =>
    hadmits.2 (hextends name false hno)
  exact (winds_of_denied hfinal hname hdenied).mono fun _ => hfinal.mayVanish_of_admits htotal

theorem Asked.winds_of_ask {memo : Memo} (h : Asked rules memo) (hname : MayVanish rules name)
    (hno : ((ask rules name).run memo).1 = false) : Winds rules (MayVanish rules) name := by
  obtain ⟨r, hr⟩ := Option.isSome_iff_exists.1 hname.isSome
  refine (h.more name).winds_of_lookup hname ?_
  rw [lookup_ask hr, hno]

end Reports

end LeftRecursion

open LeftRecursion

namespace Grammar

/-- A warning about left recursion is given for a rule. -/
def Reports (g : Grammar) (name : String) : Prop :=
  ∃ path, Diagnostic.warning name .empty (.leftRecursion path) ∈ g.diagnostics

theorem Built.reports {g : Grammar} (hg : g.Built) {name : String}
    (h : LeftRecursion.Reported g.rules name) : g.Reports name := by
  obtain ⟨path, hpath⟩ := h
  exact ⟨path, hg.mem_diagnostics hpath⟩

/-- **Answers are right except around reported rules.** The answers that the report on left
recursion goes by are asked for one after the other. Whatever is asked before, yes is only answered
of a rule that may match nothing, and no is only answered of such a rule if one that is reported can
stand first in it, be it through other rules. Every cycle of rules that can stand first in each
other has one that is reported, or else one in which a rule can stand first that may match nothing
and was denied by mistake, and then a reported rule can stand first in that. -/
theorem Built.right_unless_reported {g : Grammar} (hg : g.Built) :
    Asked g.rules (answers g.rules) ∧
    (∀ memo, Asked g.rules memo → ∀ name,
      (((ask g.rules name).run memo).1 = true → MayVanish g.rules name) ∧
      (MayVanish g.rules name → ((ask g.rules name).run memo).1 = false →
        ∃ s, g.Reports s ∧
          Relation.ReflTransGen (Precedes g.rules (MayVanish g.rules)) s name)) ∧
    ∀ cycle, Cycles.IsCycle (Precedes g.rules (MayVanish g.rules)) cycle →
      (∃ s ∈ cycle, g.Reports s) ∨
        ∃ name ∈ cycle, ∃ denied, Precedes g.rules (MayVanish g.rules) denied name ∧
          MayVanish g.rules denied ∧ (answers g.rules).lookup denied = some false ∧
          ∃ s, g.Reports s ∧
            Relation.ReflTransGen (Precedes g.rules (MayVanish g.rules)) s denied := by
  have hids := hg.nodup_ids
  have hreach : ∀ {name}, Winds g.rules (MayVanish g.rules) name → ∃ s, g.Reports s ∧
      Relation.ReflTransGen (Precedes g.rules (MayVanish g.rules)) s name := by
    intro name hwinds
    obtain ⟨s, hs, hleads⟩ := exists_reported_of_winds hids hwinds
    exact ⟨s, hg.reports hs, hleads⟩
  refine ⟨asked_answers g.rules, fun memo hmemo name => ⟨fun hyes => ?_, fun hname hno => ?_⟩,
    fun cycle hcycle => ?_⟩
  · have haffirms := (nullable_affirms (closed_mayVanish g.rules)).2.1 []
      (.reference ⟨root, false, .once⟩ name) memo hmemo.within
    exact (haffirms.1 hyes).2
  · exact hreach (hmemo.winds_of_ask hname hno)
  · refine (reported_or_denied hids hcycle).imp ?_ ?_
    · rintro ⟨s, hs, hreported⟩
      exact ⟨s, hs, hg.reports hreported⟩
    · rintro ⟨name, hname, denied, hstep, hdenied, hlookup⟩
      exact ⟨name, hname, denied, hstep, hdenied, hlookup,
        hreach ((asked_answers g.rules).winds_of_lookup hdenied hlookup)⟩

/-! ### A cycle that is not reported -/

/-- A rule that groups tokens. -/
def grouping (id : String) (handle : Nat) (alternatives : List (List Atom)) : Rule where
  id
  kind := .parser
  handle
  alternatives

open Matching (quoted referring) in
/-- The first rule asks for the second, which asks for the third, and then for the third. -/
def entangled : List Rule :=
  [grouping "c" 2
      [[referring 3 "a", quoted 4 'z'], [referring 5 "b", referring 6 "c", quoted 7 'w'],
        [quoted 8 'v']],
    grouping "a" 9
      [[referring 10 "b"],
        [.leaf ⟨11, false, .optional⟩ ⟨.literal, ['\'', 'y', '\''], ⟨['y'], .text ['y']⟩, false⟩]],
    grouping "b" 12 [[referring 13 "a"]]]

/-- The second rule may match nothing since a character may be left out, and so may the third. -/
theorem mayVanish_entangled : MayVanish entangled "a" ∧ MayVanish entangled "b" := by
  have ha : MayVanish entangled "a" := fun _ hclosed =>
    hclosed "a" _ rfl (.inr (.inl ⟨.inl rfl, trivial⟩))
  exact ⟨ha, fun empty hclosed => hclosed "b" _ rfl (.inl ⟨.inr ⟨rfl, ha empty hclosed⟩, trivial⟩)⟩

/-- The first rule can stand first in itself behind the third. -/
theorem isCycle_entangled :
    Cycles.IsCycle (Precedes entangled (MayVanish entangled)) ["c"] := by
  have hb := mayVanish_entangled.2
  have hprecedes : Precedes entangled (MayVanish entangled) "c" "c" :=
    ⟨_, rfl, .inr (.inl (.inr ⟨.inr ⟨rfl, hb⟩, .inl rfl⟩)), rfl⟩
  exact .cons_cons hprecedes (.singleton "c")

/-- The third rule is denied by mistake, and stands first in itself through the second, which is
reported. -/
theorem right_unless_reported_entangled :
    let b := (({} : Builder).compile { id := "c", body := "a 'z' | b c 'w' | 'v'" }).1
    let b' := (b.compile { id := "a", body := "b | 'y'?" }).1
    let g := (b'.compile { id := "b", body := "a" }).1.build.value
    g.Built ∧ g.rules = entangled ∧
      Asked g.rules ((ask g.rules "a").run []).2 ∧ MayVanish g.rules "b" ∧
      ((ask g.rules "b").run ((ask g.rules "a").run []).2).1 = false ∧
      (∃ s, g.Reports s ∧
        Relation.ReflTransGen (Precedes g.rules (MayVanish g.rules)) s "b") ∧
      Cycles.IsCycle (Precedes g.rules (MayVanish g.rules)) ["c"] ∧
      ((∃ s ∈ ["c"], g.Reports s) ∨
        ∃ name ∈ ["c"], ∃ denied, Precedes g.rules (MayVanish g.rules) denied name ∧
          MayVanish g.rules denied ∧ (answers g.rules).lookup denied = some false ∧
          ∃ s, g.Reports s ∧
            Relation.ReflTransGen (Precedes g.rules (MayVanish g.rules)) s denied) := by
  intro b b' g
  have hg : g.Built := .of_reachable (.compile _ (.compile _ (.compile _ (.new {}))))
  have hrules : g.rules = entangled := by
    unfold g b' b
    cbv
  obtain ⟨-, hanswers, hcycles⟩ := hg.right_unless_reported
  rw [hrules] at hanswers hcycles ⊢
  have hasked : Asked entangled ((ask entangled "a").run []).2 := .more "a" .nothing
  have hb := mayVanish_entangled.2
  have hno : ((ask entangled "b").run ((ask entangled "a").run []).2).1 = false := by cbv
  exact ⟨hg, rfl, hasked, hb, hno, (hanswers _ hasked "b").2 hb hno, isCycle_entangled,
    hcycles ["c"] isCycle_entangled⟩

/-- No warning about left recursion names the first rule, since asking for the second denies the
third. -/
theorem cycle_unreported_behind_denied :
    let b := (({} : Builder).compile { id := "c", body := "a 'z' | b c 'w' | 'v'" }).1
    let b' := (b.compile { id := "a", body := "b | 'y'?" }).1
    let g := (b'.compile { id := "b", body := "a" }).1.build.value
    g.Built ∧ MayVanish g.rules "b" ∧ (answers g.rules).lookup "b" = some false ∧
      Cycles.IsCycle (Precedes g.rules (MayVanish g.rules)) ["c"] ∧
      ∀ d ∈ g.diagnostics, ∀ path, d.problem = .leftRecursion path →
        d.rule ≠ some "c" ∧ "c" ∉ path := by
  intro b b' g
  have hg : g.Built := .of_reachable (.compile _ (.compile _ (.compile _ (.new {}))))
  have hrules : g.rules = entangled := by
    unfold g b' b
    cbv
  have hdiagnostics :
      g.diagnostics = [.warning "a" .empty (.leftRecursion ["a", "b", "a"])] := by
    unfold g b' b
    cbv
  rw [hrules, hdiagnostics]
  refine ⟨hg, mayVanish_entangled.2, by cbv, isCycle_entangled, fun d hd path hpath => ?_⟩
  rw [List.mem_singleton.1 hd] at hpath ⊢
  cases hpath
  decide

end Grammar

end Lexigram
