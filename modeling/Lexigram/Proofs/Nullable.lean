import Lexigram.Grammar.LeftRecursion
import Mathlib.Logic.Relation

/-!
# Rules that may match nothing

Whether a rule may match nothing is answered with a memory of answers, and a rule that is met again
while it is being answered is taken to consume input. The answers are right for all rules for which
that never happens.

**Vanishing** (`ChainVanishes`). Some atoms may match nothing if the rules with the names in `empty`
may. **Leading** (`ChainLeads`). A name can stand first in some atoms if all that precedes it may
match nothing. **Order** (`Precedes`). The rules whose names can stand first in a rule. A rule winds
(`Winds`) if some rule that precedes it, itself perhaps, also precedes itself.

**Memories** (`Memo.Extends`). Answers are added and never changed, so a memory is judged by a later
one, `final`. A rule may be empty (`Memo.Admits`) unless `final` says that it is not, and a memory
is justified (`Memo.Justified`) when the rules that it calls not empty are not, those that wind
apart.

Main result: `nullable_decides`. Answering keeps a memory justified: every rule that is being
answered is preceded by all names that can be met (`LedBy`), so one that is met again winds.
-/

namespace Lexigram.LeftRecursion

/-! ## What may match nothing -/

mutual

/-- All of some atoms may match nothing, if the rules with the names in `empty` may. -/
def ChainVanishes (empty : String → Prop) : List Atom → Prop
  | [] => True
  | a :: atoms =>
    (a.mark.quantifier.isOptional = true ∨ AtomVanishes empty a) ∧ ChainVanishes empty atoms

/-- One occurrence of an atom may match nothing. -/
def AtomVanishes (empty : String → Prop) : Atom → Prop
  | .leaf _ _ => False
  | .reference m name => m.inverted = false ∧ empty name
  | .group m lookahead _ alternatives =>
    lookahead = true ∨ m.inverted = false ∧ AnyVanishes empty alternatives

/-- One of some alternatives may match nothing. -/
def AnyVanishes (empty : String → Prop) : List (List Atom) → Prop
  | [] => False
  | atoms :: alternatives => ChainVanishes empty atoms ∨ AnyVanishes empty alternatives

end

mutual

/-- A name can stand first in some atoms. -/
def ChainLeads (empty : String → Prop) (name : String) : List Atom → Prop
  | [] => False
  | a :: atoms =>
    AtomLeads empty name a ∨
      (a.mark.quantifier.isOptional = true ∨ AtomVanishes empty a) ∧ ChainLeads empty name atoms

/-- A name can stand first in an atom. -/
def AtomLeads (empty : String → Prop) (name : String) : Atom → Prop
  | .leaf _ _ => False
  | .reference _ name' => name' = name
  | .group _ _ _ alternatives => AnyLeads empty name alternatives

/-- A name can stand first in one of some alternatives. -/
def AnyLeads (empty : String → Prop) (name : String) : List (List Atom) → Prop
  | [] => False
  | atoms :: alternatives => ChainLeads empty name atoms ∨ AnyLeads empty name alternatives

end

/-- A rule can stand first in another. -/
def Precedes (rules : List Rule) (empty : String → Prop) (name name' : String) : Prop :=
  ∃ r, Rule.findIn? rules name' = some r ∧ AnyLeads empty name r.alternatives ∧
    (Rule.findIn? rules name).isSome = true

/-- No rule can stand first in itself, be it through other rules. -/
def Acyclic (rules : List Rule) (empty : String → Prop) : Prop :=
  ∀ name, ¬Relation.TransGen (Precedes rules empty) name name

/-- A rule that can stand first in itself can stand first in a rule, be it through other rules. -/
def Winds (rules : List Rule) (empty : String → Prop) (name : String) : Prop :=
  ∃ name', Relation.ReflTransGen (Precedes rules empty) name' name ∧
    Relation.TransGen (Precedes rules empty) name' name'

/-- No rule that can stand first in something winds. -/
def Straight (rules : List Rule) (empty : String → Prop) (leads : String → Prop) : Prop :=
  ∀ name, leads name → (Rule.findIn? rules name).isSome = true → ¬Winds rules empty name

/-- All names that can stand first in something precede a rule. -/
def LedBy (rules : List Rule) (empty : String → Prop) (leads : String → Prop) (name : String) :
    Prop :=
  ∀ name', leads name' → (Rule.findIn? rules name').isSome = true →
    Relation.TransGen (Precedes rules empty) name' name

section Order

variable {rules : List Rule} {empty : String → Prop} {leads leads' : String → Prop}
variable {name name' : String} {r : Rule}

theorem LedBy.mono (h : LedBy rules empty leads name) (hleads : ∀ name, leads' name → leads name) :
    LedBy rules empty leads' name :=
  fun name' hname' => h name' (hleads name' hname')

theorem ledBy_mono {active : List String} (h : ∀ name ∈ active, LedBy rules empty leads name)
    (hleads : ∀ name, leads' name → leads name) :
    ∀ name ∈ active, LedBy rules empty leads' name :=
  fun name hmem => (h name hmem).mono hleads

/-- What can stand first in a rule precedes it. -/
theorem ledBy_self (hr : Rule.findIn? rules name = some r) :
    LedBy rules empty (fun name' => AnyLeads empty name' r.alternatives) name :=
  fun _ hleads hsome => .single ⟨r, hr, hleads, hsome⟩

/-- What can stand first in a rule precedes all that the rule precedes. -/
theorem LedBy.enter (h : LedBy rules empty (fun name'' => name = name'') name')
    (hr : Rule.findIn? rules name = some r) :
    LedBy rules empty (fun name'' => AnyLeads empty name'' r.alternatives) name' := by
  intro name'' hleads hsome
  have hname := h name rfl (by rw [hr, Option.isSome_some])
  exact .head ⟨r, hr, hleads, hsome⟩ hname

/-- A rule does not precede itself. -/
theorem Acyclic.ne (hacyclic : Acyclic rules empty)
    (h : LedBy rules empty (fun name'' => name = name'') name')
    (hr : Rule.findIn? rules name = some r) : name' ≠ name := by
  rintro rfl
  exact hacyclic name' (h name' rfl (by rw [hr, Option.isSome_some]))

theorem Acyclic.not_winds (h : Acyclic rules empty) : ¬Winds rules empty name := by
  rintro ⟨name', -, hcycle⟩
  exact h name' hcycle

/-- What leads to something that winds does so itself. -/
theorem Winds.tail (h : Winds rules empty name) (hprecedes : Precedes rules empty name name') :
    Winds rules empty name' := by
  obtain ⟨name'', hleads, hcycle⟩ := h
  exact ⟨name'', hleads.tail hprecedes, hcycle⟩

/-- A rule in which no winding rule can stand first is straight inside. -/
theorem straight_of_not_winds (hr : Rule.findIn? rules name = some r)
    (h : ¬Winds rules empty name) :
    Straight rules empty fun name' => AnyLeads empty name' r.alternatives :=
  fun _ hleads hsome hwinds => h (hwinds.tail ⟨r, hr, hleads, hsome⟩)

/-- A rule that is met again winds. -/
theorem LedBy.winds (h : LedBy rules empty (fun name' => name = name') name)
    (hr : Rule.findIn? rules name = some r) : Winds rules empty name :=
  ⟨name, .refl, h name rfl (by rw [hr, Option.isSome_some])⟩

theorem Straight.mono (h : Straight rules empty leads) (hleads : ∀ name, leads' name → leads name) :
    Straight rules empty leads' :=
  fun name hname => h name (hleads name hname)

end Order

/-! ## Memories of answers -/

/-- A memory has all answers of another, and maybe more. -/
def Memo.Extends (memo memo' : Memo) : Prop :=
  ∀ name answer, memo.lookup name = some answer → memo'.lookup name = some answer

/-- The rules that are being answered have no answer yet. -/
def Memo.Open (memo : Memo) (active : List String) : Prop :=
  ∀ name ∈ active, memo.lookup name = none

/-- The rules that may match nothing as far as a memory says: all but those of which it says that
they may not. -/
def Memo.Admits (memo : Memo) (rules : List Rule) (name : String) : Prop :=
  (Rule.findIn? rules name).isSome = true ∧ memo.lookup name ≠ some false

/-- All answers are about rules, and those that say no of a rule that does not wind are right, as
far as `final` says. -/
def Memo.Justified (memo final : Memo) (rules : List Rule) : Prop :=
  ∀ name answer, memo.lookup name = some answer →
    ∃ r, Rule.findIn? rules name = some r ∧
      (answer = false → ¬Winds rules (final.Admits rules) name →
        ¬AnyVanishes (final.Admits rules) r.alternatives)

theorem Memo.Extends.refl (memo : Memo) : memo.Extends memo := fun _ _ h => h

theorem Memo.Extends.trans {memo memo' memo'' : Memo} (h : memo.Extends memo')
    (h' : memo'.Extends memo'') : memo.Extends memo'' :=
  fun name answer hname => h' name answer (h name answer hname)

/-- A new answer leaves the others as they are. -/
theorem Memo.extends_cons {memo : Memo} {name : String} (h : memo.lookup name = none)
    (answer : Bool) : memo.Extends ((name, answer) :: memo) := by
  intro name' answer' hname'
  have hne : (name' == name) = false := by
    rw [beq_eq_false_iff_ne]
    rintro rfl
    rw [h] at hname'
    cases hname'
  rwa [List.lookup_cons, hne]

theorem Memo.open_cons {memo : Memo} {active : List String} {name : String}
    (h : memo.Open active) (hname : memo.lookup name = none) : memo.Open (name :: active) := by
  intro name' hmem
  rcases List.mem_cons.1 hmem with rfl | hmem
  · exact hname
  · exact h name' hmem

/-- An answer about a rule that is being answered no more. -/
theorem Memo.Open.cons {memo : Memo} {active : List String} {name : String}
    (h : memo.Open active) (hname : name ∉ active) (answer : Bool) :
    Memo.Open ((name, answer) :: memo) active := by
  intro name' hmem
  have hne : (name' == name) = false := by
    rw [beq_eq_false_iff_ne]
    rintro rfl
    exact hname hmem
  rw [List.lookup_cons, hne]
  exact h name' hmem

/-- What the answer `yes` of the latest memory means. -/
theorem Memo.admits_iff {final : Memo} {rules : List Rule} {name : String} {r : Rule}
    {answer : Bool} (h : final.lookup name = some answer)
    (hr : Rule.findIn? rules name = some r) : final.Admits rules name ↔ answer = true := by
  rw [Memo.Admits, h, hr]
  cases answer <;> simp

/-- A new answer that says no has to be right, unless the rule winds. -/
theorem Memo.Justified.cons {memo final : Memo} {rules : List Rule} {name : String} {r : Rule}
    {answer : Bool} (h : memo.Justified final rules) (hr : Rule.findIn? rules name = some r)
    (hno : answer = false → ¬Winds rules (final.Admits rules) name →
      ¬AnyVanishes (final.Admits rules) r.alternatives) :
    Memo.Justified ((name, answer) :: memo) final rules := by
  intro name' answer' hname'
  rw [List.lookup_cons] at hname'
  split at hname'
  · next heq =>
    cases hname'
    rw [beq_iff_eq.1 heq]
    exact ⟨r, hr, hno⟩
  · exact h name' answer' hname'

theorem Memo.not_admits {final : Memo} {rules : List Rule} {name : String}
    (h : Rule.findIn? rules name = none) : ¬final.Admits rules name := by
  rintro ⟨hsome, -⟩
  rw [h] at hsome
  cases hsome

/-! ## Answering -/

section Answers

variable {rules : List Rule} {active : List String} {m : Mark} {name : String} {memo : Memo}

theorem atomNullable_inverted (hm : m.inverted = true) :
    atomNullable rules active (.reference m name) = pure false := by
  rw [atomNullable, if_pos hm]

theorem atomNullable_known {answer : Bool} (hm : ¬m.inverted = true)
    (h : memo.lookup name = some answer) :
    (atomNullable rules active (.reference m name)).run memo = (answer, memo) := by
  rw [atomNullable, if_neg hm]
  simp only [StateT.run_bind, StateT.run_get, pure_bind, h]
  rfl

/-- A rule that has no answer yet. -/
theorem atomNullable_unknown (hm : ¬m.inverted = true) (h : memo.lookup name = none) :
    (atomNullable rules active (.reference m name)).run memo =
      if name ∈ active then (false, memo)
      else
        match Rule.findIn? rules name with
        | none => (false, memo)
        | some r =>
          let turn := (anyNullable rules (name :: active) r.alternatives).run memo
          (turn.1, (name, turn.1) :: turn.2) := by
  rw [atomNullable, if_neg hm]
  simp only [StateT.run_bind, StateT.run_get, pure_bind, h]
  by_cases ha : name ∈ active
  · simp only [dif_pos ha, if_pos ha]
    rfl
  · simp only [dif_neg ha, if_neg ha]
    split
    · next hr =>
      rw [hr]
      rfl
    · next r hr =>
      rw [hr]
      rfl

/-- An answer is only looked up and added while no rule that is being answered gets one. -/
def Grows (active : List String) {β : Type} (x : StateM Memo β) : Prop :=
  ∀ memo : Memo, memo.Open active → memo.Extends (x.run memo).2 ∧ (x.run memo).2.Open active

theorem Grows.pure {β : Type} (b : β) : Grows active (pure b) :=
  fun memo h => ⟨.refl memo, h⟩

theorem Grows.bind {β γ : Type} {x : StateM Memo β} {f : β → StateM Memo γ}
    (hx : Grows active x) (hf : ∀ b, Grows active (f b)) : Grows active (x >>= f) := by
  intro memo h
  obtain ⟨hextends, hopen⟩ := hx memo h
  obtain ⟨hextends', hopen'⟩ := hf (x.run memo).1 (x.run memo).2 hopen
  exact ⟨hextends.trans hextends', hopen'⟩

theorem reference_grows (h : name ∉ active → ∀ r, Rule.findIn? rules name = some r →
      Grows (name :: active) (anyNullable rules (name :: active) r.alternatives))
    (hm : ¬m.inverted = true) :
    Grows active (atomNullable rules active (.reference m name)) := by
  intro memo hopen
  cases hname : memo.lookup name with
  | some answer =>
    rw [atomNullable_known hm hname]
    exact ⟨.refl memo, hopen⟩
  | none =>
    rw [atomNullable_unknown hm hname]
    by_cases ha : name ∈ active
    · rw [if_pos ha]
      exact ⟨.refl memo, hopen⟩
    · rw [if_neg ha]
      cases hr : Rule.findIn? rules name with
      | none => exact ⟨.refl memo, hopen⟩
      | some r =>
        obtain ⟨hextends, hopen'⟩ := h ha r hr memo (Memo.open_cons hopen hname)
        have hstill := hopen' name List.mem_cons_self
        refine ⟨hextends.trans (Memo.extends_cons hstill _), Memo.Open.cons ?_ ha _⟩
        exact fun name' hmem => hopen' name' (List.mem_cons_of_mem _ hmem)

/-- Memories grow whatever is asked. -/
theorem nullable_grows (rules : List Rule) :
    (∀ active atoms, Grows active (chainNullable rules active atoms)) ∧
    (∀ active a, Grows active (atomNullable rules active a)) ∧
    (∀ active alternatives, Grows active (anyNullable rules active alternatives)) := by
  refine chainNullable.mutual_induct rules _ _ _
    ?chainNil ?chainOptional ?chainCons ?leaf ?inverted ?reference ?lookahead ?invertedGroup
    ?group ?anyNil ?anyCons
  case chainNil =>
    intro active
    rw [chainNullable]
    exact .pure true
  case chainOptional =>
    intro active a atoms ho hrest
    rw [chainNullable, if_pos ho]
    exact hrest
  case chainCons =>
    intro active a atoms ho hatom hrest
    rw [chainNullable, if_neg ho]
    refine hatom.bind fun answer => ?_
    split
    · exact hrest
    · exact .pure false
  case leaf =>
    intro active m l
    rw [atomNullable]
    exact .pure false
  case inverted =>
    intro active m name hm
    rw [atomNullable_inverted hm]
    exact .pure false
  case reference =>
    intro active m name hm hrule
    exact reference_grows hrule hm
  case lookahead =>
    intro active m value alternatives
    rw [atomNullable, if_pos rfl]
    exact .pure true
  case invertedGroup =>
    intro active m lookahead value alternatives hl hm
    rw [atomNullable, if_neg hl, if_pos hm]
    exact .pure false
  case group =>
    intro active m lookahead value alternatives hl hm hany
    rw [atomNullable, if_neg hl, if_neg hm]
    exact hany
  case anyNil =>
    intro active
    rw [anyNullable]
    exact .pure false
  case anyCons =>
    intro active atoms alternatives hchain hrest
    rw [anyNullable]
    refine hchain.bind fun answer => ?_
    split
    · exact .pure true
    · exact hrest

/-! ### The answers are right -/

variable {final : Memo} {x : StateM Memo Bool} {p q : Prop} {leads leads' : String → Prop}

/-- The answer says whether something holds, as far as `final` says, and the memory stays
justified. That the answer is not no by mistake is only known if no winding rule can stand first in
what the question is about. -/
def Decides (rules : List Rule) (final : Memo) (active : List String) (x : StateM Memo Bool)
    (p : Prop) (leads : String → Prop) : Prop :=
  ∀ memo : Memo, memo.Open active → memo.Justified final rules → (x.run memo).2.Extends final →
    ((x.run memo).1 = true → p) ∧
      (Straight rules (final.Admits rules) leads → p → (x.run memo).1 = true) ∧
      (x.run memo).2.Justified final rules

theorem Decides.pure {b : Bool} (hyes : b = true → p)
    (hno : Straight rules (final.Admits rules) leads → p → b = true) :
    Decides rules final active (pure b) p leads :=
  fun _ _ hmemo _ => ⟨hyes, hno, hmemo⟩

theorem Decides.congr (hx : Decides rules final active x p leads) (h : p ↔ q)
    (hleads : ∀ name, leads name → leads' name) : Decides rules final active x q leads' := by
  intro memo hopen hmemo hfinal
  obtain ⟨hyes, hno, hmemo'⟩ := hx memo hopen hmemo hfinal
  exact ⟨fun ht => h.1 (hyes ht), fun hstraight hq => hno (hstraight.mono hleads) (h.2 hq), hmemo'⟩

theorem Decides.bind {f : Bool → StateM Memo Bool} (hx : Decides rules final active x p leads)
    (hgrows : Grows active x) (hgrows' : ∀ b, Grows active (f b))
    (hf : ∀ b, (b = true → p) → (Straight rules (final.Admits rules) leads → p → b = true) →
      Decides rules final active (f b) q leads') :
    Decides rules final active (x >>= f) q leads' := by
  intro memo hopen hmemo hfinal
  obtain ⟨-, hopen'⟩ := hgrows memo hopen
  obtain ⟨hextends, -⟩ := hgrows' (x.run memo).1 (x.run memo).2 hopen'
  obtain ⟨hyes, hno, hmemo'⟩ := hx memo hopen hmemo (hextends.trans hfinal)
  exact hf (x.run memo).1 hyes hno (x.run memo).2 hopen' hmemo' hfinal

/-- The answer about a rule, which has to be found if the rule has none yet. -/
theorem reference_decides
    (h : name ∉ active → ∀ r, Rule.findIn? rules name = some r →
      (∀ name' ∈ name :: active, LedBy rules (final.Admits rules)
        (fun name'' => AnyLeads (final.Admits rules) name'' r.alternatives) name') →
      Decides rules final (name :: active) (anyNullable rules (name :: active) r.alternatives)
        (AnyVanishes (final.Admits rules) r.alternatives)
        fun name' => AnyLeads (final.Admits rules) name' r.alternatives)
    (hm : ¬m.inverted = true)
    (hled : ∀ name' ∈ active,
      LedBy rules (final.Admits rules) (fun name'' => name = name'') name') :
    Decides rules final active (atomNullable rules active (.reference m name))
      (final.Admits rules name) fun name' => name = name' := by
  intro memo hopen hmemo hfinal
  cases hname : memo.lookup name with
  | some answer =>
    rw [atomNullable_known hm hname] at hfinal ⊢
    obtain ⟨r, hr, -⟩ := hmemo name answer hname
    have hadmits := Memo.admits_iff (hfinal name answer hname) hr
    exact ⟨hadmits.2, fun _ => hadmits.1, hmemo⟩
  | none =>
    rw [atomNullable_unknown hm hname] at hfinal ⊢
    cases hr : Rule.findIn? rules name with
    | none =>
      have hno : final.Admits rules name → false = true := fun h => absurd h (Memo.not_admits hr)
      split <;> exact ⟨fun hf => Bool.noConfusion hf, fun _ => hno, hmemo⟩
    | some r =>
      by_cases ha : name ∈ active
      · -- The rule is met again while it is being answered, so it winds.
        rw [if_pos ha]
        refine ⟨fun hf => Bool.noConfusion hf, fun hstraight _ => ?_, hmemo⟩
        exact absurd ((hled name ha).winds hr) (hstraight name rfl (by rw [hr, Option.isSome_some]))
      · rw [if_neg ha, hr] at hfinal
        rw [if_neg ha]
        dsimp only at hfinal ⊢
        have hled' : ∀ name' ∈ name :: active, LedBy rules (final.Admits rules)
            (fun name'' => AnyLeads (final.Admits rules) name'' r.alternatives) name' := by
          intro name' hmem
          rcases List.mem_cons.1 hmem with rfl | hmem
          · exact ledBy_self hr
          · exact (hled name' hmem).enter hr
        have hopen' := Memo.open_cons hopen hname
        have hstill := ((nullable_grows rules).2.2 (name :: active) r.alternatives memo hopen').2
          name List.mem_cons_self
        obtain ⟨hyes, hno, hmemo'⟩ := h ha r hr hled' memo hopen' hmemo
          ((Memo.extends_cons hstill _).trans hfinal)
        have hadmits := Memo.admits_iff (hfinal name _ List.lookup_cons_self) hr
        refine ⟨hadmits.2, fun _ => hadmits.1, ?_⟩
        refine hmemo'.cons hr fun hfalse hwinds hvanishes => ?_
        rw [hno (straight_of_not_winds hr hwinds) hvanishes] at hfalse
        cases hfalse

/-- **Answers are right.** They agree with the latest memory, and of the rules of which they say no,
those that do not wind may not match nothing. -/
theorem nullable_decides (rules : List Rule) (final : Memo) :
    (∀ active atoms,
      (∀ name ∈ active, LedBy rules (final.Admits rules)
        (fun name' => ChainLeads (final.Admits rules) name' atoms) name) →
      Decides rules final active (chainNullable rules active atoms)
        (ChainVanishes (final.Admits rules) atoms)
        fun name => ChainLeads (final.Admits rules) name atoms) ∧
    (∀ active a,
      (∀ name ∈ active, LedBy rules (final.Admits rules)
        (fun name' => AtomLeads (final.Admits rules) name' a) name) →
      Decides rules final active (atomNullable rules active a)
        (AtomVanishes (final.Admits rules) a)
        fun name => AtomLeads (final.Admits rules) name a) ∧
    (∀ active alternatives,
      (∀ name ∈ active, LedBy rules (final.Admits rules)
        (fun name' => AnyLeads (final.Admits rules) name' alternatives) name) →
      Decides rules final active (anyNullable rules active alternatives)
        (AnyVanishes (final.Admits rules) alternatives)
        fun name => AnyLeads (final.Admits rules) name alternatives) := by
  refine chainNullable.mutual_induct rules _ _ _
    ?chainNil ?chainOptional ?chainCons ?leaf ?inverted ?reference ?lookahead ?invertedGroup
    ?group ?anyNil ?anyCons
  case chainNil =>
    intro active hled
    rw [chainNullable, ChainVanishes]
    exact .pure (fun _ => trivial) fun _ _ => rfl
  case chainOptional =>
    intro active a atoms ho hrest hled
    rw [chainNullable, if_pos ho, ChainVanishes]
    have hleads : ∀ name, ChainLeads (final.Admits rules) name atoms →
        ChainLeads (final.Admits rules) name (a :: atoms) := fun name h => .inr ⟨.inl ho, h⟩
    exact (hrest (ledBy_mono hled hleads)).congr (by simp [ho]) hleads
  case chainCons =>
    -- The rest is asked only if the atom vanishes, and then the names that lead the rest lead the
    -- whole chain.
    intro active a atoms ho hatom hrest hled
    have hgrows : ∀ answer, Grows active
        (if answer = true then chainNullable rules active atoms else pure false) := by
      intro answer
      split
      · exact (nullable_grows rules).1 active atoms
      · exact .pure false
    have hfirst : ∀ name, AtomLeads (final.Admits rules) name a →
        ChainLeads (final.Admits rules) name (a :: atoms) := fun name h => .inl h
    rw [chainNullable, if_neg ho, ChainVanishes]
    refine (hatom (ledBy_mono hled hfirst)).bind ((nullable_grows rules).2.1 active a) hgrows
      fun answer hyes hno => ?_
    split
    · next ht =>
      have hvanishes := hyes ht
      have hleads : ∀ name, ChainLeads (final.Admits rules) name atoms →
          ChainLeads (final.Admits rules) name (a :: atoms) :=
        fun name h => .inr ⟨.inr hvanishes, h⟩
      exact (hrest (ledBy_mono hled hleads)).congr (by simp [hvanishes]) hleads
    · next hf =>
      refine .pure (fun ht => Bool.noConfusion ht) fun hstraight hvanishes => ?_
      exact absurd (hno (hstraight.mono hfirst) (hvanishes.1.resolve_left ho)) hf
  case leaf =>
    intro active m l hled
    rw [atomNullable, AtomVanishes]
    exact .pure (fun ht => Bool.noConfusion ht) fun _ hf => hf.elim
  case inverted =>
    intro active m name hm hled
    rw [atomNullable_inverted hm, AtomVanishes]
    exact .pure (fun ht => Bool.noConfusion ht) fun _ hvanishes => by simp [hm] at hvanishes
  case reference =>
    intro active m name hm hrule hled
    rw [AtomVanishes]
    exact (reference_decides hrule hm hled).congr (by simp [hm]) fun name' h => h
  case lookahead =>
    intro active m value alternatives hled
    rw [atomNullable, if_pos rfl, AtomVanishes]
    exact .pure (fun _ => .inl rfl) fun _ _ => rfl
  case invertedGroup =>
    intro active m lookahead value alternatives hl hm hled
    rw [atomNullable, if_neg hl, if_pos hm, AtomVanishes]
    exact .pure (fun ht => Bool.noConfusion ht) fun _ hvanishes => by simp [hl, hm] at hvanishes
  case group =>
    intro active m lookahead value alternatives hl hm hany hled
    rw [atomNullable, if_neg hl, if_neg hm, AtomVanishes]
    exact (hany hled).congr (by simp [hl, hm]) fun name h => h
  case anyNil =>
    intro active hled
    rw [anyNullable, AnyVanishes]
    exact .pure (fun ht => Bool.noConfusion ht) fun _ hf => hf.elim
  case anyCons =>
    intro active atoms alternatives hchain hrest hled
    have hgrows : ∀ answer, Grows active
        (if answer = true then pure true else anyNullable rules active alternatives) := by
      intro answer
      split
      · exact .pure true
      · exact (nullable_grows rules).2.2 active alternatives
    have hfirst : ∀ name, ChainLeads (final.Admits rules) name atoms →
        AnyLeads (final.Admits rules) name (atoms :: alternatives) := fun name h => .inl h
    have hothers : ∀ name, AnyLeads (final.Admits rules) name alternatives →
        AnyLeads (final.Admits rules) name (atoms :: alternatives) := fun name h => .inr h
    rw [anyNullable, AnyVanishes]
    refine (hchain (ledBy_mono hled hfirst)).bind ((nullable_grows rules).1 active atoms) hgrows
      fun answer hyes hno => ?_
    split
    · next ht => exact .pure (fun _ => .inl (hyes ht)) fun _ _ => rfl
    · next hf =>
      intro memo hopen hmemo hfinal
      obtain ⟨hyes', hno', hmemo'⟩ := hrest (ledBy_mono hled hothers) memo hopen hmemo hfinal
      refine ⟨fun ht => .inr (hyes' ht), fun hstraight hvanishes => ?_, hmemo'⟩
      rcases hvanishes with hvanishes | hvanishes
      · exact absurd (hno (hstraight.mono hfirst) hvanishes) hf
      · exact hno' (hstraight.mono hothers) hvanishes

end Answers

end Lexigram.LeftRecursion
