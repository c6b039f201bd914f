import Lexigram.Proofs.Lookaheads
import Lexigram.Proofs.Vanishing

/-!
# Lazy decisions and active rules

A lazy repetition asks whether what is pending matches at the cursor, while the rules around it are
still active. A rule that is pending as well as active at the cursor is not entered there, so the
answer may be another than with no active rules.

**Unfolding** (`Unfolds`). Some atoms become others if the first of them is passed because it may
match nothing, or if its inside takes its place. A rule can stand first (`StandsFirst`) if a
reference to it comes to the front. **Going on** (`Onward`). Of a call and those that it makes, each
goes on behind the one before it in the input, or from what the atoms ahead of that one unfold into.

**Shelter** (`Shelters`). The atoms ahead begin with some that may not match nothing, and all names
that can stand first in these precede a rule. A rule that may not match nothing is sheltered while
it is active at the cursor, by what is left of it.

Main result: `continues_unguarded`.
-/

namespace Lexigram

open LeftRecursion

/-! ## Unfolding -/

/-- Some atoms become others in one step. -/
inductive Unfolds (g : Grammar) (empty : String → Prop) : List Atom → List Atom → Prop
  | pass {a atoms} : (a.mark.quantifier.isOptional = true ∨ AtomVanishes empty a) →
    Unfolds g empty (a :: atoms) atoms
  | open {m lookahead value alternatives atoms rest} : atoms ∈ alternatives →
    Unfolds g empty (.group m lookahead value alternatives :: rest) (atoms ++ rest)
  | enter {m name r rest} : g.find? name = some r →
    Unfolds g empty (.reference m name :: rest) (r.head :: rest)

/-- Some atoms become others in any number of steps. -/
abbrev UnfoldsTo (g : Grammar) (empty : String → Prop) : List Atom → List Atom → Prop :=
  Relation.ReflTransGen (Unfolds g empty)

/-- A rule can stand first in some atoms. -/
def StandsFirst (g : Grammar) (name : String) (atoms : List Atom) : Prop :=
  ∃ m rest, UnfoldsTo g (MayVanish g.rules) atoms (.reference m name :: rest)

theorem UnfoldsTo.passed {g : Grammar} {empty : String → Prop} {atoms : List Atom}
    (h : ChainVanishes empty atoms) (rest : List Atom) :
    UnfoldsTo g empty (atoms ++ rest) rest := by
  induction atoms with
  | nil => exact .refl
  | cons a atoms ih =>
    rw [ChainVanishes] at h
    exact .head (.pass h.1) (ih h.2)

/-! ## Shelter -/

/-- What an atom tests, or an atom inside it, may match nothing only if that atom may. -/
def Atom.Upright (empty : String → Prop) (a : Atom) : Prop :=
  ∀ b ∈ Atom.flatten [[a]], TestVanishes empty b → AtomVanishes empty b

/-- A rule inverts nothing that may match nothing. -/
def Rule.Upright (rules : List Rule) (r : Rule) : Prop :=
  ∀ a ∈ r.atoms, a.mark.inverted = true → a.isLookahead = false →
    ¬TestVanishes (MayVanish rules) a

theorem Rule.Upright.head {rules : List Rule} {r : Rule} (h : r.Upright rules) :
    r.head.Upright (MayVanish rules) := by
  intro b hb hvanishes
  by_cases hm : b.mark.inverted = true
  · by_cases hl : b.isLookahead = true
    · exact atomVanishes_of_isLookahead hl
    · rw [Bool.not_eq_true] at hl
      rw [Atom.flatten_cons, Atom.flatten_nil_cons, Atom.flatten_nil, List.append_nil] at hb
      rcases List.mem_cons.1 hb with rfl | hb
      · cases hm
      · exact absurd hvanishes (h b hb hm hl)
  · exact hvanishes.atom (Bool.eq_false_iff.2 hm)

theorem Atom.Upright.inside {empty : String → Prop} {m : Mark} {lookahead : Bool}
    {value : List Char} {alternatives : List (List Atom)}
    (h : (Atom.group m lookahead value alternatives).Upright empty) {atoms : List Atom}
    (hatoms : atoms ∈ alternatives) : ∀ a ∈ atoms, a.Upright empty := by
  intro a ha b hb
  refine h b ?_
  rw [Atom.flatten_cons]
  exact List.mem_cons_of_mem _ (List.mem_append_left _ (Matching.mem_flatten hb ha hatoms))

/-- Some atoms begin with upright ones that may not match nothing, and in which only names can stand
first that precede a rule. -/
def Shelters (rules : List Rule) (empty : String → Prop) (name : String) (atoms : List Atom) :
    Prop :=
  ∃ inner outer, atoms = inner ++ outer ∧ ¬ChainVanishes empty inner ∧
    LedBy rules empty (fun name' => ChainLeads empty name' inner) name ∧
    ∀ a ∈ inner, a.Upright empty

section Shelter

variable {rules : List Rule} {g : Grammar} {empty : String → Prop} {name : String}
variable {atoms atoms' : List Atom}

/-- The first of some sheltering atoms. -/
theorem Shelters.cons {a : Atom} (h : Shelters rules empty name (a :: atoms)) :
    ∃ inner outer, atoms = inner ++ outer ∧ ¬ChainVanishes empty (a :: inner) ∧
      LedBy rules empty (fun name' => ChainLeads empty name' (a :: inner)) name ∧
      a.Upright empty ∧ ∀ b ∈ inner, b.Upright empty := by
  obtain ⟨inner, outer, heq, hno, hled, hupright⟩ := h
  cases inner with
  | nil =>
    rw [ChainVanishes] at hno
    exact absurd trivial hno
  | cons b inner =>
    obtain ⟨rfl, rfl⟩ := List.cons.inj heq
    rw [List.forall_mem_cons] at hupright
    exact ⟨inner, outer, rfl, hno, hled, hupright⟩

theorem Shelters.pass {a : Atom} (h : Shelters rules empty name (a :: atoms))
    (ha : a.mark.quantifier.isOptional = true ∨ AtomVanishes empty a) :
    Shelters rules empty name atoms := by
  obtain ⟨inner, outer, rfl, hno, hled, -, hupright⟩ := h.cons
  refine ⟨inner, outer, rfl, fun hvanishes => hno ?_, hled.mono fun name' hleads => ?_, hupright⟩
  · rw [ChainVanishes]
    exact ⟨ha, hvanishes⟩
  · rw [ChainLeads]
    exact .inr ⟨ha, hleads⟩

/-- What takes the place of the first atom shelters if only names can stand first in it that precede
the rule, and if it may match nothing only if the atom may. -/
theorem Shelters.replace {a : Atom} (h : Shelters rules empty name (a :: atoms))
    (hvanishes : ChainVanishes empty atoms' → TestVanishes empty a)
    (hleads : LedBy rules empty (fun name' => AtomLeads empty name' a) name →
      LedBy rules empty (fun name' => ChainLeads empty name' atoms') name)
    (hupright : ∀ b ∈ atoms', b.Upright empty) :
    Shelters rules empty name (atoms' ++ atoms) := by
  obtain ⟨inner, outer, rfl, hno, hled, ha, hinner⟩ := h.cons
  have hpass : ChainVanishes empty atoms' →
      a.mark.quantifier.isOptional = true ∨ AtomVanishes empty a :=
    fun hempty => .inr (ha a (Matching.mem_flatten_self a) (hvanishes hempty))
  refine ⟨atoms' ++ inner, outer, (List.append_assoc ..).symm, fun hempty => hno ?_, ?_, ?_⟩
  · rw [chainVanishes_append] at hempty
    rw [ChainVanishes]
    exact ⟨hpass hempty.1, hempty.2⟩
  · intro name' hname' hsome
    rcases chainLeads_append.1 hname' with hfirst | ⟨hempty, hrest⟩
    · have hatom : LedBy rules empty (fun name' => AtomLeads empty name' a) name :=
        hled.mono fun name'' hname'' => by
          rw [ChainLeads]
          exact .inl hname''
      exact hleads hatom name' hfirst hsome
    · have hchain : ChainLeads empty name' (a :: inner) := by
        rw [ChainLeads]
        exact .inr ⟨hpass hempty, hrest⟩
      exact hled name' hchain hsome
  · intro b hb
    exact (List.mem_append.1 hb).elim (hupright b) (hinner b)

/-- **Shelter lasts.** -/
theorem Shelters.unfold (h : Shelters g.rules (MayVanish g.rules) name atoms)
    (hunfolds : UnfoldsTo g (MayVanish g.rules) atoms atoms')
    (hupright : ∀ r ∈ g.rules, r.Upright g.rules) :
    Shelters g.rules (MayVanish g.rules) name atoms' := by
  induction hunfolds with
  | refl => exact h
  | tail _ hstep ih =>
    cases hstep with
    | pass ha => exact ih.pass ha
    | «open» hatoms =>
      refine ih.replace (fun hempty => ?_) (fun hled => hled.mono fun name' hleads => ?_) ?_
      · exact anyVanishes_of_mem hatoms hempty
      · rw [AtomLeads]
        exact anyLeads_of_mem hatoms hleads
      · obtain ⟨-, -, -, -, -, ha, -⟩ := ih.cons
        exact ha.inside hatoms
    | @enter m name' r rest hr =>
      show Shelters g.rules (MayVanish g.rules) name ([r.head] ++ _)
      refine ih.replace (fun hempty => ?_) (fun hled => ?_) ?_
      · exact closed_mayVanish g.rules name' r hr (chainVanishes_head.1 hempty)
      · simp only [AtomLeads] at hled
        exact (hled.enter hr).mono fun name'' hleads => chainLeads_head.1 hleads
      · intro b hb
        rw [List.mem_singleton.1 hb]
        exact (hupright r (Rule.findIn?_eq_some hr).1).head

/-- A sheltered rule cannot stand first. -/
theorem Shelters.not_standsFirst (h : Shelters g.rules (MayVanish g.rules) name atoms)
    (hlayered : Layered g.rules (MayVanish g.rules))
    (hupright : ∀ r ∈ g.rules, r.Upright g.rules) (hsome : (g.find? name).isSome = true) :
    ¬StandsFirst g name atoms := by
  rintro ⟨m, rest, hunfolds⟩
  obtain ⟨inner, outer, -, -, hled, -⟩ := (h.unfold hunfolds hupright).cons
  have hfirst : ChainLeads (MayVanish g.rules) name (.reference m name :: inner) := by
    rw [ChainLeads, AtomLeads]
    exact .inl rfl
  exact hlayered.acyclic name (hled name hfirst hsome)

/-- A rule that may not match nothing shelters itself when it is entered. -/
theorem shelters_head {r : Rule} (hr : g.find? name = some r)
    (hno : ¬MayVanish g.rules name) (hupright : r.Upright g.rules) (rest : List Atom) :
    Shelters g.rules (MayVanish g.rules) name (r.head :: rest) := by
  refine ⟨[r.head], rest, rfl, fun hempty => hno ?_, ?_, fun a ha => ?_⟩
  · exact closed_mayVanish g.rules name r hr (chainVanishes_head.1 hempty)
  · exact (ledBy_self hr).mono fun name' hleads => chainLeads_head.1 hleads
  · rw [List.mem_singleton.1 ha]
    exact hupright.head

end Shelter

namespace Matching

variable {α : Type}

/-! ## Going on -/

/-- What may have to follow from the position of a call on. Behind a turn of a repetition what is
pending may follow at once. -/
def Call.futures : Call α → List (List Atom)
  | .turns _ pending a _ (_ + 1) => [a :: pending.flatten, pending.flatten]
  | c => c.aheads

theorem Call.mem_futures_turns (active : List (Nat × Nat)) (pending : List (List Atom)) (a : Atom)
    (tree : SyntaxTree α) (count : Nat) :
    a :: pending.flatten ∈ (Call.turns active pending a tree count).futures := by
  cases count <;> exact List.mem_cons_self

/-- A call goes on behind another, or from what the atoms ahead of that one unfold into. -/
def Onward (g : Grammar) (empty : String → Prop) (c c' : Call α) : Prop :=
  c.place < c'.place ∨ c.place = c'.place ∧
    ∀ ahead' ∈ c'.futures, ∃ ahead ∈ c.futures, UnfoldsTo g empty ahead ahead'

section

variable {g : Grammar} {empty : String → Prop} {c c' c'' : Call α}

theorem Onward.le (h : Onward g empty c c') : c.place ≤ c'.place :=
  h.elim Nat.le_of_lt fun hsame => Nat.le_of_eq hsame.1

theorem Onward.refl (c : Call α) : Onward g empty c c :=
  .inr ⟨rfl, fun ahead hahead => ⟨ahead, hahead, .refl⟩⟩

theorem Onward.trans (h : Onward g empty c c') (h' : Onward g empty c' c'') :
    Onward g empty c c'' := by
  rcases h' with hlt | ⟨hplace', hfutures'⟩
  · exact .inl (Nat.lt_of_le_of_lt h.le hlt)
  · rcases h with hlt | ⟨hplace, hfutures⟩
    · exact .inl (hplace' ▸ hlt)
    · refine .inr ⟨hplace.trans hplace', fun ahead'' hahead'' => ?_⟩
      obtain ⟨ahead', hahead', hunfolds'⟩ := hfutures' ahead'' hahead''
      obtain ⟨ahead, hahead, hunfolds⟩ := hfutures ahead' hahead'
      exact ⟨ahead, hahead, hunfolds.trans hunfolds'⟩

/-- A call with one future goes on at the same place. -/
theorem Onward.here {ahead ahead' : List Atom} (hplace : c.place = c'.place)
    (hahead : ahead ∈ c.futures) (hunfolds : UnfoldsTo g empty ahead ahead')
    (hfutures : c'.futures = [ahead']) : Onward g empty c c' := by
  refine .inr ⟨hplace, fun other hother => ?_⟩
  rw [hfutures, List.mem_singleton] at hother
  exact ⟨ahead, hahead, hother ▸ hunfolds⟩

end

variable [Readable α] {g : Grammar} {empty : String → Prop} {s : List α} {c c' : Call α}

theorem Makes.boundary (h : Makes g (.ofUnits s) c c') (hb : Boundary s c.place) :
    Boundary s c'.place := by
  cases h with
  | @rest active pending tree a atoms step hvalue =>
    have hsettled := (repeated_settled g active (atoms :: pending) hb a).2
    rw [Call.place, hvalue] at hsettled
    exact hsettled.wellFormed.boundary_stop
  | @again active pending a tree count turn hgo hanswer hturn =>
    have hfound := (attempt_found g active pending hb a).2 turn hturn
    rw [Call.place, SyntaxTree.stop_merge]
    exact hfound.1.wellFormed.boundary_stop
  | @parts active outer a atoms pos part hvalue =>
    have hsettled := (steps_settled g active outer (.begin hb (some a.handle)) (fun _ => rfl)
      (a :: atoms)).2
    rw [Call.place, hvalue] at hsettled
    exact hsettled.wellFormed.boundary_stop
  | _ => exact hb

/-- **A call goes on from where it was made.** What was passed on the way without being matched may
match nothing. -/
theorem Makes.onward (hclosed : Closed g.rules empty) (h : Makes g (.ofUnits s) c c')
    (hb : Boundary s c.place) : Onward g empty c c' := by
  cases h with
  | first => exact .here rfl List.mem_cons_self .refl rfl
  | @rest active pending tree a atoms step hvalue hm =>
    have hpasses := (matching_passes hclosed s).2 active (atoms :: pending) a tree.stop hb
    rw [hvalue] at hpasses
    rcases Nat.lt_or_eq_of_le hpasses.1 with hlt | heq
    · exact .inl hlt
    · exact .here heq List.mem_cons_self (.single (.pass (hpasses.2 hm heq.symm))) rfl
  | look => exact .here rfl List.mem_cons_self .refl rfl
  | turn => exact .here rfl List.mem_cons_self .refl rfl
  | @ask active pending a tree count hgo hlazy =>
    rw [Bool.and_eq_true] at hlazy
    cases count with
    | zero =>
      have hoptional := isOptional_of_accepts hlazy.2
      exact .here rfl List.mem_cons_self (.single (.pass (.inl hoptional))) rfl
    | succ count => exact .here rfl (List.mem_cons_of_mem _ List.mem_cons_self) .refl rfl
  | «try» => exact .here rfl (Call.mem_futures_turns ..) .refl rfl
  | again hgo hanswer hturn hlt =>
    refine .inl ?_
    rw [Call.place, Call.place, SyntaxTree.stop_merge]
    exact hlt
  | skip => exact .here rfl List.mem_cons_self .refl rfl
  | part => exact .here rfl List.mem_cons_self .refl rfl
  | @parts active outer a atoms pos part hvalue hm =>
    have hpasses := (matching_passes hclosed s).1 active outer (.begin (some a.handle) pos)
      (a :: atoms) hb rfl
    rw [hvalue] at hpasses
    rcases Nat.lt_or_eq_of_le hpasses.1 with hlt | heq
    · exact .inl hlt
    · exact .here heq List.mem_cons_self (.passed (hpasses.2 hm heq.symm) _) rfl
  | once => exact .here rfl List.mem_cons_self .refl rfl
  | enter hr => exact .here rfl List.mem_cons_self (.single (.enter hr)) rfl
  | choose =>
    refine .inr ⟨rfl, fun ahead' hahead' => ⟨_, List.mem_cons_self, ?_⟩⟩
    obtain ⟨atoms, hatoms, rfl⟩ := List.mem_map.1 hahead'
    exact .single (.open hatoms)
  | alternative => exact .here rfl List.mem_cons_self .refl rfl
  | alternatives =>
    exact .inr ⟨rfl, fun ahead hahead => ⟨ahead, List.mem_cons_of_mem _ hahead, .refl⟩⟩

theorem Reaches.onward (hclosed : Closed g.rules empty) (h : Reaches g (.ofUnits s) c c')
    (hb : Boundary s c.place) : Boundary s c'.place ∧ Onward g empty c c' := by
  induction h with
  | refl => exact ⟨hb, .refl c⟩
  | tail _ hmakes ih =>
    exact ⟨hmakes.boundary ih.1, ih.2.trans (hmakes.onward hclosed ih.1)⟩

/-! ## Active rules -/

/-- What is active during a call was entered at its position or before it, and where nothing is
inverted that may match nothing, rules that may not match nothing are sheltered. -/
structure Call.Orderly (g : Grammar) (c : Call α) : Prop where
  entered : ∀ place ∈ c.active, place.2 ≤ c.place
  sheltered : (∀ r ∈ g.rules, r.Upright g.rules) → ∀ r ∈ g.rules, (r.handle, c.place) ∈ c.active →
    ¬MayVanish g.rules r.id →
    ∀ ahead ∈ c.futures, Shelters g.rules (MayVanish g.rules) r.id ahead

/-- The active rules stay the same unless a rule is entered. -/
theorem Makes.active_eq {input : Input α} (h : Makes g input c c') :
    c'.active = c.active ∨ ∃ pending name r, g.find? name = some r ∧
      c'.active = (r.handle, c'.place) :: c.active ∧ c.place = c'.place ∧
      c'.futures = [r.head :: pending] := by
  cases h with
  | enter hr => exact .inr ⟨_, _, _, hr, rfl, rfl, rfl⟩
  | _ => exact .inl rfl

theorem Call.Orderly.makes (hg : g.Built) (hc : c.Orderly g) (h : Makes g (.ofUnits s) c c')
    (hb : Boundary s c.place) : c'.Orderly g := by
  have honward := h.onward (closed_mayVanish g.rules) hb
  -- A rule that was active at the place of the call before is sheltered by what it leads to.
  have hlasts : ∀ r, (r.handle, c'.place) ∈ c.active → r ∈ g.rules → ¬MayVanish g.rules r.id →
      (∀ r ∈ g.rules, r.Upright g.rules) →
      ∀ ahead ∈ c'.futures, Shelters g.rules (MayVanish g.rules) r.id ahead := by
    intro r hactive hr hno hupright ahead' hahead'
    rcases honward with hlt | ⟨hplace, hfutures⟩
    · exact absurd (hc.entered _ hactive) (Nat.not_le.2 hlt)
    · obtain ⟨ahead, hahead, hunfolds⟩ := hfutures ahead' hahead'
      rw [← hplace] at hactive
      exact (hc.sheltered hupright r hr hactive hno ahead hahead).unfold hunfolds hupright
  rcases h.active_eq with hsame | ⟨pending, name, q, hq, hactive, hplace, hfutures⟩
  · refine ⟨fun place hplace => ?_, fun hupright r hr hmem hno => ?_⟩
    · rw [hsame] at hplace
      exact Nat.le_trans (hc.entered place hplace) honward.le
    · rw [hsame] at hmem
      exact hlasts r hmem hr hno hupright
  · obtain ⟨hmem, hid⟩ := Rule.findIn?_eq_some hq
    refine ⟨fun place hin => ?_, fun hupright r hr hin hno => ?_⟩
    · rw [hactive] at hin
      rcases List.mem_cons.1 hin with rfl | hin
      · exact Nat.le_refl _
      · exact Nat.le_trans (hc.entered place hin) honward.le
    · rw [hactive] at hin
      rcases List.mem_cons.1 hin with heq | hin
      · obtain rfl := hg.eq_of_handle_eq hr hmem (congrArg Prod.fst heq)
        intro ahead hahead
        rw [hfutures, List.mem_singleton] at hahead
        rw [hahead]
        rw [hid] at hno ⊢
        exact shelters_head hq hno (hupright r hr) pending
      · exact hlasts r hin hr hno hupright

omit [Readable α] in
theorem Call.Orderly.start (hg : g.Built) {r : Rule} (hr : r ∈ g.rules) (pos : Nat) :
    (Call.start r pos : Call α).Orderly g := by
  refine ⟨fun place hplace => ?_, fun hupright q hq hin hno ahead hahead => ?_⟩
  · rw [List.mem_singleton.1 hplace]
    exact Nat.le_refl pos
  · obtain rfl := hg.eq_of_handle_eq hq hr (congrArg Prod.fst (List.mem_singleton.1 hin))
    rw [List.mem_singleton.1 hahead]
    exact shelters_head (hg.find?_id hq) hno (hupright q hq) []

theorem Reaches.orderly (hg : g.Built) (h : Reaches g (.ofUnits s) c c') (hb : Boundary s c.place)
    (hc : c.Orderly g) : c'.Orderly g := by
  induction h with
  | refl => exact hc
  | tail hreaches hmakes ih =>
    have hhere := (Reaches.onward (closed_mayVanish g.rules) hreaches hb).1
    exact ih.makes hg hmakes hhere

/-! ## Lazy decisions -/

/-- What is pending is matched without trying a rule that is active, if none of these can stand
first. -/
theorem continues_free {active : List (Nat × Nat)} {pending : List (List Atom)} {pos : Nat}
    (hb : Boundary s pos) (hentered : ∀ place ∈ active, place.2 ≤ pos)
    (hclear : ∀ r ∈ g.rules, (r.handle, pos) ∈ active → ¬StandsFirst g r.id pending.flatten) :
    Independent g (.ofUnits s) active [] [] (.continues active pending pos) := by
  intro c hreaches
  refine ⟨fun place hplace htries => ?_, fun _ _ _ _ => rfl⟩
  obtain ⟨active', pending', m, name, pos', r, rfl, hr, -, rfl⟩ := htries
  obtain ⟨hmem, hid⟩ := Rule.findIn?_eq_some hr
  rcases (hreaches.onward (closed_mayVanish g.rules) hb).2 with hlt | ⟨heq, hfutures⟩
  · exact absurd (hentered _ hplace) (Nat.not_le.2 hlt)
  · obtain ⟨ahead, hahead, hunfolds⟩ := hfutures _ List.mem_cons_self
    rw [List.mem_singleton.1 hahead] at hunfolds
    obtain rfl : pos = pos' := heq
    exact hclear r hmem hplace ⟨m, pending'.flatten, hid ▸ hunfolds⟩

/-- **What the guard changes about lazy decisions.** Take any question that a lazy repetition asks
while a rule is matched in a grammar for which no left recursion was reported. If no rule that is
active at the cursor can stand first in what is pending, the answer is the same as with no active
rules. And unless something is inverted that may match nothing, a rule that is active at the cursor
can stand first in what is pending only if it may match nothing. -/
theorem continues_unguarded (hg : g.Built)
    (hreport : ∀ d ∈ g.diagnostics, ∀ path, d.problem ≠ .leftRecursion path) {r : Rule}
    (hr : r ∈ g.rules) {start : Nat} (hb : Boundary s start) {active : List (Nat × Nat)}
    {pending : List (List Atom)} {pos : Nat}
    (hreaches : Reaches g (.ofUnits s) (.start r start) (.continues active pending pos)) :
    ((∀ q ∈ g.rules, (q.handle, pos) ∈ active → ¬StandsFirst g q.id pending.flatten) →
      (continues g (.ofUnits s) active pending pos).value =
        (continues g (.ofUnits s) [] pending pos).value) ∧
    ((∀ q ∈ g.rules, q.Upright g.rules) → ∀ q ∈ g.rules, (q.handle, pos) ∈ active →
      StandsFirst g q.id pending.flatten → MayVanish g.rules q.id) := by
  have horderly := hreaches.orderly hg hb (.start hg hr start)
  have hhere : Boundary s pos := (hreaches.onward (closed_mayVanish g.rules) hb).1
  refine ⟨fun hclear => ?_, fun hupright q hq hactive hfirst => ?_⟩
  · have hfree := continues_free hhere horderly.entered hclear
    exact ((matching_independent g (.ofUnits s) active [] []).2.2 active pending pos hfree []
      (List.nil_append active).symm).symm
  · by_contra hno
    have hshelters := horderly.sheltered hupright q hq hactive hno _ List.mem_cons_self
    refine hshelters.not_standsFirst (layered_of_report hg hreport) hupright ?_ hfirst
    rw [hg.find?_id hq, Option.isSome_some]

/-- A rule cannot stand first behind a pattern that has to occur. -/
theorem not_standsFirst_leaf {m : Mark} (l : Leaf) (h : m.quantifier.isOptional = false)
    (name : String) (rest : List Atom) : ¬StandsFirst g name (.leaf m l :: rest) := by
  rintro ⟨m', rest', hunfolds⟩
  rcases hunfolds.cases_head with heq | ⟨atoms, hstep, -⟩
  · cases heq
  · cases hstep with
    | pass ha =>
      rw [AtomVanishes, or_false] at ha
      exact Bool.false_ne_true (h.symm.trans ha)

/-- A reference that occurs once. -/
def referring (handle : Nat) (name : String) : Atom := .reference ⟨handle, false, .once⟩ name

/-- A character that is repeated lazily. -/
def sparingly (handle : Nat) (c : Char) : Atom :=
  .leaf ⟨handle, false, { Quantifier.zeroOrMore with lazy := true }⟩
    ⟨.literal, ['\'', c, '\''], ⟨[c], .text [c]⟩, false⟩

/-- A rule of nothing else, which is compiled second. -/
def sparing : Rule where
  id := "A"
  kind := .lexer
  handle := 6
  alternatives := [[sparingly 7 'a']]

/-- The repetition asks about what follows the rule. -/
theorem reaches_question {input : Input Char} {rest : List Atom}
    (hfound : g.find? "A" = some sparing) (hp : 0 < input.size) :
    Reaches g input (.start (single (referring 3 "A" :: rest)) 0)
      (.continues [(6, 0), (2, 0)] [[], [], rest, []] 0) := by
  have hnew : ((6, 0) : Nat × Nat) ∉ [(2, 0)] := by decide
  have hfirst : Reaches g input (.start (single (referring 3 "A" :: rest)) 0)
      (.steps [(2, 0)] [[]] (.begin ((referring 3 "A" :: rest).head?.map Atom.handle) 0)
        (referring 3 "A" :: rest)) :=
    reaches_first rfl hp
  have henter : Reaches g input
      (.steps [(2, 0)] [[]] (.begin (some 3) 0) (referring 3 "A" :: rest))
      (.steps [(6, 0), (2, 0)] [rest, []] (.begin (some 6) 0) [sparing.head]) :=
    reaches_rule hfound rfl hp hnew
  have hbody : Reaches g input
      (.steps [(6, 0), (2, 0)] [rest, []] (.begin (some 6) 0) [sparing.head])
      (.steps [(6, 0), (2, 0)] [[], rest, []]
        (.begin ([sparingly 7 'a'].head?.map Atom.handle) 0) [sparingly 7 'a']) :=
    reaches_first (r := sparing) rfl hp
  have hask : Reaches g input
      (.steps [(6, 0), (2, 0)] [[], rest, []] (.begin (some 7) 0) [sparingly 7 'a'])
      (.continues [(6, 0), (2, 0)] [[], [], rest, []] 0) :=
    .head .first (.head (.turn Bool.false_ne_true) (.single (.ask ⟨by decide, hp⟩ rfl)))
  exact hfirst.trans (henter.trans (hbody.trans hask))

/-- The rule is active and pending, but behind a character. -/
theorem continues_unguarded_behind_literal :
    let b := (({} : Builder).compile { id := "R", body := "A 'b' A" }).1
    let g := (b.compile { id := "A", body := "'a'*?" }).1.build.value
    let pending := [[], [], [quoted 4 'b', referring 5 "A"], []]
    g.rules = [single [referring 3 "A", quoted 4 'b', referring 5 "A"], sparing] ∧
      (∀ d ∈ g.diagnostics, ∀ path, d.problem ≠ .leftRecursion path) ∧
      Reaches g (.ofUnits ['b'])
        (.start (single [referring 3 "A", quoted 4 'b', referring 5 "A"]) 0)
        (.continues [(6, 0), (2, 0)] pending 0) ∧
      (∀ q ∈ g.rules, (q.handle, 0) ∈ [(6, 0), (2, 0)] → ¬StandsFirst g q.id pending.flatten) ∧
      (∀ q ∈ g.rules, q.Upright g.rules) ∧
      (continues g (.ofUnits ['b']) [(6, 0), (2, 0)] pending 0).value =
        (continues g (.ofUnits ['b']) [] pending 0).value ∧
      ∀ q ∈ g.rules, (q.handle, 0) ∈ [(6, 0), (2, 0)] → StandsFirst g q.id pending.flatten →
        MayVanish g.rules q.id := by
  intro b g pending
  have hg : g.Built := .of_reachable (.compile _ (.compile _ (.new {})))
  have hrules :
      g.rules = [single [referring 3 "A", quoted 4 'b', referring 5 "A"], sparing] := by
    unfold g b
    cbv
  have hdiagnostics : g.diagnostics = [] := by
    unfold g b
    cbv
  have hfound : g.find? "A" = some (sparing) := by
    unfold g b
    cbv
  have hreport : ∀ d ∈ g.diagnostics, ∀ path, d.problem ≠ .leftRecursion path := by
    rw [hdiagnostics]
    exact fun d hd => absurd hd List.not_mem_nil
  have hplain : (g.rules.all fun q => q.atoms.all fun a => !a.mark.inverted) = true := by
    rw [hrules]
    cbv
  have hupright : ∀ q ∈ g.rules, q.Upright g.rules := by
    intro q hq a ha hm
    have hno := List.all_eq_true.1 (List.all_eq_true.1 hplain q hq) a ha
    rw [hm] at hno
    cases hno
  have hmem : single [referring 3 "A", quoted 4 'b', referring 5 "A"] ∈ g.rules := by
    rw [hrules]
    exact List.mem_cons_self
  have hreaches : Reaches g (.ofUnits ['b']) _ (.continues [(6, 0), (2, 0)] pending 0) :=
    reaches_question hfound (by decide)
  have hclear : ∀ q ∈ g.rules, (q.handle, 0) ∈ [(6, 0), (2, 0)] →
      ¬StandsFirst g q.id pending.flatten := fun q _ _ => not_standsFirst_leaf _ rfl _ _
  obtain ⟨hsame, hvanish⟩ :=
    continues_unguarded hg hreport hmem ⟨[], ['b'], rfl, rfl⟩ hreaches
  exact ⟨hrules, hreport, hreaches, hclear, hupright, hsame hclear, hvanish hupright⟩

/-- The rule is active where it is asked for once more, so the repetition goes on although what is
pending matches. -/
theorem decision_changed_by_guard :
    let b := (({} : Builder).compile { id := "R", body := "A A 'a'" }).1
    let g := (b.compile { id := "A", body := "'a'*?" }).1.build.value
    let pending := [[], [], [referring 4 "A", quoted 5 'a'], []]
    g.Built ∧ g.diagnostics = [] ∧
      g.rules = [single [referring 3 "A", referring 4 "A", quoted 5 'a'], sparing] ∧
      Reaches g (.ofUnits ['a'])
        (.start (single [referring 3 "A", referring 4 "A", quoted 5 'a']) 0)
        (.continues [(6, 0), (2, 0)] pending 0) ∧
      (continues g (.ofUnits ['a']) [(6, 0), (2, 0)] pending 0).value = false ∧
      (continues g (.ofUnits ['a']) [] pending 0).value = true := by
  intro b g pending
  have hg : g.Built := .of_reachable (.compile _ (.compile _ (.new {})))
  have hfound : g.find? "A" = some (sparing) := by
    unfold g b
    cbv
  have hreaches : Reaches g (.ofUnits ['a']) _ (.continues [(6, 0), (2, 0)] pending 0) :=
    reaches_question hfound (by decide)
  refine ⟨hg, ?_, ?_, hreaches, ?_, ?_⟩
  all_goals
    unfold g b
    cbv

end Matching

end Lexigram
