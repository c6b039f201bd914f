import Lexigram.Input
import Lexigram.Remaining
import Lexigram.SyntaxTree

/-!
# Matching

Rules are matched by trying. The atoms of an alternative follow each other; an atom repeats for as
long as it matches, or, if it is lazy, until what follows it matches; of the alternatives of a group
the first that consumes something is taken.

Two lists describe where a match stands. `active` holds the rules that are being matched with the
positions at which they were entered: a rule is not entered again where it is active, so left
recursion fails instead of going on for ever. `pending` holds the atoms that have to follow, from
the inside outwards, which a lazy repetition looks at.

Matching ends because each step uses up one of three things: a rule at a position that was not yet
active, a part of the atoms that are being matched or pending, or units of the input.
-/

namespace Lexigram.Matching

variable {α : Type}

/-- The places at which the rules of a grammar can be entered. -/
def places (g : Grammar) (input : Input α) : List (Nat × Nat) :=
  g.rules.flatMap fun r => (List.range input.size).map fun pos => (r.handle, pos)

theorem mem_places {g : Grammar} {input : Input α} {name : String} {r : Rule} {pos : Nat}
    (hr : g.find? name = some r) (hp : pos < input.size) : (r.handle, pos) ∈ places g input := by
  refine List.mem_flatMap.2 ⟨r, List.mem_of_find?_eq_some hr, ?_⟩
  exact List.mem_map.2 ⟨pos, List.mem_range.2 hp, rfl⟩

variable [Readable α]

/-- Whether a repetition may end at a position after some number of turns. -/
def accepts (input : Input α) (a : Atom) (count pos : Nat) : Bool :=
  a.mark.quantifier.admits count && (!a.anchoredEnd || input.endsAt pos)

/-- Says how an attempt came out, which must not have been said before. -/
def settle (tree : SyntaxTree α) (state : MatchState) : Noted (SyntaxTree α) := do
  Noted.expect (tree.state = .pending) .resettled
  pure (tree.settle state)

/-- Notes an attempt that is to be added elsewhere than where the one around it ends so far. -/
def expectAdjoining (tree child : SyntaxTree α) : Noted Unit :=
  Noted.expect (child.start = tree.stop) (.misplaced child.start tree.stop)

/-- Notes a turn that is to be kept elsewhere than where the turns before it end. Of a turn without
inner structure only the units are kept. -/
def expectMergeable (tree turn : SyntaxTree α) : Noted Unit :=
  if turn.children.isEmpty then pure () else expectAdjoining tree turn

/-- The attempt that matches the units between two positions without inner structure. -/
def leaf (input : Input α) (a : Atom) (start stop : Nat) : Noted (SyntaxTree α) := do
  let units ← input.slice start stop
  settle ((SyntaxTree.begin (some a.handle) start).consume units stop) .resolved

/-- The attempt of a lookahead or an inverted atom, given that of what it denies. -/
def deny (input : Input α) (a : Atom) (pos : Nat) (denied : Option (SyntaxTree α)) :
    Noted (Option (SyntaxTree α)) := do
  if a.isLookahead then
    if denied.isSome then pure none else some <$> leaf input a pos pos
  else if denied.any fun t => !t.isEmpty then pure none
  else
    let stop ← input.advance pos
    if pos < stop then some <$> leaf input a pos stop else pure none

mutual

/-- Matches the atoms behind those that are already in `tree`. -/
def steps (g : Grammar) (input : Input α) (active : List (Nat × Nat)) (pending : List (List Atom))
    (tree : SyntaxTree α) (atoms : List Atom) : Noted (SyntaxTree α) :=
  match atoms with
  | [] => settle tree .resolved
  | a :: atoms => do
    let step ← repeated g input active (atoms :: pending) a tree.stop
    if !step.matched then settle tree .deferred
    else if atoms.isEmpty && tree.children.isEmpty then pure step
    else do
      expectAdjoining tree step
      steps g input active pending (tree.absorb step) atoms
termination_by (remaining (places g input) active, sizeOf atoms + sizeOf pending, 4, 0)
decreasing_by
  · refine .right _ (Prod.Lex.right' _ ?_ (.left _ _ (by decide)))
    simp only [List.cons.sizeOf_spec]
    omega
  · refine .right _ (.left _ _ ?_)
    simp only [List.cons.sizeOf_spec]
    omega

/-- Matches an atom as often as its quantifier asks for. -/
def repeated (g : Grammar) (input : Input α) (active : List (Nat × Nat))
    (pending : List (List Atom)) (a : Atom) (pos : Nat) : Noted (SyntaxTree α) := do
  if a.isLookahead then
    match ← attempt g input active pending a pos with
    | some tree => pure tree
    | none =>
      if a.mark.quantifier.isOptional then leaf input a pos pos
      else pure (.deferred (some a.handle) pos)
  else
    let (tree, count) ← turns g input active pending a (.begin (some a.handle) pos) 0
    settle tree (if accepts input a count tree.stop then .resolved else .deferred)
termination_by (remaining (places g input) active, sizeOf a + sizeOf pending, 3, 0)

/-- Goes on repeating an atom that has matched `count` times. -/
def turns (g : Grammar) (input : Input α) (active : List (Nat × Nat))
    (pending : List (List Atom)) (a : Atom) (tree : SyntaxTree α) (count : Nat) :
    Noted (SyntaxTree α × Nat) :=
  if _hs : count < a.mark.quantifier.max ∧ tree.stop < input.size then do
    let lazyStop ←
      (if a.mark.quantifier.lazy && accepts input a count tree.stop then
        continues g input active pending tree.stop
      else pure false)
    if lazyStop then pure (tree, count)
    else
      match ← attempt g input active pending a tree.stop with
      | none => pure (tree, count)
      | some turn => do
        expectMergeable tree turn
        if _ht : tree.stop < turn.stop then
          turns g input active pending a (tree.merge turn) (count + 1)
        else pure (tree.merge turn, max (count + 1) a.mark.quantifier.min)
  else pure (tree, count)
termination_by
  (remaining (places g input) active, sizeOf a + sizeOf pending, 2, input.size - tree.stop)
decreasing_by
  · refine .right _ (.left _ _ ?_)
    have := a.sizeOf_pos
    omega
  · exact .right _ (.right _ (.left _ _ (by decide)))
  · refine .right _ (.right _ (.right _ ?_))
    rw [SyntaxTree.stop_merge]
    omega

/-- Whether all that is pending matches from a position on, each part behind the one before. -/
def continues (g : Grammar) (input : Input α) (active : List (Nat × Nat))
    (pending : List (List Atom)) (pos : Nat) : Noted Bool :=
  match pending with
  | [] => pure true
  | [] :: outer => continues g input active outer pos
  | (a :: atoms) :: outer => do
    let tree ← steps g input active outer (.begin (some a.handle) pos) (a :: atoms)
    if tree.matched then continues g input active outer tree.stop else pure false
termination_by (remaining (places g input) active, sizeOf pending, 5, 0)

/-- Matches an atom once. -/
def attempt (g : Grammar) (input : Input α) (active : List (Nat × Nat))
    (pending : List (List Atom)) (a : Atom) (pos : Nat) : Noted (Option (SyntaxTree α)) := do
  let tree ← once g input active pending a pos
  if a.isLookahead || a.mark.inverted then deny input a pos tree else pure tree
termination_by (remaining (places g input) active, sizeOf a + sizeOf pending, 1, 0)

/-- Matches what an atom tests, once and without its inversion. -/
def once (g : Grammar) (input : Input α) (active : List (Nat × Nat))
    (pending : List (List Atom)) (a : Atom) (pos : Nat) : Noted (Option (SyntaxTree α)) := do
  match a with
  | .leaf m l =>
    match ← input.test l.pattern pos with
    | some stop => some <$> leaf input (.leaf m l) pos stop
    | none => pure none
  | .reference m name =>
    match _hr : g.find? name with
    | none => pure none
    | some r =>
      match Readable.standsFor? r with
      | some hit =>
        if (← input.read pos).head?.any hit then
          some <$> leaf input (.reference m name) pos (← input.advance pos)
        else pure none
      | none =>
        if _hp : pos < input.size then
          if _ha : (r.handle, pos) ∈ active then do
            Noted.note (.reentered r.id pos)
            pure none
          else
            let tree ←
              steps g input ((r.handle, pos) :: active) pending (.begin (some r.handle) pos)
                [r.head]
            pure (if tree.matched then some tree else none)
        else pure none
  | .group _ _ _ alternatives => choose g input active pending alternatives pos none
termination_by (remaining (places g input) active, sizeOf a + sizeOf pending, 0, 0)
decreasing_by
  · exact .left _ _ (remaining_cons_lt (mem_places _hr _hp) _ha)
  · refine .right _ (.left _ _ ?_)
    simp only [Atom.group.sizeOf_spec]
    omega

/-- Matches the first of some alternatives that consumes something, or else the first that matches,
which is `fallback` if that is given. -/
def choose (g : Grammar) (input : Input α) (active : List (Nat × Nat))
    (pending : List (List Atom)) (alternatives : List (List Atom)) (pos : Nat)
    (fallback : Option (SyntaxTree α)) : Noted (Option (SyntaxTree α)) := do
  match alternatives with
  | [] => pure fallback
  | atoms :: alternatives =>
    let head := atoms.head?.map Atom.handle
    let tree ← steps g input active pending (.begin head pos) atoms
    if tree.isAbsolute then pure (some tree)
    else
      choose g input active pending alternatives pos
        (fallback.or (if tree.matched then some tree else none))
termination_by (remaining (places g input) active, sizeOf alternatives + sizeOf pending, 5, 0)

end

/-! ## What references match -/

section References

variable (g : Grammar) (input : Input α) (active : List (Nat × Nat)) (pending : List (List Atom))
variable (m : Mark) {name : String} {r : Rule} (pos : Nat)

theorem once_undefined (hr : g.find? name = none) :
    once g input active pending (.reference m name) pos = pure none := by
  rw [once]
  split
  · rfl
  · next r hr' => simp [hr] at hr'

/-- The rule stands for a unit. -/
theorem once_unit {hit : α → Bool} (hr : g.find? name = some r)
    (hu : Readable.standsFor? r = some hit) :
    once g input active pending (.reference m name) pos = (do
      if (← input.read pos).head?.any hit then
        some <$> leaf input (.reference m name) pos (← input.advance pos)
      else pure none) := by
  rw [once]
  split
  · next hr' => simp [hr] at hr'
  · next q hq =>
    obtain rfl := Option.some.inj (hr.symm.trans hq)
    rw [hu]

/-- The rule is entered, unless it is active or the input has ended. -/
theorem once_rule (hr : g.find? name = some r) (hu : Readable.standsFor? (α := α) r = none) :
    once g input active pending (.reference m name) pos =
      if pos < input.size then
        if (r.handle, pos) ∈ active then do
          Noted.note (.reentered r.id pos)
          pure none
        else do
          let tree ←
            steps g input ((r.handle, pos) :: active) pending (.begin (some r.handle) pos) [r.head]
          pure (if tree.matched then some tree else none)
      else pure none := by
  rw [once]
  split
  · next hr' => simp [hr] at hr'
  · next q hq =>
    obtain rfl := Option.some.inj (hr.symm.trans hq)
    rw [hu]
    simp only [dite_eq_ite]

end References

/-! ## Entry points -/

/-- Matches a chain of atoms. Nothing matches at the end of the input. -/
def run (g : Grammar) (input : Input α) (atoms : List Atom) (pos : Nat) : Noted (SyntaxTree α) :=
  match atoms with
  | [] => pure (.deferred none pos)
  | a :: _ =>
    if pos < input.size then
      steps g input [(a.handle, pos)] [] (.begin (some a.handle) pos) atoms
    else pure (.deferred (some a.handle) pos)

/-- Matches a rule. -/
def runRule (g : Grammar) (input : Input α) (r : Rule) (pos : Nat) : Noted (SyntaxTree α) :=
  run g input [r.head] pos

/-- Matches the node of a handle and the atoms behind it. -/
def runNode (g : Grammar) (input : Input α) (handle : Nat) (pos : Nat) : Noted (SyntaxTree α) :=
  run g input ((g.chain? handle).getD []) pos

/-- Matches the rule that has an id. -/
def runNamed (g : Grammar) (input : Input α) (id : String) (pos : Nat) : Noted (SyntaxTree α) :=
  match g.find? id with
  | some r => runRule g input r pos
  | none => pure (.deferred none pos)

/-- Matches the first of some rules that consumes something. -/
def firstAbsolute (g : Grammar) (input : Input α) (pos : Nat) :
    List Rule → Noted (Option (Rule × SyntaxTree α))
  | [] => pure none
  | r :: rules => do
    let tree ← runRule g input r pos
    if tree.isAbsolute then pure (some (r, tree)) else firstAbsolute g input pos rules

end Lexigram.Matching
