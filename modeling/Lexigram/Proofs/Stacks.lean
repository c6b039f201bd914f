import Lexigram.Proofs.Trees

/-!
# Matching with two stacks

The functions of `Matching` are given what is active and pending, and they end by construction. Here
is the same matcher as it runs: with two stacks that it pushes to and pops from, and with no reason
to end but that its calls come to an end.

**The matcher** (`Stacked`). Its functions are told how deep their calls may be nested, and have no
outcome if that is not deep enough. `guarded` says whether a rule is refused where it is active;
without the guard it is entered again. The stacks keep a record of every state of `active`.

**Runs** (`Yields`). A computation yields a value when some depth is enough for it to end with it,
it leaves both stacks as it found them, and it has never held a place twice.

**The simulation** (`Simulates`). Every function yields the value of its counterpart in `Matching`,
as long as no rule is entered again or the guard is up. There is one rule for each way to put
computations together, one lemma for each function, and an induction along the calls.

Main result: `matchNode_returns`.
-/

namespace Lexigram

/-! ## The matcher -/

/-- What a matcher keeps while it runs. -/
structure Stacks where
  /-- The rules that are being matched, with the positions at which they were entered. -/
  active : List (Nat × Nat)
  /-- The atoms that have to follow, from the inside outwards. -/
  pending : List (List Atom)
  /-- What `active` has been so far. -/
  record : List (List (Nat × Nat))

namespace Stacked

open Matching (accepts leaf deny)

variable {α : Type}

/-- A computation that changes the stacks and may have no outcome. -/
abbrev Run := StateT Stacks Option

def enter (place : Nat × Nat) : Run Unit :=
  modify fun s => { s with active := place :: s.active, record := (place :: s.active) :: s.record }

def leave : Run Unit := modify fun s => { s with active := s.active.tail }

def push (atoms : List Atom) : Run Unit := modify fun s => { s with pending := atoms :: s.pending }

def pop : Run Unit := modify fun s => { s with pending := s.pending.tail }

def setPending (pending : List (List Atom)) : Run Unit := modify fun s => { s with pending }

def isActive (place : Nat × Nat) : Run Bool := do pure ((← get).active.contains place)

/-- Takes all that is pending off the stack. -/
def takePending : Run (List (List Atom)) := do
  let s ← get
  setPending []
  pure s.pending

/-- The calls are nested too deeply. -/
def tooDeep {β : Type} : Run β := fun _ => none

variable [Readable α] (guarded : Bool) (g : Grammar) (input : Input α)

mutual

/-- Matches a chain of atoms from a position on. -/
def enterChain (depth : Nat) (atoms : List Atom) (pos : Nat) : Run (SyntaxTree α) :=
  match depth, atoms with
  | 0, _ => tooDeep
  | _ + 1, [] => pure (.deferred none pos)
  | depth + 1, a :: atoms => do
    if input.size ≤ pos then pure (.deferred (some a.handle) pos)
    else
      let again ← isActive (a.handle, pos)
      if guarded && again then pure (.deferred (some a.handle) pos)
      else
        enter (a.handle, pos)
        let tree ← chain depth (.begin (some a.handle) pos) (a :: atoms)
        leave
        pure tree

/-- Matches the atoms behind those that are already in `tree`. -/
def chain (depth : Nat) (tree : SyntaxTree α) (atoms : List Atom) : Run (SyntaxTree α) :=
  match depth, atoms with
  | 0, _ => tooDeep
  | _ + 1, [] => pure (tree.settle .resolved)
  | depth + 1, a :: atoms => do
    push atoms
    let step ← repetition depth a tree.stop
    pop
    if !step.matched then pure (tree.settle .deferred)
    else if atoms.isEmpty && tree.children.isEmpty then pure step
    else chain depth (tree.absorb step) atoms

/-- Matches an atom as often as its quantifier asks for. -/
def repetition (depth : Nat) (a : Atom) (pos : Nat) : Run (SyntaxTree α) :=
  match depth with
  | 0 => tooDeep
  | depth + 1 => do
    if a.isLookahead then
      match ← attempt depth a pos with
      | some tree => pure tree
      | none =>
        if a.mark.quantifier.isOptional then pure (leaf input a pos pos).value
        else pure (.deferred (some a.handle) pos)
    else
      let (tree, count) ← turns depth a (.begin (some a.handle) pos) 0
      pure (tree.settle (if accepts input a count tree.stop then .resolved else .deferred))

/-- Goes on repeating an atom that has matched `count` times. -/
def turns (depth : Nat) (a : Atom) (tree : SyntaxTree α) (count : Nat) :
    Run (SyntaxTree α × Nat) :=
  match depth with
  | 0 => tooDeep
  | depth + 1 => do
    if count < a.mark.quantifier.max ∧ tree.stop < input.size then
      let lazyStop ←
        (if a.mark.quantifier.lazy && accepts input a count tree.stop then
          continuation depth tree.stop
        else pure false)
      if lazyStop then pure (tree, count)
      else
        match ← attempt depth a tree.stop with
        | none => pure (tree, count)
        | some turn =>
          if turn.isEmpty then
            pure (tree.merge turn, max (count + 1) a.mark.quantifier.min)
          else turns depth a (tree.merge turn) (count + 1)
    else pure (tree, count)

/-- Whether all that is pending matches from a position on. -/
def continuation (depth : Nat) (pos : Nat) : Run Bool :=
  match depth with
  | 0 => tooDeep
  | depth + 1 => do
    let pending ← takePending
    let satisfied ← parts depth pending pos
    setPending pending
    pure satisfied

/-- Whether some parts match, each behind the one before. A part is followed only by what encloses
it. -/
def parts (depth : Nat) (pending : List (List Atom)) (pos : Nat) : Run Bool :=
  match depth, pending with
  | 0, _ => tooDeep
  | _ + 1, [] => pure true
  | depth + 1, [] :: outer => parts depth outer pos
  | depth + 1, (a :: atoms) :: outer => do
    setPending outer
    let tree ← chain depth (.begin (some a.handle) pos) (a :: atoms)
    if tree.matched then parts depth outer tree.stop else pure false

/-- Matches an atom once. -/
def attempt (depth : Nat) (a : Atom) (pos : Nat) : Run (Option (SyntaxTree α)) :=
  match depth with
  | 0 => tooDeep
  | depth + 1 => do
    let tree ← condition depth a pos
    if a.isLookahead || a.mark.inverted then pure (deny input a pos tree).value else pure tree

/-- Matches what an atom tests, once and without its inversion. -/
def condition (depth : Nat) (a : Atom) (pos : Nat) : Run (Option (SyntaxTree α)) :=
  match depth, a with
  | 0, _ => tooDeep
  | _ + 1, .leaf m l =>
    pure ((input.test l.pattern pos).value.map fun stop =>
      (leaf input (.leaf m l) pos stop).value)
  | depth + 1, .reference m name =>
    match g.find? name with
    | none => pure none
    | some r =>
      match Readable.standsFor? r with
      | some hit =>
        if (input.read pos).value.head?.any hit then
          pure (some (leaf input (.reference m name) pos (input.advance pos).value).value)
        else pure none
      | none => do
        let tree ← enterChain depth [r.head] pos
        pure (if tree.matched then some tree else none)
  | depth + 1, .group _ _ _ alternatives => choice depth alternatives pos none

/-- Matches the first of some alternatives that consumes something, or else the first that
matches. -/
def choice (depth : Nat) (alternatives : List (List Atom)) (pos : Nat)
    (fallback : Option (SyntaxTree α)) : Run (Option (SyntaxTree α)) :=
  match depth, alternatives with
  | 0, _ => tooDeep
  | _ + 1, [] => pure fallback
  | depth + 1, atoms :: alternatives => do
    let tree ← chain depth (.begin (atoms.head?.map Atom.handle) pos) atoms
    if tree.isAbsolute then pure (some tree)
    else
      choice depth alternatives pos (fallback.or (if tree.matched then some tree else none))

end

/-- Matches the node of a handle and the atoms behind it. -/
def matchNode (depth handle pos : Nat) : Run (SyntaxTree α) :=
  enterChain guarded g input depth ((g.chain? handle).getD []) pos

end Stacked

/-! ## Runs -/

namespace Noted

variable {β γ : Type}

/-- No rule is to be entered again where it is active. -/
def NoReentry (x : Noted β) : Prop := ∀ n ∈ x.notices, n.isReentry = false

/-- A rule may be entered again only if a guard refuses it. -/
def Allowed (guarded : Bool) (x : Noted β) : Prop := guarded = true ∨ x.NoReentry

theorem Allowed.bind {guarded : Bool} {x : Noted β} {f : β → Noted γ}
    (h : (x >>= f).Allowed guarded) : x.Allowed guarded ∧ (f x.value).Allowed guarded := by
  rcases h with h | h
  · exact ⟨.inl h, .inl h⟩
  · have hmem : ∀ n, n ∈ x.notices ∨ n ∈ (f x.value).notices → n.isReentry = false := by
      intro n hn
      refine h n ?_
      rwa [notices_bind, List.mem_append]
    exact ⟨.inr fun n hn => hmem n (.inl hn), .inr fun n hn => hmem n (.inr hn)⟩

end Noted

namespace Stacked

section Runs

variable {β γ : Type} {active : List (Nat × Nat)} {pending : List (List Atom)}

/-- States of `active` in which no place is twice. -/
def Distinct (states : List (List (Nat × Nat))) : Prop := ∀ active ∈ states, active.Nodup

theorem Distinct.append {states states' : List (List (Nat × Nat))} (h : Distinct states)
    (h' : Distinct states') : Distinct (states ++ states') := by
  intro active hactive
  rcases List.mem_append.1 hactive with hactive | hactive
  · exact h active hactive
  · exact h' active hactive

/-- A computation, if its calls may be nested deeply enough, ends with a value and leaves the stacks
as it found them. On the way no place is active twice. -/
def Yields (x : Nat → Run β) (active : List (Nat × Nat)) (pending : List (List Atom)) (b : β) :
    Prop :=
  ∀ record, ∃ states depth, Distinct states ∧ ∀ n ≥ depth,
    (x n).run ⟨active, pending, record⟩ = some (b, ⟨active, pending, states ++ record⟩)

/-- A computation, if its calls may be nested deeply enough, ends with a value and leaves `active` as
it found it, whatever is pending. -/
def Scans (x : Nat → Run β) (active : List (Nat × Nat)) (b : β) : Prop :=
  ∀ pending record, ∃ pending' states depth, Distinct states ∧ ∀ n ≥ depth,
    (x n).run ⟨active, pending, record⟩ = some (b, ⟨active, pending', states ++ record⟩)

theorem Yields.pure (b : β) : Yields (fun _ => pure b) active pending b :=
  fun _ => ⟨[], 0, by simp [Distinct], fun _ _ => rfl⟩

/-- A call may be nested one level deeper than its body. -/
theorem Yields.call {x : Nat → Run β} {b : β} (h : Yields (fun n => x (n + 1)) active pending b) :
    Yields x active pending b := by
  intro record
  obtain ⟨states, depth, hstates, hrun⟩ := h record
  refine ⟨states, depth + 1, hstates, fun n hn => ?_⟩
  obtain ⟨m, rfl⟩ : ∃ m, n = m + 1 := ⟨n - 1, by omega⟩
  exact hrun m (by omega)

theorem Yields.bind {x : Nat → Run β} {f : Nat → β → Run γ} {b : β} {c : γ}
    (hx : Yields x active pending b) (hf : Yields (fun n => f n b) active pending c) :
    Yields (fun n => x n >>= f n) active pending c := by
  intro record
  obtain ⟨states, depth, h, hrun⟩ := hx record
  obtain ⟨states', depth', h', hrun'⟩ := hf (states ++ record)
  refine ⟨states' ++ states, max depth depth', h'.append h, fun n hn => ?_⟩
  rw [StateT.run_bind, hrun n (by omega), List.append_assoc]
  exact hrun' n (by omega)

theorem Yields.push {x : Nat → Run β} {f : Nat → β → Run γ} {atoms : List Atom} {b : β} {c : γ}
    (hx : Yields x active (atoms :: pending) b) (hf : Yields (fun n => f n b) active pending c) :
    Yields (fun n => do Stacked.push atoms; let b ← x n; pop; f n b) active pending c := by
  intro record
  obtain ⟨states, depth, h, hrun⟩ := hx record
  obtain ⟨states', depth', h', hrun'⟩ := hf (states ++ record)
  refine ⟨states' ++ states, max depth depth', h'.append h, fun n hn => ?_⟩
  show ((x n).run ⟨active, atoms :: pending, record⟩ >>= _) = _
  rw [hrun n (by omega), List.append_assoc]
  exact hrun' n (by omega)

theorem Yields.enter {x : Nat → Run β} {f : Nat → β → Run γ} {place : Nat × Nat} {b : β} {c : γ}
    (hplace : (place :: active).Nodup) (hx : Yields x (place :: active) pending b)
    (hf : Yields (fun n => f n b) active pending c) :
    Yields (fun n => do Stacked.enter place; let b ← x n; leave; f n b) active pending c := by
  intro record
  obtain ⟨states, depth, h, hrun⟩ := hx ((place :: active) :: record)
  obtain ⟨states', depth', h', hrun'⟩ := hf (states ++ (place :: active) :: record)
  have hentered : Distinct [place :: active] := by
    intro l hl
    rwa [List.mem_singleton.1 hl]
  refine ⟨states' ++ (states ++ [place :: active]), max depth depth',
    h'.append (h.append hentered), fun n hn => ?_⟩
  show ((x n).run ⟨place :: active, pending, (place :: active) :: record⟩ >>= _) = _
  rw [hrun n (by omega), List.append_assoc, List.append_assoc]
  exact hrun' n (by omega)

theorem Yields.isActive {f : Nat → Bool → Run γ} {place : Nat × Nat} {c : γ}
    (hf : Yields (fun n => f n (active.contains place)) active pending c) :
    Yields (fun n => Stacked.isActive place >>= f n) active pending c := hf

theorem Scans.pure (b : β) : Scans (fun _ => pure b) active b :=
  fun pending _ => ⟨pending, [], 0, by simp [Distinct], fun _ _ => rfl⟩

theorem Scans.call {x : Nat → Run β} {b : β} (h : Scans (fun n => x (n + 1)) active b) :
    Scans x active b := by
  intro pending record
  obtain ⟨pending', states, depth, hstates, hrun⟩ := h pending record
  refine ⟨pending', states, depth + 1, hstates, fun n hn => ?_⟩
  obtain ⟨m, rfl⟩ : ∃ m, n = m + 1 := ⟨n - 1, by omega⟩
  exact hrun m (by omega)

theorem Scans.part {x : Nat → Run β} {f : Nat → β → Run γ} {outer : List (List Atom)} {b : β}
    {c : γ} (hx : Yields x active outer b) (hf : Scans (fun n => f n b) active c) :
    Scans (fun n => do setPending outer; let b ← x n; f n b) active c := by
  intro pending record
  obtain ⟨states, depth, h, hrun⟩ := hx record
  obtain ⟨pending', states', depth', h', hrun'⟩ := hf outer (states ++ record)
  refine ⟨pending', states' ++ states, max depth depth', h'.append h, fun n hn => ?_⟩
  show ((x n).run ⟨active, outer, record⟩ >>= _) = _
  rw [hrun n (by omega), List.append_assoc]
  exact hrun' n (by omega)

end Runs

/-! ## Simulation -/

open Noted (Allowed)

section Simulation

variable {β γ : Type} {guarded : Bool} {active : List (Nat × Nat)} {pending : List (List Atom)}

/-- A computation on the stacks yields the value of a computation without stacks, if that is allowed
to enter the rules that it enters. -/
def Simulates (guarded : Bool) (active : List (Nat × Nat)) (pending : List (List Atom))
    (x : Nat → Run β) (u : Noted β) : Prop :=
  Allowed guarded u → Yields x active pending u.value

theorem Simulates.value (u : Noted β) :
    Simulates guarded active pending (fun _ => pure u.value) u :=
  fun _ => .pure u.value

theorem Simulates.call {x : Nat → Run β} {u : Noted β}
    (h : Simulates guarded active pending (fun n => x (n + 1)) u) :
    Simulates guarded active pending x u :=
  fun hu => .call (h hu)

theorem Simulates.bind {x : Nat → Run β} {f : Nat → β → Run γ} {u : Noted β} {k : β → Noted γ}
    (hx : Simulates guarded active pending x u)
    (hf : Simulates guarded active pending (fun n => f n u.value) (k u.value)) :
    Simulates guarded active pending (fun n => x n >>= f n) (u >>= k) := by
  intro h
  obtain ⟨hu, hk⟩ := h.bind
  exact .bind (hx hu) (hf hk)

theorem Simulates.push {x : Nat → Run β} {f : Nat → β → Run γ} {atoms : List Atom} {u : Noted β}
    {k : β → Noted γ} (hx : Simulates guarded active (atoms :: pending) x u)
    (hf : Simulates guarded active pending (fun n => f n u.value) (k u.value)) :
    Simulates guarded active pending
      (fun n => do Stacked.push atoms; let b ← x n; pop; f n b) (u >>= k) := by
  intro h
  obtain ⟨hu, hk⟩ := h.bind
  exact .push (hx hu) (hf hk)

/-- What a computation without stacks notes on the way leaves no trace on them. -/
theorem Simulates.after {x : Nat → Run γ} {u : Noted β} {k : β → Noted γ}
    (h : Simulates guarded active pending x (k u.value)) :
    Simulates guarded active pending x (u >>= k) :=
  fun hu => h hu.bind.2

theorem Simulates.ite {c : Prop} [Decidable c] {x y : Nat → Run β} {u v : Noted β}
    (hx : c → Simulates guarded active pending x u)
    (hy : ¬c → Simulates guarded active pending y v) :
    Simulates guarded active pending (fun n => if c then x n else y n) (if c then u else v) := by
  by_cases hc : c
  · simpa only [if_pos hc] using hx hc
  · simpa only [if_neg hc] using hy hc

end Simulation

/-! ## One lemma for each function -/

open Matching (steps repeated settle)

section Functions

variable {α : Type} [Readable α] {guarded : Bool} {g : Grammar} {s : List α}
variable {active : List (Nat × Nat)} {pending : List (List Atom)}

theorem chain_nil_simulates (tree : SyntaxTree α) :
    Simulates guarded active pending (fun n => chain guarded g (.ofUnits s) n tree [])
      (steps g (.ofUnits s) active pending tree []) := by
  rw [steps]
  refine .call ?_
  simp only [chain]
  exact .value (settle tree .resolved)

theorem chain_cons_simulates {tree : SyntaxTree α} {a : Atom} {atoms : List Atom}
    (hstep : Simulates guarded active (atoms :: pending)
      (fun n => repetition guarded g (.ofUnits s) n a tree.stop)
      (repeated g (.ofUnits s) active (atoms :: pending) a tree.stop))
    (hrest : ∀ step : SyntaxTree α, Boundary s step.stop →
      Simulates guarded active pending
        (fun n => chain guarded g (.ofUnits s) n (tree.absorb step) atoms)
        (steps g (.ofUnits s) active pending (tree.absorb step) atoms))
    (hb : Boundary s tree.stop) :
    Simulates guarded active pending (fun n => chain guarded g (.ofUnits s) n tree (a :: atoms))
      (steps g (.ofUnits s) active pending tree (a :: atoms)) := by
  have hsettled := (Matching.repeated_settled g active (atoms :: pending) hb a).2
  have hstop := hsettled.wellFormed.boundary_stop
  rw [steps]
  refine .call ?_
  simp only [chain]
  refine .push hstep ?_
  refine .ite (fun _ => .value (settle tree .deferred)) fun _ => ?_
  refine .ite (fun _ => .value _) fun _ => ?_
  exact .after (hrest _ hstop)

theorem repetition_simulates {a : Atom} {pos : Nat}
    (hattempt : a.isLookahead = true → Simulates guarded active pending
      (fun n => attempt guarded g (.ofUnits s) n a pos)
      (Matching.attempt g (.ofUnits s) active pending a pos))
    (hturns : ¬a.isLookahead = true → Simulates guarded active pending
      (fun n => turns guarded g (.ofUnits s) n a (.begin (some a.handle) pos) 0)
      (Matching.turns g (.ofUnits s) active pending a (.begin (some a.handle) pos) 0)) :
    Simulates guarded active pending (fun n => repetition guarded g (.ofUnits s) n a pos)
      (repeated g (.ofUnits s) active pending a pos) := by
  rw [repeated]
  refine .call ?_
  simp only [repetition]
  refine .ite (fun hl => .bind (hattempt hl) ?_) fun hl => .bind (hturns hl) ?_
  · cases (Matching.attempt g (.ofUnits s) active pending a pos).value with
    | some tree => exact .value (pure tree)
    | none => exact .ite (fun _ => .value _) fun _ => .value (pure _)
  · exact .value (settle _ _)

theorem continuation_yields {pos : Nat} {b : Bool}
    (h : Scans (fun n => parts guarded g (.ofUnits s) n pending pos) active b) :
    Yields (fun n => continuation guarded g (.ofUnits s) n pos) active pending b := by
  refine .call ?_
  simp only [continuation]
  intro record
  obtain ⟨pending', states, depth, hstates, hrun⟩ := h [] record
  refine ⟨states, depth, hstates, fun n hn => ?_⟩
  show ((parts guarded g (.ofUnits s) n pending pos).run ⟨active, [], record⟩ >>= _) = _
  rw [hrun n hn]
  rfl

theorem turns_stop_simulates {a : Atom} {tree : SyntaxTree α} {count : Nat}
    (hstop : ¬(count < a.mark.quantifier.max ∧ tree.stop < (Input.ofUnits s).size)) :
    Simulates guarded active pending (fun n => turns guarded g (.ofUnits s) n a tree count)
      (Matching.turns g (.ofUnits s) active pending a tree count) := by
  rw [Matching.turns, dif_neg hstop]
  refine .call ?_
  simp only [turns, if_neg hstop]
  exact .value (pure (tree, count))

theorem turns_go_simulates {a : Atom} {tree : SyntaxTree α} {count : Nat}
    (hgo : count < a.mark.quantifier.max ∧ tree.stop < (Input.ofUnits s).size)
    (hcontinues : Allowed guarded (Matching.continues g (.ofUnits s) active pending tree.stop) →
      Scans (fun n => parts guarded g (.ofUnits s) n pending tree.stop) active
        (Matching.continues g (.ofUnits s) active pending tree.stop).value)
    (hattempt : Simulates guarded active pending
      (fun n => attempt guarded g (.ofUnits s) n a tree.stop)
      (Matching.attempt g (.ofUnits s) active pending a tree.stop))
    (hnext : ∀ turn : SyntaxTree α, tree.stop < turn.stop → Boundary s turn.stop →
      Simulates guarded active pending
        (fun n => turns guarded g (.ofUnits s) n a (tree.merge turn) (count + 1))
        (Matching.turns g (.ofUnits s) active pending a (tree.merge turn) (count + 1)))
    (hb : Boundary s tree.stop) :
    Simulates guarded active pending (fun n => turns guarded g (.ofUnits s) n a tree count)
      (Matching.turns g (.ofUnits s) active pending a tree count) := by
  have hfound := (Matching.attempt_found g active pending hb a).2
  rw [Matching.turns, dif_pos hgo]
  refine .call ?_
  simp only [turns, if_pos hgo]
  refine .bind (.ite (fun _ h => continuation_yields (hcontinues h)) fun _ => .value (pure false)) ?_
  refine .ite (fun _ => .value (pure (tree, count))) fun _ => ?_
  refine .bind hattempt ?_
  cases hturn : (Matching.attempt g (.ofUnits s) active pending a tree.stop).value with
  | none => exact .value (pure (tree, count))
  | some turn =>
    obtain ⟨hsettled, -⟩ := hfound turn hturn
    -- Whether a turn is empty shows in where it ends, since it begins where the tree ends.
    have hempty : turn.isEmpty = !decide (tree.stop < turn.stop) := by
      have hle := hsettled.le
      rw [SyntaxTree.isEmpty, hsettled.start, Bool.eq_iff_iff]
      simp only [beq_iff_eq, Bool.not_eq_true', decide_eq_false_iff_not]
      omega
    refine .after ?_
    dsimp only
    rw [hempty]
    by_cases hlt : tree.stop < turn.stop
    · rw [dif_pos hlt]
      simpa only [hlt, decide_true, Bool.not_true, if_neg Bool.false_ne_true] using
        hnext turn hlt hsettled.wellFormed.boundary_stop
    · rw [dif_neg hlt]
      simpa only [hlt, decide_false, Bool.not_false, if_true] using .value (pure _)

theorem parts_pending_scans {a : Atom} {atoms : List Atom} {outer : List (List Atom)} {pos : Nat}
    (hsteps : Simulates guarded active outer
      (fun n => chain guarded g (.ofUnits s) n (.begin (some a.handle) pos) (a :: atoms))
      (steps g (.ofUnits s) active outer (.begin (some a.handle) pos) (a :: atoms)))
    (hnext : ∀ tree : SyntaxTree α, Boundary s tree.stop →
      Allowed guarded (Matching.continues g (.ofUnits s) active outer tree.stop) →
      Scans (fun n => parts guarded g (.ofUnits s) n outer tree.stop) active
        (Matching.continues g (.ofUnits s) active outer tree.stop).value)
    (hb : Boundary s pos)
    (h : Allowed guarded
      (Matching.continues g (.ofUnits s) active ((a :: atoms) :: outer) pos)) :
    Scans (fun n => parts guarded g (.ofUnits s) n ((a :: atoms) :: outer) pos) active
      (Matching.continues g (.ofUnits s) active ((a :: atoms) :: outer) pos).value := by
  have hsettled := (Matching.steps_settled g active outer (.begin hb (some a.handle))
    (fun _ => rfl) (a :: atoms)).2
  rw [Matching.continues] at h ⊢
  obtain ⟨hfirst, h⟩ := h.bind
  refine .call ?_
  simp only [parts]
  refine .part (hsteps hfirst) ?_
  rw [Noted.value_bind]
  split at h
  · next hm =>
    simpa only [if_pos hm] using hnext _ hsettled.wellFormed.boundary_stop h
  · next hm =>
    simpa only [if_neg hm] using .pure false

theorem attempt_simulates {a : Atom} {pos : Nat}
    (honce : Simulates guarded active pending
      (fun n => condition guarded g (.ofUnits s) n a pos)
      (Matching.once g (.ofUnits s) active pending a pos)) :
    Simulates guarded active pending (fun n => attempt guarded g (.ofUnits s) n a pos)
      (Matching.attempt g (.ofUnits s) active pending a pos) := by
  rw [Matching.attempt]
  refine .call ?_
  simp only [attempt]
  refine .bind honce ?_
  exact .ite (fun _ => .value _) fun _ => .value (pure _)

/-- Behind the last unit nothing is entered. -/
theorem enterChain_end_yields {a : Atom} {atoms : List Atom} {pos : Nat}
    (hp : ¬pos < (Input.ofUnits s).size) :
    Yields (fun n => enterChain guarded g (.ofUnits s) n (a :: atoms) pos) active pending
      (.deferred (some a.handle) pos) := by
  refine .call ?_
  simp only [enterChain, if_pos (Nat.le_of_not_lt hp)]
  exact .pure _

/-- Where a chain is active the guard refuses it. -/
theorem enterChain_active_yields {a : Atom} {atoms : List Atom} {pos : Nat}
    (hp : pos < (Input.ofUnits s).size) (ha : (a.handle, pos) ∈ active) (hg : guarded = true) :
    Yields (fun n => enterChain guarded g (.ofUnits s) n (a :: atoms) pos) active pending
      (.deferred (some a.handle) pos) := by
  refine .call ?_
  simp only [enterChain, if_neg (Nat.not_le_of_lt hp)]
  refine .isActive ?_
  simp only [List.contains_iff_mem.2 ha, hg, Bool.and_self, if_true]
  exact .pure _

/-- Elsewhere it is matched. -/
theorem enterChain_yields {a : Atom} {atoms : List Atom} {pos : Nat} {tree : SyntaxTree α}
    (hp : pos < (Input.ofUnits s).size) (ha : (a.handle, pos) ∉ active) (hactive : active.Nodup)
    (hchain : Yields
      (fun n => chain guarded g (.ofUnits s) n (.begin (some a.handle) pos) (a :: atoms))
      ((a.handle, pos) :: active) pending tree) :
    Yields (fun n => enterChain guarded g (.ofUnits s) n (a :: atoms) pos) active pending tree := by
  have hnew : active.contains (a.handle, pos) = false :=
    Bool.eq_false_iff.2 fun hc => ha (List.contains_iff_mem.1 hc)
  refine .call ?_
  simp only [enterChain, if_neg (Nat.not_le_of_lt hp)]
  refine .isActive ?_
  simp only [hnew, Bool.and_false, if_neg Bool.false_ne_true]
  exact .enter (List.nodup_cons.2 ⟨ha, hactive⟩) hchain (.pure tree)

theorem condition_leaf_simulates {pos : Nat} (m : Mark) (l : Leaf) :
    Simulates guarded active pending
      (fun n => condition guarded g (.ofUnits s) n (.leaf m l) pos)
      (Matching.once g (.ofUnits s) active pending (.leaf m l) pos) := by
  rw [Matching.once]
  refine .call ?_
  simp only [condition]
  refine .after ?_
  cases ((Input.ofUnits s).test l.pattern pos).value with
  | none => exact .value (pure none)
  | some stop => exact .value (some <$> Matching.leaf (.ofUnits s) (.leaf m l) pos stop)

theorem condition_undefined_simulates {pos : Nat} {m : Mark} {name : String}
    (hr : g.find? name = none) :
    Simulates guarded active pending
      (fun n => condition guarded g (.ofUnits s) n (.reference m name) pos)
      (Matching.once g (.ofUnits s) active pending (.reference m name) pos) := by
  rw [Matching.once_undefined g _ active pending m pos hr]
  refine .call ?_
  simp only [condition, hr]
  exact .value (pure none)

theorem condition_unit_simulates {pos : Nat} {m : Mark} {name : String} {r : Rule}
    {hit : α → Bool} (hr : g.find? name = some r) (hu : Readable.standsFor? r = some hit) :
    Simulates guarded active pending
      (fun n => condition guarded g (.ofUnits s) n (.reference m name) pos)
      (Matching.once g (.ofUnits s) active pending (.reference m name) pos) := by
  rw [Matching.once_unit g _ active pending m pos hr hu]
  refine .call ?_
  simp only [condition, hr, hu]
  refine .after ?_
  exact .ite (fun _ => .value (do some <$> Matching.leaf _ _ _ (← (Input.ofUnits s).advance pos)))
    fun _ => .value (pure none)

/-- A reference enters the rule, unless it is active or the input has ended. -/
theorem condition_rule_simulates {pos : Nat} {m : Mark} {name : String} {r : Rule}
    (hr : g.find? name = some r) (hu : Readable.standsFor? (α := α) r = none)
    (hsteps : (r.handle, pos) ∉ active → pos < (Input.ofUnits s).size →
      Simulates guarded ((r.handle, pos) :: active) pending
        (fun n => chain guarded g (.ofUnits s) n (.begin (some r.handle) pos) [r.head])
        (steps g (.ofUnits s) ((r.handle, pos) :: active) pending (.begin (some r.handle) pos)
          [r.head]))
    (hactive : active.Nodup) :
    Simulates guarded active pending
      (fun n => condition guarded g (.ofUnits s) n (.reference m name) pos)
      (Matching.once g (.ofUnits s) active pending (.reference m name) pos) := by
  rw [Matching.once_rule g _ active pending m pos hr hu]
  refine .call ?_
  simp only [condition, hr, hu]
  intro h
  by_cases hp : pos < (Input.ofUnits s).size
  · rw [if_pos hp] at h ⊢
    by_cases ha : (r.handle, pos) ∈ active
    · rw [if_pos ha] at h ⊢
      -- The note that is left here is allowed only under the guard.
      have hguard : guarded = true := by
        rcases h with h | h
        · exact h
        · have hreentry := h (.reentered r.id pos) List.mem_cons_self
          simp [Notice.isReentry] at hreentry
      exact .bind (enterChain_active_yields hp ha hguard) (.pure none)
    · rw [if_neg ha] at h ⊢
      exact .bind (enterChain_yields hp ha hactive (hsteps ha hp h.bind.1)) (.pure _)
  · rw [if_neg hp]
    exact .bind (enterChain_end_yields hp) (.pure none)

theorem choice_cons_simulates {pos : Nat} {atoms : List Atom} {alternatives : List (List Atom)}
    {fallback : Option (SyntaxTree α)}
    (hsteps : Simulates guarded active pending
      (fun n => chain guarded g (.ofUnits s) n (.begin (atoms.head?.map Atom.handle) pos) atoms)
      (steps g (.ofUnits s) active pending (.begin (atoms.head?.map Atom.handle) pos) atoms))
    (hnext : ∀ tree : SyntaxTree α, Simulates guarded active pending
      (fun n => choice guarded g (.ofUnits s) n alternatives pos
        (fallback.or (if tree.matched then some tree else none)))
      (Matching.choose g (.ofUnits s) active pending alternatives pos
        (fallback.or (if tree.matched then some tree else none)))) :
    Simulates guarded active pending
      (fun n => choice guarded g (.ofUnits s) n (atoms :: alternatives) pos fallback)
      (Matching.choose g (.ofUnits s) active pending (atoms :: alternatives) pos fallback) := by
  rw [Matching.choose]
  refine .call ?_
  simp only [choice]
  refine .bind hsteps ?_
  exact .ite (fun _ => .value (pure _)) fun _ => hnext _

/-! ## All runs -/

/-- **The stacks simulate the recursion.** From any position between units and where no place is
active twice, what becomes of a chain on the stacks is what the recursion makes of it. -/
theorem chain_simulates (guarded : Bool) (g : Grammar) (s : List α) :
    ∀ active pending tree atoms, active.Nodup → Boundary s tree.stop →
      Simulates guarded active pending (fun n => chain guarded g (.ofUnits s) n tree atoms)
        (steps g (.ofUnits s) active pending tree atoms) := by
  -- What is active holds no place twice, and places are added only where they are missing.
  refine (Matching.steps.mutual_induct g (.ofUnits s)
    (fun active pending tree atoms => active.Nodup → Boundary s tree.stop →
      Simulates guarded active pending (fun n => chain guarded g (.ofUnits s) n tree atoms)
        (steps g (.ofUnits s) active pending tree atoms))
    (fun active pending a pos => active.Nodup → Boundary s pos →
      Simulates guarded active pending (fun n => repetition guarded g (.ofUnits s) n a pos)
        (repeated g (.ofUnits s) active pending a pos))
    (fun active pending a tree count => active.Nodup → Boundary s tree.stop →
      Simulates guarded active pending (fun n => turns guarded g (.ofUnits s) n a tree count)
        (Matching.turns g (.ofUnits s) active pending a tree count))
    (fun active pending a pos => active.Nodup → Boundary s pos →
      Simulates guarded active pending (fun n => attempt guarded g (.ofUnits s) n a pos)
        (Matching.attempt g (.ofUnits s) active pending a pos))
    (fun active pending a pos => active.Nodup → Boundary s pos →
      Simulates guarded active pending (fun n => condition guarded g (.ofUnits s) n a pos)
        (Matching.once g (.ofUnits s) active pending a pos))
    (fun active pending alternatives pos fallback => active.Nodup → Boundary s pos →
      Simulates guarded active pending
        (fun n => choice guarded g (.ofUnits s) n alternatives pos fallback)
        (Matching.choose g (.ofUnits s) active pending alternatives pos fallback))
    (fun active pending pos => active.Nodup → Boundary s pos →
      Allowed guarded (Matching.continues g (.ofUnits s) active pending pos) →
      Scans (fun n => parts guarded g (.ofUnits s) n pending pos) active
        (Matching.continues g (.ofUnits s) active pending pos).value)
    ?stepsNil ?stepsCons ?repeatedLookahead ?repeatedTurns ?turnsGo ?turnsStop ?attempt ?onceLeaf
    ?onceUndefined ?onceUnit ?onceActive ?onceEnter ?onceEnd ?onceGroup ?chooseNil ?chooseCons
    ?continuesNil ?continuesDone ?continuesPending).1
  case stepsNil =>
    intro active pending tree hactive hb
    exact chain_nil_simulates tree
  case stepsCons =>
    intro active pending tree a atoms hstep hrest hactive hb
    exact chain_cons_simulates (hstep hactive hb) (fun step hb' => hrest step hactive hb') hb
  case repeatedLookahead =>
    intro active pending a pos hl hattempt hactive hb
    exact repetition_simulates (fun _ => hattempt hactive hb) (fun hn => absurd hl hn)
  case repeatedTurns =>
    intro active pending a pos hl hturns hactive hb
    exact repetition_simulates (fun hn => absurd hn hl) (fun _ => hturns hactive hb)
  case turnsGo =>
    intro active pending a tree count hgo hcontinues hattempt hnext hactive hb
    refine turns_go_simulates hgo (hcontinues hactive hb) (hattempt hactive hb) ?_ hb
    intro turn hlt hb'
    exact hnext turn hlt hactive (by rwa [SyntaxTree.stop_merge])
  case turnsStop =>
    intro active pending a tree count hstop hactive hb
    exact turns_stop_simulates hstop
  case attempt =>
    intro active pending a pos honce hactive hb
    exact attempt_simulates (honce hactive hb)
  case onceLeaf =>
    intro active pending pos m l hactive hb
    exact condition_leaf_simulates m l
  case onceUndefined =>
    intro active pending pos m name hr hactive hb
    exact condition_undefined_simulates hr
  case onceUnit =>
    intro active pending pos m name r hr hit hu hactive hb
    exact condition_unit_simulates hr hu
  case onceActive =>
    intro active pending pos m name r hr hu hp ha hactive hb
    exact condition_rule_simulates hr hu (fun hn _ => absurd ha hn) hactive
  case onceEnter =>
    intro active pending pos m name r hr hu hp ha hsteps hactive hb
    exact condition_rule_simulates hr hu
      (fun hn _ => hsteps (List.nodup_cons.2 ⟨hn, hactive⟩) hb) hactive
  case onceEnd =>
    intro active pending pos m name r hr hu hp hactive hb
    exact condition_rule_simulates hr hu (fun _ hlt => absurd hlt hp) hactive
  case onceGroup =>
    intro active pending pos mark lookahead value alternatives hchoose hactive hb
    rw [Matching.once]
    refine .call ?_
    simp only [condition]
    exact hchoose hactive hb
  case chooseNil =>
    intro active pending pos fallback hactive hb
    rw [Matching.choose]
    refine .call ?_
    simp only [choice]
    exact .value (pure fallback)
  case chooseCons =>
    intro active pending pos fallback atoms alternatives head hsteps hnext hactive hb
    refine choice_cons_simulates (hsteps hactive hb) fun tree => ?_
    simpa only [dite_eq_ite] using hnext tree hactive hb
  case continuesNil =>
    intro active pos hactive hb h
    rw [Matching.continues]
    refine .call ?_
    simp only [parts]
    exact .pure true
  case continuesDone =>
    intro active pos outer hnext hactive hb h
    rw [Matching.continues] at h ⊢
    refine .call ?_
    simp only [parts]
    exact hnext hactive hb h
  case continuesPending =>
    intro active pos a atoms outer hsteps hnext hactive hb h
    exact parts_pending_scans (hsteps hactive hb) (fun tree hb' => hnext tree hactive hb') hb h

/-- From empty stacks a chain yields what the recursion makes of it. -/
theorem enterChain_simulates {atoms : List Atom} {pos : Nat}
    (hb : pos < (Input.ofUnits s).size → Boundary s pos) :
    Simulates guarded [] [] (fun n => enterChain guarded g (.ofUnits s) n atoms pos)
      (Matching.run g (.ofUnits s) atoms pos) := by
  intro h
  cases atoms with
  | nil =>
    refine .call ?_
    simp only [enterChain]
    exact .pure _
  | cons a atoms =>
    rw [Matching.run] at h ⊢
    by_cases hp : pos < (Input.ofUnits s).size
    · rw [if_pos hp] at h ⊢
      have ha : (a.handle, pos) ∉ ([] : List (Nat × Nat)) := List.not_mem_nil
      refine enterChain_yields hp ha .nil ?_
      exact chain_simulates guarded g s _ _ _ _ (List.pairwise_singleton _ _) (hb hp) h
    · rw [if_neg hp]
      exact enterChain_end_yields hp

/-- From any stacks a chain yields some tree, if the guard is up. -/
theorem enterChain_guarded_yields (g : Grammar) (atoms : List Atom) {pos : Nat}
    (hb : pos < (Input.ofUnits s).size → Boundary s pos) (hactive : active.Nodup)
    (pending : List (List Atom)) :
    ∃ tree, Yields (fun n => enterChain true g (.ofUnits s) n atoms pos) active pending tree := by
  cases atoms with
  | nil =>
    refine ⟨.deferred none pos, .call ?_⟩
    simp only [enterChain]
    exact .pure _
  | cons a atoms =>
    by_cases hp : pos < (Input.ofUnits s).size
    · by_cases ha : (a.handle, pos) ∈ active
      · exact ⟨_, enterChain_active_yields hp ha rfl⟩
      · have hentered : ((a.handle, pos) :: active).Nodup := List.nodup_cons.2 ⟨ha, hactive⟩
        have hchain := chain_simulates true g s _ pending (.begin (some a.handle) pos) (a :: atoms)
          hentered (hb hp) (.inl rfl)
        exact ⟨_, enterChain_yields hp ha hactive hchain⟩
    · exact ⟨_, enterChain_end_yields hp⟩

/-- **Matching ends and restores its stacks.** From a position that is not inside a unit and with
any stacks in which no place is active twice, matching the node of any handle ends: some depth of
nested calls is enough. It leaves both stacks as it found them, and in no state of `active` on the
way is a place twice. From empty stacks the tree is that of `runNode`. -/
theorem matchNode_returns (g : Grammar) (s : List α) (handle : Nat) {pos : Nat}
    (hb : pos < (Input.ofUnits s).size → Boundary s pos) (st : Stacks) (hactive : st.active.Nodup) :
    ∃ tree states depth, Distinct states ∧
      (∀ n ≥ depth, (matchNode true g (.ofUnits s) n handle pos).run st =
        some (tree, { st with record := states ++ st.record })) ∧
      (st.active = [] → st.pending = [] →
        tree = (Matching.runNode g (.ofUnits s) handle pos).value) := by
  obtain ⟨active, pending, record⟩ := st
  by_cases hempty : active = [] ∧ pending = []
  · obtain ⟨rfl, rfl⟩ := hempty
    have hyields : Yields (fun n => matchNode true g (.ofUnits s) n handle pos) [] []
        (Matching.runNode g (.ofUnits s) handle pos).value :=
      enterChain_simulates hb (.inl rfl)
    obtain ⟨states, depth, hstates, hrun⟩ := hyields record
    exact ⟨_, states, depth, hstates, hrun, fun _ _ => rfl⟩
  · obtain ⟨tree, htree⟩ :=
      enterChain_guarded_yields g ((g.chain? handle).getD []) hb hactive pending
    obtain ⟨states, depth, hstates, hrun⟩ := htree record
    exact ⟨tree, states, depth, hstates, hrun, fun ha hp => absurd ⟨ha, hp⟩ hempty⟩

/-- With a rule that enters itself through one that may match nothing, while another rule is
active. -/
theorem matchNode_returns_for_hidden_recursion :
    let b := (({} : Builder).compile { id := "A", body := "B ~A 'a'*?" }).1
    let g := (b.compile { id := "B", body := "'b'?" }).1.build.value
    let st : Stacks := { active := [(9, 1), (9, 0)], pending := [[]], record := [] }
    Boundary ['b', 'a'] 1 ∧ st.active.Nodup ∧
      ∃ tree states depth, Distinct states ∧
        (∀ n ≥ depth, (matchNode true g (.ofUnits ['b', 'a']) n 2 1).run st =
          some (tree, { st with record := states ++ st.record })) ∧
        (st.active = [] → st.pending = [] →
          tree = (Matching.runNode g (.ofUnits ['b', 'a']) 2 1).value) :=
  have hb : Boundary ['b', 'a'] 1 := ⟨['b'], ['a'], rfl, rfl⟩
  ⟨hb, by decide, matchNode_returns _ _ 2 (fun _ => hb) _ (by decide)⟩

end Functions

end Stacked

end Lexigram
