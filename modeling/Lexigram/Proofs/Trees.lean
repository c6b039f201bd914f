import Lexigram.Grammar.Builder
import Lexigram.Matching

/-!
# Well-formed syntax trees

Every tree that matching makes keeps to the input, whether the match succeeds or fails.

**The trees** (`WellFormed`). At every node the units are those of the input between the two ends of
the node, the children lie between these ends, one behind the other, and all of them matched.

**The faults** (`Noted.Ensures`). Reading from inside a unit, adding an attempt elsewhere than where
the one around it ends, and saying twice how an attempt came out are noted as faults. A computation
ensures a property when it leaves no fault and its value has the property.

The proof gives one lemma for each function of the matcher, from what the functions that it calls
ensure, and joins them by induction along the calls (`matching_ensures`). The invariant of a match
that goes on is `Growing`: the tree is well formed and not settled, and it is empty as long as it
has no children, which is why the only step of a chain may stand for the chain.

Main result: `runNode_ensures`.
-/

namespace Lexigram

open Readable (extent extent_nil extent_cons extent_append)

/-! ## Computations without faults -/

namespace Noted

variable {β γ : Type}

/-- What follows a computation is given only the value that comes out. -/
theorem bind_congr {x : Noted β} {f f' : β → Noted γ} (h : f x.value = f' x.value) :
    x >>= f = x >>= f' := by
  ext1
  · rw [value_bind, value_bind, h]
  · rw [notices_bind, notices_bind, h]

@[simp] theorem value_map (f : β → γ) (x : Noted β) : (f <$> x).value = f x.value := rfl

@[simp] theorem value_mapM {ε : Type} (f : ε → Noted β) (xs : List ε) :
    (xs.mapM f).value = xs.map fun x => (f x).value := by
  induction xs with
  | nil => rfl
  | cons x xs ih => rw [List.mapM_cons, value_bind, value_bind, value_pure, ih, List.map_cons]

/-- A computation leaves no notice of some kind and its value has a property. -/
def Avoids (kind : Notice → Bool) (x : Noted β) (p : β → Prop) : Prop :=
  (∀ n ∈ x.notices, kind n = false) ∧ p x.value

/-- A computation leaves no fault and its value has a property. -/
abbrev Ensures (x : Noted β) (p : β → Prop) : Prop := x.Avoids Notice.isFault p

variable {kind : Notice → Bool}

theorem Avoids.pure {b : β} {p : β → Prop} (h : p b) : (pure b : Noted β).Avoids kind p :=
  ⟨fun n hn => by simp at hn, h⟩

theorem Avoids.bind {x : Noted β} {f : β → Noted γ} {p : β → Prop} {q : γ → Prop}
    (hx : x.Avoids kind p) (hf : ∀ b, p b → (f b).Avoids kind q) : (x >>= f).Avoids kind q := by
  obtain ⟨hnotices, hq⟩ := hf x.value hx.2
  refine ⟨fun n hn => ?_, hq⟩
  rw [notices_bind, List.mem_append] at hn
  rcases hn with hn | hn
  · exact hx.1 n hn
  · exact hnotices n hn

theorem Avoids.mono {x : Noted β} {p q : β → Prop} (hx : x.Avoids kind p) (h : ∀ b, p b → q b) :
    x.Avoids kind q :=
  ⟨hx.1, h _ hx.2⟩

theorem Avoids.map {x : Noted β} {f : β → γ} {p : γ → Prop}
    (hx : x.Avoids kind fun b => p (f b)) : (f <$> x).Avoids kind p := by
  rw [map_eq_pure_bind]
  exact hx.bind fun b hb => Avoids.pure hb

/-- Computations one after the other leave no notice that none of them leaves. -/
theorem Avoids.mapM {ε : Type} {f : ε → Noted β} {xs : List ε}
    (h : ∀ x ∈ xs, (f x).Avoids kind fun _ => True) :
    (xs.mapM f).Avoids kind fun bs => bs = xs.map fun x => (f x).value := by
  refine ⟨?_, value_mapM f xs⟩
  induction xs with
  | nil => exact fun n hn => absurd hn List.not_mem_nil
  | cons x xs ih =>
    intro n hn
    rw [List.mapM_cons, notices_bind, notices_bind, notices_pure, List.append_nil,
      List.mem_append] at hn
    rcases hn with hn | hn
    · exact (h x List.mem_cons_self).1 n hn
    · exact ih (fun y hy => h y (List.mem_cons_of_mem x hy)) n hn

/-- The value that has the property is the one that comes out. -/
theorem Avoids.value {x : Noted β} {p : β → Prop} (hx : x.Avoids kind p) :
    x.Avoids kind fun b => p b ∧ b = x.value :=
  ⟨hx.1, hx.2, rfl⟩

theorem Avoids.note {n : Notice} {p : Unit → Prop} (hn : kind n = false) (hp : p ()) :
    (note n).Avoids kind p := by
  refine ⟨fun m hm => ?_, hp⟩
  rw [List.mem_singleton.1 hm, hn]

end Noted

/-! ## Units between positions -/

section Positions

variable {α : Type} [Readable α]

/-- A position before, between or behind the units of an input. -/
def Boundary (s : List α) (pos : Nat) : Prop := ∃ front back, s = front ++ back ∧ pos = extent front

/-- The units of an input between two positions. -/
def Spans (s : List α) (start stop : Nat) (units : List α) : Prop :=
  ∃ front back, s = front ++ (units ++ back) ∧ start = extent front ∧
    stop = extent (front ++ units)

/-- What precedes a position is determined by it, because every unit has a width. -/
theorem eq_of_extent_eq {front front' back back' : List α} (h : front ++ back = front' ++ back')
    (he : extent front = extent front') : front = front' ∧ back = back' := by
  rcases List.append_eq_append_iff.1 h with ⟨m, rfl, rfl⟩ | ⟨m, rfl, rfl⟩ <;>
    cases m with
    | nil => simp
    | cons a m =>
      have := Readable.width_pos a
      simp only [extent_append, extent_cons] at he
      omega

theorem Boundary.spans_nil {s : List α} {pos : Nat} (h : Boundary s pos) : Spans s pos pos [] := by
  obtain ⟨front, back, hs, hp⟩ := h
  exact ⟨front, back, hs, hp, by rw [List.append_nil, hp]⟩

theorem Spans.boundary_stop {s units : List α} {start stop : Nat} (h : Spans s start stop units) :
    Boundary s stop := by
  obtain ⟨front, back, hs, -, hp⟩ := h
  exact ⟨front ++ units, back, by rw [List.append_assoc, hs], hp⟩

theorem Spans.le {s units : List α} {start stop : Nat} (h : Spans s start stop units) :
    start ≤ stop := by
  obtain ⟨front, back, -, rfl, rfl⟩ := h
  rw [extent_append]
  omega

theorem Boundary.le {s : List α} {pos : Nat} (h : Boundary s pos) : pos ≤ extent s := by
  obtain ⟨front, back, rfl, rfl⟩ := h
  rw [extent_append]
  omega

theorem Spans.append {s units units' : List α} {start middle stop : Nat}
    (h : Spans s start middle units) (h' : Spans s middle stop units') :
    Spans s start stop (units ++ units') := by
  obtain ⟨front, back, rfl, rfl, rfl⟩ := h
  obtain ⟨front', back', hs, hm, rfl⟩ := h'
  rw [← List.append_assoc] at hs
  obtain ⟨rfl, rfl⟩ := eq_of_extent_eq hs hm
  exact ⟨front, back', by rw [List.append_assoc], rfl, by rw [List.append_assoc]⟩

/-- At the end of an input nothing is left to read. -/
theorem Boundary.exists_of_lt {s : List α} {pos : Nat} (h : Boundary s pos) (hp : pos < extent s) :
    ∃ front a back, s = front ++ a :: back ∧ pos = extent front := by
  obtain ⟨front, back, rfl, rfl⟩ := h
  cases back with
  | nil =>
    rw [List.append_nil] at hp
    omega
  | cons a back => exact ⟨front, a, back, rfl, rfl⟩

theorem boundary_zero (s : List α) : Boundary s 0 := ⟨[], s, rfl, rfl⟩

end Positions

/-! ## Trees that keep to the input -/

namespace SyntaxTree

variable {α : Type} [Readable α]

/-- A node keeps to an input. -/
structure Sound (s : List α) (t : SyntaxTree α) : Prop where
  start_le_stop : t.start ≤ t.stop
  stop_le_extent : t.stop ≤ extent s
  units : Spans s t.start t.stop t.units
  /-- The children do not overlap. -/
  ordered : t.children.Pairwise fun c d => c.stop ≤ d.start
  /-- The children lie between the ends of the node. -/
  inside : ∀ c ∈ t.children, t.start ≤ c.start ∧ c.stop ≤ t.stop
  matched : ∀ c ∈ t.children, c.matched

/-- A tree and all trees in it keep to an input. -/
inductive WellFormed (s : List α) : SyntaxTree α → Prop
  | node {t : SyntaxTree α} :
      Sound s t → (∀ c ∈ t.children, WellFormed s c) → WellFormed s t

theorem WellFormed.sound {s : List α} {t : SyntaxTree α} (h : WellFormed s t) : Sound s t := by
  cases h with
  | node hs _ => exact hs

theorem WellFormed.boundary_stop {s : List α} {t : SyntaxTree α} (h : WellFormed s t) :
    Boundary s t.stop :=
  h.sound.units.boundary_stop

theorem WellFormed.begin {s : List α} {pos : Nat} (h : Boundary s pos) (rule : Option Nat) :
    WellFormed s (begin rule pos) :=
  .node ⟨Nat.le_refl pos, h.le, h.spans_nil, .nil, by simp [SyntaxTree.begin],
    by simp [SyntaxTree.begin]⟩ (by simp [SyntaxTree.begin])

/-- Only the state of a tree says how it came out. -/
theorem WellFormed.withState {s : List α} {t : SyntaxTree α} (h : WellFormed s t)
    (state : MatchState) : WellFormed s { t with state } := by
  obtain ⟨hsound, hchildren⟩ := h
  exact .node ⟨hsound.start_le_stop, hsound.stop_le_extent, hsound.units, hsound.ordered,
    hsound.inside, hsound.matched⟩ hchildren

theorem WellFormed.consume {s units : List α} {t : SyntaxTree α} {stop : Nat}
    (h : WellFormed s t) (hu : Spans s t.stop stop units) : WellFormed s (t.consume units stop) := by
  obtain ⟨hsound, hchildren⟩ := h
  have hle := hu.le
  refine .node ⟨Nat.le_trans hsound.start_le_stop hle, hu.boundary_stop.le, hsound.units.append hu,
    hsound.ordered, fun c hc => ?_, hsound.matched⟩ hchildren
  exact ⟨(hsound.inside c hc).1, Nat.le_trans (hsound.inside c hc).2 hle⟩

theorem WellFormed.absorb {s : List α} {t c : SyntaxTree α} (h : WellFormed s t)
    (hc : WellFormed s c) (hm : c.matched) (hp : c.start = t.stop) :
    WellFormed s (t.absorb c) := by
  obtain ⟨hsound, hchildren⟩ := h
  have hcs := hc.sound
  have hle : t.stop ≤ c.stop := hp ▸ hcs.start_le_stop
  have hmem : ∀ {d}, d ∈ (t.absorb c).children → d ∈ t.children ∨ d = c := by
    simp [SyntaxTree.absorb]
  refine .node ⟨Nat.le_trans hsound.start_le_stop hle, hcs.stop_le_extent, ?_, ?_, ?_, ?_⟩ ?_
  · exact hsound.units.append (hp ▸ hcs.units)
  · refine List.pairwise_append.2 ⟨hsound.ordered, List.pairwise_singleton _ c, ?_⟩
    intro d hd e he
    rw [List.mem_singleton.1 he, hp]
    exact (hsound.inside d hd).2
  · intro d hd
    rcases hmem hd with hd | rfl
    · exact ⟨(hsound.inside d hd).1, Nat.le_trans (hsound.inside d hd).2 hle⟩
    · exact ⟨hp ▸ hsound.start_le_stop, Nat.le_refl _⟩
  · intro d hd
    rcases hmem hd with hd | rfl
    · exact hsound.matched d hd
    · exact hm
  · intro d hd
    rcases hmem hd with hd | rfl
    · exact hchildren d hd
    · exact hc

theorem WellFormed.merge {s : List α} {t c : SyntaxTree α} (h : WellFormed s t)
    (hc : WellFormed s c) (hm : c.matched) (hp : c.start = t.stop) :
    WellFormed s (t.merge c) := by
  unfold SyntaxTree.merge
  split
  · exact h.consume (hp ▸ hc.sound.units)
  · exact h.absorb hc hm hp

/-- The tree of an attempt that ended, whether it matched or not. -/
structure Settled (s : List α) (pos : Nat) (t : SyntaxTree α) : Prop where
  wellFormed : WellFormed s t
  start : t.start = pos
  settled : t.state ≠ .pending

theorem Settled.le {s : List α} {pos : Nat} {t : SyntaxTree α} (h : Settled s pos t) :
    pos ≤ t.stop := by
  rw [← h.start]
  exact h.wellFormed.sound.start_le_stop

/-- The tree of an attempt that goes on. -/
structure Growing (s : List α) (pos : Nat) (t : SyntaxTree α) : Prop where
  wellFormed : WellFormed s t
  start : t.start = pos
  pending : t.state = .pending

/-- What an attempt found, if it found anything, is a match. -/
def Found (s : List α) (pos : Nat) (found : Option (SyntaxTree α)) : Prop :=
  ∀ t, found = some t → Settled s pos t ∧ t.matched

theorem Growing.begin {s : List α} {pos : Nat} (h : Boundary s pos) (rule : Option Nat) :
    Growing s pos (begin rule pos) :=
  ⟨WellFormed.begin h rule, rfl, rfl⟩

theorem Settled.deferred {s : List α} {pos : Nat} (h : Boundary s pos) (rule : Option Nat) :
    Settled s pos (deferred rule pos) :=
  ⟨(WellFormed.begin h rule).withState .deferred, rfl, by simp [SyntaxTree.deferred]⟩

theorem Growing.absorb {s : List α} {pos : Nat} {t c : SyntaxTree α} (h : Growing s pos t)
    (hc : Settled s t.stop c) (hm : c.matched) : Growing s pos (t.absorb c) :=
  ⟨h.wellFormed.absorb hc.wellFormed hm hc.start, h.start, h.pending⟩

theorem Growing.merge {s : List α} {pos : Nat} {t c : SyntaxTree α} (h : Growing s pos t)
    (hc : Settled s t.stop c) (hm : c.matched) : Growing s pos (t.merge c) := by
  refine ⟨h.wellFormed.merge hc.wellFormed hm hc.start, ?_, ?_⟩ <;> unfold SyntaxTree.merge <;> split
  · exact h.start
  · exact h.start
  · exact h.pending
  · exact h.pending

theorem Found.none {s : List α} {pos : Nat} : Found s pos none := fun t ht => by simp at ht

theorem Found.some {s : List α} {pos : Nat} {t : SyntaxTree α} (h : Settled s pos t)
    (hm : t.matched) : Found s pos (some t) := by
  rintro _ ⟨⟩
  exact ⟨h, hm⟩

end SyntaxTree

/-! ## Matching -/

namespace Matching

open SyntaxTree (WellFormed Settled Growing Found)

variable {α : Type} [Readable α]

theorem settle_ensures {s : List α} {pos : Nat} {t : SyntaxTree α} (h : Growing s pos t)
    {state : MatchState} (hs : state ≠ .pending) :
    (settle t state).Ensures fun u => Settled s pos u ∧ u.state = state := by
  rw [settle, Noted.expect_of_true h.pending, pure_bind]
  have hu : t.settle state = { t with state } := if_pos h.pending
  rw [hu]
  exact Noted.Avoids.pure ⟨⟨h.wellFormed.withState state, h.start, hs⟩, rfl⟩

omit [Readable α] in
theorem expectAdjoining_eq {t c : SyntaxTree α} (h : c.start = t.stop) :
    expectAdjoining t c = pure () :=
  Noted.expect_of_true h _

omit [Readable α] in
theorem expectMergeable_eq {t c : SyntaxTree α} (h : c.start = t.stop) :
    expectMergeable t c = pure () := by
  unfold expectMergeable
  split
  · rfl
  · exact expectAdjoining_eq h

theorem leaf_ensures {s units : List α} {start stop : Nat} (h : Spans s start stop units)
    (a : Atom) :
    (leaf (.ofUnits s) a start stop).Ensures fun t => Settled s start t ∧ t.matched := by
  have hslice : (Input.ofUnits s).slice start stop = pure units := by
    obtain ⟨front, back, rfl, rfl, rfl⟩ := h
    exact Input.slice_ofUnits front units back
  have hstart : Boundary s start := by
    obtain ⟨front, back, hs, hp, -⟩ := h
    exact ⟨front, units ++ back, hs, hp⟩
  have hgrowing : Growing s start ((SyntaxTree.begin (some a.handle) start).consume units stop) :=
    ⟨(WellFormed.begin hstart _).consume h, rfl, rfl⟩
  rw [leaf, hslice, pure_bind]
  refine (settle_ensures hgrowing (by decide)).mono fun t ht => ⟨ht.1, ?_⟩
  rw [SyntaxTree.matched, ht.2]
  rfl

theorem some_leaf_ensures {s units : List α} {start stop : Nat} (h : Spans s start stop units)
    (a : Atom) : (some <$> leaf (.ofUnits s) a start stop).Ensures (Found s start) :=
  ((leaf_ensures h a).mono fun _ ht => Found.some ht.1 ht.2).map

/-- The unit at a position, for an inverted atom or a reference that stands for a unit. -/
theorem leaf_advance_ensures {front back : List α} {a : α} (b : Atom) :
    (do some <$> leaf (.ofUnits (front ++ a :: back)) b (extent front)
          (← (Input.ofUnits (front ++ a :: back)).advance (extent front))).Ensures
      (Found (front ++ a :: back) (extent front)) := by
  rw [Input.advance_ofUnits, pure_bind]
  exact some_leaf_ensures ⟨front, back, rfl, rfl, rfl⟩ b

theorem deny_ensures {s : List α} {pos : Nat} (h : Boundary s pos) (a : Atom)
    (denied : Option (SyntaxTree α)) :
    (deny (.ofUnits s) a pos denied).Ensures (Found s pos) := by
  unfold deny
  split
  · split
    · exact .pure .none
    · exact some_leaf_ensures h.spans_nil a
  · split
    · exact .pure .none
    · obtain ⟨front, back, rfl, rfl⟩ := h
      cases back with
      | nil =>
        have hstay : (Input.ofUnits (front ++ [])).advance (extent front) = pure (extent front) := by
          rw [Input.advance, Input.read_ofUnits, pure_bind]
        rw [hstay, pure_bind, if_neg (Nat.lt_irrefl _)]
        exact .pure .none
      | cons b back =>
        rw [Input.advance_ofUnits, pure_bind, if_pos (Readable.extent_lt_append front b)]
        exact some_leaf_ensures ⟨front, back, rfl, rfl, rfl⟩ a

/-! ### One lemma for each function -/

variable {g : Grammar} {s : List α} {active : List (Nat × Nat)} {pending : List (List Atom)}

theorem steps_nil_ensures {pos : Nat} {tree : SyntaxTree α} (h : Growing s pos tree) :
    (steps g (.ofUnits s) active pending tree []).Ensures (Settled s pos) := by
  rw [steps]
  exact (settle_ensures h (by decide)).mono fun _ ht => ht.1

theorem steps_cons_ensures {pos : Nat} {tree : SyntaxTree α} {a : Atom} {atoms : List Atom}
    (hstep : (repeated g (.ofUnits s) active (atoms :: pending) a tree.stop).Ensures
      (Settled s tree.stop))
    (hrest : ∀ step, Growing s pos (tree.absorb step) →
      (steps g (.ofUnits s) active pending (tree.absorb step) atoms).Ensures (Settled s pos))
    (h : Growing s pos tree) (hempty : tree.children = [] → tree.stop = pos) :
    (steps g (.ofUnits s) active pending tree (a :: atoms)).Ensures (Settled s pos) := by
  rw [steps]
  refine hstep.bind fun step hs => ?_
  split
  · exact (settle_ensures h (by decide)).mono fun _ ht => ht.1
  · next hm =>
    rw [Bool.not_eq_true', Bool.not_eq_false] at hm
    split
    · next hone =>
      rw [Bool.and_eq_true, List.isEmpty_iff, List.isEmpty_iff] at hone
      exact .pure (hempty hone.2 ▸ hs)
    · rw [expectAdjoining_eq hs.start, pure_bind]
      exact hrest step (h.absorb hs hm)

theorem repeated_ensures {a : Atom} {pos : Nat}
    (hattempt : a.isLookahead = true →
      (attempt g (.ofUnits s) active pending a pos).Ensures (Found s pos))
    (hturns : ¬a.isLookahead = true →
      (turns g (.ofUnits s) active pending a (.begin (some a.handle) pos) 0).Ensures
        fun r => Growing s pos r.1)
    (h : Boundary s pos) :
    (repeated g (.ofUnits s) active pending a pos).Ensures (Settled s pos) := by
  rw [repeated]
  split
  · next hl =>
    refine (hattempt hl).bind fun found hf => ?_
    cases found with
    | some tree => exact .pure (hf tree rfl).1
    | none =>
      dsimp only
      split
      · exact (leaf_ensures h.spans_nil a).mono fun _ ht => ht.1
      · exact .pure (Settled.deferred h _)
  · next hl =>
    refine (hturns hl).bind fun ⟨tree, count⟩ ht => ?_
    exact (settle_ensures ht (by split <;> decide)).mono fun _ hu => hu.1

theorem turns_stop_ensures {pos : Nat} {a : Atom} {tree : SyntaxTree α} {count : Nat}
    (hstop : ¬(count < a.mark.quantifier.max ∧ tree.stop < (Input.ofUnits s).size))
    (h : Growing s pos tree) :
    (turns g (.ofUnits s) active pending a tree count).Ensures fun r => Growing s pos r.1 := by
  rw [turns, dif_neg hstop]
  exact .pure h

theorem turns_go_ensures {pos : Nat} {a : Atom} {tree : SyntaxTree α} {count : Nat}
    (hgo : count < a.mark.quantifier.max ∧ tree.stop < (Input.ofUnits s).size)
    (hcontinues : (continues g (.ofUnits s) active pending tree.stop).Ensures fun _ => True)
    (hattempt : (attempt g (.ofUnits s) active pending a tree.stop).Ensures (Found s tree.stop))
    (hnext : ∀ turn, tree.stop < turn.stop → Growing s pos (tree.merge turn) →
      (turns g (.ofUnits s) active pending a (tree.merge turn) (count + 1)).Ensures
        fun r => Growing s pos r.1)
    (h : Growing s pos tree) :
    (turns g (.ofUnits s) active pending a tree count).Ensures fun r => Growing s pos r.1 := by
  rw [turns, dif_pos hgo]
  refine Noted.Avoids.bind (p := fun _ => True) ?_ fun lazyStop _ => ?_
  · split
    · exact hcontinues
    · exact .pure trivial
  · split
    · exact .pure h
    · refine hattempt.bind fun found hf => ?_
      cases found with
      | none => exact .pure h
      | some turn =>
        obtain ⟨hturn, hm⟩ := hf turn rfl
        have hmerge := h.merge hturn hm
        dsimp only
        rw [expectMergeable_eq hturn.start, pure_bind]
        split
        · next hlt => exact hnext turn hlt hmerge
        · exact .pure hmerge

theorem attempt_ensures {a : Atom} {pos : Nat}
    (honce : (once g (.ofUnits s) active pending a pos).Ensures (Found s pos))
    (h : Boundary s pos) : (attempt g (.ofUnits s) active pending a pos).Ensures (Found s pos) := by
  rw [attempt]
  refine honce.bind fun found hf => ?_
  split
  · exact deny_ensures h a found
  · exact .pure hf

theorem once_leaf_ensures {pos : Nat} (m : Mark) (l : Leaf) (h : Boundary s pos) :
    (once g (.ofUnits s) active pending (.leaf m l) pos).Ensures (Found s pos) := by
  obtain ⟨front, back, rfl, rfl⟩ := h
  rw [once, Input.test_ofUnits, pure_bind]
  cases ht : Readable.test l.pattern back with
  | none => exact .pure .none
  | some n =>
    obtain ⟨read, rest, rfl, -, hn⟩ := Readable.test_eq_some ht
    refine some_leaf_ensures ⟨front, rest, rfl, rfl, ?_⟩ _
    rw [extent_append, hn]
    rfl

theorem once_unit_ensures {pos : Nat} {m : Mark} {name : String} {r : Rule} {hit : α → Bool}
    (hr : g.find? name = some r) (hu : Readable.standsFor? r = some hit) (h : Boundary s pos) :
    (once g (.ofUnits s) active pending (.reference m name) pos).Ensures (Found s pos) := by
  obtain ⟨front, back, rfl, rfl⟩ := h
  rw [once_unit g _ active pending m _ hr hu, Input.read_ofUnits, pure_bind]
  cases back with
  | nil => exact .pure .none
  | cons a back =>
    split
    · exact leaf_advance_ensures _
    · exact .pure .none

theorem once_rule_ensures {pos : Nat} {m : Mark} {name : String} {r : Rule}
    (hr : g.find? name = some r) (hu : Readable.standsFor? (α := α) r = none)
    (hsteps : (r.handle, pos) ∉ active → pos < (Input.ofUnits s).size →
      (steps g (.ofUnits s) ((r.handle, pos) :: active) pending (.begin (some r.handle) pos)
        [r.head]).Ensures (Settled s pos)) :
    (once g (.ofUnits s) active pending (.reference m name) pos).Ensures (Found s pos) := by
  rw [once_rule g _ active pending m pos hr hu]
  split
  · next hp =>
    split
    · exact (Noted.Avoids.note (p := fun _ => True) rfl trivial).bind fun _ _ => .pure .none
    · next ha =>
      refine (hsteps ha hp).bind fun tree ht => .pure ?_
      split
      · next hm => exact .some ht hm
      · exact .none
  · exact .pure .none

theorem choose_cons_ensures {pos : Nat} {atoms : List Atom} {alternatives : List (List Atom)}
    {fallback : Option (SyntaxTree α)}
    (hsteps : (steps g (.ofUnits s) active pending
      (.begin (atoms.head?.map Atom.handle) pos) atoms).Ensures (Settled s pos))
    (hnext : ∀ tree : SyntaxTree α,
      Found s pos (fallback.or (if tree.matched then some tree else none)) →
      (choose g (.ofUnits s) active pending alternatives pos
        (fallback.or (if tree.matched then some tree else none))).Ensures (Found s pos))
    (h : Found s pos fallback) :
    (choose g (.ofUnits s) active pending (atoms :: alternatives) pos fallback).Ensures
      (Found s pos) := by
  rw [choose]
  refine hsteps.bind fun tree ht => ?_
  split
  · next ha =>
    rw [SyntaxTree.isAbsolute, Bool.and_eq_true] at ha
    exact .pure (.some ht ha.1)
  · refine hnext tree fun t hf => ?_
    rcases Option.or_eq_some_iff.1 hf with hf | ⟨-, hf⟩
    · exact h t hf
    · split at hf
      · next hm =>
        cases hf
        exact ⟨ht, hm⟩
      · simp at hf

theorem continues_pending_ensures {pos : Nat} {a : Atom} {atoms : List Atom}
    {outer : List (List Atom)}
    (hsteps : (steps g (.ofUnits s) active outer (.begin (some a.handle) pos) (a :: atoms)).Ensures
      (Settled s pos))
    (hnext : ∀ tree, Settled s pos tree →
      (continues g (.ofUnits s) active outer tree.stop).Ensures fun _ => True) :
    (continues g (.ofUnits s) active ((a :: atoms) :: outer) pos).Ensures fun _ => True := by
  rw [continues]
  refine hsteps.bind fun tree ht => ?_
  split
  · exact hnext tree ht
  · exact .pure trivial

/-! ### All runs -/

/-- **Matching keeps trees well formed.** Each function of the matcher leaves no fault, and the
trees that it makes are well formed, whatever is active and pending. -/
theorem matching_ensures (g : Grammar) (s : List α) :
    (∀ active pending tree atoms pos, Growing s pos tree →
      (tree.children = [] → tree.stop = pos) →
      (steps g (.ofUnits s) active pending tree atoms).Ensures (Settled s pos)) ∧
    (∀ active pending a pos, Boundary s pos →
      (repeated g (.ofUnits s) active pending a pos).Ensures (Settled s pos)) ∧
    (∀ active pending a tree count pos, Growing s pos tree →
      (turns g (.ofUnits s) active pending a tree count).Ensures fun r => Growing s pos r.1) ∧
    (∀ active pending a pos, Boundary s pos →
      (attempt g (.ofUnits s) active pending a pos).Ensures (Found s pos)) ∧
    (∀ active pending a pos, Boundary s pos →
      (once g (.ofUnits s) active pending a pos).Ensures (Found s pos)) ∧
    (∀ active pending alternatives pos fallback, Boundary s pos → Found s pos fallback →
      (choose g (.ofUnits s) active pending alternatives pos fallback).Ensures (Found s pos)) ∧
    (∀ active pending pos, Boundary s pos →
      (continues g (.ofUnits s) active pending pos).Ensures fun _ => True) := by
  -- The induction is along the calls. Only `steps` needs to know that a tree without children is
  -- empty, since only there a step may take the place of the tree.
  refine steps.mutual_induct g (.ofUnits s) _ _ _ _ _ _ _
    ?stepsNil ?stepsCons ?repeatedLookahead ?repeatedTurns ?turnsGo ?turnsStop ?attempt ?onceLeaf
    ?onceUndefined ?onceUnit ?onceActive ?onceEnter ?onceEnd ?onceGroup ?chooseNil ?chooseCons
    ?continuesNil ?continuesDone ?continuesPending
  case stepsNil =>
    intro active pending tree pos h hempty
    exact steps_nil_ensures h
  case stepsCons =>
    intro active pending tree a atoms hstep hrest pos h hempty
    refine steps_cons_ensures (hstep h.wellFormed.boundary_stop) ?_ h hempty
    intro step hgrows
    refine hrest step pos hgrows fun hc => ?_
    simp [SyntaxTree.absorb] at hc
  case repeatedLookahead =>
    intro active pending a pos hl hattempt h
    exact repeated_ensures (fun _ => hattempt h) (fun hn => absurd hl hn) h
  case repeatedTurns =>
    intro active pending a pos hl hturns h
    exact repeated_ensures (fun hn => absurd hn hl) (fun _ => hturns pos (.begin h _)) h
  case turnsGo =>
    intro active pending a tree count hgo hcontinues hattempt hnext pos h
    have hstop := h.wellFormed.boundary_stop
    exact turns_go_ensures hgo (hcontinues hstop) (hattempt hstop)
      (fun turn hlt hgrows => hnext turn hlt pos hgrows) h
  case turnsStop =>
    intro active pending a tree count hstop pos h
    exact turns_stop_ensures hstop h
  case attempt =>
    intro active pending a pos honce h
    exact attempt_ensures (honce h) h
  case onceLeaf =>
    intro active pending pos m l h
    exact once_leaf_ensures m l h
  case onceUndefined =>
    intro active pending pos m name hr h
    rw [once_undefined g _ active pending m pos hr]
    exact .pure .none
  case onceUnit =>
    intro active pending pos m name r hr hit hu h
    exact once_unit_ensures hr hu h
  case onceActive =>
    intro active pending pos m name r hr hu hp ha h
    exact once_rule_ensures hr hu (fun hn => absurd ha hn)
  case onceEnter =>
    intro active pending pos m name r hr hu hp ha hsteps h
    exact once_rule_ensures hr hu fun _ _ => hsteps pos (.begin h _) fun _ => rfl
  case onceEnd =>
    intro active pending pos m name r hr hu hp h
    exact once_rule_ensures hr hu fun _ hlt => absurd hlt hp
  case onceGroup =>
    intro active pending pos mark lookahead value alternatives hchoose h
    rw [once]
    exact hchoose h .none
  case chooseNil =>
    intro active pending pos fallback h hf
    rw [choose]
    exact .pure hf
  case chooseCons =>
    intro active pending pos fallback atoms alternatives head hsteps hnext h hf
    refine choose_cons_ensures (hsteps pos (.begin h _) fun _ => rfl) (fun tree hfound => ?_) hf
    simpa only [dite_eq_ite] using hnext tree h (by simpa only [dite_eq_ite] using hfound)
  case continuesNil =>
    intro active pos h
    rw [continues]
    exact .pure trivial
  case continuesDone =>
    intro active pos outer hnext h
    rw [continues]
    exact hnext h
  case continuesPending =>
    intro active pos a atoms outer hsteps hnext h
    exact continues_pending_ensures (hsteps pos (.begin h _) fun _ => rfl)
      fun tree ht => hnext tree ht.wellFormed.boundary_stop

section

variable (g active pending)

theorem steps_settled {pos : Nat} {tree : SyntaxTree α} (h : Growing s pos tree)
    (hempty : tree.children = [] → tree.stop = pos) (atoms : List Atom) :
    (steps g (.ofUnits s) active pending tree atoms).Ensures (Settled s pos) :=
  (matching_ensures g s).1 active pending tree atoms pos h hempty

theorem repeated_settled {pos : Nat} (h : Boundary s pos) (a : Atom) :
    (repeated g (.ofUnits s) active pending a pos).Ensures (Settled s pos) :=
  (matching_ensures g s).2.1 active pending a pos h

theorem attempt_found {pos : Nat} (h : Boundary s pos) (a : Atom) :
    (attempt g (.ofUnits s) active pending a pos).Ensures (Found s pos) :=
  (matching_ensures g s).2.2.2.1 active pending a pos h

end

theorem run_ensures (g : Grammar) (s : List α) (atoms : List Atom) {pos : Nat}
    (h : Boundary s pos) : (run g (.ofUnits s) atoms pos).Ensures (Settled s pos) := by
  unfold run
  split
  · exact .pure (Settled.deferred h _)
  · split
    · exact steps_settled g _ _ (.begin h _) (fun _ => rfl) _
    · exact .pure (Settled.deferred h _)

/-- **Every run makes a well-formed tree.** From a position between units, matching the node of any
handle leaves no fault, and the tree that comes out, be it of a match or of a failure, is well
formed and begins at the position. -/
theorem runNode_ensures (g : Grammar) (s : List α) (handle : Nat) {pos : Nat}
    (h : Boundary s pos) : (runNode g (.ofUnits s) handle pos).Ensures (Settled s pos) :=
  run_ensures g s _ h

/-- Inside a text, behind a character of two bytes. -/
theorem runNode_ensures_behind_umlaut :
    let g := (({} : Builder).compile { id := "A", body := "'b'*? ~('c' A)" }).1.build.value
    Boundary ['ä', 'b', 'c'] 2 ∧
      (runNode g (.ofUnits ['ä', 'b', 'c']) 2 2).Ensures (Settled ['ä', 'b', 'c'] 2) :=
  have h : Boundary ['ä', 'b', 'c'] 2 := ⟨['ä'], ['b', 'c'], rfl, rfl⟩
  ⟨h, runNode_ensures _ _ 2 h⟩

end Matching

end Lexigram
