import Lexigram.Proofs.OffsetReaders

/-!
# Rule bodies by offsets

The reader of rule bodies once more, on offsets into the bytes of the body. Every byte that it looks
at and every piece that it cuts out has to be there, every turn of a loop has to get further, and
every node that it changes has to be one of those that the rule has made so far.

**Ends** (`Ends`, `Cuts`). The terminator and the command are cut off at offsets between characters,
and no arrow is cut in two.

**Turns** (`Rule.readAlternatives_steps`). An atom is read as an opening, an inside and a closing.
Each of them leaves fewer characters, and the inside of a group is smaller than what is left.

**Nodes** (`node?`). The nodes of a rule are numbered as they are made. A node that is looked up was
made before, because the next number only grows.

Main result: `Offsets.readBody_tracks`.
-/

namespace Lexigram

open Text (byte? slice? byteLength IsWide)

theorem Checked.lift_bind {α β : Type} (x : Except CompileError α)
    (f : α → Except CompileError β) :
    Checked.lift (x >>= f) = Checked.lift x >>= fun a => Checked.lift (f a) := by
  cases x <;> rfl

theorem Checked.lift_map {α β : Type} (x : Except CompileError α) (f : α → β) :
    Checked.lift (x.map f) = Checked.lift x >>= fun a => pure (f a) := by
  cases x <;> rfl

namespace Rule

variable {r : Region} {start : Nat} {first : Bool} {base : Nat} {c : Char} {s t : List Char}

/-! ## The reader of alternatives, step by step -/

theorem readQuantifier_diagnostics (r : Region) (s : List Char) :
    (readQuantifier r s).diagnostics = [] := by
  unfold readQuantifier
  split
  · split
    · split <;> rfl
    · rfl
  · rfl

theorem readAlternatives_skipBlanks :
    readAlternatives r start first base s =
      readAlternatives r start first base (skipBlanks s) := by
  induction s with
  | nil => rfl
  | cons c t ih =>
    by_cases hc : Text.isAsciiBlank c = true
    · rw [readAlternatives_blank r start first base hc, ih, skipBlanks, skipBlanks,
        List.dropWhile_cons_of_pos hc]
    · rw [skipBlanks, List.dropWhile_cons_of_neg hc]

/-- Reads the alternatives inside of an atom that takes the handle `base`. -/
def readInner (r : Region) (base : Nat) (o : Opening) : Checked (List (List Atom) × Nat) :=
  if o.head.isGroup then do
    let read ← readAlternatives (r.inside o) ((r.inside o).offset o.inside) true (base + 1) o.inside
    pure (read.1 :: read.2.1, read.2.2)
  else pure ([], base + 1)

/-- Reads what follows the head of an atom: its quantifier, and the head again. -/
def readClosing (r : Region) (o : Opening) : Checked ((Quantifier × Head) × List Char) := do
  let quantified ← readQuantifier r o.rest
  let closed := readEndAnchor o.head quantified.2
  pure ((quantified.1, closed.1), closed.2)

theorem length_readClosing {o : Opening} {p : (Quantifier × Head) × List Char}
    (h : (readClosing r o).result = .ok p) : p.2.length ≤ o.rest.length := by
  obtain ⟨quantified, hq, hp⟩ := Checked.result_bind_eq_ok.1 h
  cases hp
  exact Nat.le_trans (length_readEndAnchor o.head quantified.2) (length_readQuantifier hq)

/-- An atom is read in steps, all of which may leave diagnostics. -/
theorem readAlternatives_steps (hc : ¬Text.isAsciiBlank c) (hbar : c ≠ '|') :
    readAlternatives r start first base (c :: t) = (do
      let o ← readOpening r (c :: t)
      let inside ← readInner r base o
      let closed ← readClosing r o
      let read ← readAlternatives r start false inside.2 closed.2
      let atom := closed.1.2.toAtom ⟨base, o.inverted, closed.1.1⟩ o.inside inside.1
      pure (atom :: read.1, read.2.1, read.2.2)) := by
  rw [readAlternatives, if_neg hc, if_neg hbar]
  split
  · next ds e ho =>
    rw [ho]
    rfl
  · next ds o ho =>
    rw [ho]
    congr 1
    refine congrArg _ (funext fun inside => ?_)
    have hnone := readQuantifier_diagnostics r o.rest
    dsimp only [readClosing]
    split
    · next hq =>
      rw [hq] at hnone ⊢
      subst hnone
      rfl
    · next hq =>
      rw [hq] at hnone ⊢
      subst hnone
      rfl

end Rule

namespace Offsets

open Guarded (Tracks demand stuck)
open Rule (Region Head)

/-! ## Bodies -/

/-- The offset at which a body ends without its terminator. Only blanks may follow that. -/
def splitTerminator (src : List Char) (rule : String) : Guarded Nat := do
  match ← findTop src rule (byteLength src) (fun i => (byte? src i).map (· == ';')) 0 0 with
  | some i => do
    let rest ← demand (skipWhile src Text.isAsciiBlank (byteLength src) (i + 1))
    if rest < byteLength src then .fail (.malformedBody rule rest .inputAfterTerminator)
    else pure i
  | none => pure (byteLength src)

/-- Whether an arrow begins at an offset. The second byte need not be there. -/
def isArrow (src : List Char) (i : Nat) : Option Bool :=
  (byte? src i).map fun b => b == '-' && byte? src (i + 1) == some '>'

/-- The offset at which the alternatives end, and the command behind them. -/
def splitCommand (src : List Char) (rule : String) (stop : Nat) :
    Guarded (Nat × Option Command) := do
  match ← findTop src rule stop (isArrow src) 0 0 with
  | some i => do
    let text ← demand (slice? src (i + 2) stop)
    match Command.read? text with
    | some command => pure (i, some command)
    | none => .fail (.malformedBody rule i .malformedCommand)
  | none => pure (stop, none)

/-! ## Alternatives -/

/-- A node of a rule, whose nodes so far are numbered from `root` up to but without `next`. -/
def node? (root next handle : Nat) : Option Unit :=
  if root ≤ handle ∧ handle < next then some () else none

/-- Reads what follows the head of the atom `base`: its quantifier, and the head again. The atom and
the one in front of it are changed. -/
def readClosing (src : List Char) (root : Nat) (r : Region) (prev : Option Nat) (base next : Nat)
    (o : Opening) : Guarded ((Quantifier × Head) × Nat) := do
  demand (node? root next base)
  let (quantifier, after) ← readQuantifier src r o.after
  let (head, after) ← readEndAnchor src r o.head after
  demand (node? root next (prev.getD base))
  pure ((quantifier, head), after)

/-- Reads on in the alternatives of the node `group`. The current one began at `start`, and `prev`
is its last atom so far. -/
def readAlternatives (src : List Char) (root : Nat) (r : Region) (group start : Nat)
    (prev : Option Nat) (base pos : Nat) : Guarded (List Atom × List (List Atom) × Nat) := do
  let here ← demand (skipWhile src Text.isAsciiBlank r.stop pos)
  if r.stop ≤ here then
    if prev.isNone then refuse r start .emptyAlternative
    else do
      demand (node? root base group)
      pure ([], [], base)
  else do
    let b ← demand (byte? src here)
    if b = '|' then
      if prev.isNone then refuse r start .emptyAlternative
      else do
        demand (node? root base group)
        if pos < here + 1 then do
          let (atoms, others, base) ←
            readAlternatives src root r group (here + 1) none base (here + 1)
          pure ([], atoms :: others, base)
        else stuck
    else do
      let o ← readOpening src r here
      let (inner, next) ←
        (match o.bounds with
        | none => pure ([], base + 1)
        | some (first, close) =>
          if close - first < r.stop - pos then do
            let (atoms, others, next) ←
              readAlternatives src root { r with stop := close } base first none (base + 1) first
            pure (atoms :: others, next)
          else stuck)
      let ((quantifier, head), after) ← readClosing src root r prev base next o
      if pos < after ∧ pos < r.stop then do
        let (atoms, others, next) ← readAlternatives src root r group start (some base) next after
        pure (head.toAtom ⟨base, o.inverted, quantifier⟩ o.inside inner :: atoms, others, next)
      else stuck
termination_by r.stop - pos

/-- Reads the body of a rule whose own node is `base`. -/
def readBody (rule : String) (cap base : Nat) (src : List Char) :
    Guarded (List (List Atom) × Option Command) := do
  let stop ← splitTerminator src rule
  let (stop, command) ← splitCommand src rule stop
  let text ← demand (slice? src 0 stop)
  if (Text.trim text).isEmpty then .fail (.emptyRule rule)
  else do
    let (atoms, others, _) ←
      readAlternatives src base ⟨rule, cap, stop⟩ base 0 none (base + 1) 0
    pure (atoms :: others, command)

section Bodies

variable {src s t : List Char} {rule : String} {r : Region} {stop pos i : Nat} {b c : Char}

/-! ## The parts of a body -/

/-- A body that ends at an offset in front of which an arrow is not cut in two. -/
def Ends (src : List Char) (stop : Nat) (body : List Char) : Prop :=
  Spans src 0 stop body ∧ byte? src stop ≠ some '>'

theorem agrees_semicolon (src : List Char) (stop : Nat) :
    Agrees src stop (fun i => (byte? src i).map (· == ';')) (·.head? == some ';') where
  first h := by
    obtain ⟨b, hb, hlike⟩ := h.exists_byte?
    simp [hb, Bool.beq_eq_decide_eq, hlike.eq_iff (d := ';') (by decide)]
  wide hb hw := by simp [hb, hw.ne (d := ';') (by decide)]
  plain h := by
    obtain rfl : _ = ';' := by simpa using h
    rfl

theorem agrees_arrow (hstop : byte? src stop ≠ some '>') :
    Agrees src stop (isArrow src) (fun s => ['-', '>'].isPrefixOf s) where
  first {i c s} h := by
    obtain ⟨b, hb, hlike⟩ := h.exists_byte?
    rw [isArrow, hb, Option.map_some]
    by_cases hc : c = '-'
    · subst hc
      have htail := h.tail_narrow (by decide)
      cases s with
      | nil =>
        obtain rfl : stop = i + 1 := htail.stop_eq_add
        simp [hstop]
      | cons d s =>
        simp [(hlike.eq_iff (d := '-') (by decide)).2 rfl, List.isPrefixOf,
          Bool.beq_eq_decide_eq, htail.byte?_eq_some_iff (d := '>') (by decide), eq_comm]
    · have hb : b ≠ '-' := mt (hlike.eq_iff (by decide)).1 hc
      simp [List.isPrefixOf, beq_eq_false_iff_ne.2 hb, beq_eq_false_iff_ne.2 (Ne.symm hc)]
  wide hb hw := by simp [isArrow, hb, hw.ne (d := '-') (by decide)]
  plain h := by
    obtain ⟨t, ht⟩ := List.isPrefixOf_iff_prefix.1 h
    cases ht
    rfl

theorem splitTerminator_tracks (src : List Char) (rule : String) :
    Tracks src (Ends src) (splitTerminator src rule) (.lift (Rule.splitTerminator rule src)) := by
  have hwhole : byte? src (byteLength src) ≠ some '>' := fun h =>
    Nat.lt_irrefl _ (Text.lt_of_byte? h)
  unfold splitTerminator Rule.splitTerminator
  rw [Checked.lift_bind]
  refine (findTop_tracks (agrees_semicolon src _) (spans_whole src)).bind
    fun found split hok hfinds => ?_
  cases found with
  | none => cases split with
    | none => exact Tracks.pure ⟨spans_whole src, hwhole⟩
    | some split => exact hfinds.elim
  | some i => cases split with
    | none => exact hfinds.elim
    | some split =>
      obtain ⟨front, back⟩ := split
      obtain ⟨hfront, hback⟩ := hfinds
      obtain ⟨back, rfl⟩ : ∃ rest, back = ';' :: rest := by
        have hstop := Outline.stop_of_splitTop hok
        exact List.head?_eq_some_iff.1 (by simpa using hstop)
      obtain ⟨rest, hrest, hleft⟩ := skipBlanks_spans (hback.tail_narrow (by decide))
      refine Tracks.demand hrest ?_
      dsimp only
      cases hblank : Rule.skipBlanks back with
      | nil =>
        rw [hblank] at hleft
        obtain hend : byteLength src = rest := hleft.stop_eq_add
        rw [if_neg (by omega)]
        refine Tracks.pure ⟨hfront, ?_⟩
        rw [hback.byte?_first (by decide)]
        decide
      | cons c t =>
        rw [hblank] at hleft
        rw [if_pos hleft.lt]
        have hoffset : byteLength src - byteLength (c :: t) = rest := by
          have := hleft.stop_eq_add
          omega
        rw [hoffset]
        exact Tracks.fail (inside_of_boundary hleft.boundary_start rfl)

/-- What is read of the end of a body: its command, and where that begins. -/
def Cuts (src : List Char) (p : Nat × Option Command) (q : List Char × Option Command) : Prop :=
  Spans src 0 p.1 q.1 ∧ p.2 = q.2

theorem splitCommand_tracks {body : List Char} (h : Ends src stop body) :
    Tracks src (Cuts src) (splitCommand src rule stop) (.lift (Rule.splitCommand rule body)) := by
  obtain ⟨hbody, hstop⟩ := h
  unfold splitCommand Rule.splitCommand
  rw [Checked.lift_bind]
  refine (findTop_tracks (agrees_arrow hstop) hbody).bind fun found split hok hfinds => ?_
  cases found with
  | none => cases split with
    | none => exact Tracks.pure ⟨hbody, rfl⟩
    | some split => exact hfinds.elim
  | some i => cases split with
    | none => exact hfinds.elim
    | some split =>
      obtain ⟨front, back⟩ := split
      obtain ⟨hfront, hback⟩ := hfinds
      obtain ⟨back, rfl⟩ : ∃ rest, back = '-' :: '>' :: rest := by
        obtain ⟨t, ht⟩ := List.isPrefixOf_iff_prefix.1 (Outline.stop_of_splitTop hok)
        exact ⟨t, ht.symm⟩
      have htext := (hback.tail_narrow (by decide)).tail_narrow (by decide)
      refine Tracks.demand (Text.slice?_eq_some.2 htext) ?_
      dsimp only
      cases Command.read? back with
      | none =>
        have hoffset : byteLength front = i := by
          have := hfront.stop_eq_add
          omega
        dsimp only
        rw [hoffset]
        exact Tracks.fail (inside_of_boundary hback.boundary_start rfl)
      | some command => exact Tracks.pure ⟨hfront, rfl⟩

/-! ## Alternatives are tracked -/

theorem node?_eq {root next handle : Nat} (h : root ≤ handle ∧ handle < next) :
    node? root next handle = some () := if_pos h

/-- What two readers of alternatives have read is the same, and the next node is numbered `base` or
higher. -/
def Numbers (base : Nat) (x y : List Atom × List (List Atom) × Nat) : Prop :=
  x = y ∧ base ≤ y.2.2

section Atoms

variable {root base next : Nat} {prev : Option Nat} {o : Opening} {o' : Rule.Opening}

theorem Opens.inside_eq {close : Nat} (h : Opens src r.stop pos o o')
    (hclose : close + 1 = o.after) : r.inside o' = { r with stop := close } := by
  rw [Region.inside, offset_eq h.after, ← hclose, Nat.add_sub_cancel]

/-- **The inside of a group is a smaller part of the body**, so it is read if it can be. -/
theorem readInner_tracks {read : Nat → Nat → Guarded (List Atom × List (List Atom) × Nat)}
    (h : Opens src r.stop pos o o') (hi : i ≤ pos)
    (hread : ∀ first close, Spans src first close o'.inside →
      Tracks src (Numbers (base + 1)) (read first close)
        (Rule.readAlternatives { r with stop := close } first true (base + 1) o'.inside)) :
    Tracks src (fun x y => x = y ∧ base < y.2)
      (match o.bounds with
        | none => pure ([], base + 1)
        | some (first, close) =>
          if close - first < r.stop - i then do
            let (atoms, others, next) ← read first close
            pure (atoms :: others, next)
          else stuck)
      (Rule.readInner r base o') := by
  have hbounds := h.bounds
  unfold Rule.readInner
  cases hb : o.bounds with
  | none =>
    rw [hb] at hbounds
    dsimp only at hbounds
    rw [hbounds]
    exact Tracks.pure ⟨rfl, Nat.lt_succ_self base⟩
  | some bounds =>
    obtain ⟨first, close⟩ := bounds
    rw [hb] at hbounds
    obtain ⟨hgroup, hinside, hfirst, hclose⟩ := hbounds
    have hle := hinside.le
    have hstop := h.after.le
    have hsmaller : close - first < r.stop - i := by omega
    have hoffset : ({ r with stop := close } : Region).offset o'.inside = first := offset_eq hinside
    dsimp only
    rw [if_pos hgroup, if_pos hsmaller, h.inside_eq hclose, hoffset]
    refine (hread first close hinside).bind fun x y _ hxy => ?_
    obtain ⟨rfl, hnext⟩ := hxy
    exact Tracks.pure ⟨rfl, hnext⟩

theorem readClosing_tracks (h : Opens src r.stop pos o o') (hbase : root ≤ base ∧ base < next)
    (hprev : ∀ p, prev = some p → root ≤ p ∧ p < base) :
    Tracks src (Reads src r.stop) (readClosing src root r prev base next o)
      (Rule.readClosing r o') := by
  have hlast : root ≤ prev.getD base ∧ prev.getD base < next := by
    cases prev with
    | none => exact hbase
    | some p => exact ⟨(hprev p rfl).1, Nat.lt_trans (hprev p rfl).2 hbase.2⟩
  refine Tracks.demand (node?_eq hbase) ?_
  refine (readQuantifier_tracks h.after).bind ?_
  rintro ⟨q, after⟩ ⟨_, rest⟩ - ⟨rfl, hrest⟩
  dsimp only
  rw [h.head]
  refine (readEndAnchor_tracks hrest).bind_ok ?_
  rintro ⟨head, after⟩ ⟨rfl, hbehind⟩
  exact Tracks.demand (node?_eq hlast) (Tracks.pure ⟨rfl, hbehind⟩)

end Atoms

/-- **Alternatives are read by offsets as they are read by characters.** -/
theorem readAlternatives_tracks {root group start base : Nat} {prev : Option Nat}
    (h : Spans src pos r.stop s) (hstart : Boundary src start)
    (hgroup : root ≤ group ∧ group < base) (hprev : ∀ p, prev = some p → root ≤ p ∧ p < base) :
    Tracks src (Numbers base)
      (readAlternatives src root r group start prev base pos)
      (Rule.readAlternatives r start prev.isNone base s) := by
  -- Every turn leaves fewer characters, and so does the inside of a group.
  induction hn : s.length using Nat.strong_induction_on
    generalizing r group start prev base pos s with
  | _ n ih =>
  subst hn
  have hempty : Tracks src (Numbers base)
      (refuse r start .emptyAlternative)
      (.fail (.malformedBody r.rule start .emptyAlternative) :
        Checked (List Atom × List (List Atom) × Nat)) :=
    Tracks.fail (inside_of_boundary hstart rfl)
  obtain ⟨here, hhere, hleft⟩ := skipBlanks_spans h
  have hblanks := Rule.length_skipBlanks s
  obtain ⟨_, -, hskipped⟩ := h.exists_append hleft hblanks
  rw [readAlternatives, Rule.readAlternatives_skipBlanks]
  refine Tracks.demand hhere ?_
  cases hs : Rule.skipBlanks s with
  | nil =>
    rw [hs] at hleft
    obtain rfl : r.stop = here := hleft.stop_eq_add
    rw [if_pos (Nat.le_refl _), Rule.readAlternatives]
    cases prev with
    | none => exact hempty
    | some p =>
      exact Tracks.demand (node?_eq hgroup) (Tracks.pure ⟨rfl, Nat.le_refl base⟩)
  | cons c t =>
    rw [hs] at hleft hblanks
    rw [List.length_cons] at hblanks
    obtain ⟨b, hb, hlike⟩ := hleft.exists_byte?
    have hblank : ¬Text.isAsciiBlank c = true := by
      have hhead := List.head?_dropWhile_not Text.isAsciiBlank s
      rw [show s.dropWhile Text.isAsciiBlank = c :: t from hs] at hhead
      simpa using hhead
    rw [if_neg (Nat.not_le_of_lt hleft.lt)]
    refine Tracks.demand hb ?_
    simp only [hlike.eq_iff (d := '|') (by decide)]
    by_cases hbar : c = '|'
    · -- The next alternative begins.
      subst hbar
      have htail := hleft.tail_narrow (by decide)
      rw [if_pos rfl, Rule.readAlternatives, if_neg hblank, if_pos rfl, offset_eq htail]
      cases prev with
      | none => exact hempty
      | some p =>
        refine Tracks.demand (node?_eq hgroup) ?_
        rw [if_pos (h.lt_of_length_lt htail hblanks)]
        refine (ih _ hblanks htail htail.boundary_start hgroup (by simp) rfl).bind
          fun x y _ hxy => ?_
        obtain ⟨rfl, hle⟩ := hxy
        exact Tracks.pure ⟨rfl, hle⟩
    · -- One atom more: what it opens with, what is inside, and what closes it.
      rw [if_neg hbar, Rule.readAlternatives_steps hblank hbar]
      refine (readOpening_tracks hleft).bind fun o o' hok hopens => ?_
      have hlength := Rule.length_readOpening hok
      rw [List.length_cons] at hlength
      have hinside : ∀ first close, Spans src first close o'.inside →
          Tracks src (Numbers (base + 1))
            (readAlternatives src root { r with stop := close } base first none (base + 1) first)
            (Rule.readAlternatives { r with stop := close } first true (base + 1) o'.inside) :=
        fun first close hspans => ih _ (Nat.lt_of_lt_of_le hlength.1 hblanks)
          (r := { r with stop := close }) hspans hspans.boundary_start
          ⟨by omega, Nat.lt_succ_self base⟩ (by simp) rfl
      refine (readInner_tracks hopens hskipped.le hinside).bind ?_
      rintro ⟨inner, next⟩ _ - ⟨rfl, hnext⟩
      have hatom : root ≤ base ∧ base < next :=
        ⟨Nat.le_trans hgroup.1 (Nat.le_of_lt hgroup.2), hnext⟩
      refine (readClosing_tracks hopens hatom hprev).bind ?_
      rintro ⟨⟨q, head⟩, after⟩ ⟨_, rest⟩ hclosing ⟨rfl, hrest⟩
      have hshorter := Rule.length_readClosing hclosing
      dsimp only at hrest hshorter ⊢
      rw [hopens.inverted, hopens.inside,
        if_pos ⟨h.lt_of_length_lt hrest (by omega), Nat.lt_of_le_of_lt hskipped.le hleft.lt⟩]
      refine (ih rest.length (by omega) hrest hstart ⟨hgroup.1, Nat.lt_trans hgroup.2 hnext⟩
        (by simpa using hatom) rfl).bind fun x y _ hxy => ?_
      obtain ⟨rfl, hle⟩ := hxy
      exact Tracks.pure ⟨rfl, Nat.le_trans (Nat.le_of_lt hnext) hle⟩

/-- **A body is read by offsets as it is read by characters.** -/
theorem readBody_tracks (src : List Char) (rule : String) (cap base : Nat) :
    Tracks src (· = ·) (readBody rule cap base src) (Rule.readBody rule cap base src) := by
  unfold readBody Rule.readBody
  rw [Checked.lift_bind, bind_assoc]
  refine (splitTerminator_tracks src rule).bind fun stop body _ hends => ?_
  refine (splitCommand_tracks hends).bind ?_
  rintro ⟨stop, command⟩ ⟨body, _⟩ - ⟨hbody, rfl⟩
  dsimp only at hbody
  have hstop : byteLength body = stop := by
    have := hbody.stop_eq_add
    omega
  refine Tracks.demand (Text.slice?_eq_some.2 hbody) ?_
  dsimp only
  rw [hstop]
  split
  · exact Tracks.fail (inside_of_none rfl)
  · refine (readAlternatives_tracks (r := ⟨rule, cap, stop⟩) hbody hbody.boundary_start
      ⟨Nat.le_refl base, Nat.lt_succ_self base⟩ (by simp)).bind fun x y _ hxy => ?_
    obtain ⟨rfl, -⟩ := hxy
    exact Tracks.pure rfl

end Bodies

end Offsets

end Lexigram
