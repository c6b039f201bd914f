import Lexigram.Proofs.Arena
import Lexigram.Proofs.Renumbering

/-!
# What reading a body yields

The readers of rule bodies leave diagnostics beside their results. Here are the results alone, as
equations for the reader of alternatives (`readAlternatives_atom`), and what handles have to do with
them (`readBody_renumber`): the reader counts them upwards and looks at none.
-/

namespace Lexigram

theorem Checked.result_bind {α β : Type} (x : Checked α) (f : α → Checked β) :
    (x >>= f).result = x.result >>= fun a => (f a).result := by
  obtain ⟨ds, r⟩ := x
  cases r <;> rfl

theorem Checked.id_map {α : Type} (x : Checked α) : id <$> x = x := by
  obtain ⟨ds, r⟩ := x
  cases r with
  | error e => rfl
  | ok a =>
    show Checked.mk (ds ++ []) (.ok a) = _
    rw [List.append_nil]

theorem Checked.bind_assoc {α β γ : Type} (x : Checked α) (f : α → Checked β)
    (g : β → Checked γ) : x >>= f >>= g = x >>= fun a => f a >>= g := by
  obtain ⟨ds, r⟩ := x
  cases r with
  | error e => rfl
  | ok a =>
    simp only [bind]
    cases (f a).result with
    | error e => rfl
    | ok b => simp

instance : LawfulMonad Checked :=
  .mk' Checked Checked.id_map (fun _ _ => rfl) Checked.bind_assoc

namespace Rule

/-! ## Results of the reader of alternatives -/

/-- The inside of a group of a region, as a region. -/
def Region.inside (r : Region) (o : Opening) : Region := { r with stop := r.offset o.rest - 1 }

section Results

variable (r : Region) (start : Nat) (first : Bool) (base : Nat) {c : Char} {t : List Char}

/-- What is read of the inside of a group that takes the handle `base`. -/
def readGroup (o : Opening) : Except CompileError (List Atom × List (List Atom) × Nat) :=
  (readAlternatives (r.inside o) ((r.inside o).offset o.inside) true (base + 1) o.inside).result

/-- The alternatives inside of an atom that takes the handle `base`, and the next handle. -/
def readInside (o : Opening) : Except CompileError (List (List Atom) × Nat) :=
  if o.head.isGroup then (readGroup r base o).map fun read => (read.1 :: read.2.1, read.2.2)
  else .ok ([], base + 1)

theorem readAlternatives_nil :
    (readAlternatives r start first base []).result =
      if first then .error (.malformedBody r.rule start .emptyAlternative)
      else .ok ([], [], base) := by
  rw [readAlternatives]
  split <;> rfl

theorem readAlternatives_blank (hc : Text.isAsciiBlank c) :
    readAlternatives r start first base (c :: t) = readAlternatives r start first base t := by
  rw [readAlternatives, if_pos hc]

theorem readAlternatives_bar :
    (readAlternatives r start first base ('|' :: t)).result =
      if first then .error (.malformedBody r.rule start .emptyAlternative)
      else (readAlternatives r (r.offset t) true base t).result.map
        fun read => ([], read.1 :: read.2.1, read.2.2) := by
  rw [readAlternatives, if_neg (by decide), if_pos rfl]
  split
  · rfl
  · rw [Checked.result_bind]
    cases (readAlternatives r (r.offset t) true base t).result <;> rfl

theorem readAlternatives_fails (hc : ¬Text.isAsciiBlank c) (hbar : c ≠ '|') {e : CompileError}
    (ho : (readOpening r (c :: t)).result = .error e) :
    (readAlternatives r start first base (c :: t)).result = .error e := by
  rw [readAlternatives, if_neg hc, if_neg hbar]
  split
  · next ds e' ho' =>
    obtain rfl : e' = e := by simpa [ho'] using ho
    rfl
  · next ds o ho' => simp [ho'] at ho

/-- **One atom more.** The atom takes the next handle, those inside of it the handles behind that,
and the atoms that follow the ones behind these. -/
theorem readAlternatives_atom (hc : ¬Text.isAsciiBlank c) (hbar : c ≠ '|') {o : Opening}
    (ho : (readOpening r (c :: t)).result = .ok o) :
    (readAlternatives r start first base (c :: t)).result = (do
      let inside ← readInside r base o
      let quantified ← (readQuantifier r o.rest).result
      let closed := readEndAnchor o.head quantified.2
      let read ← (readAlternatives r start false inside.2 closed.2).result
      let atom := closed.1.toAtom ⟨base, o.inverted, quantified.1⟩ o.inside inside.1
      .ok (atom :: read.1, read.2.1, read.2.2)) := by
  rw [readAlternatives, if_neg hc, if_neg hbar]
  split
  · next ds e ho' => simp [ho'] at ho
  · next ds o' ho' =>
    obtain rfl : o' = o := by simpa [ho'] using ho
    rw [Checked.result_after, Checked.result_bind]
    congr 1
    · unfold readInside
      split
      · rw [Checked.result_bind]
        show readGroup r base o' >>= _ = _
        cases readGroup r base o' <;> rfl
      · rfl
    · funext inside
      dsimp only
      split
      · next e hq => rw [hq]; rfl
      · next quantifier rest hq => rw [hq, Checked.result_bind]; rfl

theorem readAlternatives_atom_eq_ok (hc : ¬Text.isAsciiBlank c) (hbar : c ≠ '|')
    {read : List Atom × List (List Atom) × Nat} :
    (readAlternatives r start first base (c :: t)).result = .ok read ↔
      ∃ o inside quantified after, (readOpening r (c :: t)).result = .ok o ∧
        readInside r base o = .ok inside ∧ (readQuantifier r o.rest).result = .ok quantified ∧
        (readAlternatives r start false inside.2
          (readEndAnchor o.head quantified.2).2).result = .ok after ∧
        read = ((readEndAnchor o.head quantified.2).1.toAtom ⟨base, o.inverted, quantified.1⟩
          o.inside inside.1 :: after.1, after.2.1, after.2.2) := by
  constructor
  · intro h
    cases ho : (readOpening r (c :: t)).result with
    | error e =>
      rw [readAlternatives_fails r start first base hc hbar ho] at h
      cases h
    | ok o =>
      rw [readAlternatives_atom r start first base hc hbar ho] at h
      cases hin : readInside r base o with
      | error e => rw [hin] at h; cases h
      | ok inside =>
        rw [hin] at h
        cases hq : (readQuantifier r o.rest).result with
        | error e => dsimp only [bind, Except.bind] at h; rw [hq] at h; cases h
        | ok quantified =>
          dsimp only [bind, Except.bind] at h
          rw [hq] at h
          dsimp only at h
          cases hafter : (readAlternatives r start false inside.2
              (readEndAnchor o.head quantified.2).2).result with
          | error e => rw [hafter] at h; cases h
          | ok after =>
            rw [hafter] at h
            cases h
            exact ⟨o, inside, quantified, after, rfl, hin, hq, hafter, rfl⟩
  · rintro ⟨o, inside, quantified, after, ho, hin, hq, hafter, rfl⟩
    rw [readAlternatives_atom r start first base hc hbar ho, hin]
    dsimp only [bind, Except.bind]
    rw [hq]
    dsimp only
    rw [hafter]

end Results

/-! ## Reading at other handles -/

section Renumber

open Atom (renumberChain renumberAll)

variable {φ : Nat → Nat}

/-- What is read, with its handles replaced. -/
def renumberRead (φ : Nat → Nat) (read : List Atom × List (List Atom) × Nat) :
    List Atom × List (List Atom) × Nat :=
  (renumberChain φ read.1, renumberAll φ read.2.1, φ read.2.2)

theorem Head.toAtom_renumber (head : Head) (mark : Mark) (inside : List Char)
    (alternatives : List (List Atom)) :
    (head.toAtom mark inside alternatives).renumber φ =
      head.toAtom (mark.renumber φ) inside (renumberAll φ alternatives) := by
  cases head <;> rfl

theorem lt_of_readInside {r : Region} {base : Nat} {o : Opening} {inside : List (List Atom) × Nat}
    (h : readInside r base o = .ok inside) : base < inside.2 := by
  unfold readInside at h
  split at h
  · cases hread : readGroup r base o with
    | error e => rw [hread] at h; cases h
    | ok read =>
      rw [hread] at h
      cases h
      exact (readAlternatives_counts hread).1
  · cases h
    exact Nat.lt_succ_self base

/-- **The reader counts.** Where `φ` goes up by one from each handle to the next, what is read with
the handles from `φ base` on is what is read with those from `base` on, renumbered. -/
theorem readAlternatives_renumber {r : Region} {start : Nat} {first : Bool} {base : Nat}
    {s : List Char} (hφ : ∀ h, base ≤ h → φ (h + 1) = φ h + 1) :
    (readAlternatives r start first (φ base) s).result =
      (readAlternatives r start first base s).result.map (renumberRead φ) := by
  induction r, start, first, base, s using readAlternatives.induct with
  | case1 r start base =>
    rw [readAlternatives_nil, readAlternatives_nil]
    rfl
  | case2 r start first base hfirst =>
    rw [readAlternatives_nil, readAlternatives_nil, if_neg hfirst, if_neg hfirst]
    rfl
  | case3 r start first base c t hc ih =>
    rw [readAlternatives_blank _ _ _ _ hc, readAlternatives_blank _ _ _ _ hc, ih hφ]
  | case4 r start base t =>
    rw [readAlternatives_bar, readAlternatives_bar]
    rfl
  | case5 r start first base t hfirst _ ih =>
    rw [readAlternatives_bar, readAlternatives_bar, if_neg hfirst, if_neg hfirst, ih hφ]
    cases (readAlternatives r (r.offset t) true base t).result <;> rfl
  | case6 r start first base c t hc hbar ds e ho =>
    have ho := congrArg Checked.result ho
    rw [readAlternatives_fails _ _ _ _ hc hbar ho, readAlternatives_fails _ _ _ _ hc hbar ho]
    rfl
  | case7 r start first base c t hc hbar ds o ho ihinner ihrest =>
    have ho := congrArg Checked.result ho
    have hinside : readInside r (φ base) o =
        (readInside r base o).map (Prod.map (renumberAll φ) φ) := by
      have hread := ihinner fun h hh => hφ h (by omega)
      rw [hφ base (Nat.le_refl base)] at hread
      replace hread : readGroup r (φ base) o = (readGroup r base o).map (renumberRead φ) := hread
      unfold readInside
      split
      · rw [hread]
        cases readGroup r base o <;> rfl
      · exact congrArg (fun next => Except.ok ([], next)) (hφ base (Nat.le_refl base)).symm
    rw [readAlternatives_atom _ _ _ _ hc hbar ho, readAlternatives_atom _ _ _ _ hc hbar ho,
      hinside]
    cases hin : readInside r base o with
    | error e => rfl
    | ok inside =>
      have hnext := lt_of_readInside hin
      cases hq : readQuantifier r o.rest with
      | mk ds' result =>
        cases result with
        | error e => rfl
        | ok quantified =>
          have hread := ihrest inside.2 ds' quantified.1 quantified.2 hq fun h hh => hφ h (by omega)
          dsimp only [Except.map, Prod.map, bind, Except.bind] at hread ⊢
          rw [hread]
          cases (readAlternatives r start false inside.2
            (readEndAnchor o.head quantified.2).2).result with
          | error e => rfl
          | ok read =>
            simp only [Head.toAtom_renumber, renumberRead, renumberChain, Mark.renumber]

theorem readBody_renumber {id : String} {cap base : Nat} {src : List Char}
    (hφ : ∀ h, base ≤ h → φ (h + 1) = φ h + 1) :
    (readBody id cap (φ base) src).result =
      (readBody id cap base src).result.map fun read => (renumberAll φ read.1, read.2) := by
  unfold readBody
  rw [Checked.result_bind, Checked.result_bind]
  cases (Checked.lift (splitTerminator id src >>= splitCommand id)).result with
  | error e => rfl
  | ok split =>
    obtain ⟨body, command⟩ := split
    show Checked.result (if _ then _ else _) = Except.map _ (Checked.result (if _ then _ else _))
    split
    · rfl
    · rw [Checked.result_bind, Checked.result_bind, ← hφ base (Nat.le_refl base),
        readAlternatives_renumber fun h hh => hφ h (by omega)]
      cases (readAlternatives ⟨id, cap, Text.byteLength body⟩ 0 true (base + 1) body).result <;>
        rfl

end Renumber

end Rule

end Lexigram
