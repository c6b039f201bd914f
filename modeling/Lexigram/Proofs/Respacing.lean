import Lexigram.Proofs.Bodies
import Lexigram.Proofs.Statements

/-!
# Where the statement of a displayed rule ends

A rule is displayed with other blanks than it was written with, and with quantifiers, anchors and
parameters in a form of their own. Where its statement ends does not depend on that.

**Alike texts** (`Document.Alike`). From wherever blanks do not matter, the run over two alike texts
comes to the same place, and blanks do not matter there either. A text that ends in neither a
backslash nor a slash nor an opening bracket is like itself, and what leaves the run where it is
(`Document.Idle`) is like nothing at all.

**Bodies** (`Document.alike_render`). What is read as alternatives is like what is displayed of
them. That holds although documents and bodies do not agree on where classes end.

**Sealed leaves** (`Leaf.isSealed`). Where they do agree, the run over a body comes back to where it
was (`Document.level_renderAlternatives`).

**Commands** (`Document.exists_run_text`). A displayed command ends the statement where the one that
was read does.
-/

namespace Lexigram

namespace Document

/-! ## Alike texts -/

/-- Where blanks do not matter. -/
def Cursor.Calm (p : Cursor) : Prop := p.mode = .plain ∨ ∃ f, p.mode = .inside f

/-- The run over one text comes to where the run over the other comes. -/
structure Alike (u v : List Char) : Prop where
  run_eq : ∀ p : Cursor, p.Calm → run p u = run p v
  calm : ∀ p q : Cursor, p.Calm → run p u = some q → q.Calm

/-- The run over a text comes back to where it was. -/
def Idle (u : List Char) : Prop := ∀ p : Cursor, p.Calm → run p u = some p

section Alike

variable {u v u' v' : List Char} {c : Char} {p q : Cursor}

theorem Alike.append (h : Alike u v) (h' : Alike u' v') : Alike (u ++ u') (v ++ v') where
  run_eq p hp := by
    rw [run_append, run_append, ← h.run_eq p hp]
    cases hu : run p u with
    | none => rfl
    | some q => exact h'.run_eq q (h.calm p q hp hu)
  calm p q hp hq := by
    rw [run_append] at hq
    obtain ⟨q', hq', hq⟩ := Option.bind_eq_some_iff.1 hq
    exact h'.calm q' q (h.calm p q' hp hq') hq

theorem Idle.nil : Idle [] := fun _ _ => rfl

theorem Idle.append (h : Idle u) (h' : Idle v) : Idle (u ++ v) := by
  intro p hp
  rw [run_append_of (h p hp), h' p hp]

theorem Idle.alike (h : Idle u) (h' : Idle v) : Alike u v where
  run_eq p hp := by rw [h p hp, h' p hp]
  calm p q hp hq := by
    rw [h p hp] at hq
    cases hq
    exact hp

/-- Whether a character has no meaning where blanks do not matter. -/
def isIdle (c : Char) : Bool :=
  c ∉ [';', '/', '\x27', '\x22', '[', ']', '\\', '(', ')', '\x7b', '\x7d']

theorem next?_idle (hc : isIdle c = true) (hp : p.Calm) : p.next? c = some p := by
  simp only [isIdle, List.mem_cons, List.not_mem_nil, or_false, not_or, decide_eq_true_eq] at hc
  obtain ⟨mode, parens, braces⟩ := p
  rcases hp with hmode | ⟨f, hmode⟩
  · obtain rfl : mode = .plain := hmode
    simp [Cursor.next?, Cursor.Ends, Cursor.start, hc]
  · obtain rfl : mode = .inside f := hmode
    cases f <;> simp [Cursor.next?, Fence.close, hc]

theorem Idle.chars (h : ∀ c ∈ u, isIdle c = true) : Idle u := by
  induction u with
  | nil => exact .nil
  | cons c u ih =>
    intro p hp
    rw [run_cons, next?_idle (h c List.mem_cons_self) hp, Option.bind_some]
    exact ih (fun d hd => h d (List.mem_cons_of_mem _ hd)) p hp

/-- An idle text between two characters of which the second takes back what the first does. -/
theorem Idle.between {left right : Char} (h : Idle u)
    (hpair : ∀ p : Cursor, p.Calm → ∃ k : Cursor, k.Calm ∧ p.next? left = some k ∧
      k.next? right = some p) : Idle (left :: (u ++ [right])) := by
  intro p hp
  obtain ⟨k, hk, hleft, hright⟩ := hpair p hp
  rw [run_cons, hleft, Option.bind_some, run_append_of (h k hk), run_cons, hright]
  rfl

theorem Idle.braces (h : Idle u) : Idle ('\x7b' :: (u ++ ['\x7d'])) := by
  refine h.between ?_
  rintro ⟨mode, parens, braces⟩ (hmode | ⟨f, hmode⟩)
  · obtain rfl : mode = .plain := hmode
    exact ⟨⟨.plain, parens, braces + 1⟩, .inl rfl, by simp [Cursor.next?, Cursor.Ends, Cursor.start],
      by simp [Cursor.next?, Cursor.Ends, Cursor.start]⟩
  · obtain rfl : mode = .inside f := hmode
    cases f <;> exact ⟨_, .inr ⟨_, rfl⟩, rfl, rfl⟩

theorem Idle.parens (h : Idle u) : Idle ('(' :: (u ++ [')'])) := by
  refine h.between ?_
  rintro ⟨mode, parens, braces⟩ (hmode | ⟨f, hmode⟩)
  · obtain rfl : mode = .plain := hmode
    exact ⟨⟨.plain, parens + 1, braces⟩, .inl rfl, by simp [Cursor.next?, Cursor.Ends, Cursor.start],
      by simp [Cursor.next?, Cursor.Ends, Cursor.start]⟩
  · obtain rfl : mode = .inside f := hmode
    cases f <;> exact ⟨_, .inr ⟨_, rfl⟩, rfl, rfl⟩

/-- Whether blanks do not matter behind a character. -/
def isSteady (c : Char) : Bool := c ∉ ['\\', '/', '[']

theorem calm_of_next? (hc : isSteady c = true) (h : p.next? c = some q) : q.Calm := by
  simp only [isSteady, List.mem_cons, List.not_mem_nil, or_false, not_or, decide_eq_true_eq] at hc
  obtain ⟨mode, parens, braces⟩ := p
  have hstart : ∀ k : Cursor, (k.start c).Calm := by
    intro k
    by_cases hapostrophe : c = '\x27'
    · exact .inr ⟨.apostrophes, by simp [Cursor.start, hapostrophe]⟩
    by_cases hquote : c = '\x22'
    · exact .inr ⟨.quotes, by simp [Cursor.start, hquote]⟩
    exact .inl (by simp [Cursor.start, hapostrophe, hquote, hc])
  cases mode with
  | plain =>
    simp only [Cursor.next?, Option.ite_none_left_eq_some, Option.some.injEq] at h
    rw [← h.2]
    exact hstart _
  | slash =>
    simp only [Cursor.next?, Option.ite_none_left_eq_some, Option.some.injEq] at h
    rw [← h.2]
    exact hstart _
  | opened =>
    simp only [Cursor.next?, hc, if_false, Option.some.injEq] at h
    exact .inr ⟨.brackets, by rw [← h]⟩
  | inside f =>
    simp only [Cursor.next?, hc, if_false, Option.some.injEq] at h
    rw [← h]
    split
    · exact .inl rfl
    · exact .inr ⟨f, rfl⟩
  | escape f =>
    cases h
    exact .inr ⟨f, rfl⟩

/-- A text with a steady end is like itself. -/
theorem Alike.refl (hc : ∀ c ∈ u.getLast?, isSteady c = true) : Alike u u where
  run_eq _ _ := rfl
  calm p q hp hq := by
    rcases List.eq_nil_or_concat u with rfl | ⟨u, c, rfl⟩
    · cases hq
      exact hp
    · rw [List.concat_eq_append, run_append] at hq
      obtain ⟨q', -, hq⟩ := Option.bind_eq_some_iff.1 hq
      rw [run_cons] at hq
      obtain ⟨q'', hnext, hq⟩ := Option.bind_eq_some_iff.1 hq
      cases hq
      exact calm_of_next? (hc c (by simp)) hnext

end Alike

/-! ## Quantifiers and anchors -/

section Quantifiers

variable {s rest : List Char} {q : Quantifier}

theorem isIdle_of_isInert {c : Char} (h : isInert c = true) : isIdle c = true := by
  simp only [isInert, isIdle, List.mem_cons, List.not_mem_nil, or_false, not_or, decide_eq_true_eq]
    at h ⊢
  tauto

theorem isIdle_of_isBlank {c : Char} (h : Text.isBlank c = true) : isIdle c = true :=
  isIdle_of_isInert (isInert_of_isBlank h)

theorem isIdle_of_isAsciiDigit {c : Char} (h : Text.isAsciiDigit c = true) : isIdle c = true := by
  have hall : [';', '/', '\x27', '\x22', '[', ']', '\\', '(', ')', '\x7b', '\x7d'].any
      Text.isAsciiDigit = false := by decide
  rw [isIdle, decide_eq_true_eq]
  exact fun hc => List.any_eq_false.1 hall c hc h

theorem exists_readLazy (s : List Char) : ∃ u, s = u ++ (Quantifier.readLazy s).2 ∧ Idle u := by
  unfold Quantifier.readLazy
  split
  · exact ⟨['?'], rfl, .chars (List.all_eq_true.1 (by decide))⟩
  · exact ⟨[], rfl, .nil⟩

/-- Blanks and digits in front of a sign are idle. -/
theorem exists_spanDigits (s : List Char) :
    ∃ u, s = u ++ Text.trimStart (Text.spanDigits (Text.trimStart s)).2 ∧
      ∀ c ∈ u, isIdle c = true := by
  obtain ⟨front, hfront, hs⟩ := Text.exists_trimStart s
  obtain ⟨back, hback, ht⟩ := Text.exists_trimStart (Text.spanDigits (Text.trimStart s)).2
  have hdigits : Text.trimStart s =
      (Text.spanDigits (Text.trimStart s)).1 ++ (Text.spanDigits (Text.trimStart s)).2 :=
    List.takeWhile_append_dropWhile.symm
  refine ⟨front ++ ((Text.spanDigits (Text.trimStart s)).1 ++ back), ?_, ?_⟩
  · rw [List.append_assoc, List.append_assoc, ← ht, ← hdigits, ← hs]
  · intro c hc
    simp only [List.mem_append] at hc
    rcases hc with hc | hc | hc
    · exact isIdle_of_isBlank (hfront c hc)
    · exact isIdle_of_isAsciiDigit (List.all_eq_true.1 List.all_takeWhile c hc)
    · exact isIdle_of_isBlank (hback c hc)

theorem exists_readRange? {cap : Nat} (h : Quantifier.readRange? cap s = some (q, rest)) :
    ∃ u v, s = u ++ '\x7d' :: (v ++ rest) ∧ (∀ c ∈ u, isIdle c = true) ∧ Idle v := by
  unfold Quantifier.readRange? at h
  dsimp only at h
  obtain ⟨low, hs, hlow⟩ := exists_spanDigits s
  split at h
  · next t he =>
    rw [he] at hs
    obtain ⟨v, ht, hv⟩ := exists_readLazy t
    split at h
    · cases h
    · simp only [Option.bind_eq_bind, Option.bind_eq_some_iff] at h
      obtain ⟨_, _, _, _, h⟩ := h
      obtain ⟨-, rfl⟩ := Prod.mk.inj (Option.some.inj h)
      exact ⟨low, v, by rw [← ht, ← hs], hlow, hv⟩
  · next t he =>
    rw [he] at hs
    obtain ⟨high, ht, hhigh⟩ := exists_spanDigits t
    split at h
    · next t' he' =>
      rw [he'] at ht
      obtain ⟨v, ht', hv⟩ := exists_readLazy t'
      simp only [Option.bind_eq_bind, Option.bind_eq_some_iff] at h
      obtain ⟨_, _, _, _, _, _, h⟩ := h
      obtain ⟨-, rfl⟩ := Prod.mk.inj (Option.some.inj h)
      refine ⟨low ++ ',' :: high, v, ?_, ?_, hv⟩
      · rw [List.append_assoc, List.cons_append, ← ht', ← ht, ← hs]
      · exact List.forall_mem_append.2 ⟨hlow, List.forall_mem_cons.2 ⟨by decide, hhigh⟩⟩
    · cases h
  · cases h

/-- What is read of a quantifier is idle. -/
theorem exists_readQuantifier {r : Rule.Region} {read : Quantifier × List Char}
    (h : (Rule.readQuantifier r s).result = .ok read) : ∃ u, s = u ++ read.2 ∧ Idle u := by
  have hmark : ∀ c t, isIdle c = true → read.2 = (Quantifier.readLazy t).2 →
      ∃ u, c :: t = u ++ read.2 ∧ Idle u := by
    intro c t hc hread
    obtain ⟨u, ht, hu⟩ := exists_readLazy t
    refine ⟨c :: u, by rw [hread, List.cons_append, ← ht], ?_⟩
    exact Idle.append (u := [c]) (.chars (by simpa using hc)) hu
  unfold Rule.readQuantifier at h
  split at h
  · next c t =>
    split at h
    · split at h
      · next q hq =>
        cases h
        unfold Quantifier.read? at hq
        split at hq
        · next he => cases hq; cases he; exact hmark '*' _ (by decide) rfl
        · next he => cases hq; cases he; exact hmark '+' _ (by decide) rfl
        · next he => cases hq; cases he; exact hmark '?' _ (by decide) rfl
        · next he =>
          cases he
          obtain ⟨u, v, rfl, hu, hv⟩ := exists_readRange? hq
          exact ⟨'\x7b' :: (u ++ ['\x7d']) ++ v, by simp, (Idle.chars hu).braces.append hv⟩
        · cases hq
      · cases h
    · cases h
      exact ⟨[], rfl, .nil⟩
  · cases h
    exact ⟨[], rfl, .nil⟩

theorem idle_render (q : Quantifier) : Idle q.render := by
  have hdigits : ∀ n, ∀ c ∈ Text.decimal n, isIdle c = true := fun n c hc =>
    isIdle_of_isAsciiDigit (Text.isAsciiDigit_of_mem_decimal n c hc)
  obtain ⟨kind, min, max, lazy⟩ := q
  have hmark : ∀ {u : List Char}, Idle u → Idle (if lazy then u ++ ['?'] else u) := by
    intro u hu
    split
    · exact hu.append (.chars (List.all_eq_true.1 (by decide)))
    · exact hu
  cases kind with
  | once => exact .nil
  | zeroOrMore | oneOrMore | optional => exact hmark (.chars (List.all_eq_true.1 (by decide)))
  | range =>
    refine hmark ?_
    dsimp only
    split
    · simpa using (Idle.chars (hdigits min)).braces
    · split
      · simpa using ((Idle.chars (hdigits min)).append (.chars (List.all_eq_true.1 rfl : ∀ c ∈ [','], _))).braces
      · simpa using ((Idle.chars (hdigits min)).append
          ((Idle.chars (List.all_eq_true.1 rfl : ∀ c ∈ [','], _)).append (.chars (hdigits max)))).braces

end Quantifiers

/-! ## Bodies -/

section Bodies

open Rule (Region Head readEndAnchor readAlternatives readAlternatives_nil readAlternatives_blank
  readAlternatives_bar readAlternatives_fails readAlternatives_atom_eq_ok readGroup readInside
  readOpening readOpening_text)
open Atom (renderChain renderAlternatives)

variable {r : Region} {s u v inside inside' : List Char}

theorem isSteady_of_isNameChar {c : Char} (h : Rule.isNameChar c = true) : isSteady c = true := by
  rw [isSteady, decide_eq_true_eq]
  intro hc
  simp only [List.mem_cons, List.not_mem_nil, or_false] at hc
  rcases hc with rfl | rfl | rfl <;> revert h <;> decide

theorem alike_leaf {l : Leaf} (h : l.Spelled) : Alike l.value l.value := by
  refine .refl fun c hc => ?_
  cases h with
  | text hinside =>
    obtain rfl : '\x27' = c := by simpa [List.getLast?_cons] using hc
    decide
  | range hlower hupper hgap hgap' =>
    obtain rfl : '\x27' = c := by simpa [List.getLast?_cons, List.getLast?_append] using hc
    decide
  | expression hcore hp =>
    next core source anchored anchoredEnd p =>
    cases anchoredEnd with
    | true =>
      obtain rfl : '$' = c := by simpa [dollar] using hc
      decide
    | false =>
      cases hcore with
      | dot =>
        obtain rfl : '.' = c := by simpa [dollar] using hc
        decide
      | brackets hinside =>
        obtain rfl : ']' = c := by simpa [dollar, List.getLast?_cons, List.getLast?_append] using hc
        decide

theorem alike_name {name : List Char} (h : Rule.IsName name) : Alike name name := by
  obtain ⟨c, t, rfl, hc, ht⟩ := h
  refine .refl fun d hd => isSteady_of_isNameChar ?_
  rcases List.mem_cons.1 (List.mem_of_getLast? hd) with rfl | hd
  · exact Rule.isNameChar_of_isNameStart hc
  · exact ht d hd

/-- Heads are alike if what is inside of them is. -/
theorem alike_head {head : Head} {inverted : Bool} (h : head.Spelled inverted)
    (hinside : head.isGroup = true → Alike inside inside') :
    Alike (head.text inside) (head.text inside') := by
  cases head with
  | leaf l => exact alike_leaf h
  | reference name => exact alike_name h
  | group lookahead =>
    have hopen : Alike (if lookahead then ['(', '?', '!'] else ['('])
        (if lookahead then ['(', '?', '!'] else ['(']) := by
      cases lookahead <;> exact .refl (by rintro c ⟨⟩; rfl)
    exact (hopen.append (hinside rfl)).append (.refl (by rintro c ⟨⟩; rfl))

/-- A dollar sign behind the quantifier belongs to the head. -/
theorem exists_readEndAnchor (head : Head) (s : List Char) :
    ∃ u, s = u ++ (readEndAnchor head s).2 ∧ Idle u ∧
      ∀ inside, (readEndAnchor head s).1.text inside = head.text inside ++ u := by
  unfold readEndAnchor
  split
  · exact ⟨['$'], rfl, .chars (List.all_eq_true.1 (by decide)), fun _ => rfl⟩
  · exact ⟨[], rfl, .nil, fun _ => (List.append_nil _).symm⟩

/-- Behind a displayed atom stands a blank, if anything. -/
theorem exists_render_cons (a : Atom) (atoms : List Atom) (others : List (List Atom)) :
    ∃ gap, Idle gap ∧ renderAlternatives ((a :: atoms) :: others) =
      a.render ++ (gap ++ renderAlternatives (atoms :: others)) := by
  cases atoms with
  | nil =>
    refine ⟨[], .nil, ?_⟩
    cases others with
    | nil => simp [Atom.renderAlternatives_single, renderChain]
    | cons others alternatives =>
      simp [Atom.renderAlternatives_cons, renderChain]
  | cons b atoms =>
    refine ⟨[' '], .chars (List.all_eq_true.1 (by decide)), ?_⟩
    cases others with
    | nil => simp [Atom.renderAlternatives_single, Atom.renderChain_cons]
    | cons others alternatives => simp [Atom.renderAlternatives_cons, Atom.renderChain_cons]

theorem render_nil_cons (atoms : List Atom) (others : List (List Atom)) :
    renderAlternatives ([] :: atoms :: others) =
      [' ', '|', ' '] ++ renderAlternatives (atoms :: others) := by
  rw [Atom.renderAlternatives_cons, renderChain, List.nil_append]

theorem render_toAtom (head : Head) (mark : Mark) (inside : List Char)
    (alternatives : List (List Atom)) :
    (head.toAtom mark inside alternatives).render =
      (if mark.inverted then ['~'] else []) ++ head.text (renderAlternatives alternatives) ++
        mark.quantifier.render := by
  cases head with
  | leaf l => rw [Head.toAtom, Atom.render, Mark.render]; rfl
  | reference name => rw [Head.toAtom, Atom.render, Mark.render, String.toList_ofList]; rfl
  | group lookahead => rw [Head.toAtom, Atom.render, Mark.render]; rfl

/-- **A body is like what is displayed of it.** -/
theorem alike_render {start : Nat} {first : Bool} {base : Nat}
    {read : List Atom × List (List Atom) × Nat}
    (h : (readAlternatives r start first base s).result = .ok read) :
    Alike s (renderAlternatives (read.1 :: read.2.1)) := by
  induction r, start, first, base, s using Rule.readAlternatives.induct generalizing read with
  | case1 r start base =>
    rw [readAlternatives_nil] at h
    cases h
  | case2 r start first base hfirst =>
    rw [readAlternatives_nil, if_neg hfirst] at h
    cases h
    exact Idle.nil.alike .nil
  | case3 r start first base c t hc ih =>
    rw [readAlternatives_blank _ _ _ _ hc] at h
    have hblank : Idle [c] := .chars (by simpa using isIdle_of_isBlank (Text.isBlank_of_isAsciiBlank hc))
    exact (hblank.alike .nil).append (ih h)
  | case4 r start base t =>
    rw [readAlternatives_bar] at h
    cases h
  | case5 r start first base t hfirst _ ih =>
    rw [readAlternatives_bar, if_neg hfirst] at h
    cases hread : (readAlternatives r (r.offset t) true base t).result with
    | error e => rw [hread] at h; cases h
    | ok read' =>
      rw [hread] at h
      cases h
      have hbar : Alike ['|'] [' ', '|', ' '] :=
        (Idle.chars (List.all_eq_true.1 (by decide))).alike (.chars (List.all_eq_true.1 (by decide)))
      rw [render_nil_cons]
      exact hbar.append (ih hread)
  | case6 r start first base c t hc hbar ds e ho =>
    rw [readAlternatives_fails _ _ _ _ hc hbar (congrArg Checked.result ho)] at h
    cases h
  | case7 r start first base c t hc hbar ds o ho ihinner ihrest =>
    obtain ⟨o', inside, quantified, after, ho', hin, hq, hafter, rfl⟩ :=
      (readAlternatives_atom_eq_ok _ _ _ _ hc hbar).1 h
    obtain rfl : o = o' := Except.ok.inj ((congrArg Checked.result ho).symm.trans ho')
    have hq' : Rule.readQuantifier r o.rest =
        ⟨(Rule.readQuantifier r o.rest).diagnostics, .ok (quantified.1, quantified.2)⟩ := by
      rw [← hq]
    have hrest := ihrest inside.2 _ quantified.1 quantified.2 hq' hafter
    obtain ⟨hhead, blanks, hblanks, hs⟩ := readOpening_text ho'
    obtain ⟨quantifier, hquantifier, hidle⟩ := exists_readQuantifier hq
    obtain ⟨mark, hmark, hidle', hclosed⟩ := exists_readEndAnchor o.head quantified.2
    obtain ⟨gap, hgap, hdisplay⟩ := exists_render_cons
      ((readEndAnchor o.head quantified.2).1.toAtom ⟨base, o.inverted, quantified.1⟩ o.inside
        inside.1) after.1 after.2.1
    have hinversion : Alike (if o.inverted then '~' :: blanks else [])
        (if o.inverted then ['~'] else []) := by
      split
      · exact (Idle.chars (List.forall_mem_cons.2 ⟨by decide, fun d hd =>
          isIdle_of_isBlank (Text.isBlank_of_isAsciiBlank (hblanks d hd))⟩)).alike
            (.chars (List.all_eq_true.1 (by decide)))
      · exact Idle.nil.alike .nil
    have hinside : o.head.isGroup = true →
        Alike o.inside (renderAlternatives inside.1) := by
      intro hgroup
      rw [readInside, if_pos hgroup] at hin
      cases hread : readGroup r base o with
      | error e => rw [hread] at hin; cases hin
      | ok read' =>
        rw [hread] at hin
        cases hin
        exact ihinner hread
    have hend : Alike (quantifier ++ mark) (mark ++ (quantified.1.render ++ gap)) :=
      (hidle.append hidle').alike (hidle'.append ((idle_render _).append hgap))
    have hall := hinversion.append ((alike_head hhead hinside).append (hend.append hrest))
    rw [hs, hdisplay, render_toAtom, hclosed, hquantifier, hmark]
    simpa only [List.append_assoc] using hall

end Bodies

/-! ## Commands -/

section Commands

open Command (isGap Absorbs Written)

variable {s : List Char} {p q : Cursor}

theorem isInert_of_isGap {c : Char} (h : isGap c = true) : isInert c = true := by
  rw [isGap, Bool.or_eq_true, beq_iff_eq] at h
  rcases h with h | rfl
  · exact isInert_of_isBlank h
  · decide

theorem isInert_of_isWord {c : Char} (h : Text.isWord c = true) : isInert c = true := by
  have hwords : [';', '/', '*', '\x27', '\x22', '[', ']', '\\', '(', ')', '\x7b', '\x7d'].any
      Text.isWord = false := by decide +kernel
  rw [isInert, decide_eq_true_eq]
  exact fun hc => List.any_eq_false.1 hwords c hc h

theorem absorbs : Absorbs Cursor.next? Cursor.settle where
  gap p _ h := next?_inert (isInert_of_isGap h) p
  settle p := by
    obtain ⟨mode, parens, braces⟩ := p
    cases mode <;> rfl

theorem Idle.inert (h : ∀ c ∈ s, isInert c = true) : Idle s :=
  .chars fun c hc => isIdle_of_isInert (h c hc)

/-- In front of a parenthesis behind which the statement can end, a gap may be left out. -/
theorem final_of_gap {back trail : List Char} (hback : ∀ d ∈ back, isGap d = true)
    (htrail : ∀ d ∈ trail, Text.isBlank d = true) (h : run p (back ++ ')' :: trail) = some q)
    (hq : q.Final) : ∃ q', run p [')'] = some q' ∧ q'.Final := by
  have hlast : ∀ k : Cursor, run k (')' :: trail) = some q →
      ∃ q', k.next? ')' = some q' ∧ q'.Final := by
    intro k hk
    obtain ⟨q', hnext, hrest⟩ := Option.bind_eq_some_iff.1 hk
    exact ⟨q', hnext, final_of_run_blanks htrail hrest hq⟩
  have hsettled : ∀ q' : Cursor, p.settle.next? ')' = some q' → q'.Final →
      p.next? ')' = some q' := by
    intro q' hnext hfinal
    obtain ⟨mode, parens, braces⟩ := p
    cases mode with
    | plain | inside f => exact hnext
    | slash => simpa [Cursor.settle, Cursor.next?, Cursor.Ends, Cursor.start] using hnext
    | opened =>
      cases hnext
      simp [Cursor.Final, Cursor.Free, Cursor.settle, Fence.close] at hfinal
    | escape f =>
      cases hnext
      cases f <;> simp [Cursor.Final, Cursor.Free, Cursor.settle, Fence.close] at hfinal
  obtain ⟨q', hnext, hfinal⟩ : ∃ q', p.next? ')' = some q' ∧ q'.Final := by
    by_cases hne : back = []
    · subst hne
      exact hlast p h
    · rw [run_append_of (absorbs.run_gap hne hback p)] at h
      obtain ⟨q', hnext, hfinal⟩ := hlast _ h
      exact ⟨q', hsettled q' hnext hfinal, hfinal⟩
  exact ⟨q', by rw [run_cons, hnext]; rfl, hfinal⟩

theorem idle_name {c : Command} (hc : c.Spelled) {u v : List Char}
    (hu : ∀ d ∈ u, Text.isBlank d = true) (hv : ∀ d ∈ v, Text.isBlank d = true) :
    Idle (u ++ (c.name.toList ++ v)) := by
  have hblanks : ∀ {u : List Char}, (∀ d ∈ u, Text.isBlank d = true) → Idle u :=
    fun hu => .inert fun d hd => isInert_of_isBlank (hu d hd)
  obtain ⟨d, s, hname, -, hword⟩ := hc.name
  rw [← hname] at hword
  exact (hblanks hu).append ((Idle.inert fun d hd => isInert_of_isWord (hword d hd)).append
    (hblanks hv))

/-- **A displayed command** ends the statement where the one that was read does. -/
theorem exists_run_text {c : Command} (hc : c.Spelled) {src : List Char} (hsrc : Written c src)
    (hp : p.Calm) (h : run p src = some q) (hq : q.Final) :
    ∃ q', run p c.text = some q' ∧ q'.Final := by
  have htext : run p (' ' :: c.name.toList) = some p := by
    have := idle_name hc (u := [' ']) (v := []) (List.all_eq_true.1 (by decide)) (by simp) p hp
    rwa [List.append_nil] at this
  have hgaps : ∀ {u : List Char}, (∀ d ∈ u, isGap d = true) → Idle u :=
    fun hu => .inert fun d hd => isInert_of_isGap (hu d hd)
  rw [Command.text, ← List.cons_append, run_append_of htext]
  cases hsrc with
  | bare hparams hlead htrail =>
    rw [idle_name hc hlead htrail p hp] at h
    cases h
    rw [if_pos (List.isEmpty_iff.2 hparams)]
    exact ⟨p, rfl, hq⟩
  | call hlead hgap hfront hcore hback htrail =>
    next lead gap front core back trail =>
    have hsplit : lead ++ (c.name.toList ++ (gap ++ '(' :: (front ++ (core ++ (back ++ ')' :: trail)))))
        = (lead ++ (c.name.toList ++ gap)) ++ '(' :: (front ++ (core ++ (back ++ ')' :: trail))) := by
      simp
    rw [hsplit, run_append_of (idle_name hc hlead hgap p hp)] at h
    split
    · next hparams =>
      -- Without parameters all of the parentheses is idle.
      rw [Command.texts_eq_nil.2 hparams] at hcore
      cases hcore
      have hidle := (((hgaps hfront).append (hgaps hback)).parens.append
        (hgaps fun d hd => Command.isGap_of_isBlank (htrail d hd))) p hp
      rw [show '(' :: (front ++ ([] ++ (back ++ ')' :: trail))) =
        '(' :: ((front ++ back) ++ [')']) ++ trail by simp, hidle] at h
      cases h
      exact ⟨p, rfl, hq⟩
    · rw [run_cons] at h ⊢
      obtain ⟨k, hk, h⟩ := Option.bind_eq_some_iff.1 h
      have hcalm : k.Calm := calm_of_next? (by decide) hk
      have hsame := hcore.run_eq absorbs (Command.woven_intercalate c.texts) k
      rw [run_append_of (hgaps hfront k hcalm), run_append] at h
      obtain ⟨k', hk', h⟩ := Option.bind_eq_some_iff.1 h
      rw [hk, Option.bind_some, run_append_of (hsame.symm.trans hk')]
      exact final_of_gap hback htrail h hq

end Commands

end Document

/-! ## Sealed classes -/

/-- Whether the splitting of documents takes a class that ends with a text, or in front of a dollar
sign, to end there as well. -/
def Document.closesAtEnd : List Char → Bool
  | '[' :: s =>
    match splitClass? s with
    | some (_, rest) => rest.all (· == '$')
    | none => false
  | _ => true

/-- Whether the splitting of documents takes a leaf to end where the reader of bodies does. -/
def Leaf.isSealed (l : Leaf) : Bool :=
  match l.kind with
  | .literal => true
  | .expression => Document.closesAtEnd (l.value.dropWhile (· == '^'))

/-- Whether the splitting of documents takes an atom to end where the reader of bodies does. -/
def Atom.isSealed : Atom → Bool
  | leaf _ l => l.isSealed
  | reference _ _ | group _ _ _ _ => true

namespace Document

/-- The run over a text comes back to where it was, if that is outside of braces. -/
def Level (u : List Char) : Prop :=
  ∀ parens, run ⟨.plain, parens, 0⟩ u = some ⟨.plain, parens, 0⟩

section Level

variable {u v inside : List Char}

theorem Idle.level (h : Idle u) : Level u := fun _ => h _ (.inl rfl)

theorem Level.append (h : Level u) (h' : Level v) : Level (u ++ v) := by
  intro parens
  rw [run_append_of (h parens), h' parens]

theorem Level.group (h : Level u) : Level ('(' :: (u ++ [')'])) := by
  intro parens
  have hopen : run ⟨.plain, parens, 0⟩ ('(' :: (u ++ [')'])) =
      run ⟨.plain, parens + 1, 0⟩ (u ++ [')']) := by
    simp [run_cons, Cursor.next?, Cursor.Ends, Cursor.start]
  rw [hopen, run_append_of (h _)]
  simp [run_cons, Cursor.next?, Cursor.Ends, Cursor.start]

theorem Level.literal (h : Literal.Sealed '\x27' inside) : Level ('\x27' :: (inside ++ ['\x27'])) := by
  intro parens
  exact run_sealed (f := .apostrophes) h

theorem level_leaf {l : Leaf} (h : l.Spelled) (hsealed : l.isSealed = true) : Level l.value := by
  have hchars : ∀ {gap : List Char}, (∀ c ∈ gap, isIdle c = true) → Level gap :=
    fun hgap => (Idle.chars hgap).level
  have hblanks : ∀ {gap : List Char}, (∀ c ∈ gap, Text.isAsciiBlank c) → Level gap := fun hgap =>
    hchars fun c hc => isIdle_of_isBlank (Text.isBlank_of_isAsciiBlank (hgap c hc))
  cases h with
  | text hinside => exact .literal hinside
  | range hlower hupper hgap hgap' =>
    have hall := (Level.literal hlower).append ((hblanks hgap).append
      ((hchars (List.all_eq_true.1 rfl : ∀ c ∈ ['.', '.'], _)).append ((hblanks hgap').append (.literal hupper))))
    simpa using hall
  | expression hcore hp =>
    next core source anchored anchoredEnd p =>
    have hcaret : Level (caret anchored) := hchars (by cases anchored <;> exact List.all_eq_true.1 rfl)
    have hdollar : Level (dollar anchoredEnd) := hchars (by cases anchoredEnd <;> exact List.all_eq_true.1 rfl)
    cases hcore with
    | dot => exact (hcaret.append (hchars (List.all_eq_true.1 (by decide)))).append hdollar
    | brackets hinside =>
      next inside =>
      have hvalue : caret anchored ++ ('[' :: inside ++ [']']) ++ dollar anchoredEnd =
          caret anchored ++ '[' :: (inside ++ ']' :: dollar anchoredEnd) := by
        simp
      have hdrop : (caret anchored ++ '[' :: (inside ++ ']' :: dollar anchoredEnd)).dropWhile
          (· == '^') = '[' :: (inside ++ ']' :: dollar anchoredEnd) := by
        cases anchored <;> rfl
      rw [hvalue] at hsealed
      change closesAtEnd (List.dropWhile _ _) = true at hsealed
      rw [hdrop, closesAtEnd] at hsealed
      rw [hvalue]
      split at hsealed
      · next inside' rest hsplit =>
        rw [eq_of_splitClass? hsplit]
        have hrest : Level rest := hchars fun c hc => by
          rw [List.all_eq_true] at hsealed
          obtain rfl := beq_iff_eq.1 (hsealed c hc)
          decide
        have hbrackets : Level ('[' :: (inside' ++ [']'])) := by
          intro parens
          have hopen : run ⟨.plain, parens, 0⟩ ('[' :: (inside' ++ [']'])) =
              run ⟨.opened, parens, 0⟩ (inside' ++ [']']) := by
            simp [run_cons, Cursor.next?, Cursor.Ends, Cursor.start]
          rw [hopen, run_of_splitClass? hsplit]
        simpa using hcaret.append (hbrackets.append hrest)
      · cases hsealed

end Level

section Rendered

open Rule (Head)
open Atom (SpelledChain SpelledAll renderChain renderAlternatives flatten)

theorem isIdle_of_isNameChar {c : Char} (h : Rule.isNameChar c = true) : isIdle c = true := by
  have hall : [';', '/', '\x27', '\x22', '[', ']', '\\', '(', ')', '\x7b', '\x7d'].any
      Rule.isNameChar = false := by decide
  rw [isIdle, decide_eq_true_eq]
  exact fun hc => List.any_eq_false.1 hall c hc h

theorem level_render_of {a : Atom} (ha : a.Spelled) (hsealed : a.isSealed = true)
    (hinside : Level (renderAlternatives a.inner)) : Level a.render := by
  have hhead : Level (a.toHead.text a.insideText) := by
    cases a with
    | leaf m l => exact level_leaf ha.2 hsealed
    | reference m name =>
      obtain ⟨c, t, hname, hc, ht⟩ := ha.2
      change Level name.toList
      rw [hname]
      refine (Idle.chars fun d hd => isIdle_of_isNameChar ?_).level
      rcases List.mem_cons.1 hd with rfl | hd
      · exact Rule.isNameChar_of_isNameStart hc
      · exact ht d hd
    | group m lookahead value alternatives =>
      have hmarks : Level ['?', '!'] := (Idle.chars (List.all_eq_true.1 (by decide))).level
      cases lookahead with
      | false => exact hinside.group
      | true => exact (hmarks.append hinside).group
  rw [Atom.render_eq]
  refine (Level.append ?_ hhead).append (idle_render _).level
  split
  · exact (Idle.chars (List.all_eq_true.1 (by decide))).level
  · exact Idle.nil.level

mutual

theorem level_render : ∀ a : Atom, a.Spelled → (∀ b ∈ a :: flatten a.inner, b.isSealed = true) →
    Level a.render
  | .leaf _ _, ha, hsealed => level_render_of ha (hsealed _ List.mem_cons_self) Idle.nil.level
  | .reference _ _, ha, hsealed =>
    level_render_of ha (hsealed _ List.mem_cons_self) Idle.nil.level
  | .group _ _ _ alternatives, ha, hsealed =>
    level_render_of ha (hsealed _ List.mem_cons_self)
      (level_renderAlternatives alternatives ha.2.2.2 fun b hb =>
        hsealed b (List.mem_cons_of_mem _ hb))

theorem level_renderChain : ∀ atoms : List Atom, SpelledChain atoms →
    (∀ b ∈ flatten [atoms], b.isSealed = true) → Level (renderChain atoms)
  | [], _, _ => Idle.nil.level
  | [a], h, hsealed => by
    rw [Atom.renderChain_single]
    refine level_render a h.1 fun b hb => hsealed b ?_
    rwa [Atom.flatten_cons, Atom.flatten_nil_cons, Atom.flatten_nil, List.append_nil]
  | a :: b :: atoms, h, hsealed => by
    rw [Atom.flatten_cons, ← List.cons_append] at hsealed
    rw [Atom.renderChain_cons]
    obtain ⟨hfirst, hrest⟩ := List.forall_mem_append.1 hsealed
    exact ((level_render a h.1 hfirst).append (Idle.chars (List.all_eq_true.1 (by decide))).level).append
      (level_renderChain (b :: atoms) h.2 hrest)

theorem level_renderAlternatives : ∀ alternatives : List (List Atom), SpelledAll alternatives →
    (∀ b ∈ flatten alternatives, b.isSealed = true) → Level (renderAlternatives alternatives)
  | [], _, _ => Idle.nil.level
  | [atoms], h, hsealed => by
    rw [Atom.renderAlternatives_single]
    exact level_renderChain atoms h.2.1 hsealed
  | atoms :: others :: alternatives, h, hsealed => by
    rw [Atom.flatten_chain] at hsealed
    rw [Atom.renderAlternatives_cons]
    obtain ⟨hfirst, hrest⟩ := List.forall_mem_append.1 hsealed
    exact ((level_renderChain atoms h.2.1 hfirst).append (Idle.chars (List.all_eq_true.1 (by decide))).level).append
      (level_renderAlternatives (others :: alternatives) h.2.2 hrest)

end

end Rendered

end Document

end Lexigram
