import Lexigram.Grammar.Display
import Lexigram.Proofs.Outlines

/-!
# Displayed rules are read again

The text in which a rule is displayed is a body of that rule.

**Spelled atoms** (`Atom.Spelled`). What was read can be printed so that it is read again: its
leaves say what they are, its names are names, its quantifiers have the bounds of their form, and
nothing is empty.

**Retitled atoms** (`Atom.retitle`). A group remembers the text between its parentheses, blanks and
all. The text that is printed is another one, so groups read from it have another value.

**Rereading** (`Atom.read_render`). Between two printed atoms stands a single blank, which ends the
first whatever it is and joins nothing to it.

Main results: `Rule.readBody_spelled` and `Atom.read_renderAlternatives`.
-/

namespace Lexigram

/-! ## Spelled atoms -/

namespace Atom

mutual

/-- The atom can be printed and read. -/
def Spelled : Atom → Prop
  | .leaf m l => m.quantifier.Sound ∧ l.Spelled
  | .reference m name => m.quantifier.Sound ∧ Rule.IsName name.toList
  | .group m lookahead _ alternatives =>
    m.quantifier.Sound ∧ (lookahead = true → m.inverted = false) ∧ alternatives ≠ [] ∧
      SpelledAll alternatives

/-- All atoms of a chain can be printed and read. -/
def SpelledChain : List Atom → Prop
  | [] => True
  | a :: atoms => Spelled a ∧ SpelledChain atoms

/-- No alternative is empty, and all their atoms can be printed and read. -/
def SpelledAll : List (List Atom) → Prop
  | [] => True
  | atoms :: alternatives => atoms ≠ [] ∧ SpelledChain atoms ∧ SpelledAll alternatives

end

mutual

/-- The atom with groups that have the text between their printed parentheses as their value. -/
def retitle : Atom → Atom
  | .leaf m l => .leaf m l
  | .reference m name => .reference m name
  | .group m lookahead _ alternatives =>
    .group m lookahead (Text.trim (renderAlternatives alternatives)) (retitleAll alternatives)

/-- The chain with its groups retitled. -/
def retitleChain : List Atom → List Atom
  | [] => []
  | a :: atoms => retitle a :: retitleChain atoms

/-- The alternatives with their groups retitled. -/
def retitleAll : List (List Atom) → List (List Atom)
  | [] => []
  | atoms :: alternatives => retitleChain atoms :: retitleAll alternatives

end

end Atom

namespace Rule

open Atom (Spelled SpelledChain SpelledAll)

/-! ### What is read is spelled -/

theorem sound_of_readQuantifier {r : Region} (hcap : r.cap ≤ Quantifier.unbounded) {s : List Char}
    {q : Quantifier × List Char} (h : (readQuantifier r s).result = .ok q) : q.1.Sound := by
  unfold readQuantifier at h
  split at h
  · split at h
    · split at h
      · next q' hq =>
        cases h
        exact (Quantifier.sound_of_read? hcap hq).1
      · simp at h
    · cases h
      exact rfl
  · cases h
    exact rfl

theorem spelled_readEndAnchor {inverted : Bool} {head : Head} (h : head.Spelled inverted)
    (s : List Char) : (readEndAnchor head s).1.Spelled inverted := by
  unfold readEndAnchor
  split
  · next value p rest =>
    cases h with
    | expression hcore hp =>
      have hanchored := @Leaf.Spelled.expression _ _ _ true _ hcore hp
      simpa [Head.Spelled, dollar] using hanchored
  · exact h

/-- The atom of a spelled head is spelled if what is inside of it is. -/
theorem spelled_toAtom {head : Head} {mark : Mark} {inside : List Char}
    {alternatives : List (List Atom)} (hhead : head.Spelled mark.inverted)
    (hq : mark.quantifier.Sound)
    (hinner : head.isGroup = true → alternatives ≠ [] ∧ SpelledAll alternatives) :
    (head.toAtom mark inside alternatives).Spelled := by
  cases head with
  | leaf l => exact ⟨hq, hhead⟩
  | reference name =>
    refine ⟨hq, ?_⟩
    rw [String.toList_ofList]
    exact hhead
  | group lookahead => exact ⟨hq, hhead, hinner rfl⟩

/-- **What is read is spelled.** -/
theorem readAlternatives_spelled {r : Region} {start : Nat} {first : Bool} {base : Nat}
    {s : List Char} (hcap : r.cap ≤ Quantifier.unbounded)
    {read : List Atom × List (List Atom) × Nat}
    (h : (readAlternatives r start first base s).result = .ok read) :
    (first = true → read.1 ≠ []) ∧ SpelledChain read.1 ∧ SpelledAll read.2.1 := by
  induction r, start, first, base, s using readAlternatives.induct generalizing read with
  | case1 r start base =>
    rw [readAlternatives_nil] at h
    cases h
  | case2 r start first base hfirst =>
    rw [readAlternatives_nil, if_neg hfirst] at h
    cases h
    exact ⟨fun hf => absurd hf hfirst, trivial, trivial⟩
  | case3 r start first base c t hc ih =>
    rw [readAlternatives_blank _ _ _ _ hc] at h
    exact ih hcap h
  | case4 r start base t =>
    rw [readAlternatives_bar] at h
    cases h
  | case5 r start first base t hfirst _ ih =>
    rw [readAlternatives_bar, if_neg hfirst] at h
    cases hread : (readAlternatives r (r.offset t) true base t).result with
    | error e => rw [hread] at h; cases h
    | ok read' =>
      rw [hread] at h
      cases h
      obtain ⟨hne, hchain, hall⟩ := ih hcap hread
      exact ⟨fun hf => absurd hf hfirst, trivial, hne rfl, hchain, hall⟩
  | case6 r start first base c t hc hbar ds e ho =>
    rw [readAlternatives_fails _ _ _ _ hc hbar (congrArg Checked.result ho)] at h
    cases h
  | case7 r start first base c t hc hbar ds o ho ihinner ihrest =>
    obtain ⟨o', inside, quantified, after, ho', hin, hq, hafter, rfl⟩ :=
      (readAlternatives_atom_eq_ok _ _ _ _ hc hbar).1 h
    obtain rfl : o = o' := Except.ok.inj ((congrArg Checked.result ho).symm.trans ho')
    have hq' : readQuantifier r o.rest =
        ⟨(readQuantifier r o.rest).diagnostics, .ok (quantified.1, quantified.2)⟩ := by
      rw [← hq]
    obtain ⟨-, hchain, hall⟩ := ihrest inside.2 _ quantified.1 quantified.2 hq' hcap hafter
    refine ⟨by simp, ⟨?_, hchain⟩, hall⟩
    refine spelled_toAtom (spelled_readEndAnchor (readOpening_text ho').1 _)
      (sound_of_readQuantifier hcap hq) fun hgroup => ?_
    rw [isGroup_readEndAnchor] at hgroup
    rw [readInside, if_pos hgroup] at hin
    cases hread : readGroup r base o with
    | error e => rw [hread] at hin; cases hin
    | ok read' =>
      rw [hread] at hin
      cases hin
      obtain ⟨hne, hinner⟩ := ihinner hcap hread
      exact ⟨by simp, hne rfl, hinner⟩

theorem readBody_spelled {id : String} {cap base : Nat} {src : List Char}
    {alternatives : List (List Atom)} {command : Option Command} (hcap : cap ≤ Quantifier.unbounded)
    (h : (readBody id cap base src).result = .ok (alternatives, command)) :
    alternatives ≠ [] ∧ SpelledAll alternatives := by
  unfold readBody at h
  obtain ⟨⟨body, command'⟩, -, h⟩ := Checked.result_bind_eq_ok.1 h
  dsimp only at h
  split at h
  · simp at h
  · obtain ⟨read, hread, h⟩ := Checked.result_bind_eq_ok.1 h
    cases h
    obtain ⟨hne, hspelled⟩ := readAlternatives_spelled hcap hread
    exact ⟨by simp, hne rfl, hspelled⟩

/-! ## Printed atoms are passed -/

open Outline (Passes)

theorem passes_head {head : Head} {inverted : Bool} (h : head.Spelled inverted)
    {inside : List Char} (hinside : Passes inside) : Passes (head.text inside) := by
  cases head with
  | leaf l => exact Outline.passes_leaf h
  | reference name => exact Outline.passes_name h
  | group lookahead =>
    cases lookahead with
    | false => exact hinside.group
    | true =>
      have hmarks : Passes ['?', '!'] := .quiet (List.all_eq_true.1 (by decide))
      have hgroup := (hmarks.append hinside).group
      simpa [Head.text] using hgroup

end Rule

namespace Atom

open Outline (Passes)
open Rule (Head)

/-- What stands in the text of an atom without its marks. -/
def toHead : Atom → Head
  | .leaf _ l => .leaf l
  | .reference _ name => .reference name.toList
  | .group _ lookahead _ _ => .group lookahead

/-- The text between the parentheses of a group. -/
def insideText (a : Atom) : List Char := renderAlternatives a.inner

theorem render_eq (a : Atom) :
    a.render = (if a.mark.inverted then ['~'] else []) ++ a.toHead.text a.insideText ++
      a.mark.quantifier.render := by
  cases a with
  | leaf m l => rw [render, Mark.render]; rfl
  | reference m name => rw [render, Mark.render]; rfl
  | group m lookahead value alternatives => rw [render, Mark.render]; rfl

theorem Spelled.sound {a : Atom} (h : a.Spelled) : a.mark.quantifier.Sound := by
  cases a with
  | leaf m l => exact h.1
  | reference m name => exact h.1
  | group m lookahead value alternatives => exact h.1

theorem Spelled.head {a : Atom} (h : a.Spelled) : a.toHead.Spelled a.mark.inverted := by
  cases a with
  | leaf m l => exact h.2
  | reference m name => exact h.2
  | group m lookahead value alternatives => exact h.2.1

theorem passes_render_of {a : Atom} (h : a.Spelled) (hinside : Passes a.insideText) :
    Passes a.render := by
  rw [render_eq]
  refine (Passes.append ?_ (Rule.passes_head h.head hinside)).append
    (Outline.passes_quantifier _)
  split
  · exact .quiet (List.all_eq_true.1 (by decide))
  · exact .nil

mutual

theorem passes_render : ∀ a : Atom, a.Spelled → Passes a.render
  | .leaf _ _, h => passes_render_of h .nil
  | .reference _ _, h => passes_render_of h .nil
  | .group _ _ _ alternatives, h => passes_render_of h (passes_renderAlternatives alternatives h.2.2.2)

theorem passes_renderChain : ∀ atoms : List Atom, SpelledChain atoms → Passes (renderChain atoms)
  | [], _ => .nil
  | [a], h => by
    rw [renderChain_single]
    exact passes_render a h.1
  | a :: b :: atoms, h => by
    rw [renderChain_cons]
    exact ((passes_render a h.1).append (.quiet (List.all_eq_true.1 (by decide)))).append
      (passes_renderChain (b :: atoms) h.2)

theorem passes_renderAlternatives : ∀ alternatives : List (List Atom), SpelledAll alternatives →
    Passes (renderAlternatives alternatives)
  | [], _ => .nil
  | [atoms], h => by
    rw [renderAlternatives_single]
    exact passes_renderChain atoms h.2.1
  | atoms :: others :: alternatives, h => by
    rw [renderAlternatives_cons]
    exact ((passes_renderChain atoms h.2.1).append (.quiet (List.all_eq_true.1 (by decide)))).append
      (passes_renderAlternatives (others :: alternatives) h.2.2)

end

end Atom

/-! ## Beginnings -/

namespace Rule

open Outline (Passes)

/-- Whether an atom can begin with a character. -/
def isAtomStart (c : Char) : Bool :=
  c ∈ ['~', '\x27', '^', '[', '.', '('] || isNameStart c

/-- A text begins like an atom. -/
def Starts (s : List Char) : Prop := ∃ c t, s = c :: t ∧ isAtomStart c = true

theorem not_blank_of_isAtomStart {c : Char} (h : isAtomStart c = true) :
    Text.isBlank c = false := by
  rw [isAtomStart, Bool.or_eq_true, decide_eq_true_eq, isNameStart, Bool.or_eq_true,
    beq_iff_eq] at h
  rcases h with h | h | rfl
  · simp only [List.mem_cons, List.not_mem_nil, or_false] at h
    rcases h with rfl | rfl | rfl | rfl | rfl | rfl <;> decide
  · exact Text.isBlank_of_isAlpha h
  · decide

theorem not_asciiBlank_of_isAtomStart {c : Char} (h : isAtomStart c = true) :
    Text.isAsciiBlank c = false := by
  cases hb : Text.isAsciiBlank c with
  | false => rfl
  | true =>
    have hblank := Text.isBlank_of_isAsciiBlank hb
    rw [not_blank_of_isAtomStart h] at hblank
    cases hblank

theorem Head.text_starts {head : Head} {inverted : Bool} (h : head.Spelled inverted)
    (inside : List Char) :
    ∃ c t, head.text inside = c :: t ∧ isAtomStart c = true ∧ c ≠ '~' := by
  cases head with
  | leaf l =>
    cases h with
    | text => exact ⟨'\x27', _, rfl, by decide, by decide⟩
    | range => exact ⟨'\x27', _, rfl, by decide, by decide⟩
    | expression hcore hp =>
      next core source anchored anchoredEnd p =>
      cases anchored with
      | true => exact ⟨'^', _, rfl, by decide, by decide⟩
      | false =>
        cases hcore with
        | dot => exact ⟨'.', _, rfl, by decide, by decide⟩
        | brackets => exact ⟨'[', _, rfl, by decide, by decide⟩
  | reference name =>
    obtain ⟨c, s, rfl, hc, -⟩ := h
    refine ⟨c, s, rfl, by simp [isAtomStart, hc], ?_⟩
    rintro rfl
    revert hc
    decide
  | group lookahead => cases lookahead <;> exact ⟨'(', _, rfl, by decide, by decide⟩

/-- Nothing at the beginning of a text belongs to an atom in front of it. -/
structure Ends (s : List Char) : Prop where
  dollar : s.head? ≠ some '$'
  name : ∀ c ∈ s.head?, isNameChar c = false
  range : ∀ t, skipBlanks s ≠ '.' :: '.' :: t

/-! ## Heads are read again -/

section Heads

variable {r : Region} {start s rest inside : List Char} {inverted : Bool}

theorem splitGroup_append (hp : Passes inside) (hs : Starts inside) (fault : BodyFault) :
    (splitGroup r s (inside ++ ')' :: rest) fault).result = .ok (inside, rest) := by
  have hstops : Outline.Stops fun s : List Char => s.head? == some ')' := by
    intro c s hc
    exact .inl (by simpa using hc)
  obtain ⟨c, t, rfl, hc⟩ := hs
  rw [splitGroup, Checked.result_bind, Checked.result_lift, hp r.rule hstops, Outline.splitTop,
    if_pos ⟨rfl, rfl⟩]
  show Checked.result (if (Text.trim (c :: t ++ [])).isEmpty = true then _ else _) = _
  rw [List.append_nil, Text.trim_ne_nil (not_blank_of_isAtomStart hc)]
  rfl

/-- What the reader of heads does where neither a literal nor a group begins. -/
theorem readHead_cons {c : Char} {t : List Char} (hc : c ∉ ['\x27', '(', ')']) :
    readHead r inverted start (c :: t) =
      if c = '^' ∨ c = '[' ∨ c = '.' then do
        let (l, rest) ← readExpression r (c :: t)
        pure ⟨inverted, .leaf l, [], rest⟩
      else if isNameStart c then
        pure ⟨inverted, .reference ((c :: t).takeWhile isNameChar), [],
          (c :: t).dropWhile isNameChar⟩
      else r.fail (c :: t) .unexpectedCharacter := by
  simp only [List.mem_cons, List.not_mem_nil, or_false, not_or] at hc
  rw [readHead.eq_def]
  split <;> simp_all

theorem readHead_leaf {l : Leaf} (h : l.Spelled) (hrest : Ends rest) :
    (readHead r inverted start (l.value ++ rest)).result = .ok ⟨inverted, .leaf l, [], rest⟩ := by
  cases hk : l.kind with
  | literal =>
    have hl := readLiteral_value (r := r) h hk hrest.range
    obtain ⟨v, hv⟩ : ∃ v, l.value = '\x27' :: v := by
      cases h with
      | text => exact ⟨_, rfl⟩
      | range => exact ⟨_, rfl⟩
      | expression => simp at hk
    rw [hv, List.cons_append] at hl ⊢
    rw [readHead, Checked.result_bind, hl]
    rfl
  | expression =>
    have hl := readExpression_value (r := r) h hk hrest.dollar
    obtain ⟨c, v, hv, hc⟩ : ∃ c v, l.value = c :: v ∧ (c = '^' ∨ c = '[' ∨ c = '.') := by
      cases h with
      | text => simp at hk
      | range => simp at hk
      | expression hcore hp =>
        next core source anchored anchoredEnd p =>
        cases anchored with
        | true => exact ⟨'^', _, rfl, .inl rfl⟩
        | false =>
          cases hcore with
          | dot => exact ⟨'.', _, rfl, .inr (.inr rfl)⟩
          | brackets => exact ⟨'[', _, rfl, .inr (.inl rfl)⟩
    have hmem : c ∉ ['\x27', '(', ')'] := by rcases hc with rfl | rfl | rfl <;> decide
    rw [hv, List.cons_append] at hl ⊢
    rw [readHead_cons hmem, if_pos hc, Checked.result_bind, hl]
    rfl

theorem readHead_reference {name : List Char} (h : IsName name) (hrest : Ends rest) :
    (readHead r inverted start (name ++ rest)).result =
      .ok ⟨inverted, .reference name, [], rest⟩ := by
  obtain ⟨c, t, rfl, hc, ht⟩ := h
  have hall : ∀ d ∈ c :: t, isNameChar d = true := by
    intro d hd
    rcases List.mem_cons.1 hd with rfl | hd
    · exact isNameChar_of_isNameStart hc
    · exact ht d hd
  have hmem : c ∉ ['\x27', '(', ')'] := by
    intro hmem
    simp only [List.mem_cons, List.not_mem_nil, or_false] at hmem
    rcases hmem with rfl | rfl | rfl <;> revert hc <;> decide
  have hexpression : ¬(c = '^' ∨ c = '[' ∨ c = '.') := by
    rintro (rfl | rfl | rfl) <;> revert hc <;> decide
  have htake : rest.takeWhile isNameChar = [] ∧ rest.dropWhile isNameChar = rest := by
    match rest, hrest.name with
    | [], _ => exact ⟨rfl, rfl⟩
    | d :: rest, hname =>
      have hd := hname d rfl
      exact ⟨List.takeWhile_cons_of_neg (by simp [hd]), List.dropWhile_cons_of_neg (by simp [hd])⟩
  rw [List.cons_append, readHead_cons hmem, if_neg hexpression, if_pos hc, ← List.cons_append,
    List.takeWhile_append_of_pos hall, List.dropWhile_append_of_pos hall, htake.1, htake.2,
    List.append_nil]
  rfl

theorem readHead_group {lookahead : Bool} (h : lookahead = true → inverted = false)
    (hp : Passes inside) (hs : Starts inside) :
    (readHead r inverted start ((Head.group lookahead).text inside ++ rest)).result =
      .ok ⟨inverted, .group lookahead, inside, rest⟩ := by
  cases lookahead with
  | false =>
    have htext : (Head.group false).text inside ++ rest = '(' :: (inside ++ ')' :: rest) := by
      simp [Head.text]
    have hlook : ∀ t, inside ++ ')' :: rest ≠ '?' :: '!' :: t := by
      obtain ⟨c, t, rfl, hc⟩ := hs
      intro t' he
      obtain rfl : c = '?' := (List.cons.inj he).1
      revert hc
      decide
    rw [htext, readHead, Checked.result_bind, splitGroup_append hp hs]
    · rfl
    · exact hlook
  | true =>
    have htext : (Head.group true).text inside ++ rest =
        '(' :: '?' :: '!' :: (inside ++ ')' :: rest) := by
      simp [Head.text]
    rw [htext, readHead, if_neg (by simp [h]), Checked.result_bind, splitGroup_append hp hs]
    rfl

/-- **The text of a head is read again.** -/
theorem readHead_append {head : Head} (h : head.Spelled inverted)
    (hgroup : head.isGroup = true → Passes inside ∧ Starts inside)
    (hplain : head.isGroup = false → inside = []) (hrest : Ends rest) :
    (readHead r inverted start (head.text inside ++ rest)).result =
      .ok ⟨inverted, head, inside, rest⟩ := by
  cases head with
  | leaf l =>
    rw [hplain rfl]
    exact readHead_leaf h hrest
  | reference name =>
    rw [hplain rfl]
    exact readHead_reference h hrest
  | group lookahead => exact readHead_group h (hgroup rfl).1 (hgroup rfl).2

theorem readOpening_append {head : Head} (h : head.Spelled inverted)
    (hgroup : head.isGroup = true → Passes inside ∧ Starts inside)
    (hplain : head.isGroup = false → inside = []) (hrest : Ends rest) :
    (readOpening r
        ((if inverted then ['~'] else []) ++ head.text inside ++ rest)).result =
      .ok ⟨inverted, head, inside, rest⟩ := by
  obtain ⟨c, t, htext, hc, htilde⟩ := head.text_starts h inside
  have hread : ∀ start, (readHead r inverted start (head.text inside ++ rest)).result =
      .ok ⟨inverted, head, inside, rest⟩ :=
    fun _ => readHead_append h hgroup hplain hrest
  rw [htext] at hread ⊢
  cases inverted with
  | true =>
    have hskip : skipBlanks (c :: t ++ rest) = c :: t ++ rest :=
      skipBlanks_of_not_blank (not_asciiBlank_of_isAtomStart hc) _
    rw [if_pos rfl, List.singleton_append, List.cons_append, readOpening, hskip]
    exact hread _
  | false =>
    rw [if_neg (by simp), List.nil_append, List.cons_append, readOpening]
    · exact hread _
    · rintro t' he
      exact htilde (List.cons.inj he).1

end Heads

/-! ## Quantifiers are read again -/

/-- What follows a printed atom: nothing, or a blank that does not lead to two dots. -/
structure Follows (s : List Char) : Prop where
  blank : ∀ c ∈ s.head?, c = ' '
  range : ∀ t, skipBlanks s ≠ '.' :: '.' :: t

theorem render_once {q : Quantifier} (h : q.kind = .once) : q.render = [] := by
  rw [Quantifier.render]
  simp [h]

theorem render_cons {q : Quantifier} (h : q.kind ≠ .once) :
    ∃ c u, q.render = c :: u ∧ (c = '*' ∨ c = '+' ∨ c = '?' ∨ c = '\x7b') := by
  obtain ⟨kind, min, max, lazy⟩ := q
  cases kind with
  | once => exact absurd rfl h
  | zeroOrMore => cases lazy <;> exact ⟨'*', _, rfl, by simp⟩
  | oneOrMore => cases lazy <;> exact ⟨'+', _, rfl, by simp⟩
  | optional => cases lazy <;> exact ⟨'?', _, rfl, by simp⟩
  | range =>
    simp only [Quantifier.render, reduceCtorEq, if_false]
    by_cases hexact : min = max
    · rw [if_pos hexact]
      cases lazy <;> exact ⟨'\x7b', _, rfl, by simp⟩
    · rw [if_neg hexact]
      by_cases hopen : max = Quantifier.unbounded
      · rw [if_pos hopen]
        cases lazy <;> exact ⟨'\x7b', _, rfl, by simp⟩
      · rw [if_neg hopen]
        cases lazy <;> exact ⟨'\x7b', _, rfl, by simp⟩

theorem Follows.ends {s : List Char} (h : Follows s) (q : Quantifier) : Ends (q.render ++ s) := by
  by_cases hk : q.kind = .once
  · rw [render_once hk, List.nil_append]
    refine ⟨fun hd => ?_, fun c hc => ?_, h.range⟩
    · have := h.blank _ hd
      simp at this
    · rw [h.blank c hc]
      decide
  · obtain ⟨c, u, hu, hc⟩ := render_cons hk
    rw [hu, List.cons_append]
    refine ⟨fun hd => ?_, fun d hd => ?_, fun t ht => ?_⟩
    · rw [List.head?_cons, Option.some.injEq] at hd
      rcases hc with rfl | rfl | rfl | rfl <;> simp at hd
    · rw [List.head?_cons, Option.mem_def, Option.some.injEq] at hd
      subst hd
      rcases hc with rfl | rfl | rfl | rfl <;> decide
    · rw [skipBlanks_of_not_blank (by rcases hc with rfl | rfl | rfl | rfl <;> decide)] at ht
      rw [(List.cons.inj ht).1] at hc
      simp at hc

theorem readQuantifier_render {r : Region} (hcap : r.cap = Quantifier.unbounded)
    {q : Quantifier} (hq : q.Sound) {s : List Char} (hs : Follows s) :
    (readQuantifier r (q.render ++ s)).result = .ok (q, s) := by
  by_cases hk : q.kind = .once
  · have honce : q = .once := by
      rw [Quantifier.Sound] at hq
      rwa [hk] at hq
    rw [render_once hk, List.nil_append, honce]
    match s, hs.blank with
    | [], _ => rfl
    | c :: t, hblank =>
      obtain rfl := hblank c rfl
      rfl
  · have hmark : s.head? ≠ some '?' := by
      intro hd
      have := hs.blank _ hd
      simp at this
    have hread := Quantifier.read?_render hq hk hmark
    obtain ⟨c, u, hu, hc⟩ := render_cons hk
    rw [hu, List.cons_append] at hread ⊢
    rw [readQuantifier, if_pos hc, hcap, hread]
    rfl

theorem readEndAnchor_follows (head : Head) {s : List Char} (hs : Follows s) :
    readEndAnchor head s = (head, s) := by
  unfold readEndAnchor
  split
  · next value p rest =>
    have := hs.blank '$' rfl
    simp at this
  · rfl

end Rule

/-! ## Atoms are read again -/

namespace Atom

open Rule (Region Follows Starts isAtomStart readAlternatives readAlternatives_atom_eq_ok readGroup
  readInside readOpening_append readQuantifier_render readEndAnchor_follows)

theorem render_starts {a : Atom} (h : a.Spelled) : ∃ c t, a.render = c :: t ∧
    isAtomStart c = true := by
  obtain ⟨c, t, htext, hc, -⟩ := a.toHead.text_starts h.head a.insideText
  rw [render_eq, htext]
  split
  · exact ⟨'~', _, rfl, by decide⟩
  · exact ⟨c, _, rfl, hc⟩

theorem renderChain_starts {atoms : List Atom} (hne : atoms ≠ []) (h : SpelledChain atoms) :
    Starts (renderChain atoms) := by
  match atoms, hne with
  | [a], _ =>
    obtain ⟨c, t, ha, hc⟩ := render_starts h.1
    exact ⟨c, t, by rw [renderChain_single, ha], hc⟩
  | a :: b :: atoms, _ =>
    obtain ⟨c, t, ha, hc⟩ := render_starts h.1
    exact ⟨c, _, by rw [renderChain_cons, ha]; rfl, hc⟩

theorem renderAlternatives_starts {alternatives : List (List Atom)} (hne : alternatives ≠ [])
    (h : SpelledAll alternatives) : Starts (renderAlternatives alternatives) := by
  match alternatives, hne with
  | [atoms], _ =>
    rw [renderAlternatives_single]
    exact renderChain_starts h.1 h.2.1
  | atoms :: others :: alternatives, _ =>
    obtain ⟨c, t, ha, hc⟩ := renderChain_starts h.1 h.2.1
    exact ⟨c, _, by rw [renderAlternatives_cons, ha]; rfl, hc⟩

/-- A dot is not followed by another one. -/
theorem quantifier_no_dot (q : Quantifier) {s : List Char} (hs : Follows s) (t : List Char) :
    q.render ++ s ≠ '.' :: t := by
  intro he
  by_cases hk : q.kind = .once
  · rw [Rule.render_once hk, List.nil_append] at he
    have := hs.blank '.' (by rw [he]; rfl)
    simp at this
  · obtain ⟨c, u, hu, hc⟩ := Rule.render_cons hk
    rw [hu, List.cons_append] at he
    rw [(List.cons.inj he).1] at hc
    simp at hc

/-- A printed atom does not begin with two dots, whatever follows. -/
theorem render_no_range {a : Atom} (h : a.Spelled) {s : List Char} (hs : Follows s)
    (t : List Char) : a.render ++ s ≠ '.' :: '.' :: t := by
  intro he
  rw [render_eq, List.append_assoc, List.append_assoc] at he
  by_cases hinv : a.mark.inverted = true
  · rw [if_pos hinv] at he
    simp at he
  rw [if_neg hinv, List.nil_append] at he
  have hdot := quantifier_no_dot a.mark.quantifier hs
  have hhead := h.head
  generalize a.mark.quantifier = q at he hdot
  cases hhd : a.toHead with
  | leaf l =>
    rw [hhd] at he hhead
    change l.value ++ _ = _ at he
    cases hhead with
    | text => simp at he
    | range => simp at he
    | expression hcore hp =>
      next core source anchored anchoredEnd p =>
      cases anchored with
      | true => simp [caret] at he
      | false =>
        cases hcore with
        | brackets => simp [caret] at he
        | dot =>
          cases anchoredEnd with
          | true => simp [caret, dollar] at he
          | false =>
            rw [show caret false ++ ['.'] ++ dollar false ++ (q.render ++ s) =
              '.' :: (q.render ++ s) from rfl] at he
            exact hdot _ (List.cons.inj he).2
  | reference name =>
    rw [hhd] at he hhead
    obtain ⟨c, u, rfl, hc, -⟩ := hhead
    obtain rfl : c = '.' := (List.cons.inj he).1
    revert hc
    decide
  | group lookahead =>
    rw [hhd] at he
    cases lookahead <;> simp [Rule.Head.text] at he

/-! ### The reader takes a printed atom for what it is -/

theorem toAtom_toHead (a : Atom) :
    a.toHead.toAtom a.mark a.insideText (retitleAll a.inner) = a.retitle := by
  cases a with
  | leaf m l => rfl
  | reference m name => exact congrArg (Atom.reference m) (String.ofList_toList)
  | group m lookahead value alternatives => rfl

theorem isGroup_toHead {a : Atom} (h : a.Spelled) (hg : a.toHead.isGroup = true) :
    Outline.Passes a.insideText ∧ Starts a.insideText := by
  cases a with
  | leaf m l => cases hg
  | reference m name => cases hg
  | group m lookahead value alternatives =>
    exact ⟨passes_renderAlternatives alternatives h.2.2.2,
      renderAlternatives_starts h.2.2.1 h.2.2.2⟩

theorem insideText_of_not_group {a : Atom} (h : a.toHead.isGroup = false) : a.insideText = [] := by
  cases a with
  | leaf m l => rfl
  | reference m name => rfl
  | group m lookahead value alternatives => cases h

/-- One printed atom, given that what is inside of it is read. -/
theorem read_render_of {a : Atom} (ha : a.Spelled) {r : Region}
    (hcap : r.cap = Quantifier.unbounded) {start : Nat} {first : Bool} {base next : Nat}
    (hbase : a.handle = base)
    (hinside : ∀ o : Rule.Opening, o.head = a.toHead → o.inside = a.insideText →
      readInside r base o = .ok (retitleAll a.inner, next))
    {s : List Char} (hs : Follows s) {after : List Atom × List (List Atom) × Nat}
    (hafter : (readAlternatives r start false next s).result = .ok after) :
    (readAlternatives r start first base (a.render ++ s)).result =
      .ok (a.retitle :: after.1, after.2.1, after.2.2) := by
  have hopening := readOpening_append (r := r) ha.head (isGroup_toHead ha)
    insideText_of_not_group (hs.ends a.mark.quantifier)
  obtain ⟨c, t, hrender, hc⟩ := render_starts ha
  have hblank : ¬Text.isAsciiBlank c := by
    rw [Rule.not_asciiBlank_of_isAtomStart hc]
    simp
  have hbar : c ≠ '|' := by
    rintro rfl
    revert hc
    decide
  rw [← List.append_assoc, ← render_eq, hrender, List.cons_append] at hopening
  rw [hrender, List.cons_append]
  refine (readAlternatives_atom_eq_ok _ _ _ _ hblank hbar).2
    ⟨_, _, _, after, hopening, hinside _ rfl rfl, readQuantifier_render hcap ha.sound hs, ?_, ?_⟩
  · rw [readEndAnchor_follows _ hs]
    exact hafter
  · rw [readEndAnchor_follows _ hs, ← toAtom_toHead, ← hbase]
    rfl

/-- What is read of a chain or a row of alternatives, as alternatives. -/
def asAlternatives (read : List Atom × List (List Atom) × Nat) : List (List Atom) × Nat :=
  (read.1 :: read.2.1, read.2.2)

theorem read_blanks {r : Region} {start base : Nat} {s : List Char} (hs : ∀ c ∈ s, c = ' ') :
    (readAlternatives r start false base s).result = .ok ([], [], base) := by
  induction s with
  | nil => exact Rule.readAlternatives_nil r start false base
  | cons c s ih =>
    obtain rfl := hs c List.mem_cons_self
    rw [Rule.readAlternatives_blank _ _ _ _ (by decide)]
    exact ih fun c hc => hs c (List.mem_cons_of_mem _ hc)

theorem follows_blanks {s : List Char} (hs : ∀ c ∈ s, c = ' ') : Follows s where
  blank c hc := hs c (List.mem_of_mem_head? hc)
  range t ht := by
    have hmem : '.' ∈ Rule.skipBlanks s := by
      rw [ht]
      exact List.mem_cons_self
    have := hs _ ((List.dropWhile_sublist _).subset hmem)
    simp at this

/-- Only an atom stands behind a blank. -/
theorem follows_of_starts {s : List Char} (h : Starts s) (hs : ∀ t, s ≠ '.' :: '.' :: t) :
    Follows (' ' :: s) := by
  obtain ⟨c, t, rfl, hc⟩ := h
  refine ⟨fun d hd => by simpa using hd.symm, fun t' ht => ?_⟩
  have hskip : Rule.skipBlanks (' ' :: c :: t) = c :: t :=
    (List.dropWhile_cons_of_pos (by decide)).trans
      (Rule.skipBlanks_of_not_blank (Rule.not_asciiBlank_of_isAtomStart hc) t)
  rw [hskip] at ht
  exact hs t' ht

theorem follows_renderChain {atoms : List Atom} (hne : atoms ≠ []) (h : SpelledChain atoms)
    {s : List Char} (hs : Follows s) : Follows (' ' :: (renderChain atoms ++ s)) := by
  induction atoms with
  | nil => exact absurd rfl hne
  | cons a atoms ih =>
    have hstarts : Starts (renderChain (a :: atoms) ++ s) := by
      obtain ⟨c, t, hc, hstart⟩ := renderChain_starts hne h
      exact ⟨c, t ++ s, by rw [hc, List.cons_append], hstart⟩
    refine follows_of_starts hstarts ?_
    cases atoms with
    | nil =>
      rw [renderChain_single]
      exact render_no_range h.1 hs
    | cons b atoms =>
      rw [renderChain_cons, List.append_assoc, List.append_assoc]
      exact render_no_range h.1 (ih (by simp) h.2)

theorem follows_bar (s : List Char) : Follows (' ' :: '|' :: s) where
  blank c hc := by simpa using hc.symm
  range t ht := by
    have hskip : Rule.skipBlanks (' ' :: '|' :: s) = '|' :: s := rfl
    rw [hskip] at ht
    simp at ht

mutual

theorem read_render : ∀ a : Atom, a.Spelled → ∀ {r : Region} {start : Nat} {first : Bool}
    {base next : Nat} {s : List Char} {after : List Atom × List (List Atom) × Nat},
    r.cap = Quantifier.unbounded → Counts base next (a :: flatten a.inner) → Follows s →
    (readAlternatives r start false next s).result = .ok after →
    (readAlternatives r start first base (a.render ++ s)).result =
      .ok (a.retitle :: after.1, after.2.1, after.2.2)
  | .leaf _ _, ha, _, _, _, base, next, _, _, hcap, hcount, hs, hafter => by
    obtain ⟨hbase, hinner⟩ := hcount.of_cons
    obtain rfl : next = base + 1 := by simpa [inner] using hinner.length
    exact read_render_of ha hcap hbase (fun o hhead _ => by rw [readInside, hhead]; rfl) hs hafter
  | .reference _ _, ha, _, _, _, base, next, _, _, hcap, hcount, hs, hafter => by
    obtain ⟨hbase, hinner⟩ := hcount.of_cons
    obtain rfl : next = base + 1 := by simpa [inner] using hinner.length
    exact read_render_of ha hcap hbase (fun o hhead _ => by rw [readInside, hhead]; rfl) hs hafter
  | .group m lookahead value alternatives, ha, r, start, _, base, next, s, after, hcap, hcount,
    hs, hafter => by
    obtain ⟨hbase, hinner⟩ := hcount.of_cons
    refine read_render_of ha hcap hbase (fun o hhead hinside => ?_) hs hafter
    have hread : (readAlternatives (r.inside o) ((r.inside o).offset o.inside) true (base + 1)
        (renderAlternatives alternatives ++ [])).result.map asAlternatives =
        .ok (retitleAll alternatives, next) :=
      read_renderAlternatives alternatives ha.2.2.1 ha.2.2.2 hcap hinner (by simp)
    rw [List.append_nil] at hread
    replace hinside : o.inside = renderAlternatives alternatives := hinside
    rw [← hinside] at hread
    rw [readInside, hhead]
    exact hread

theorem read_renderChain : ∀ atoms : List Atom, atoms ≠ [] → SpelledChain atoms →
    ∀ {r : Region} {start : Nat} {first : Bool} {base next : Nat} {s : List Char}
      {after : List Atom × List (List Atom) × Nat},
    r.cap = Quantifier.unbounded → Counts base next (flatten [atoms]) → Follows s →
    (readAlternatives r start false next s).result = .ok after →
    (readAlternatives r start first base (renderChain atoms ++ s)).result =
      .ok (retitleChain atoms ++ after.1, after.2.1, after.2.2)
  | [], hne, _, _, _, _, _, _, _, _, _, _, _, _ => absurd rfl hne
  | [a], _, h, _, _, _, _, _, _, _, hcap, hcount, hs, hafter => by
    rw [flatten_cons, flatten_nil_cons, flatten_nil, List.append_nil] at hcount
    rw [renderChain_single]
    exact read_render a h.1 hcap hcount hs hafter
  | a :: b :: atoms, _, h, r, start, first, base, next, s, after, hcap, hcount, hs, hafter => by
    rw [flatten_cons, ← List.cons_append] at hcount
    obtain ⟨hfront, hback⟩ := hcount.of_append
    have hrest : (readAlternatives r start false _
        (renderChain (b :: atoms) ++ s)).result = .ok _ :=
      read_renderChain (b :: atoms) (by simp) h.2 hcap hback hs hafter
    rw [← Rule.readAlternatives_blank (c := ' ') _ _ _ _ (by decide)] at hrest
    rw [renderChain_cons, List.append_assoc, List.append_assoc]
    exact read_render a h.1 hcap hfront (follows_renderChain (by simp) h.2 hs) hrest

theorem read_renderAlternatives : ∀ alternatives : List (List Atom), alternatives ≠ [] →
    SpelledAll alternatives → ∀ {r : Region} {start : Nat} {first : Bool} {base next : Nat}
      {s : List Char},
    r.cap = Quantifier.unbounded → Counts base next (flatten alternatives) → (∀ c ∈ s, c = ' ') →
    (readAlternatives r start first base (renderAlternatives alternatives ++ s)).result.map
      asAlternatives = .ok (retitleAll alternatives, next)
  | [], hne, _, _, _, _, _, _, _, _, _, _ => absurd rfl hne
  | [atoms], _, h, _, _, _, _, _, _, hcap, hcount, hs => by
    rw [renderAlternatives_single, read_renderChain atoms h.1 h.2.1 hcap hcount (follows_blanks hs)
      (read_blanks hs)]
    simp [Except.map, asAlternatives, retitleAll]
  | atoms :: others :: alternatives, _, h, r, start, first, base, next, s, hcap, hcount, hs => by
    rw [flatten_chain] at hcount
    obtain ⟨hfront, hback⟩ := hcount.of_append
    let t := renderAlternatives (others :: alternatives) ++ s
    have hrest : (readAlternatives r (r.offset (' ' :: t)) true _ t).result.map asAlternatives =
        .ok _ :=
      read_renderAlternatives (others :: alternatives) (by simp) h.2.2 hcap hback hs
    rw [← Rule.readAlternatives_blank (c := ' ') _ _ _ _ (by decide)] at hrest
    cases hread : (readAlternatives r (r.offset (' ' :: t)) true
        (base + (flatten [atoms]).length) (' ' :: t)).result with
    | error e => rw [hread] at hrest; cases hrest
    | ok read =>
      rw [hread] at hrest
      have hafter : (readAlternatives r start false (base + (flatten [atoms]).length)
          (' ' :: '|' :: ' ' :: t)).result = .ok ([], read.1 :: read.2.1, read.2.2) := by
        rw [Rule.readAlternatives_blank _ _ _ _ (by decide), Rule.readAlternatives_bar,
          if_neg (by simp), hread]
        rfl
      rw [renderAlternatives_cons, List.append_assoc, List.append_assoc,
        show [' ', '|', ' '] ++ (renderAlternatives (others :: alternatives) ++ s) =
          ' ' :: '|' :: ' ' :: t from rfl,
        read_renderChain atoms h.1 h.2.1 hcap hfront (follows_bar _) hafter]
      obtain ⟨halternatives, hnext⟩ := Prod.mk.inj (Except.ok.inj hrest)
      simp only [Except.map, asAlternatives, List.append_nil, halternatives, hnext]
      rfl

end

end Atom

end Lexigram
