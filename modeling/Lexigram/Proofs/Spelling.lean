import Lexigram.Proofs.Quantifiers
import Lexigram.Proofs.Reading

/-!
# How the parts of a body are spelled

What the readers of rule bodies take off a text, and that they take the same off a text that is
printed from what they made of it.

**Sealed texts** (`Literal.Seals`, `Outline.Seals`). Where a literal or a class closes is decided by
what stands before.

**Leaves** (`Leaf.Spelled`). The text of a leaf is what was taken off the body, and it says again
what the leaf is.

**Heads** (`Head.text`, `Head.Spelled`). An atom without its quantifier is a mark of inversion,
blanks, and the text of its head.

Main results: `readOpening_spelled` and `readOpening_text`.
-/

namespace Lexigram

/-! ## Sealed texts -/

namespace Literal

/-- Nothing in a text closes the literal that it is in. -/
inductive Sealed (quote : Char) : List Char → Prop
  | nil : Sealed quote []
  | escape (c : Char) {s : List Char} : Sealed quote s → Sealed quote ('\\' :: c :: s)
  | char {c : Char} {s : List Char} (hesc : c ≠ '\\') (hquote : c ≠ quote) :
      Sealed quote s → Sealed quote (c :: s)

variable {quote : Char} {s inside rest : List Char}

theorem split?_cons {c : Char} (hesc : c ≠ '\\') (s : List Char) :
    split? quote (c :: s) =
      if c = quote then some ([], s)
      else (split? quote s).map fun (inside, rest) => (c :: inside, rest) := by
  rw [split?] <;> simp [hesc]

/-- **Where a literal closes.** -/
theorem split?_eq_some (hq : quote ≠ '\\') :
    split? quote s = some (inside, rest) ↔ Sealed quote inside ∧ s = inside ++ quote :: rest := by
  constructor
  · intro h
    refine ⟨?_, eq_of_split? h⟩
    fun_induction split? quote s generalizing inside with
    | case1 | case2 => simp at h
    | case3 c s ih =>
      obtain ⟨⟨i, r⟩, hi, he⟩ := Option.map_eq_some_iff.1 h
      cases he
      exact .escape c (ih hi)
    | case4 s _ =>
      cases h
      exact .nil
    | case5 c s hnil hesc hc ih =>
      obtain ⟨⟨i, r⟩, hi, he⟩ := Option.map_eq_some_iff.1 h
      cases he
      refine .char ?_ hc (ih hi)
      rintro rfl
      cases s with
      | nil => exact hnil rfl rfl
      | cons d s => exact hesc d s rfl rfl
  · rintro ⟨h, rfl⟩
    induction h with
    | nil => rw [List.nil_append, split?_cons hq, if_pos rfl]
    | escape c _ ih =>
      rw [List.cons_append, List.cons_append, split?, ih]
      rfl
    | char hesc hquote _ ih =>
      rw [List.cons_append, split?_cons hesc, if_neg hquote, ih]
      rfl

end Literal

namespace Outline

/-- A text that begins inside a class, at some depth of further brackets, ends where the class can
be closed, and not before. -/
inductive Sealed : Nat → List Char → Prop
  | nil : Sealed 0 []
  | escape (c : Char) {depth : Nat} {s : List Char} : Sealed depth s → Sealed depth ('\\' :: c :: s)
  | opened {depth : Nat} {s : List Char} : Sealed (depth + 1) s → Sealed depth ('[' :: s)
  | closed {depth : Nat} {s : List Char} : Sealed depth s → Sealed (depth + 1) (']' :: s)
  | char {c : Char} {depth : Nat} {s : List Char} (hesc : c ≠ '\\') (hopen : c ≠ '[')
      (hclose : c ≠ ']') : Sealed depth s → Sealed depth (c :: s)

variable {s inside rest : List Char}

theorem closeClass?_cons {c : Char} (hesc : c ≠ '\\') (depth : Nat) (s : List Char) :
    closeClass? depth (c :: s) =
      if c = '[' then (closeClass? (depth + 1) s).map fun (inside, rest) => (c :: inside, rest)
      else if c = ']' then
        match depth with
        | 0 => some ([], s)
        | depth + 1 => (closeClass? depth s).map fun (inside, rest) => (c :: inside, rest)
      else (closeClass? depth s).map fun (inside, rest) => (c :: inside, rest) := by
  rw [closeClass?.eq_def]
  split
  · next he => cases he
  · next he => cases he; exact absurd rfl hesc
  · next he => cases he; exact absurd rfl hesc
  · next he => cases he; rfl

/-- **Where a class closes.** -/
theorem closeClass?_eq_some {depth : Nat} :
    closeClass? depth s = some (inside, rest) ↔
      Sealed depth inside ∧ s = inside ++ ']' :: rest := by
  constructor
  · intro h
    refine ⟨?_, eq_of_closeClass? h⟩
    fun_induction closeClass? depth s generalizing inside with
    | case1 | case2 => simp at h
    | case3 depth c s ih =>
      obtain ⟨⟨i, r⟩, hi, he⟩ := Option.map_eq_some_iff.1 h
      cases he
      exact .escape c (ih hi)
    | case4 depth s _ _ ih =>
      obtain ⟨⟨i, r⟩, hi, he⟩ := Option.map_eq_some_iff.1 h
      cases he
      exact .opened (ih hi)
    | case5 s _ _ _ =>
      cases h
      exact .nil
    | case6 s _ _ _ depth ih =>
      obtain ⟨⟨i, r⟩, hi, he⟩ := Option.map_eq_some_iff.1 h
      cases he
      exact .closed (ih hi)
    | case7 depth c s hnil hesc hopen hclose ih =>
      obtain ⟨⟨i, r⟩, hi, he⟩ := Option.map_eq_some_iff.1 h
      cases he
      refine .char ?_ hopen hclose (ih hi)
      rintro rfl
      cases s with
      | nil => exact hnil rfl rfl
      | cons d s => exact hesc d s rfl rfl
  · rintro ⟨h, rfl⟩
    induction h with
    | nil => rfl
    | escape c _ ih =>
      rw [List.cons_append, List.cons_append, closeClass?, ih]
      rfl
    | opened _ ih =>
      rw [List.cons_append, closeClass?_cons (by decide), if_pos rfl, ih]
      rfl
    | closed _ ih =>
      rw [List.cons_append, closeClass?_cons (by decide), if_neg (by decide), if_pos rfl]
      show Option.map _ (closeClass? _ _) = _
      rw [ih]
      rfl
    | char hesc hopen hclose _ ih =>
      rw [List.cons_append, closeClass?_cons hesc, if_neg hopen, if_neg hclose, ih]
      rfl

/-- At most one character of the inside and the bracket behind it decide about the lead. -/
theorem classLead_append {core rest : List Char} (h : s = classLead s ++ core ++ ']' :: rest)
    (more : List Char) : classLead (classLead s ++ core ++ ']' :: more) = classLead s := by
  unfold classLead at h ⊢
  split at h
  · rfl
  · next t hlead =>
    match core with
    | [] => exact absurd (List.cons.inj h).2 (hlead _)
    | c :: core =>
      have hc : c ≠ ']' := by
        rintro rfl
        exact hlead _ (List.cons.inj h).2
      simp [hc]
  · rfl
  · next hpair hcaret hbracket =>
    match core with
    | [] => exact absurd h (hbracket _)
    | c :: core =>
      have hc : c ≠ '^' := by
        rintro rfl
        exact hcaret _ h
      have hc' : c ≠ ']' := by
        rintro rfl
        exact hbracket _ h
      simp [hc, hc']

/-- What follows a class does not matter for where it closes. -/
theorem splitClass?_append (h : splitClass? s = some (inside, rest)) (more : List Char) :
    splitClass? (inside ++ ']' :: more) = some (inside, more) := by
  have hs := eq_of_splitClass? h
  obtain ⟨⟨core, r⟩, hcore, he⟩ := Option.map_eq_some_iff.1 h
  cases he
  obtain ⟨hsealed, -⟩ := closeClass?_eq_some.1 hcore
  rw [splitClass?, classLead_append hs, List.append_assoc, List.drop_left,
    closeClass?_eq_some.2 ⟨hsealed, rfl⟩]
  rfl

theorem stop_of_splitTop {rule : String} {stop : List Char → Bool} {depth pos : Nat}
    {s front back : List Char} (h : splitTop rule stop depth pos s = .ok (some (front, back))) :
    stop back = true := by
  fun_induction splitTop rule stop depth pos s generalizing front with
  | case1 => simp at h
  | case2 depth pos c s hs =>
    cases h
    exact hs.2
  | case3 => simp at h
  | case4 depth pos c s hs piece rest hp hl ih =>
    cases ht : splitTop rule stop (depthAfter c depth) (pos + Text.byteLength piece) rest with
    | error => rw [ht] at h; simp [Except.map] at h
    | ok r =>
      rw [ht] at h
      obtain ⟨⟨f, b⟩, hr, he⟩ := Option.map_eq_some_iff.1 (Except.ok.inj h)
      cases he
      exact ih (ht.trans (congrArg _ hr))

end Outline

/-! ## Leaves -/

/-- The circumflex of an expression. -/
def caret (anchored : Bool) : List Char := if anchored then ['^'] else []

/-- The dollar sign of an expression. -/
def dollar (anchored : Bool) : List Char := if anchored then ['$'] else []

/-- The text of a class or a dot, and the source of its pattern. -/
inductive Leaf.Core : List Char → List Char → Prop
  | dot : Core ['.'] Pattern.anySource
  | brackets {inside : List Char} (h : Outline.splitClass? (inside ++ [']']) = some (inside, [])) :
      Core ('[' :: inside ++ [']']) ('[' :: inside ++ [']'])

/-- The value of a leaf is a text from which the leaf can be read. -/
inductive Leaf.Spelled : Leaf → Prop
  | text {inside : List Char} {p : Pattern} (hinside : Literal.Sealed '\x27' inside)
      (hne : (Literal.unescape inside).isEmpty = false)
      (hp : Pattern.literal? (Literal.unescape inside) = some p) :
      Spelled ⟨.literal, '\x27' :: (inside ++ ['\x27']), p, false⟩
  | range {lower upper gap gap' : List Char} {lo hi : Char} {p : Pattern}
      (hlower : Literal.Sealed '\x27' lower) (hupper : Literal.Sealed '\x27' upper)
      (hgap : ∀ c ∈ gap, Text.isAsciiBlank c) (hgap' : ∀ c ∈ gap', Text.isAsciiBlank c)
      (hlo : Literal.unescape lower = [lo]) (hhi : Literal.unescape upper = [hi])
      (hp : Pattern.range? lo hi = some p) :
      Spelled ⟨.literal, '\x27' :: (lower ++ '\x27' :: (gap ++ '.' :: '.' ::
        (gap' ++ '\x27' :: (upper ++ ['\x27'])))), p, false⟩
  | expression {core source : List Char} {anchored anchoredEnd : Bool} {p : Pattern}
      (hcore : Core core source) (hp : Pattern.ofSource? (caret anchored ++ source) = some p) :
      Spelled ⟨.expression, caret anchored ++ core ++ dollar anchoredEnd, p, anchoredEnd⟩

namespace Rule

theorem readPart_append (value rest : List Char) : readPart (value ++ rest) rest = value := by
  rw [readPart, List.length_append, Nat.add_sub_cancel, List.take_left]

/-- The blanks in front of what is left when they are skipped. -/
theorem exists_skipBlanks (s : List Char) :
    ∃ blanks, (∀ c ∈ blanks, Text.isAsciiBlank c) ∧ s = blanks ++ skipBlanks s :=
  ⟨s.takeWhile Text.isAsciiBlank, List.all_eq_true.1 List.all_takeWhile,
    List.takeWhile_append_dropWhile.symm⟩

theorem skipBlanks_append {blanks : List Char} (h : ∀ c ∈ blanks, Text.isAsciiBlank c)
    (s : List Char) : skipBlanks (blanks ++ s) = skipBlanks s :=
  List.dropWhile_append_of_pos h

theorem skipBlanks_of_not_blank {c : Char} (hc : Text.isAsciiBlank c = false) (s : List Char) :
    skipBlanks (c :: s) = c :: s :=
  List.dropWhile_cons_of_neg (by simp [hc])

section Readers

variable {r : Region} {s rest : List Char}

theorem readQuoted_append {inside : List Char} (h : Literal.Sealed '\x27' inside)
    (rest : List Char) :
    (readQuoted r ('\x27' :: (inside ++ '\x27' :: rest))).result =
      .ok (Literal.unescape inside, rest) := by
  have hs := (Literal.split?_eq_some (by decide)).2
    (⟨h, rfl⟩ : _ ∧ inside ++ '\x27' :: rest = inside ++ '\x27' :: rest)
  rw [readQuoted, List.drop_succ_cons, List.drop_zero, hs]
  rfl

theorem readQuoted_eq_ok {text : List Char}
    (h : (readQuoted r ('\x27' :: s)).result = .ok (text, rest)) :
    ∃ inside, Literal.Sealed '\x27' inside ∧ s = inside ++ '\x27' :: rest ∧
      text = Literal.unescape inside := by
  unfold readQuoted at h
  split at h
  · simp at h
  · next inside rest' hs =>
    cases h
    obtain ⟨hsealed, heq⟩ := (Literal.split?_eq_some (by decide)).1 hs
    exact ⟨inside, hsealed, heq, rfl⟩

theorem readLiteral_spelled {l : Leaf} (h : (readLiteral r ('\x27' :: s)).result = .ok (l, rest)) :
    l.kind = .literal ∧ l.Spelled ∧ '\x27' :: s = l.value ++ rest := by
  unfold readLiteral at h
  obtain ⟨⟨text, rest₁⟩, hq, h⟩ := Checked.result_bind_eq_ok.1 h
  obtain ⟨lower, hlower, rfl, rfl⟩ := readQuoted_eq_ok hq
  dsimp only at h
  split at h
  · simp at h
  · next hne =>
    rw [Bool.not_eq_true] at hne
    split at h
    · next t ht =>
      obtain ⟨gap, hgap, hrest₁⟩ := exists_skipBlanks rest₁
      obtain ⟨gap', hgap', hskip⟩ := exists_skipBlanks t
      split at h
      · next hquote =>
        obtain ⟨u, hu⟩ := List.head?_eq_some_iff.1 hquote
        rw [hu] at h hskip
        obtain ⟨⟨upper, rest₂⟩, hq', h⟩ := Checked.result_bind_eq_ok.1 h
        obtain ⟨upper, hupper, rfl, rfl⟩ := readQuoted_eq_ok hq'
        rw [ht, hskip] at hrest₁
        split at h
        · next lo hi hlo hhi =>
          split at h
          · next p hp =>
            cases h
            have hs : '\x27' :: (lower ++ '\x27' :: rest₁) =
                '\x27' :: (lower ++ '\x27' :: (gap ++ '.' :: '.' ::
                  (gap' ++ '\x27' :: (upper ++ ['\x27'])))) ++ rest₂ := by
              simp [hrest₁]
            rw [hs, readPart_append]
            exact ⟨rfl, .range hlower hupper hgap hgap' hlo hhi hp, rfl⟩
          · simp at h
        · simp at h
      · simp at h
    · split at h
      · next p hp =>
        cases h
        have hs : '\x27' :: (lower ++ '\x27' :: rest) =
            '\x27' :: (lower ++ ['\x27']) ++ rest := by simp
        rw [hs, readPart_append]
        exact ⟨rfl, .text hlower hne hp, rfl⟩
      · simp at h

/-- **The text of a literal is read again**, unless what follows would make it a range. -/
theorem readLiteral_value {l : Leaf} (hl : l.Spelled) (hk : l.kind = .literal)
    (hrest : ∀ t, skipBlanks rest ≠ '.' :: '.' :: t) :
    (readLiteral r (l.value ++ rest)).result = .ok (l, rest) := by
  cases hl with
  | text hinside hne hp =>
    next inside p =>
    have hs : '\x27' :: (inside ++ ['\x27']) ++ rest = '\x27' :: (inside ++ '\x27' :: rest) := by
      simp
    rw [hs, readLiteral, Checked.result_bind, readQuoted_append hinside]
    show Checked.result (if (Literal.unescape inside).isEmpty then _ else _) = _
    rw [if_neg (by simp [hne])]
    split
    · next t ht => exact absurd ht (hrest t)
    · rw [hp, ← hs, readPart_append]
      rfl
  | range hlower hupper hgap hgap' hlo hhi hp =>
    next lower upper gap gap' lo hi p =>
    have hs : '\x27' :: (lower ++ '\x27' :: (gap ++ '.' :: '.' ::
        (gap' ++ '\x27' :: (upper ++ ['\x27'])))) ++ rest =
        '\x27' :: (lower ++ '\x27' :: (gap ++ '.' :: '.' ::
          (gap' ++ '\x27' :: (upper ++ '\x27' :: rest)))) := by simp
    rw [hs, readLiteral, Checked.result_bind, readQuoted_append hlower, hlo]
    show Checked.result (if [lo].isEmpty then _ else _) = _
    rw [if_neg (by simp), skipBlanks_append hgap, skipBlanks_of_not_blank (by decide)]
    show Checked.result (if (skipBlanks (gap' ++ _)).head? = some '\x27' then _ else _) = _
    rw [skipBlanks_append hgap', skipBlanks_of_not_blank (by decide), List.head?_cons,
      if_pos rfl, Checked.result_bind, readQuoted_append hupper, hhi]
    dsimp only [bind, Except.bind]
    rw [hp, ← hs, readPart_append]
    rfl
  | expression hcore hp => simp at hk

theorem splitClassSource_core {core source : List Char} (h : Leaf.Core core source) :
    (splitClassSource r s (core ++ rest)).result = .ok (source, rest) := by
  cases h with
  | dot => rfl
  | brackets hinside =>
    next inside =>
    have hs : '[' :: inside ++ [']'] ++ rest = '[' :: (inside ++ ']' :: rest) := by simp
    rw [hs, splitClassSource, Outline.splitClass?_append hinside]
    rfl

theorem core_of_splitClassSource {t source : List Char}
    (h : (splitClassSource r s t).result = .ok (source, rest)) :
    ∃ core, Leaf.Core core source ∧ t = core ++ rest := by
  unfold splitClassSource at h
  split at h
  · next u =>
    split at h
    · next inside rest' hu =>
      cases h
      refine ⟨_, .brackets (Outline.splitClass?_append hu []), ?_⟩
      rw [Outline.eq_of_splitClass? hu]
      simp
    · simp at h
  · cases h
    exact ⟨['.'], .dot, rfl⟩
  · simp at h

theorem exists_caret (s : List Char) :
    ∃ anchored, (if s.head? = some '^' then ['^'] else []) = caret anchored ∧
      s = caret anchored ++ s.drop (caret anchored).length := by
  by_cases h : s.head? = some '^'
  · obtain ⟨t, rfl⟩ := List.head?_eq_some_iff.1 h
    exact ⟨true, if_pos h, rfl⟩
  · exact ⟨false, if_neg h, rfl⟩

theorem readExpression_spelled {l : Leaf} (h : (readExpression r s).result = .ok (l, rest)) :
    l.kind = .expression ∧ l.Spelled ∧ s = l.value ++ rest := by
  obtain ⟨anchored, hanchor, hs⟩ := exists_caret s
  unfold readExpression at h
  rw [hanchor] at h
  dsimp only at h
  obtain ⟨⟨source, rest₁⟩, hsource, h⟩ := Checked.result_bind_eq_ok.1 h
  obtain ⟨core, hcore, hdrop⟩ := core_of_splitClassSource hsource
  have hdollar : rest₁ = dollar (readDollar rest₁).1 ++ (readDollar rest₁).2 := by
    unfold readDollar
    split <;> rfl
  dsimp only at h
  split at h
  · next p hp =>
    cases h
    have hvalue : s = caret anchored ++ core ++ dollar (readDollar rest₁).1 ++
        (readDollar rest₁).2 := by
      rw [List.append_assoc, ← hdollar, List.append_assoc, ← hdrop, ← hs]
    have hpart := readPart_append (caret anchored ++ core ++ dollar (readDollar rest₁).1)
      (readDollar rest₁).2
    rw [← hvalue] at hpart
    rw [hpart]
    exact ⟨rfl, .expression hcore hp, hvalue⟩
  · simp at h

theorem head_caret_append {core source : List Char} (h : Leaf.Core core source) (anchored : Bool)
    (more : List Char) :
    (if (caret anchored ++ core ++ more).head? = some '^' then ['^'] else []) = caret anchored := by
  cases anchored with
  | true => rfl
  | false =>
    refine if_neg ?_
    cases h <;> simp [caret]

/-- **The text of an expression is read again**, unless what follows would anchor its end. -/
theorem readExpression_value {l : Leaf} (hl : l.Spelled) (hk : l.kind = .expression)
    (hrest : rest.head? ≠ some '$') :
    (readExpression r (l.value ++ rest)).result = .ok (l, rest) := by
  cases hl with
  | text hinside hne hp => simp at hk
  | range hlower hupper hgap hgap' hlo hhi hp => simp at hk
  | expression hcore hp =>
    next core source anchored anchoredEnd p =>
    have hdollar : readDollar (dollar anchoredEnd ++ rest) = (anchoredEnd, rest) := by
      cases anchoredEnd with
      | true => rfl
      | false =>
        show readDollar rest = _
        unfold readDollar
        split
        · simp at hrest
        · rfl
    have hs : caret anchored ++ core ++ dollar anchoredEnd ++ rest =
        caret anchored ++ core ++ (dollar anchoredEnd ++ rest) := List.append_assoc _ _ _
    unfold readExpression
    rw [hs, head_caret_append hcore]
    dsimp only
    rw [Checked.result_bind, List.append_assoc, List.drop_left,
      splitClassSource_core hcore]
    dsimp only [bind, Except.bind]
    rw [hdollar, hp]
    have hpart := readPart_append (caret anchored ++ core ++ dollar anchoredEnd) rest
    rw [hs, List.append_assoc] at hpart
    dsimp only
    rw [hpart]
    rfl

end Readers

/-! ## Heads -/

/-- A text that can be the name in a reference. -/
def IsName (name : List Char) : Prop :=
  ∃ c s, name = c :: s ∧ isNameStart c = true ∧ ∀ d ∈ s, isNameChar d = true

theorem isNameChar_of_isNameStart {c : Char} (h : isNameStart c = true) : isNameChar c = true := by
  simp only [isNameStart, Bool.or_eq_true] at h
  simp only [isNameChar, Char.isAlphanum, Bool.or_eq_true]
  exact h.imp_left .inl

/-- The text of a head with what is inside of it. -/
def Head.text (inside : List Char) : Head → List Char
  | leaf l => l.value
  | reference name => name
  | group lookahead => (if lookahead then ['(', '?', '!'] else ['(']) ++ inside ++ [')']

/-- The head can be read from its text. -/
def Head.Spelled (inverted : Bool) : Head → Prop
  | leaf l => l.Spelled
  | reference name => IsName name
  | group lookahead => lookahead = true → inverted = false

section Openings

variable {r : Region} {s rest : List Char}

theorem splitGroup_eq_ok {start inside : List Char} {fault : BodyFault}
    (h : (splitGroup r start s fault).result = .ok (inside, rest)) :
    s = inside ++ ')' :: rest := by
  unfold splitGroup at h
  obtain ⟨split, hsplit, h⟩ := Checked.result_bind_eq_ok.1 h
  split at h
  · next inside' c rest' =>
    have hs := Outline.eq_of_splitTop hsplit
    have hstop := Outline.stop_of_splitTop hsplit
    obtain rfl : c = ')' := by simpa using hstop
    split at h
    · simp at h
    · cases h
      exact hs
  · simp at h

theorem readHead_text {inverted : Bool} {start : List Char} {o : Opening}
    (h : (readHead r inverted start s).result = .ok o) :
    o.inverted = inverted ∧ o.head.Spelled inverted ∧ s = o.head.text o.inside ++ o.rest := by
  unfold readHead at h
  split at h
  · simp at h
  · obtain ⟨⟨l, rest⟩, hl, h⟩ := Checked.result_bind_eq_ok.1 h
    cases h
    obtain ⟨-, hspelled, hs⟩ := readLiteral_spelled hl
    exact ⟨rfl, hspelled, hs⟩
  · split at h
    · simp at h
    · next hinv =>
      obtain ⟨⟨inside, rest⟩, hg, h⟩ := Checked.result_bind_eq_ok.1 h
      cases h
      rw [splitGroup_eq_ok hg]
      exact ⟨rfl, fun _ => by simpa using hinv, by simp [Head.text]⟩
  · obtain ⟨⟨inside, rest⟩, hg, h⟩ := Checked.result_bind_eq_ok.1 h
    cases h
    rw [splitGroup_eq_ok hg]
    exact ⟨rfl, fun hfalse => absurd hfalse (by simp), by simp [Head.text]⟩
  · simp at h
  · next c t _ _ _ _ =>
    split at h
    · obtain ⟨⟨l, rest⟩, hl, h⟩ := Checked.result_bind_eq_ok.1 h
      cases h
      obtain ⟨-, hspelled, hs⟩ := readExpression_spelled hl
      exact ⟨rfl, hspelled, hs⟩
    · split at h
      · next hc =>
        cases h
        refine ⟨rfl, ⟨c, t.takeWhile isNameChar, ?_, hc, ?_⟩, ?_⟩
        · exact List.takeWhile_cons_of_pos (isNameChar_of_isNameStart hc)
        · exact List.all_eq_true.1 List.all_takeWhile
        · exact List.takeWhile_append_dropWhile.symm
      · simp at h

/-- **What an atom is taken off.** -/
theorem readOpening_text {o : Opening} (h : (readOpening r s).result = .ok o) :
    o.head.Spelled o.inverted ∧ ∃ blanks, (∀ c ∈ blanks, Text.isAsciiBlank c) ∧
      s = (if o.inverted then '~' :: blanks else []) ++ (o.head.text o.inside ++ o.rest) := by
  unfold readOpening at h
  split at h
  · next t =>
    obtain ⟨hinv, hspelled, hs⟩ := readHead_text h
    obtain ⟨blanks, hblanks, ht⟩ := exists_skipBlanks t
    rw [hinv]
    refine ⟨hspelled, blanks, hblanks, ?_⟩
    rw [if_pos rfl, ← hs, List.cons_append, ← ht]
  · obtain ⟨hinv, hspelled, hs⟩ := readHead_text h
    rw [hinv]
    exact ⟨hspelled, [], by simp, hs⟩

end Openings

end Rule

end Lexigram
