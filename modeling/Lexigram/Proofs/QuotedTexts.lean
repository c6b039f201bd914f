import Lexigram.Proofs.Bodies

/-!
# Texts as literals

Every text can be written as a literal, and a rule with that body matches the text and nothing else.

**Quoting** (`Literal.quote`). A backslash goes in front of each backslash and each apostrophe.
Reading the literal takes these backslashes off again and finds no other (`readQuoted_quote`).

**Bodies of one literal** (`readBody_literal`). A literal has no semicolon and no arrow on its top
level, whatever is inside. So a body that is a literal, or a range between two, is read as one
alternative of one atom, or it fails as the literal does.

Main result: `Rule.readBody_quote`.
-/

namespace Lexigram

/-! ## What the patterns accept -/

namespace Pattern

/-- The pattern accepts a text, wherever it stands at the beginning, and nothing else. -/
structure IsText (p : Pattern) (s : List Char) : Prop where
  begins : ∀ t, p.matchLength? t = if s <+: t then some (Text.byteLength s) else none
  whole : ∀ t, p.isExact t = true ↔ t = s

/-- The pattern accepts the characters from `lo` to `hi`, and nothing longer. -/
def IsRange (p : Pattern) (lo hi : Char) : Prop :=
  ∀ t n, p.matchLength? t = some n ↔ ∃ c rest, t = c :: rest ∧ lo ≤ c ∧ c ≤ hi ∧ n = c.utf8Size

theorem exists_literal? {s : List Char} (hs : s ≠ []) (hsize : Text.byteLength s ≤ literalLimit) :
    ∃ p, literal? s = some p ∧ p.IsText s := by
  refine ⟨⟨escape s, .text s⟩, if_pos hsize, fun t => ?_, fun t => ?_⟩
  · have hne : s.isEmpty = false := by simpa using hs
    simp [matchLength?, hne, List.isPrefixOf_iff_prefix]
  · simp [isExact]

theorem exists_range? {lo hi : Char} (h : lo ≤ hi) :
    ∃ p, range? lo hi = some p ∧ p.IsRange lo hi := by
  refine ⟨⟨rangeSource lo hi, .oneOf (.range lo hi)⟩, if_pos h, fun t n => ?_⟩
  cases t with
  | nil => simp [matchLength?]
  | cons c rest =>
    by_cases hc : lo ≤ c ∧ c ≤ hi
    · simp [matchLength?, CharClass.contains, hc, eq_comm]
    · simp [matchLength?, CharClass.contains]
      grind

end Pattern

/-! ## Quoting -/

namespace Literal

/-- How a character is written inside a literal. -/
def escaped (c : Char) : List Char := if c = '\\' ∨ c = '\x27' then ['\\', c] else [c]

/-- The inside of a literal that stands for a text. -/
def inside (s : List Char) : List Char := s.flatMap escaped

/-- The literal that stands for a text. -/
def quote (s : List Char) : List Char := '\x27' :: (inside s ++ ['\x27'])

variable {c : Char} (s : List Char)

theorem inside_escape (hc : c = '\\' ∨ c = '\x27') : inside (c :: s) = '\\' :: c :: inside s := by
  simp [inside, escaped, hc]

theorem inside_plain (hc : ¬(c = '\\' ∨ c = '\x27')) : inside (c :: s) = c :: inside s := by
  simp [inside, escaped, hc]

theorem sealed_inside : Sealed '\x27' (inside s) := by
  induction s with
  | nil => exact .nil
  | cons c s ih =>
    by_cases hc : c = '\\' ∨ c = '\x27'
    · rw [inside_escape s hc]
      exact .escape c ih
    · rw [inside_plain s hc]
      exact .char (fun h => hc (.inl h)) (fun h => hc (.inr h)) ih

theorem unescape_inside : unescape (inside s) = s := by
  induction s with
  | nil => rfl
  | cons c s ih =>
    by_cases hc : c = '\\' ∨ c = '\x27'
    · rw [inside_escape s hc]
      rcases hc with rfl | rfl <;> simp [unescape, escape?, ih]
    · rw [inside_plain s hc, unescape, ih]
      · rintro rfl
        exact absurd (.inl rfl) hc
      · rintro _ _ rfl
        exact absurd (.inl rfl) hc

theorem unknownEscapes_inside (offset : Nat) : unknownEscapes offset (inside s) = [] := by
  induction s generalizing offset with
  | nil => rfl
  | cons c s ih =>
    by_cases hc : c = '\\' ∨ c = '\x27'
    · rw [inside_escape s hc]
      rcases hc with rfl | rfl <;> simp [unknownEscapes, escape?, ih]
    · rw [inside_plain s hc, unknownEscapes, ih]
      · rintro rfl
        exact absurd (.inl rfl) hc
      · rintro _ _ rfl
        exact absurd (.inl rfl) hc

end Literal

namespace Rule

open Literal (inside quote)

/-! ## Reading quoted texts -/

section Readers

variable (r : Region)

theorem readQuoted_quote (s rest : List Char) :
    readQuoted r (quote s ++ rest) = pure (s, rest) := by
  have hsplit : Literal.split? '\x27' (inside s ++ '\x27' :: rest) = some (inside s, rest) :=
    (Literal.split?_eq_some (by decide)).2 ⟨Literal.sealed_inside s, rfl⟩
  have hquote : (quote s ++ rest).drop 1 = inside s ++ '\x27' :: rest := by simp [quote]
  rw [readQuoted, hquote, hsplit]
  simp only [escapeWarnings, Literal.unknownEscapes_inside, Literal.unescape_inside, List.map_nil]
  rfl

theorem readPart_nil (s : List Char) : readPart s [] = s := by simp [readPart]

theorem readLiteral_quote {s : List Char} {p : Pattern} (hs : s ≠ [])
    (hp : Pattern.literal? s = some p) :
    readLiteral r (quote s) = pure (⟨.literal, quote s, p, false⟩, []) := by
  have hread := readQuoted_quote r s []
  rw [List.append_nil] at hread
  rw [readLiteral, hread, pure_bind]
  dsimp only
  rw [if_neg (by simpa using hs), hp, readPart_nil]
  rfl

/-- The body that is a range between two characters. -/
def rangeBody (lo hi : Char) : List Char := quote [lo] ++ (['.', '.'] ++ quote [hi])

theorem readLiteral_rangeBody (lo hi : Char) :
    readLiteral r (rangeBody lo hi) =
      match Pattern.range? lo hi with
      | some p => pure (⟨.literal, rangeBody lo hi, p, false⟩, [])
      | none => .fail (.invalidExpression r.rule (String.ofList (Pattern.rangeSource lo hi))) := by
  have hlower := readQuoted_quote r [lo] (['.', '.'] ++ quote [hi])
  have hupper := readQuoted_quote r [hi] []
  rw [List.append_nil] at hupper
  have hdots : skipBlanks (['.', '.'] ++ quote [hi]) = '.' :: '.' :: quote [hi] :=
    skipBlanks_of_not_blank (by decide) _
  have hblanks : skipBlanks (quote [hi]) = quote [hi] := skipBlanks_of_not_blank (by decide) _
  rw [readLiteral, rangeBody, hlower, pure_bind]
  dsimp only
  rw [if_neg (by simp), hdots]
  show (if (skipBlanks (quote [hi])).head? = some '\x27' then _ else _) = _
  rw [hblanks, if_pos (by rfl), hupper, pure_bind]
  show (match Pattern.range? lo hi with
    | some p => (pure (⟨.literal, readPart (rangeBody lo hi) [], p, false⟩, []) :
        Checked (Leaf × List Char))
    | none => .fail (.invalidExpression r.rule (String.ofList (Pattern.rangeSource lo hi)))) = _
  rw [readPart_nil]
  rfl

end Readers

/-! ## Bodies of one literal -/

section Bodies

open Outline (Passes)

variable {rule : String} {cap base : Nat} {s : List Char}

theorem readAlternatives_literal {r : Region} {start : Nat} {first : Bool} {l : Leaf}
    (h : readLiteral r ('\x27' :: s) = pure (l, [])) :
    readAlternatives r start first base ('\x27' :: s) =
      pure ([.leaf ⟨base, false, .once⟩ l], [], base + 1) := by
  have hopening : readOpening r ('\x27' :: s) = pure ⟨false, .leaf l, [], []⟩ := by
    show (readLiteral r ('\x27' :: s) >>= _) = _
    rw [h]
    rfl
  rw [readAlternatives, if_neg (by decide), if_neg (by decide)]
  split
  · next ho =>
    rw [hopening] at ho
    cases ho
  · next ho =>
    rw [hopening] at ho
    cases ho
    have hend : readAlternatives r start false (base + 1) [] = pure ([], [], base + 1) := by
      rw [readAlternatives]
      rfl
    have hclosed : readEndAnchor (.leaf l) [] = (.leaf l, []) := by
      unfold readEndAnchor
      split <;> simp_all
    show (do
      let read ← readAlternatives r start false (base + 1) (readEndAnchor (.leaf l) []).2
      pure ((readEndAnchor (.leaf l) []).1.toAtom ⟨base, false, .once⟩ [] [] :: read.1, read.2.1,
        read.2.2)) = _
    rw [hclosed, hend]
    rfl

theorem readAlternatives_literal_fails {r : Region} {start : Nat} {first : Bool} {e : CompileError}
    (h : readLiteral r ('\x27' :: s) = .fail e) :
    readAlternatives r start first base ('\x27' :: s) = .fail e := by
  have hopening : readOpening r ('\x27' :: s) = .fail e := by
    show (readLiteral r ('\x27' :: s) >>= _) = _
    rw [h]
    rfl
  rw [readAlternatives, if_neg (by decide), if_neg (by decide)]
  split
  · next ho =>
    rw [hopening] at ho
    cases ho
    rfl
  · next ho =>
    rw [hopening] at ho
    cases ho

theorem readBody_passes (hu : Passes ('\x27' :: s)) :
    readBody rule cap base ('\x27' :: s) = (do
      let (atoms, others, _) ← readAlternatives ⟨rule, cap, Text.byteLength ('\x27' :: s)⟩ 0 true
        (base + 1) ('\x27' :: s)
      pure (atoms :: others, none)) := by
  have hterminator : splitTerminator rule ('\x27' :: s) = .ok ('\x27' :: s) := by
    rw [← List.append_nil ('\x27' :: s)]
    exact splitTerminator_append hu ⟨_, rfl, .inl rfl⟩
  have hsplit : splitTerminator rule ('\x27' :: s) >>= splitCommand rule =
      .ok ('\x27' :: s, none) := by
    rw [hterminator]
    exact splitCommand_none hu
  have hnonblank : (Text.trim ('\x27' :: s)).isEmpty = false := Text.trim_ne_nil (by decide) s
  rw [readBody, hsplit]
  show (if (Text.trim ('\x27' :: s)).isEmpty then _ else _) = _
  rw [hnonblank, if_neg Bool.false_ne_true]

/-- **A body of one literal** is one alternative of one atom. -/
theorem readBody_literal {l : Leaf} (hu : Passes ('\x27' :: s))
    (h : ∀ r : Region, r.rule = rule → readLiteral r ('\x27' :: s) = pure (l, [])) :
    readBody rule cap base ('\x27' :: s) =
      pure ([[.leaf ⟨base + 1, false, .once⟩ l]], none) := by
  rw [readBody_passes hu, readAlternatives_literal (h _ rfl)]
  rfl

theorem readBody_literal_fails {e : CompileError} (hu : Passes ('\x27' :: s))
    (h : ∀ r : Region, r.rule = rule → readLiteral r ('\x27' :: s) = .fail e) :
    readBody rule cap base ('\x27' :: s) = .fail e := by
  rw [readBody_passes hu, readAlternatives_literal_fails (h _ rfl)]
  rfl

theorem passes_quote (s : List Char) : Passes (quote s) := .literal (Literal.sealed_inside s)

theorem passes_rangeBody (lo hi : Char) : Passes (rangeBody lo hi) :=
  (passes_quote [lo]).append ((Passes.quiet (List.all_eq_true.1 (by decide))).append
    (passes_quote [hi]))

/-- **Every text can be written as a literal**, and a body that is this literal is read without a
warning as one atom that matches the text and nothing else. A range between two characters is read
if they are in order, and then it matches the characters from the one to the other. -/
theorem readBody_quote (rule : String) (cap base : Nat) :
    (∀ s, s ≠ [] → Text.byteLength s ≤ Pattern.literalLimit →
      ∃ p : Pattern, p.IsText s ∧ readBody rule cap base (quote s) =
        pure ([[.leaf ⟨base + 1, false, .once⟩ ⟨.literal, quote s, p, false⟩]], none)) ∧
    ∀ lo hi,
      (lo ≤ hi → ∃ p : Pattern, p.IsRange lo hi ∧ readBody rule cap base (rangeBody lo hi) =
        pure ([[.leaf ⟨base + 1, false, .once⟩ ⟨.literal, rangeBody lo hi, p, false⟩]], none)) ∧
      (hi < lo → readBody rule cap base (rangeBody lo hi) =
        .fail (.invalidExpression rule (String.ofList (Pattern.rangeSource lo hi)))) := by
  refine ⟨fun s hs hsize => ?_, fun lo hi => ⟨fun hle => ?_, fun hlt => ?_⟩⟩
  · obtain ⟨p, hp, htext⟩ := Pattern.exists_literal? hs hsize
    exact ⟨p, htext, readBody_literal (passes_quote s) fun r _ => readLiteral_quote r hs hp⟩
  · obtain ⟨p, hp, hrange⟩ := Pattern.exists_range? hle
    refine ⟨p, hrange, readBody_literal (passes_rangeBody lo hi) fun r _ => ?_⟩
    exact (readLiteral_rangeBody r lo hi).trans (by rw [hp])
  · have hp : Pattern.range? lo hi = none := if_neg (Char.not_le.2 hlt)
    refine readBody_literal_fails (passes_rangeBody lo hi) fun r hr => ?_
    exact (readLiteral_rangeBody r lo hi).trans (by rw [hp, hr])

/-- A text that would end the body, begin a command and close the literal, were it not quoted, and a
range from an apostrophe to a backslash. -/
theorem readBody_quote_delimiters :
    let s := ['\x27', ';', '\\', '-', '>', '(', '[', '\n']
    quote s = ['\x27', '\\', '\x27', ';', '\\', '\\', '-', '>', '(', '[', '\n', '\x27'] ∧
      (∃ p : Pattern, p.IsText s ∧ readBody "R" 0 2 (quote s) =
        pure ([[.leaf ⟨3, false, .once⟩ ⟨.literal, quote s, p, false⟩]], none)) ∧
      (∃ p : Pattern, p.IsRange '\x27' '\\' ∧ readBody "R" 0 2 (rangeBody '\x27' '\\') =
        pure ([[.leaf ⟨3, false, .once⟩ ⟨.literal, rangeBody '\x27' '\\', p, false⟩]], none)) ∧
      readBody "R" 0 2 (rangeBody '\\' '\x27') =
        .fail (.invalidExpression "R" (String.ofList (Pattern.rangeSource '\\' '\x27'))) := by
  intro s
  obtain ⟨htexts, hranges⟩ := readBody_quote "R" 0 2
  exact ⟨by decide, htexts s (by decide) (by decide), (hranges _ _).1 (by decide),
    (hranges _ _).2 (by decide)⟩

end Bodies

end Rule

end Lexigram
