import Lexigram.Proofs.Attributes

/-!
# Pieces of displayed attributes

Attributes are displayed with escapes that were made for reading off a page, and attributes are read
with others. So some displayed attributes are read again, and some are not.

**Legible texts** (`Document.Attributes.isLegibleText`). A text is displayed so that it is read again if
none of its characters is escaped by number, and no brace in it has a colon behind it and so is taken
for the one that closes the attributes.

**Cutting** (`Document.splitBraces?`). Where attributes are cut off does not depend on what stands
behind a text that holds such a brace, and in front of a quote nothing is cut.

**Pieces** (`Document.Attributes.Displays`). Displayed attributes are put together from pieces. The
splitting of documents passes a piece in any case. Signs are read from a piece if the texts in it
are legible. Otherwise nothing that it stands in is read, wherever the attributes are cut off.

Main results: `Document.Attributes.displays_quotation` and `Document.Attributes.displays_integer`.
-/

namespace Lexigram

/-! ## Characters and digits -/

namespace Text

theorem le_toNat_of_isPrintable (h : isPrintable c = true) : 0x20 ≤ c.toNat := by
  have hlow : ∀ n < 0x20,
      (visibleCategories.map Category.stretches).any (Stretch.anyContains n) = false ∧
        Stretch.anyContains n recentStretches = false := by
    decide +kernel
  by_contra hlt
  obtain ⟨htables, hrecent⟩ := hlow c.toNat (by omega)
  have hspace : c ≠ ' ' := by
    rintro rfl
    exact hlt (by decide)
  rw [isPrintable, anyTableContains, htables, hrecent, beq_eq_false_iff_ne.2 hspace] at h
  cases h

theorem toDigits_eq_decimal (n : Nat) : Nat.toDigits 10 n = decimal n := by
  have hdigit : ∀ d < 10, d.digitChar = digitChar d := by decide
  induction n using Nat.strong_induction_on with
  | _ n ih =>
    rw [decimal]
    split
    · next hn => rw [Nat.toDigits_of_lt_base hn, hdigit n hn]
    · next hn =>
      rw [Nat.toDigits_of_base_le (by decide) (by omega), ih (n / 10) (by omega),
        hdigit _ (Nat.mod_lt n (by decide))]

/-- Only zero begins with a zero. -/
theorem head?_decimal {n : Nat} (hn : 0 < n) : (decimal n).head? ≠ some '0' := by
  have hdigit : ∀ d < 10, 0 < d → digitChar d ≠ '0' := by decide
  induction n using Nat.strong_induction_on with
  | _ n ih =>
    rw [decimal]
    split
    · next hlt => simpa using hdigit n hlt hn
    · next hge =>
      have hrest := ih (n / 10) (by omega) (by omega)
      rwa [List.head?_append_of_ne_nil _ (decimal_ne_nil _)]

end Text

namespace Document

namespace Attributes

open Text (quotedChar)

variable {c : Char} {s u v : List Char}

/-! ## Displayed texts -/

/-- Whether a character is displayed in a form in which it is read. -/
def isLegibleChar (c : Char) : Bool :=
  c ∈ ['\t', '\r', '\n', '\x22', '\\'] || !Text.isExtender c && Text.isPrintable c

theorem readChar_numericEscape (c : Char) (s : List Char) :
    readChar (Text.numericEscape c ++ s) = none := by
  change readNumbered ('\x7b' :: (Text.hexDigits c.toNat ++ ['\x7d'] ++ s)) = none
  unfold readNumbered
  split
  · next he =>
    obtain ⟨rfl, -⟩ := List.cons.inj he
    rfl
  · rfl

theorem readChar_quotedChar (c : Char) (s : List Char) :
    readChar (quotedChar c ++ s) = if isLegibleChar c then some (c, s) else none := by
  by_cases hletter : c ∈ ['\x00', '\t', '\r', '\n', '\x22', '\\']
  · simp only [List.mem_cons, List.not_mem_nil, or_false] at hletter
    rcases hletter with rfl | rfl | rfl | rfl | rfl | rfl
    · rw [if_neg (by decide +kernel)]
      rfl
    all_goals rfl
  · simp only [List.mem_cons, List.not_mem_nil, or_false, not_or] at hletter
    simp only [quotedChar, isLegibleChar, beq_iff_eq, Bool.or_eq_true, hletter, if_false, or_self,
      List.mem_cons, List.not_mem_nil, decide_false, Bool.false_or]
    by_cases hextender : Text.isExtender c = true
    · simp [hextender, readChar_numericEscape]
    · by_cases hprintable : Text.isPrintable c = true
      · have hle := Text.le_toNat_of_isPrintable hprintable
        simp only [hextender, hprintable, if_true, Bool.not_false, Bool.and_self, if_false,
          Bool.false_eq_true]
        rw [List.singleton_append, readChar_cons hletter.2.2.2.2.2, if_neg (by omega)]
      · simp [hextender, hprintable, readChar_numericEscape]

theorem ne_of_mem_hexDigits (n : Nat) : ∀ c ∈ Text.hexDigits n, c ≠ '\\' ∧ c ≠ '\x22' := by
  have hdigit : ∀ d < 16, d.digitChar ≠ '\\' ∧ d.digitChar ≠ '\x22' := by decide
  induction n using Nat.strong_induction_on with
  | _ n ih =>
    unfold Text.hexDigits
    rcases Nat.lt_or_ge n 16 with hn | hn
    · rw [Nat.toDigits_of_lt_base hn]
      exact List.forall_mem_singleton.2 (hdigit n hn)
    · rw [Nat.toDigits_of_base_le (by decide) hn, List.forall_mem_append]
      refine ⟨ih (n / 16) (by omega), ?_⟩
      exact List.forall_mem_singleton.2 (hdigit (n % 16) (Nat.mod_lt n (by decide)))

theorem sealed_quotedChar (c : Char) (hv : Literal.Sealed '\x22' v) :
    Literal.Sealed '\x22' (quotedChar c ++ v) := by
  have hnumeric : Literal.Sealed '\x22' (Text.numericEscape c ++ v) := by
    have hinside : ∀ d ∈ '\x7b' :: (Text.hexDigits c.toNat ++ ['\x7d']), d ≠ '\\' ∧ d ≠ '\x22' := by
      rw [List.forall_mem_cons, List.forall_mem_append]
      exact ⟨by decide, ne_of_mem_hexDigits _, List.forall_mem_singleton.2 (by decide)⟩
    exact .escape 'u' (sealed_append hinside hv)
  unfold quotedChar
  split_ifs with hnull htab hreturn hfeed hquote hextender hprintable
  · exact .escape '0' hv
  · exact .escape 't' hv
  · exact .escape 'r' hv
  · exact .escape 'n' hv
  · exact .escape c hv
  · exact hnumeric
  · simp only [Bool.or_eq_true, beq_iff_eq, not_or] at hquote
    exact .char hquote.2 hquote.1 hv
  · exact hnumeric

/-- What is displayed of a text is a literal between double quotes. -/
theorem sealed_quoted (tag : List Char) : Literal.Sealed '\x22' (tag.flatMap quotedChar) := by
  induction tag with
  | nil => exact .nil
  | cons c tag ih => exact sealed_quotedChar c ih

theorem quotedChar_head (c : Char) (s : List Char) : (quotedChar c ++ s).head? ≠ some '\x22' := by
  unfold quotedChar
  split_ifs with hnull htab hreturn hfeed hquote hextender hprintable
  all_goals simp_all [Text.numericEscape]

/-- **A displayed text is read** if all its characters can be. -/
theorem readText_quoted (tag s : List Char) :
    readText (tag.flatMap quotedChar ++ '\x22' :: s) =
      if tag.all isLegibleChar then some (tag, s) else none := by
  induction tag with
  | nil =>
    rw [readText]
    rfl
  | cons c tag ih =>
    have hchar := readChar_quotedChar c (tag.flatMap quotedChar ++ '\x22' :: s)
    rw [readText, List.flatMap_cons, List.append_assoc, if_neg (quotedChar_head _ _)]
    split
    · next d t h =>
      rw [hchar, Option.ite_none_right_eq_some] at h
      obtain ⟨hc, h⟩ := h
      cases h
      rw [ih, List.all_cons, hc, Bool.true_and]
      split <;> rfl
    · next h =>
      rw [hchar] at h
      have hc : isLegibleChar c = false := by
        by_contra hc
        rw [Bool.not_eq_false] at hc
        rw [if_pos hc] at h
        cases h
      rw [List.all_cons, hc]
      rfl

/-! ## Where the braces of displayed attributes are cut -/

theorem splitBraces?_cons (hc : c ≠ '\x7d') (s : List Char) :
    splitBraces? (c :: s) = (splitBraces? s).map fun p => (c :: p.1, p.2) := by
  rw [splitBraces?, if_neg hc]

theorem splitBraces?_append_of_ne (hu : ∀ c ∈ u, c ≠ '\x7d') (s : List Char) :
    splitBraces? (u ++ s) = (splitBraces? s).map fun p => (u ++ p.1, p.2) := by
  induction u with
  | nil => simp
  | cons c u ih =>
    obtain ⟨hc, hu⟩ := List.forall_mem_cons.1 hu
    rw [List.cons_append, splitBraces?_cons hc, ih hu, Option.map_map]
    rfl

/-- No colon comes to the front of a text when more is put behind it, unless there were only blanks
in front of that. -/
theorem behindColon?_append (hu : behindColon? u = none)
    (hs : behindColon? s = none ∨ ∃ c ∈ u, Text.isBlank c = false) : behindColon? (u ++ s) = none := by
  by_contra hne
  obtain ⟨body, hbody⟩ := Option.ne_none_iff_exists'.1 hne
  obtain ⟨gap, hgap, he⟩ := behindColon?_eq_some.1 hbody
  have hsplit : (∃ t, gap = u ++ t ∧ s = t ++ ':' :: body) ∨ ∃ t, u = gap ++ ':' :: t := by
    rcases List.append_eq_append_iff.1 he with ⟨t, hgap, hs⟩ | ⟨t, hu, hs⟩
    · exact .inl ⟨t, hgap, hs⟩
    · cases t with
      | nil => exact .inl ⟨[], by simpa using hu.symm, hs.symm⟩
      | cons c t =>
        obtain ⟨rfl, -⟩ := List.cons.inj hs
        exact .inr ⟨t, hu⟩
  rcases hsplit with ⟨t, rfl, ht⟩ | ⟨t, ht⟩
  · obtain ⟨hblank, hgap⟩ := List.forall_mem_append.1 hgap
    rcases hs with hs | ⟨c, hc, hne⟩
    · rw [behindColon?_eq_some.2 ⟨t, hgap, ht⟩] at hs
      cases hs
    · rw [hblank c hc] at hne
      cases hne
  · rw [behindColon?_eq_some.2 ⟨gap, hgap, ht⟩] at hu
    cases hu

theorem mem_of_splitBraces? {found : List Char × List Char} (h : splitBraces? u = some found) :
    '\x7d' ∈ u := by
  by_contra hu
  have hnone := splitBraces?_append_of_ne (u := u) (fun c hc he => hu (he ▸ hc)) []
  rw [List.append_nil, h] at hnone
  cases hnone

/-- A text that is cut is cut there, whatever follows it. -/
theorem splitBraces?_append_of_some {braces body : List Char}
    (h : splitBraces? u = some (braces, body)) (s : List Char) :
    splitBraces? (u ++ s) = some (braces, body ++ s) := by
  fun_induction splitBraces? u generalizing braces with
  | case1 => cases h
  | case2 c u found hfound =>
    cases h
    rw [Option.ite_none_right_eq_some] at hfound
    obtain ⟨hc, hfound⟩ := hfound
    obtain ⟨gap, hgap, rfl⟩ := behindColon?_eq_some.1 hfound
    have hbehind : behindColon? (gap ++ ':' :: body ++ s) = some (body ++ s) :=
      behindColon?_eq_some.2 ⟨gap, hgap, by simp⟩
    rw [List.cons_append, splitBraces?, if_pos hc, hbehind]
  | case3 c u hnone ih =>
    obtain ⟨⟨front, body'⟩, hfront, he⟩ := Option.map_eq_some_iff.1 h
    cases he
    have hnone' : (if c = '\x7d' then behindColon? (u ++ s) else none) = none := by
      rw [ite_eq_right_iff] at hnone ⊢
      exact fun hc => behindColon?_append (hnone hc) (.inr ⟨_, mem_of_splitBraces? hfront, by decide⟩)
    rw [List.cons_append, splitBraces?, hnone']
    dsimp only
    rw [ih hfront]
    rfl

/-- A text that is not cut is not cut in front of a quote either. -/
theorem splitBraces?_append_of_none (h : splitBraces? u = none) (s : List Char) :
    splitBraces? (u ++ '\x22' :: s) =
      (splitBraces? s).map fun p => (u ++ '\x22' :: p.1, p.2) := by
  fun_induction splitBraces? u with
  | case1 => exact splitBraces?_cons (by decide) s
  | case2 c u found hfound => cases h
  | case3 c u hnone ih =>
    rw [Option.map_eq_none_iff] at h
    have hnone' : (if c = '\x7d' then behindColon? (u ++ '\x22' :: s) else none) = none := by
      rw [ite_eq_right_iff] at hnone ⊢
      exact fun hc => behindColon?_append (hnone hc) (.inl rfl)
    rw [List.cons_append, splitBraces?, hnone']
    dsimp only
    rw [ih h, Option.map_map]
    rfl

theorem splitBraces?_append_ne_none (h : splitBraces? v ≠ none) (u : List Char) :
    splitBraces? (u ++ v) ≠ none := by
  induction u with
  | nil => exact h
  | cons c u ih =>
    rw [List.cons_append, splitBraces?]
    split
    · simp
    · rwa [Ne, Option.map_eq_none_iff]

/-- What is cut off begins like the whole text. -/
theorem head?_of_splitBraces? {braces body : List Char}
    (h : splitBraces? u = some (braces, body)) : braces.head? = u.head? := by
  cases u with
  | nil => cases h
  | cons c u =>
    rw [splitBraces?] at h
    split at h
    · cases h
      rfl
    · obtain ⟨_, -, he⟩ := Option.map_eq_some_iff.1 h
      cases he
      rfl

/-! ## Pieces of displayed attributes -/

theorem InBraces.append (hu : InBraces u) (hv : InBraces v) : InBraces (u ++ v) := by
  intro parens
  rw [run_append_of (hu parens), hv parens]

/-- A text begins with a character other than a digit, so that it ends a number in front of it. -/
def EndsNumber (s : List Char) : Prop := ∃ c t, s = c :: t ∧ Text.isAsciiDigit c = false

theorem EndsNumber.append (h : EndsNumber u) (v : List Char) : EndsNumber (u ++ v) := by
  obtain ⟨c, t, rfl, hc⟩ := h
  exact ⟨c, t ++ v, rfl, hc⟩

/-- A piece of a text in braces is not cut, and some signs are read from it. -/
structure Reads (u : List Char) (l : List Sign) : Prop where
  signs : ∀ s, EndsNumber s → signs (u ++ s) = (signs s).map (l ++ ·)
  uncut : ∀ s, splitBraces? (u ++ s) = (splitBraces? s).map fun p => (u ++ p.1, p.2)

/-- A piece of a text in braces keeps the whole text from being read. -/
def Breaks (u : List Char) : Prop :=
  ∀ s, splitBraces? s ≠ none →
    ∃ braces body, splitBraces? (u ++ s) = some (braces, body) ∧ signs braces = none

/-- A piece of displayed attributes: some signs are read from it, or nothing is. -/
structure Displays (u : List Char) (l : List Sign) (legible : Bool) : Prop where
  reads : legible = true → Reads u l
  breaks : legible = false → Breaks u
  inBraces : InBraces u
  starts : EndsNumber u

section Pieces

variable {l l' : List Sign} {legible legible' : Bool}

theorem Reads.append (hu : Reads u l) (hv : Reads v l') (hends : EndsNumber v) :
    Reads (u ++ v) (l ++ l') where
  signs s hs := by
    rw [List.append_assoc, hu.signs _ (hends.append s), hv.signs s hs, Option.map_map]
    exact congrArg (Option.map · _) (funext fun x => (List.append_assoc l l' x).symm)
  uncut s := by
    rw [List.append_assoc, hu.uncut, hv.uncut, Option.map_map]
    exact congrArg (Option.map · _) (funext fun p => by simp)

theorem Reads.breaks (hu : Reads u l) (hv : Breaks v) (hends : EndsNumber v) :
    Breaks (u ++ v) := by
  intro s hs
  obtain ⟨braces, body, hcut, hnone⟩ := hv s hs
  refine ⟨u ++ braces, body, ?_, ?_⟩
  · rw [List.append_assoc, hu.uncut, hcut]
    rfl
  · have hbraces : EndsNumber braces := by
      obtain ⟨c, t, rfl, hc⟩ := hends
      obtain ⟨t', rfl⟩ := List.head?_eq_some_iff.1 (head?_of_splitBraces? hcut)
      exact ⟨c, t', rfl, hc⟩
    rw [hu.signs _ hbraces, hnone]
    rfl

theorem Breaks.append (hu : Breaks u) (v : List Char) : Breaks (u ++ v) := by
  intro s hs
  rw [List.append_assoc]
  exact hu _ (splitBraces?_append_ne_none hs v)

theorem Displays.append (hu : Displays u l legible) (hv : Displays v l' legible') :
    Displays (u ++ v) (l ++ l') (legible && legible') where
  reads h := by
    rw [Bool.and_eq_true] at h
    exact (hu.reads h.1).append (hv.reads h.2) hv.starts
  breaks h := by
    cases legible with
    | false => exact (hu.breaks rfl).append v
    | true => exact (hu.reads rfl).breaks (hv.breaks h) hv.starts
  inBraces := hu.inBraces.append hv.inBraces
  starts := hu.starts.append v

theorem signs_blanks (hu : ∀ c ∈ u, c = ' ') (s : List Char) : signs (u ++ s) = signs s := by
  induction u with
  | nil => rfl
  | cons c u ih =>
    obtain ⟨hc, hu⟩ := List.forall_mem_cons.1 hu
    rw [List.cons_append, signs_gap (by rw [hc]; decide), ih hu]

/-- A sign of a single character, with blanks behind it. -/
theorem displays_sign {c : Char} {blanks : List Char} {sign : Sign} (hgap : isGap c = false)
    (hread : ∀ s, readSign (c :: s) = some (sign, s)) (hdigit : Text.isAsciiDigit c = false)
    (hblanks : ∀ d ∈ blanks, d = ' ') (hbrace : c ≠ '\x7d')
    (hinner : InBraces (c :: blanks)) : Displays (c :: blanks) [sign] true where
  reads _ :=
    { signs := fun s _ => by
        rw [List.cons_append, signs_cons hgap (hread _), signs_blanks hblanks]
        rfl
      uncut := fun s => by
        refine splitBraces?_append_of_ne ?_ s
        refine List.forall_mem_cons.2 ⟨hbrace, fun d hd => ?_⟩
        rw [hblanks d hd]
        decide }
  breaks h := by cases h
  inBraces := hinner
  starts := ⟨c, blanks, rfl, hdigit⟩

theorem displays_comma : Displays [',', ' '] [.comma] true :=
  displays_sign (by decide) (fun _ => rfl) (by decide) (by simp) (by decide) fun _ => rfl

theorem displays_colon : Displays [':', ' '] [.colon] true :=
  displays_sign (by decide) (fun _ => rfl) (by decide) (by simp) (by decide) fun _ => rfl

theorem displays_listOpened : Displays ['['] [.listOpened] true :=
  displays_sign (by decide) (fun _ => rfl) (by decide) (by simp) (by decide) fun _ => rfl

theorem displays_listClosed : Displays [']'] [.listClosed] true :=
  displays_sign (by decide) (fun _ => rfl) (by decide) (by simp) (by decide) fun _ => rfl

/-- Pieces with commas between them. -/
theorem displays_intercalate {α : Type} {text : α → List Char} {signs : α → List Sign}
    {legible : α → Bool} {as : List α} (hne : as ≠ [])
    (h : ∀ a ∈ as, Displays (text a) (signs a) (legible a)) :
    Displays ([',', ' '].intercalate (as.map text)) ([.comma].intercalate (as.map signs))
      (as.all legible) := by
  induction as with
  | nil => exact absurd rfl hne
  | cons a as ih =>
    obtain ⟨ha, hrest⟩ := List.forall_mem_cons.1 h
    cases as with
    | nil =>
      rw [List.map_singleton, List.map_singleton, List.intercalate_singleton,
        List.intercalate_singleton]
      simpa using ha
    | cons b as =>
      have hall := (ha.append displays_comma).append (ih (by simp) hrest)
      rw [Bool.and_true] at hall
      simp only [List.map_cons, List.intercalate_cons_cons] at hall ⊢
      rw [List.all_cons]
      exact hall

/-! ### Texts -/

/-- Whether a text is displayed so that it is read again: all its characters are, and no brace in it
closes the attributes. -/
def isLegibleText (tag : List Char) : Bool :=
  tag.all isLegibleChar && (splitBraces? (tag.flatMap quotedChar)).isNone

/-- A text as it is displayed. -/
def quotation (tag : List Char) : List Char := '\x22' :: (tag.flatMap quotedChar ++ ['\x22'])

theorem quotation_append (tag s : List Char) :
    quotation tag ++ s = '\x22' :: (tag.flatMap quotedChar ++ '\x22' :: s) := by
  simp [quotation]

/-- What is cut off inside of a text cannot be read. -/
theorem signs_cut {tag cut rest : List Char} (h : tag.flatMap quotedChar = cut ++ rest) :
    signs ('\x22' :: cut) = none := by
  have hnone : readText cut = none := by
    by_contra hne
    obtain ⟨⟨inside, after⟩, hread⟩ := Option.ne_none_iff_exists'.1 hne
    obtain ⟨u, hu, rfl⟩ := exists_readText hread
    -- The text would be closed at two places.
    have hclosed : tag.flatMap quotedChar ++ ['\x22'] = u ++ '\x22' :: (after ++ rest ++ ['\x22']) := by
      simp [h]
    have hwhole := (Literal.split?_eq_some (by decide)).2
      ⟨sealed_quoted tag, (rfl : tag.flatMap quotedChar ++ ['\x22'] = _)⟩
    rw [(Literal.split?_eq_some (by decide)).2 ⟨hu, hclosed⟩] at hwhole
    simp at hwhole
  refine signs_eq_none (by decide) ?_
  rw [readSign, hnone]
  rfl

/-- **A displayed text** is read if it is legible, and otherwise nothing around it is. -/
theorem displays_quotation (tag : List Char) :
    Displays (quotation tag) [.text tag] (isLegibleText tag) where
  reads h := by
    rw [isLegibleText, Bool.and_eq_true, Option.isNone_iff_eq_none] at h
    refine ⟨fun s _ => ?_, fun s => ?_⟩
    · have hread : readSign (quotation tag ++ s) = some (.text tag, s) := by
        rw [quotation_append, readSign, readText_quoted, if_pos h.1]
        rfl
      exact signs_cons (by decide) hread
    · rw [quotation_append, splitBraces?_cons (by decide), splitBraces?_append_of_none h.2,
        Option.map_map]
      exact congrArg (Option.map · _) (funext fun p => by simp [quotation])
  breaks h := by
    intro s hs
    cases hcut : splitBraces? (tag.flatMap quotedChar) with
    | some found =>
      obtain ⟨braces, body⟩ := found
      obtain ⟨gap, -, hbraces⟩ := eq_of_splitBraces? hcut
      refine ⟨'\x22' :: braces, body ++ ('\x22' :: s), ?_, signs_cut hbraces⟩
      rw [quotation_append, splitBraces?_cons (by decide), splitBraces?_append_of_some hcut]
      rfl
    | none =>
      have hchars : tag.all isLegibleChar = false := by
        rw [isLegibleText, hcut] at h
        simpa using h
      obtain ⟨⟨braces, body⟩, hbraces⟩ := Option.ne_none_iff_exists'.1 hs
      refine ⟨quotation tag ++ braces, body, ?_, ?_⟩
      · rw [quotation_append, splitBraces?_cons (by decide), splitBraces?_append_of_none hcut, hbraces]
        simp [quotation]
      · have hread : readSign (quotation tag ++ braces) = none := by
          rw [quotation_append, readSign, readText_quoted, hchars]
          rfl
        exact signs_eq_none (by decide) hread
  inBraces parens := by
    exact run_sealed (f := .quotes) (s := []) (sealed_quoted tag)
  starts := ⟨'\x22', _, rfl, by decide⟩

/-! ### Numbers -/

theorem plain_decimal (n : Nat) :
    ((Text.decimal n).isEmpty ||
      (decide ((Text.decimal n).head? = some '0') && (Text.decimal n).length != 1)) = false := by
  rcases Nat.eq_zero_or_pos n with rfl | hn
  · rw [show Text.decimal 0 = ['0'] by rw [Text.decimal]; rfl]
    decide
  · simp [Text.decimal_ne_nil, Text.head?_decimal hn]

theorem readInteger_decimal {n : Nat} (hn : n < orderBound) {c : Char}
    (hc : Text.isAsciiDigit c = false) (s : List Char) :
    readInteger (Text.decimal n ++ c :: s) = some ((n : Int), c :: s) := by
  obtain ⟨d, ds, hds⟩ := List.exists_cons_of_ne_nil (Text.decimal_ne_nil n)
  have hd : d ≠ '-' := by
    rintro rfl
    have hdigit := Text.isAsciiDigit_of_mem_decimal n '-' (by simp [hds])
    revert hdigit
    decide
  have hhead : (Text.decimal n ++ c :: s).head? ≠ some '-' := by simpa [hds] using hd
  unfold readInteger
  simp only [hhead, if_false, Text.spanDigits_decimal n hc, Text.ofDecimal_decimal]
  rw [plain_decimal, if_pos hn]
  rfl

theorem readInteger_neg {n : Nat} (hpos : 0 < n) (hn : n ≤ orderBound) {c : Char}
    (hc : Text.isAsciiDigit c = false) (s : List Char) :
    readInteger ('-' :: (Text.decimal n ++ c :: s)) = some (-(n : Int), c :: s) := by
  unfold readInteger
  simp only [List.head?_cons, if_true, List.drop_one, List.tail_cons,
    Text.spanDigits_decimal n hc, Text.ofDecimal_decimal]
  rw [plain_decimal]
  simp [hpos, hn]


theorem toList_toString (n : Int) :
    (toString n).toList = (if n < 0 then ['-'] else []) ++ Text.decimal n.natAbs := by
  cases n with
  | ofNat n =>
    change n.repr.toList = _
    rw [Nat.toList_repr, Text.toDigits_eq_decimal]
    rfl
  | negSucc n =>
    change ("-" ++ (n + 1).repr).toList = _
    rw [String.toList_append, Nat.toList_repr, Text.toDigits_eq_decimal, if_pos (Int.negSucc_lt_zero n)]
    rfl

/-- An order is displayed in the digits in which it is read. -/
theorem readInteger_toString {n : Int} (h : InRange n) {c : Char}
    (hc : Text.isAsciiDigit c = false) (s : List Char) :
    readInteger ((toString n).toList ++ c :: s) = some (n, c :: s) := by
  unfold InRange at h
  rw [toList_toString]
  split
  · next hneg =>
    have hread := readInteger_neg (n := n.natAbs) (by omega) (by omega) hc s
    rwa [show (-(n.natAbs : Int)) = n by omega] at hread
  · next hneg =>
    have hread := readInteger_decimal (n := n.natAbs) (by omega) hc s
    rwa [show ((n.natAbs : Int)) = n by omega] at hread

/-- Whether a number can begin with a character. -/
theorem readSign_number {d : Char} (hd : d = '-' ∨ Text.isAsciiDigit d = true) (s : List Char) :
    readSign (d :: s) = (readInteger (d :: s)).map fun (n, rest) => (.integer n, rest) := by
  have hmarks : d ∉ ['\x7b', '\x7d', '[', ']', ',', ':', 'n', '\x22'] := by
    rcases hd with rfl | hd
    · decide
    · exact fun hmem => List.any_eq_false.1 (by decide : List.any _ Text.isAsciiDigit = false) d hmem hd
  simp only [List.mem_cons, List.not_mem_nil, or_false, not_or] at hmarks
  rw [readSign.eq_def]
  split <;> simp_all

/-- What a number is displayed with. -/
theorem mem_toString {n : Int} {d : Char} (hd : d ∈ (toString n).toList) :
    d = '-' ∨ Text.isAsciiDigit d = true := by
  rw [toList_toString, List.mem_append] at hd
  refine hd.imp (fun hd => ?_) (Text.isAsciiDigit_of_mem_decimal _ d)
  split at hd
  · exact List.mem_singleton.1 hd
  · cases hd

theorem isInert_of_mem_toString {n : Int} {d : Char} (hd : d ∈ (toString n).toList) :
    isInert d = true := by
  rcases mem_toString hd with rfl | hd
  · decide
  · exact isInert_of_isAsciiDigit hd

theorem signs_integer {n : Int} (h : InRange n) (hs : EndsNumber s) :
    signs ((toString n).toList ++ s) = (signs s).map (.integer n :: ·) := by
  obtain ⟨c, t, rfl, hc⟩ := hs
  have hread := readInteger_toString h hc t
  obtain ⟨d, ds, hds⟩ : ∃ d ds, (toString n).toList = d :: ds := by
    refine List.exists_cons_of_ne_nil ?_
    rw [toList_toString]
    simp [Text.decimal_ne_nil]
  have hd : d = '-' ∨ Text.isAsciiDigit d = true := mem_toString (hds ▸ List.mem_cons_self)
  have hgap : isGap d = false := by
    by_contra hgap
    simp only [Bool.not_eq_false, isGap, Bool.or_eq_true, beq_iff_eq] at hgap
    rcases hgap with ((rfl | rfl) | rfl) | rfl <;> revert hd <;> decide
  rw [hds, List.cons_append] at hread ⊢
  refine signs_cons hgap ?_
  rw [readSign_number hd, hread]
  rfl

/-- A number behind a colon. -/
theorem displays_integer {n : Int} (h : InRange n) :
    Displays (':' :: ' ' :: (toString n).toList) [.colon, .integer n] true := by
  have hinert : ∀ d ∈ ':' :: ' ' :: (toString n).toList, isInert d = true :=
    List.forall_mem_cons.2 ⟨by decide, List.forall_mem_cons.2
      ⟨by decide, fun d hd => isInert_of_mem_toString hd⟩⟩
  have hbrace : ∀ d ∈ ':' :: ' ' :: (toString n).toList, d ≠ '\x7d' := by
    rintro d hd rfl
    have hinert := hinert _ hd
    revert hinert
    decide
  have hsigns : ∀ s, EndsNumber s → signs (':' :: ' ' :: (toString n).toList ++ s) =
      (signs s).map ([.colon, .integer n] ++ ·) := by
    intro s hs
    rw [List.cons_append, List.cons_append, signs_cons (by decide) rfl, signs_gap (by decide),
      signs_integer h hs, Option.map_map]
    rfl
  exact
    { reads := fun _ => ⟨hsigns, splitBraces?_append_of_ne hbrace⟩
      breaks := fun h => by cases h
      inBraces := fun parens => Idle.inert hinert _ (.inl rfl)
      starts := ⟨':', _, rfl, by decide⟩ }

end Pieces

end Attributes

end Document

end Lexigram
