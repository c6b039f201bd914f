import Lexigram.Quantifier
import Mathlib

/-!
# The written form of quantifiers

Which texts write a quantifier, and which quantifier they write.

**The form** (`Quantifier.Writes`). A symbol, or a range in braces with white space around its
numbers, each with a question mark behind it if it is lazy. A range without a least count begins at
zero, one with a comma and no greatest count ends at the cap or at its least count, and one without
a comma has a single number for both.

**Numbers** (`Text.exists_number`, `Text.trimStart_number`). White space, digits and white space are
split where they were put together, because no character is of both kinds.

**Reading** (`Quantifier.read?_eq_some`). Reading takes off a text what writes a quantifier, the
question mark included if there is one. So it fails only if no beginning of the text writes one.

**Displaying** (`Quantifier.Obtainable`). Whatever way a quantifier was made, its bounds are those of
its form, and so its printed form is read as the same quantifier.

Main result: `Quantifier.read?_writes`.
-/

namespace Lexigram

/-! ## Numerals -/

namespace Text

theorem decimal_ne_nil (n : Nat) : decimal n ≠ [] := by
  rw [decimal]
  split <;> simp

theorem isAsciiDigit_of_mem_decimal (n : Nat) : ∀ c ∈ decimal n, isAsciiDigit c = true := by
  rw [decimal]
  split
  · next h =>
    intro c hc
    rw [List.mem_singleton.1 hc]
    exact isAsciiDigit_digitChar n h
  · have ih := isAsciiDigit_of_mem_decimal (n / 10)
    intro c hc
    rcases List.mem_append.1 hc with hc | hc
    · exact ih c hc
    · rw [List.mem_singleton.1 hc]
      exact isAsciiDigit_digitChar _ (by omega)
termination_by n
decreasing_by omega

/-- A row of the digits `0` to `9`, which may be empty. -/
def IsDigits (s : List Char) : Prop := ∀ c ∈ s, isAsciiDigit c = true

theorem spanDigits_append {digits rest : List Char} {c : Char} (h : IsDigits digits)
    (hc : isAsciiDigit c = false) : spanDigits (digits ++ c :: rest) = (digits, c :: rest) := by
  simp [spanDigits, List.takeWhile_append_of_pos h, List.dropWhile_append_of_pos h, hc]

theorem spanDigits_decimal (n : Nat) {c : Char} (hc : isAsciiDigit c = false) (rest : List Char) :
    spanDigits (decimal n ++ c :: rest) = (decimal n, c :: rest) :=
  spanDigits_append (isAsciiDigit_of_mem_decimal n) hc

theorem isBlank_of_isAsciiDigit {c : Char} (h : isAsciiDigit c = true) : isBlank c = false := by
  simp only [isAsciiDigit, Bool.and_eq_true, decide_eq_true_eq, Char.le_def, UInt32.le_iff_toNat_le]
    at h
  change 48 ≤ c.toNat ∧ c.toNat ≤ 57 at h
  simp only [isBlank, blankStretches, Stretch.anyContains]
  grind

theorem isBlank_of_isAlpha {c : Char} (h : c.isAlpha = true) : isBlank c = false := by
  simp only [Char.isAlpha, Char.isUpper, Char.isLower, Bool.or_eq_true, Bool.and_eq_true,
    decide_eq_true_eq, UInt32.le_iff_toNat_le, ge_iff_le] at h
  change (65 ≤ c.toNat ∧ c.toNat ≤ 90) ∨ (97 ≤ c.toNat ∧ c.toNat ≤ 122) at h
  simp only [isBlank, blankStretches, Stretch.anyContains]
  grind

theorem trimStart_of_not_blank {c : Char} (hc : isBlank c = false) (s : List Char) :
    trimStart (c :: s) = c :: s :=
  List.dropWhile_cons_of_neg (by simp [hc])

theorem trim_ne_nil {c : Char} (hc : isBlank c = false) (s : List Char) :
    (trim (c :: s)).isEmpty = false := by
  rw [trim, trimStart_of_not_blank hc, trimEnd, List.isEmpty_reverse, List.isEmpty_eq_false_iff]
  intro hnil
  have hall := List.dropWhile_eq_nil_iff.1 hnil c (by simp)
  rw [hc] at hall
  cases hall

section Trim

variable {front s back : List Char}

theorem exists_trimStart (s : List Char) :
    ∃ front, (∀ c ∈ front, isBlank c = true) ∧ s = front ++ trimStart s :=
  ⟨s.takeWhile isBlank, List.all_eq_true.1 List.all_takeWhile,
    List.takeWhile_append_dropWhile.symm⟩

theorem not_blank_of_mem_head? {c : Char} (h : c ∈ (trimStart s).head?) : isBlank c = false := by
  have hnot := List.head?_dropWhile_not isBlank s
  rw [show (s.dropWhile isBlank).head? = some c from h] at hnot
  exact hnot

theorem exists_trim (s : List Char) :
    ∃ front back, (∀ c ∈ front, isBlank c = true) ∧ (∀ c ∈ back, isBlank c = true) ∧
      s = front ++ trim s ++ back := by
  obtain ⟨front, hfront, hs⟩ := exists_trimStart s
  obtain ⟨back, hback, ht⟩ := exists_trimStart (trimStart s).reverse
  refine ⟨front, back.reverse, hfront, fun c hc => hback c (List.mem_reverse.1 hc), ?_⟩
  have hreverse : trimStart s = trim s ++ back.reverse := by
    rw [← List.reverse_reverse (trimStart s), ht, List.reverse_append]
    rfl
  rw [List.append_assoc, ← hreverse, ← hs]

theorem trim_blank_append (h : ∀ c ∈ front, isBlank c = true) : trim (front ++ s) = trim s := by
  rw [trim, trimStart, List.dropWhile_append_of_pos h]
  rfl

theorem trim_append_blank (h : ∀ c ∈ back, isBlank c = true) : trim (s ++ back) = trim s := by
  have hback : back.dropWhile isBlank = [] := List.dropWhile_eq_nil_iff.2 h
  rw [trim, trim, trimStart, List.dropWhile_append]
  split
  · next hs => rw [hback, trimStart, List.isEmpty_iff.1 hs]
  · rw [trimEnd, List.reverse_append,
      List.dropWhile_append_of_pos fun c hc => h c (List.mem_reverse.1 hc)]
    rfl

theorem trim_trim (s : List Char) : trim (trim s) = trim s := by
  obtain ⟨front, back, hfront, hback, hs⟩ := exists_trim s
  calc trim (trim s) = trim (front ++ (trim s ++ back)) := by
        rw [trim_blank_append hfront, trim_append_blank hback]
    _ = trim s := by rw [← List.append_assoc, ← hs]

end Trim

/-! ### Numbers between white space -/

variable {before digits after t : List Char} {c : Char}

/-- White space, and nothing else. -/
def IsGap (s : List Char) : Prop := ∀ c ∈ s, isBlank c = true

theorem trimStart_append (h : IsGap before) : trimStart (before ++ t) = trimStart t :=
  List.dropWhile_append_of_pos h

theorem isAsciiDigit_of_isBlank (h : isBlank c = true) : isAsciiDigit c = false := by
  by_contra hdigit
  rw [Bool.not_eq_false] at hdigit
  simp [isBlank_of_isAsciiDigit hdigit] at h

/-- The digits behind white space, and the white space behind them. -/
theorem exists_number (s : List Char) :
    ∃ before after, IsGap before ∧ IsDigits (spanDigits (trimStart s)).1 ∧ IsGap after ∧
      s = before ++ (spanDigits (trimStart s)).1 ++ after ++
        trimStart (spanDigits (trimStart s)).2 := by
  obtain ⟨before, hbefore, hs⟩ := exists_trimStart s
  obtain ⟨after, hafter, ht⟩ := exists_trimStart (spanDigits (trimStart s)).2
  refine ⟨before, after, hbefore, List.all_eq_true.1 List.all_takeWhile, hafter, ?_⟩
  calc s = before ++ trimStart s := hs
    _ = before ++ ((spanDigits (trimStart s)).1 ++ (spanDigits (trimStart s)).2) := by
        simp [spanDigits]
    _ = before ++ ((spanDigits (trimStart s)).1 ++
          (after ++ trimStart (spanDigits (trimStart s)).2)) := by rw [← ht]
    _ = _ := by simp

/-- A number is found between the white space that was put around it. -/
theorem trimStart_number (hbefore : IsGap before) (hdigits : IsDigits digits) (hafter : IsGap after)
    (hblank : isBlank c = false) (hdigit : isAsciiDigit c = false) :
    (spanDigits (trimStart (before ++ digits ++ after ++ c :: t))).1 = digits ∧
      trimStart (spanDigits (trimStart (before ++ digits ++ after ++ c :: t))).2 = c :: t := by
  have hend : trimStart (c :: t) = c :: t := trimStart_of_not_blank hblank t
  rw [List.append_assoc, List.append_assoc, trimStart_append hbefore]
  cases digits with
  | nil =>
    -- Without digits the white space behind them is skipped with that before them.
    have hspan : spanDigits (c :: t) = ([], c :: t) := spanDigits_append hdigits hdigit
    simp [trimStart_append hafter, hend, hspan]
  | cons d ds =>
    have hd := isBlank_of_isAsciiDigit (hdigits d List.mem_cons_self)
    rw [List.cons_append, trimStart_of_not_blank hd]
    cases after with
    | nil =>
      have hspan : spanDigits (d :: (ds ++ c :: t)) = (d :: ds, c :: t) :=
        spanDigits_append hdigits hdigit
      simp [hspan, hend]
    | cons b after =>
      have hb := isAsciiDigit_of_isBlank (hafter b List.mem_cons_self)
      have hspan : spanDigits (d :: (ds ++ b :: (after ++ c :: t))) =
          (d :: ds, b :: (after ++ c :: t)) := spanDigits_append hdigits hb
      have hgap : trimStart (b :: (after ++ c :: t)) = c :: t :=
        (trimStart_append hafter).trans hend
      simp [hspan, hgap]

end Text

namespace Quantifier

open Text (IsGap IsDigits ofDecimal)

/-! ## The form -/

/-- The question mark of a lazy quantifier. -/
def lazyMark (lazy : Bool) : List Char := if lazy then ['?'] else []

/-- The texts that write a quantifier, where `cap` is the greatest count of a range that is open
above. -/
inductive Writes (cap : Nat) : List Char → Quantifier → Prop
  | zeroOrMore (lazy : Bool) : Writes cap ('*' :: lazyMark lazy) ⟨.zeroOrMore, 0, unbounded, lazy⟩
  | oneOrMore (lazy : Bool) : Writes cap ('+' :: lazyMark lazy) ⟨.oneOrMore, 1, unbounded, lazy⟩
  | optional (lazy : Bool) : Writes cap ('?' :: lazyMark lazy) ⟨.optional, 0, 1, lazy⟩
  /-- A single number. -/
  | exactly {before digits after : List Char} (lazy : Bool) (hbefore : IsGap before)
      (hdigits : IsDigits digits) (hafter : IsGap after) (hne : digits ≠ [])
      (hmax : ofDecimal digits ≤ unbounded) :
      Writes cap ('\x7b' :: (before ++ digits ++ after ++ '\x7d' :: lazyMark lazy))
        ⟨.range, ofDecimal digits, ofDecimal digits, lazy⟩
  /-- Two numbers. -/
  | between {before low after before' high after' : List Char} (lazy : Bool)
      (hbefore : IsGap before) (hlow : IsDigits low) (hafter : IsGap after)
      (hbefore' : IsGap before') (hhigh : IsDigits high) (hafter' : IsGap after') (hne : high ≠ [])
      (hle : ofDecimal low ≤ ofDecimal high) (hmax : ofDecimal high ≤ unbounded) :
      Writes cap ('\x7b' :: (before ++ low ++ after ++ ',' ::
          (before' ++ high ++ after' ++ '\x7d' :: lazyMark lazy)))
        ⟨.range, ofDecimal low, ofDecimal high, lazy⟩
  /-- A least count alone. -/
  | atLeast {before low after gap : List Char} (lazy : Bool) (hbefore : IsGap before)
      (hlow : IsDigits low) (hafter : IsGap after) (hgap : IsGap gap)
      (hmax : ofDecimal low ≤ unbounded) :
      Writes cap ('\x7b' :: (before ++ low ++ after ++ ',' :: (gap ++ '\x7d' :: lazyMark lazy)))
        ⟨.range, ofDecimal low, Nat.max cap (ofDecimal low), lazy⟩

variable {cap : Nat} {s front rest : List Char} {q : Quantifier}

theorem Writes.min_le_max (h : Writes cap front q) : q.min ≤ q.max := by
  cases h with
  | zeroOrMore | optional => exact Nat.zero_le _
  | oneOrMore => exact Nat.le_add_left 1 _
  | exactly => exact Nat.le_refl _
  | between _ _ _ _ _ _ _ _ hle _ => exact hle
  | atLeast => exact Nat.le_max_right _ _

/-- Behind what writes an eager quantifier, a question mark makes it lazy. -/
theorem Writes.lazy (h : Writes cap front q) (hq : q.lazy = false) :
    Writes cap (front ++ ['?']) { q with lazy := true } := by
  cases h with
  | zeroOrMore lazy =>
    cases hq
    exact .zeroOrMore true
  | oneOrMore lazy =>
    cases hq
    exact .oneOrMore true
  | optional lazy =>
    cases hq
    exact .optional true
  | exactly lazy hbefore hdigits hafter hne hmax =>
    cases hq
    simpa [lazyMark] using
      (.exactly true hbefore hdigits hafter hne hmax : Writes cap _ _)
  | between lazy hbefore hlow hafter hbefore' hhigh hafter' hne hle hmax =>
    cases hq
    simpa [lazyMark] using
      (.between true hbefore hlow hafter hbefore' hhigh hafter' hne hle hmax : Writes cap _ _)
  | atLeast lazy hbefore hlow hafter hgap hmax =>
    cases hq
    simpa [lazyMark] using (.atLeast true hbefore hlow hafter hgap hmax : Writes cap _ _)

/-! ## Reading -/

theorem exists_readLazy (s : List Char) :
    ∃ lazy rest, readLazy s = (lazy, rest) ∧ s = lazyMark lazy ++ rest ∧
      (lazy = false → rest.head? ≠ some '?') := by
  unfold readLazy
  split
  · next t => exact ⟨true, t, rfl, rfl, nofun⟩
  · next hne =>
    refine ⟨false, s, rfl, rfl, fun _ hhead => ?_⟩
    obtain ⟨t, ht⟩ := List.head?_eq_some_iff.1 hhead
    exact hne t ht

theorem readLazy_lazyMark (lazy : Bool) {rest : List Char} (h : rest.head? ≠ some '?') :
    readLazy (lazyMark lazy ++ rest) = (lazy, rest) := by
  cases lazy with
  | true => rfl
  | false =>
    match rest with
    | [] => rfl
    | c :: rest =>
      unfold readLazy lazyMark
      split
      · next he => simp at he h; exact absurd he.1 h
      · rfl

theorem readBound?_eq_some {ds : List Char} {n : Nat} :
    readBound? ds = some n ↔ ofDecimal ds ≤ unbounded ∧ ofDecimal ds = n := by
  unfold readBound?
  dsimp only
  split <;> simp [*]

theorem readUpper?_eq_some {min n : Nat} {ds : List Char} :
    readUpper? cap min ds = some n ↔
      (ds = [] ∧ Nat.max cap min = n) ∨ (ds ≠ [] ∧ ofDecimal ds ≤ unbounded ∧ ofDecimal ds = n) := by
  unfold readUpper?
  split
  · next h => simp [List.isEmpty_iff.1 h]
  · next h => simp [readBound?_eq_some, show ds ≠ [] by simpa using h]

/-- What is read of a range is what writes it. -/
theorem writes_of_readRange? (h : readRange? cap s = some (q, rest)) :
    ∃ front, s = front ++ rest ∧ Writes cap ('\x7b' :: front) q ∧
      (q.lazy = false → rest.head? ≠ some '?') := by
  obtain ⟨before, after, hbefore, hlow, hafter, hs⟩ := Text.exists_number s
  unfold readRange? at h
  dsimp only at h
  generalize (Text.spanDigits (Text.trimStart s)).1 = low at h hs hlow
  generalize (Text.spanDigits (Text.trimStart s)).2 = behind at h hs
  split at h
  · next t ht =>
    rw [ht] at hs
    obtain ⟨lazy, rest', hread, rfl, hrest⟩ := exists_readLazy t
    rw [hread] at h
    split at h
    · cases h
    · next hne =>
      simp only [Option.bind_eq_bind, Option.bind_eq_some_iff, readBound?_eq_some] at h
      obtain ⟨n, ⟨hmax, rfl⟩, q', hq, h⟩ := h
      cases h
      rw [range?, if_pos (Nat.le_refl _)] at hq
      cases hq
      refine ⟨_, ?_, .exactly lazy hbefore hlow hafter (by simpa using hne) hmax, hrest⟩
      simpa using hs
  · next t ht =>
    rw [ht] at hs
    obtain ⟨before', after', hbefore', hhigh, hafter', ht'⟩ := Text.exists_number t
    generalize (Text.spanDigits (Text.trimStart t)).1 = high at h ht' hhigh
    generalize (Text.spanDigits (Text.trimStart t)).2 = behind' at h ht'
    split at h
    · next u hu =>
      rw [hu] at ht'
      obtain ⟨lazy, rest', hread, rfl, hrest⟩ := exists_readLazy u
      rw [hread] at h
      simp only [Option.bind_eq_bind, Option.bind_eq_some_iff, readBound?_eq_some,
        readUpper?_eq_some] at h
      obtain ⟨min, ⟨hmin, rfl⟩, max, hmax, q', hq, h⟩ := h
      cases h
      unfold range? at hq
      split at hq
      · next hle =>
        cases hq
        rcases hmax with ⟨rfl, rfl⟩ | ⟨hne, hmax, rfl⟩
        · have hgap : IsGap (before' ++ after') := List.forall_mem_append.2 ⟨hbefore', hafter'⟩
          refine ⟨_, ?_, .atLeast lazy hbefore hlow hafter hgap hmin, hrest⟩
          simp [hs, ht']
        · refine ⟨_, ?_,
            .between lazy hbefore hlow hafter hbefore' hhigh hafter' hne hle hmax, hrest⟩
          simp [hs, ht']
      · cases hq
    · cases h
  · cases h

/-- What writes a quantifier is read off a text, if nothing behind it would make it lazy. -/
theorem Writes.read? (h : Writes cap front q) (hrest : q.lazy = false → rest.head? ≠ some '?') :
    Quantifier.read? cap (front ++ rest) = some (q, rest) := by
  have hmark (lazy : Bool) (hlazy : lazy = false → rest.head? ≠ some '?') :
      readLazy (lazyMark lazy ++ rest) = (lazy, rest) := by
    cases lazy with
    | true => rfl
    | false => exact readLazy_lazyMark false (hlazy rfl)
  cases h with
  | zeroOrMore lazy | oneOrMore lazy | optional lazy => simp [Quantifier.read?, hmark lazy hrest]
  | exactly lazy hbefore hdigits hafter hne hmax =>
    next before digits after =>
    obtain ⟨hspan, htrim⟩ := Text.trimStart_number (t := lazyMark lazy ++ rest)
      hbefore hdigits hafter (show Text.isBlank '\x7d' = false by decide) (by decide)
    have hempty : digits.isEmpty = false := by simpa using hne
    simp only [List.cons_append, List.append_assoc] at hspan htrim ⊢
    simp [Quantifier.read?, readRange?, hspan, htrim, hempty, readBound?_eq_some.2 ⟨hmax, rfl⟩,
      hmark lazy hrest, range?]
  | between lazy hbefore hlow hafter hbefore' hhigh hafter' hne hle hmax =>
    next before low after before' high after' =>
    obtain ⟨hspan, htrim⟩ := Text.trimStart_number
      (t := before' ++ high ++ after' ++ '\x7d' :: (lazyMark lazy ++ rest))
      hbefore hlow hafter (show Text.isBlank ',' = false by decide) (by decide)
    obtain ⟨hspan', htrim'⟩ := Text.trimStart_number (t := lazyMark lazy ++ rest)
      hbefore' hhigh hafter' (show Text.isBlank '\x7d' = false by decide) (by decide)
    simp only [List.cons_append, List.append_assoc] at hspan htrim hspan' htrim' ⊢
    simp [Quantifier.read?, readRange?, hspan, htrim, hspan', htrim',
      readBound?_eq_some.2 ⟨hle.trans hmax, rfl⟩, readUpper?_eq_some.2 (.inr ⟨hne, hmax, rfl⟩),
      hmark lazy hrest, range?, hle]
  | atLeast lazy hbefore hlow hafter hgap hmax =>
    next before low after gap =>
    obtain ⟨hspan, htrim⟩ := Text.trimStart_number
      (t := gap ++ '\x7d' :: (lazyMark lazy ++ rest))
      hbefore hlow hafter (show Text.isBlank ',' = false by decide) (by decide)
    obtain ⟨hspan', htrim'⟩ := Text.trimStart_number (t := lazyMark lazy ++ rest)
      hgap (nofun : IsDigits []) (nofun : IsGap []) (show Text.isBlank '\x7d' = false by decide) (by decide)
    simp only [List.cons_append, List.append_assoc, List.nil_append] at hspan htrim hspan' htrim' ⊢
    simp [Quantifier.read?, readRange?, hspan, htrim, hspan', htrim',
      readBound?_eq_some.2 ⟨hmax, rfl⟩, readUpper?_eq_some.2 (.inl ⟨rfl, rfl⟩),
      hmark lazy hrest, range?]

/-- **Reading takes off a text what writes a quantifier**, with the question mark behind it if there
is one. -/
theorem read?_eq_some :
    read? cap s = some (q, rest) ↔
      ∃ front, s = front ++ rest ∧ Writes cap front q ∧
        (q.lazy = false → rest.head? ≠ some '?') := by
  constructor
  · intro h
    unfold read? at h
    split at h
    iterate 3
      next t =>
        obtain ⟨lazy, rest', hread, rfl, hrest⟩ := exists_readLazy t
        rw [hread] at h
        cases h
        exact ⟨_, rfl, by constructor, hrest⟩
    · next t =>
      obtain ⟨front, rfl, hwrites, hrest⟩ := writes_of_readRange? h
      exact ⟨_, rfl, hwrites, hrest⟩
    · cases h
  · rintro ⟨front, rfl, hwrites, hrest⟩
    exact hwrites.read? hrest

/-- **Nothing is read only if there is nothing to read**: no beginning of the text writes a
quantifier. -/
theorem read?_eq_none :
    read? cap s = none ↔ ∀ front rest q, s = front ++ rest → ¬Writes cap front q := by
  constructor
  · rintro h front rest q rfl hwrites
    by_cases hlazy : q.lazy = false ∧ rest.head? = some '?'
    · obtain ⟨t, rfl⟩ := List.head?_eq_some_iff.1 hlazy.2
      have hread : read? cap (front ++ ['?'] ++ t) = _ := (hwrites.lazy hlazy.1).read? nofun
      simp [h] at hread
    · have hread : read? cap (front ++ rest) = _ := hwrites.read? (by simpa using hlazy)
      simp [h] at hread
  · intro h
    by_contra hread
    obtain ⟨⟨q, rest⟩, hread⟩ := Option.ne_none_iff_exists'.1 hread
    obtain ⟨front, hs, hwrites, -⟩ := read?_eq_some.1 hread
    exact h front rest q hs hwrites

/-! ## Displaying -/

/-- Whether the bounds of a quantifier are those of its form. -/
def Sound (q : Quantifier) : Prop :=
  match q.kind with
  | .once => q = once
  | .zeroOrMore => q.min = 0 ∧ q.max = unbounded
  | .oneOrMore => q.min = 1 ∧ q.max = unbounded
  | .optional => q.min = 0 ∧ q.max = 1
  | .range => q.min ≤ q.max ∧ q.max ≤ unbounded

theorem sound_of_range? {min max : Nat} {lazy : Bool} {q : Quantifier}
    (h : range? min max lazy = some q) (hmax : max ≤ unbounded) :
    q.Sound ∧ q.kind = .range := by
  unfold range? at h
  split at h
  · next hle =>
    cases h
    exact ⟨⟨hle, hmax⟩, rfl⟩
  · simp at h

/-- What writes a quantifier gives it the bounds of its form. -/
theorem Writes.sound (h : Writes cap front q) (hcap : cap ≤ unbounded) :
    q.Sound ∧ q.kind ≠ .once := by
  cases h with
  | zeroOrMore | oneOrMore | optional => exact ⟨⟨rfl, rfl⟩, nofun⟩
  | exactly _ _ _ _ _ hmax => exact ⟨⟨Nat.le_refl _, hmax⟩, nofun⟩
  | between _ _ _ _ _ _ _ _ hle hmax => exact ⟨⟨hle, hmax⟩, nofun⟩
  | atLeast _ _ _ _ _ hmax =>
    exact ⟨⟨Nat.le_max_right _ _, Nat.max_le.2 ⟨hcap, hmax⟩⟩, nofun⟩

theorem sound_of_read? (hcap : cap ≤ unbounded) (h : read? cap s = some (q, rest)) :
    q.Sound ∧ q.kind ≠ .once := by
  obtain ⟨front, -, hwrites, -⟩ := read?_eq_some.1 h
  exact hwrites.sound hcap

/-- The printed form of a quantifier writes it. -/
theorem writes_render (hq : q.Sound) (hk : q.kind ≠ .once) : Writes unbounded q.render q := by
  obtain ⟨kind, min, max, lazy⟩ := q
  have hmark (bounds : List Char) :
      (if lazy then bounds ++ ['?'] else bounds) = bounds ++ lazyMark lazy := by
    cases lazy <;> simp [lazyMark]
  have hdigits (n : Nat) : IsDigits (Text.decimal n) := Text.isAsciiDigit_of_mem_decimal n
  cases kind with
  | once => exact absurd rfl hk
  | zeroOrMore =>
    obtain ⟨rfl, rfl⟩ := hq
    simp only [render, hmark, reduceCtorEq, if_false]
    exact .zeroOrMore lazy
  | oneOrMore =>
    obtain ⟨rfl, rfl⟩ := hq
    simp only [render, hmark, reduceCtorEq, if_false]
    exact .oneOrMore lazy
  | optional =>
    obtain ⟨rfl, rfl⟩ := hq
    simp only [render, hmark, reduceCtorEq, if_false]
    exact .optional lazy
  | range =>
    obtain ⟨hle, hmax⟩ := hq
    dsimp only at hle hmax
    simp only [render, hmark, reduceCtorEq, if_false]
    have hmin : ofDecimal (Text.decimal min) = min := Text.ofDecimal_decimal min
    have hgap : IsGap [] := nofun
    split
    · next he =>
      subst he
      have hwrites : Writes unbounded _ _ := .exactly lazy hgap (hdigits min) hgap
        (Text.decimal_ne_nil min) (hmin.le.trans hmax)
      simpa [hmin] using hwrites
    · split
      · next he =>
        subst he
        have hwrites : Writes unbounded _ _ := .atLeast lazy hgap (hdigits min) hgap hgap
          (hmin.le.trans hle)
        simpa [hmin, Nat.max_eq_left hle] using hwrites
      · have hmax' : ofDecimal (Text.decimal max) = max := Text.ofDecimal_decimal max
        have hwrites : Writes unbounded _ _ := .between lazy hgap (hdigits min) hgap hgap
          (hdigits max) hgap (Text.decimal_ne_nil max) (by rw [hmin, hmax']; exact hle)
          (hmax'.le.trans hmax)
        simpa [hmin, hmax'] using hwrites

/-- **A printed quantifier is read again.** -/
theorem read?_render (hq : q.Sound) (hk : q.kind ≠ .once) (hrest : rest.head? ≠ some '?') :
    read? unbounded (q.render ++ rest) = some (q, rest) :=
  (writes_render hq hk).read? fun _ => hrest

/-- The quantifiers that have a name of their own. -/
def constants : List Quantifier :=
  [once, zeroOrMore, { zeroOrMore with lazy := true }, oneOrMore, { oneOrMore with lazy := true },
    optional, { optional with lazy := true }]

/-- The quantifiers that can be made: the constants, ranges, and what is read of a text. All numbers
that are given for it fit in 64 bits. -/
inductive Obtainable : Quantifier → Prop
  | constant {q : Quantifier} (h : q ∈ constants) : Obtainable q
  | range {min max : Nat} {lazy : Bool} {q : Quantifier} (hmax : max ≤ unbounded)
      (h : range? min max lazy = some q) : Obtainable q
  | read {cap : Nat} {s rest : List Char} {q : Quantifier} (hcap : cap ≤ unbounded)
      (h : read? cap s = some (q, rest)) : Obtainable q

theorem Obtainable.sound (h : Obtainable q) : q.Sound := by
  cases h with
  | constant h =>
    simp only [constants, List.mem_cons, List.not_mem_nil, or_false] at h
    rcases h with rfl | rfl | rfl | rfl | rfl | rfl | rfl
    · rfl
    all_goals exact ⟨rfl, rfl⟩
  | range hmax h => exact (sound_of_range? h hmax).1
  | read hcap h => exact (sound_of_read? hcap h).1

theorem Obtainable.ofText?_render (h : Obtainable q) : ofText? q.render = some q := by
  by_cases hkind : q.kind = .once
  · have hsound := h.sound
    unfold Sound at hsound
    rw [hkind] at hsound
    rw [hsound]
    rfl
  · have hread : read? unbounded (q.render ++ []) = _ := read?_render h.sound hkind nofun
    rw [List.append_nil] at hread
    have hne : q.render.isEmpty = false := by
      by_contra hnil
      rw [Bool.not_eq_false, List.isEmpty_iff] at hnil
      rw [hnil] at hread
      cases hread
    simp [ofText?, hne, hread]

/-- **Quantifiers are read as they are written.** The printed form of every quantifier that can be
made is read as the same quantifier. And of every text exactly that is read which writes a
quantifier, with a question mark behind it whenever there is one; what is read has its bounds in
order, and nothing is read of a text only if no beginning of it writes a quantifier. -/
theorem read?_writes :
    (∀ q, Obtainable q → ofText? q.render = some q) ∧
    ∀ cap s,
      (∀ q rest, read? cap s = some (q, rest) ↔
        ∃ front, s = front ++ rest ∧ Writes cap front q ∧
          (q.lazy = false → rest.head? ≠ some '?')) ∧
      (∀ q rest, read? cap s = some (q, rest) → q.min ≤ q.max) ∧
      (read? cap s = none ↔ ∀ front rest q, s = front ++ rest → ¬Writes cap front q) := by
  refine ⟨fun q h => h.ofText?_render, fun cap s => ⟨fun q rest => read?_eq_some, ?_, read?_eq_none⟩⟩
  intro q rest h
  obtain ⟨front, -, hwrites, -⟩ := read?_eq_some.1 h
  exact hwrites.min_le_max

/-- A cap below the least count, white space, and a character that is left over. -/
theorem read?_writes_above_cap :
    let s := "\x7b 2\t,\x7d?x".toList
    let q : Quantifier := ⟨.range, 2, 2, true⟩
    read? 1 s = some (q, ['x']) ∧ Obtainable q ∧ q.render = "\x7b2\x7d?".toList ∧
      ofText? q.render = some q ∧ ∃ front, s = front ++ ['x'] ∧ Writes 1 front q := by
  intro s q
  have hread : read? 1 s = some (q, ['x']) := by decide
  have hq : Obtainable q := .read (by decide) hread
  obtain ⟨front, hs, hwrites, -⟩ := ((read?_writes.2 1 s).1 q ['x']).1 hread
  exact ⟨hread, hq, by decide +kernel, read?_writes.1 q hq, front, hs, hwrites⟩

end Quantifier

end Lexigram
