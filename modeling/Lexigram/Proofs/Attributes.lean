import Lexigram.Proofs.Declarations

/-!
# What attributes are read from

Attributes in braces stand in front of the body of a rule, and the end of the statement is behind
both. Attributes that are read leave the splitting of documents where it was, so a body is split as
if it stood alone.

**Texts** (`Document.Attributes.exists_readText`). What is read as a text between double quotes is a
literal for the splitting, although the two do not agree on what an escape is.

**Signs** (`Document.Attributes.run_signs`). Inside of the braces a sign leaves the splitting where
it is. By induction on the signs, the brace behind them is the one that closes the first.

Main result: `Document.Attributes.run_of_read?`.
-/

namespace Lexigram

namespace Document

namespace Attributes

/-! ## What is read is passed -/

section Signs

variable {c : Char} {s rest inside : List Char} {sign : Sign} {n : Int} {parens braces : Nat}

/-- Characters other than quotes and backslashes close no text. -/
theorem sealed_append {u v : List Char} (hu : ∀ c ∈ u, c ≠ '\\' ∧ c ≠ '\x22')
    (hv : Literal.Sealed '\x22' v) : Literal.Sealed '\x22' (u ++ v) := by
  induction u with
  | nil => exact hv
  | cons c u ih =>
    obtain ⟨hc, hu⟩ := List.forall_mem_cons.1 hu
    exact .char hc.1 hc.2 (ih hu)

theorem ne_of_ofHex? {digits : List Char} {k : Nat} (h : Text.ofHex? digits = some k) :
    ∀ c ∈ digits, c ≠ '\\' ∧ c ≠ '\x22' := by
  obtain ⟨values, hvalues, -⟩ := Option.map_eq_some_iff.1 h
  clear h
  induction digits generalizing values with
  | nil => simp
  | cons d digits ih =>
    rw [List.mapM_cons] at hvalues
    obtain ⟨v, hv, hvalues⟩ := Option.bind_eq_some_iff.1 hvalues
    obtain ⟨vs, hvs, -⟩ := Option.bind_eq_some_iff.1 hvalues
    refine List.forall_mem_cons.2 ⟨?_, ih vs hvs⟩
    constructor <;> rintro rfl <;> cases hv

/-- A character by number closes no text. -/
theorem exists_readNumbered (h : readNumbered s = some (c, rest)) :
    ∃ u, s = u ++ rest ∧ ∀ t, Literal.Sealed '\x22' t → Literal.Sealed '\x22' (u ++ t) := by
  unfold readNumbered at h
  split at h
  · next a b c' d s =>
    obtain ⟨unit, hunit, h⟩ := Option.bind_eq_some_iff.1 h
    split at h
    · cases h
      exact ⟨[a, b, c', d], rfl, fun t ht => sealed_append (ne_of_ofHex? hunit) ht⟩
    · split at h
      · next w x y z s _ =>
        obtain ⟨low, hlow, h⟩ := Option.bind_eq_some_iff.1 h
        obtain ⟨e, -, h⟩ := Option.map_eq_some_iff.1 h
        cases h
        refine ⟨[a, b, c', d, '\\', 'u', w, x, y, z], rfl, fun t ht => ?_⟩
        have hpair := Literal.Sealed.escape 'u' (sealed_append (ne_of_ofHex? hlow) ht)
        exact @sealed_append [a, b, c', d] _ (ne_of_ofHex? hunit) hpair
      · cases h
  · cases h

theorem readChar_cons (hc : c ≠ '\\') (s : List Char) :
    readChar (c :: s) = if c.toNat < 0x20 then none else some (c, s) := by
  unfold readChar
  split
  · next he => exact absurd (List.cons.inj he).1 hc
  · next he => exact absurd (List.cons.inj he).1 hc
  · next he =>
    obtain ⟨rfl, rfl⟩ := List.cons.inj he
    rfl
  · next he => cases he

/-- A character in front of the closing quote does not close the text. -/
theorem exists_readChar (hs : s.head? ≠ some '\x22') (hrest : rest ≠ [])
    (h : readChar s = some (c, rest)) :
    ∃ u, s = u ++ rest ∧ ∀ t, Literal.Sealed '\x22' t → Literal.Sealed '\x22' (u ++ t) := by
  by_cases hslash : s.head? = some '\\'
  · unfold readChar at h
    split at h
    · next s =>
      obtain ⟨u, rfl, hu⟩ := exists_readNumbered h
      exact ⟨'\\' :: 'u' :: u, rfl, fun t ht => .escape 'u' (hu t ht)⟩
    · next e s _ =>
      obtain ⟨_, -, h⟩ := Option.map_eq_some_iff.1 h
      cases h
      exact ⟨['\\', e], rfl, fun t ht => .escape e ht⟩
    · next d s _ hesc =>
      -- A backslash at the end of the text is the last character of it.
      obtain rfl : d = '\\' := by simpa using hslash
      split at h
      · cases h
      · cases h
        cases rest with
        | nil => exact absurd rfl hrest
        | cons e s => exact absurd rfl (hesc e s rfl)
    · cases h
  · cases s with
    | nil => cases h
    | cons d s =>
      have hd : d ≠ '\\' := by simpa using hslash
      rw [readChar_cons hd, Option.ite_none_left_eq_some] at h
      obtain ⟨-, h⟩ := h
      cases h
      exact ⟨[c], rfl, fun t ht => .char hd (by simpa using hs) ht⟩

/-- **A text that is read is a literal** between double quotes. -/
theorem exists_readText (h : readText s = some (inside, rest)) :
    ∃ u, Literal.Sealed '\x22' u ∧ s = u ++ '\x22' :: rest := by
  fun_induction readText s generalizing inside with
  | case1 s hquote =>
    cases h
    obtain ⟨t, rfl⟩ : ∃ t, s = '\x22' :: t := by
      cases s with
      | nil => cases hquote
      | cons c t => exact ⟨t, by simpa using hquote⟩
    exact ⟨[], .nil, rfl⟩
  | case2 s hquote c t hc ih =>
    obtain ⟨⟨inside', rest'⟩, hread, he⟩ := Option.map_eq_some_iff.1 h
    cases he
    obtain ⟨v, hv, rfl⟩ := ih hread
    obtain ⟨u, rfl, hu⟩ := exists_readChar hquote (by simp) hc
    exact ⟨u ++ v, hu v hv, by simp⟩
  | case3 => cases h

/-! ### Numbers -/

/-- The number can be an order. -/
def InRange (n : Int) : Prop := -(orderBound : Int) ≤ n ∧ n < orderBound

theorem isInert_of_isAsciiDigit (h : Text.isAsciiDigit c = true) : isInert c = true := by
  have hall : [';', '/', '*', '\x27', '\x22', '[', ']', '\\', '(', ')', '\x7b', '\x7d'].any
      Text.isAsciiDigit = false := by decide
  rw [isInert, decide_eq_true_eq]
  exact fun hc => List.any_eq_false.1 hall c hc h

/-- What a number is read from has no meaning for the splitting. -/
theorem exists_readInteger (h : readInteger s = some (n, rest)) :
    ∃ u, s = u ++ rest ∧ (∀ c ∈ u, isInert c = true) ∧ InRange n := by
  have hdigits : ∀ t, ∀ c ∈ (Text.spanDigits t).1, isInert c = true := fun t c hc =>
    isInert_of_isAsciiDigit (List.all_eq_true.1 List.all_takeWhile c hc)
  have hspan : ∀ t, t = (Text.spanDigits t).1 ++ (Text.spanDigits t).2 := fun t =>
    List.takeWhile_append_dropWhile.symm
  unfold readInteger at h
  dsimp only at h
  by_cases hneg : s.head? = some '-'
  · obtain ⟨t, rfl⟩ : ∃ t, s = '-' :: t := by
      cases s with
      | nil => cases hneg
      | cons c t => exact ⟨t, by simpa using hneg⟩
    simp only [hneg, if_true, List.drop_one, List.tail_cons, Option.ite_none_left_eq_some,
      Option.ite_none_right_eq_some, Option.some.injEq, Prod.mk.injEq, Bool.and_eq_true,
      decide_eq_true_eq] at h
    obtain ⟨-, hbound, rfl, rfl⟩ := h
    refine ⟨'-' :: (Text.spanDigits t).1, ?_, List.forall_mem_cons.2 ⟨by decide, hdigits t⟩, ?_⟩
    · rw [List.cons_append, ← hspan]
    · unfold InRange
      omega
  · simp only [hneg, if_false, Option.ite_none_left_eq_some, Option.ite_none_right_eq_some,
      Option.some.injEq, Prod.mk.injEq] at h
    obtain ⟨-, hbound, rfl, rfl⟩ := h
    refine ⟨(Text.spanDigits s).1, hspan s, hdigits s, ?_⟩
    unfold InRange
    omega

/-! ### Signs -/

/-- Whether a sign is a brace. -/
def Sign.isBrace : Sign → Bool
  | opened | closed => true
  | _ => false

/-- The run over a text comes back to where it was, if that is inside of a pair of braces. -/
def InBraces (u : List Char) : Prop :=
  ∀ parens, run ⟨.plain, parens, 1⟩ u = some ⟨.plain, parens, 1⟩

theorem InBraces.inert {u : List Char} (hu : ∀ c ∈ u, isInert c = true) : InBraces u :=
  fun _ => Idle.inert hu _ (.inl rfl)

/-- A sign between the braces leaves the splitting where it is. -/
theorem exists_readSign (hsign : sign.isBrace = false) (h : readSign s = some (sign, rest)) :
    (∀ n, sign = .integer n → InRange n) ∧ ∃ u, s = u ++ rest ∧ InBraces u := by
  unfold readSign at h
  split at h
  · cases h; cases hsign
  · cases h; cases hsign
  · cases h
    exact ⟨by simp, ['['], rfl, fun _ => rfl⟩
  · cases h
    exact ⟨by simp, [']'], rfl, fun _ => rfl⟩
  · cases h
    exact ⟨by simp, [','], rfl, fun _ => rfl⟩
  · cases h
    exact ⟨by simp, [':'], rfl, fun _ => rfl⟩
  · cases h
    exact ⟨by simp, "null".toList, rfl, fun _ => rfl⟩
  · obtain ⟨⟨inside, rest'⟩, htext, h⟩ := Option.map_eq_some_iff.1 h
    cases h
    obtain ⟨u, hu, rfl⟩ := exists_readText htext
    refine ⟨by simp, '\x22' :: (u ++ ['\x22']), by simp, fun parens => ?_⟩
    exact run_sealed (f := .quotes) (s := []) hu
  · obtain ⟨⟨n, rest'⟩, hn, h⟩ := Option.map_eq_some_iff.1 h
    cases h
    obtain ⟨u, hu, hchars, hrange⟩ := exists_readInteger hn
    refine ⟨fun n hn => ?_, u, hu, .inert hchars⟩
    cases hn
    exact hrange

theorem signs_gap (hc : isGap c = true) (s : List Char) : signs (c :: s) = signs s := by
  rw [signs, if_pos hc]

theorem signs_cons (hc : isGap c = false) (h : readSign (c :: s) = some (sign, rest)) :
    signs (c :: s) = (signs rest).map (sign :: ·) := by
  rw [signs, if_neg (Bool.eq_false_iff.1 hc)]
  split
  · next h' =>
    rw [h] at h'
    cases h'
    rfl
  · next h' =>
    rw [h] at h'
    cases h'

theorem signs_eq_none (hc : isGap c = false) (h : readSign (c :: s) = none) :
    signs (c :: s) = none := by
  rw [signs, if_neg (Bool.eq_false_iff.1 hc)]
  split
  · next h' =>
    rw [h] at h'
    cases h'
  · rfl

theorem isInert_of_isGap (h : isGap c = true) : isInert c = true := by
  simp only [isGap, Bool.or_eq_true, beq_iff_eq] at h
  rcases h with ((rfl | rfl) | rfl) | rfl <;> decide

theorem readSign_closed (h : readSign s = some (.closed, rest)) : s = '\x7d' :: rest := by
  unfold readSign at h
  split at h
  · cases h
  · cases h
    rfl
  · cases h
  · cases h
  · cases h
  · cases h
  · cases h
  · obtain ⟨_, -, h⟩ := Option.map_eq_some_iff.1 h
    cases h
  · obtain ⟨_, -, h⟩ := Option.map_eq_some_iff.1 h
    cases h

theorem isGap_of_signs (h : signs s = some []) : ∀ c ∈ s, isGap c = true := by
  fun_induction signs s with
  | case1 => simp
  | case2 c s hc ih => exact List.forall_mem_cons.2 ⟨hc, ih h⟩
  | case3 c s hc sign rest hsign ih =>
    obtain ⟨_, -, he⟩ := Option.map_eq_some_iff.1 h
    cases he
  | case4 => cases h

/-- **Signs between braces are passed**, up to the brace that closes them. -/
theorem run_signs {inner : List Sign} (hinner : ∀ x ∈ inner, x.isBrace = false)
    (h : signs s = some (inner ++ [.closed])) (parens : Nat) :
    (∀ n, .integer n ∈ inner → InRange n) ∧
      run ⟨.plain, parens, 1⟩ s = some ⟨.plain, parens, 0⟩ := by
  fun_induction signs s generalizing inner with
  | case1 => simp at h
  | case2 c s hc ih =>
    obtain ⟨hrange, hrun⟩ := ih hinner h
    refine ⟨hrange, ?_⟩
    rw [run_cons, next?_inert (isInert_of_isGap hc)]
    exact hrun
  | case3 c s hc sign rest hsign ih =>
    obtain ⟨others, hothers, he⟩ := Option.map_eq_some_iff.1 h
    cases inner with
    | nil =>
      obtain ⟨rfl, rfl⟩ := List.cons.inj he
      rw [readSign_closed hsign]
      have hgaps : Idle rest := .inert fun c hc => isInert_of_isGap (isGap_of_signs hothers c hc)
      exact ⟨by simp, hgaps _ (.inl rfl)⟩
    | cons x inner =>
      obtain ⟨rfl, rfl⟩ := List.cons.inj he
      obtain ⟨hx, hinner⟩ := List.forall_mem_cons.1 hinner
      obtain ⟨hsame, u, hu, hrun⟩ := exists_readSign hx hsign
      obtain ⟨hrange, hrest⟩ := ih hinner hothers
      refine ⟨fun n hn => ?_, ?_⟩
      · rcases List.mem_cons.1 hn with hn | hn
        · exact hsame n hn.symm
        · exact hrange n hn
      · rw [hu, run_append_of (hrun parens), hrest]
  | case4 => cases h

/-! ### Members -/

variable {members others : List Sign} {seen tags : List String} {name : String} {a b : Attributes}

theorem exists_readTagList (h : readTagList members = some (tags, others)) :
    ∃ front, members = front ++ others ∧ ∀ x ∈ front, x.isBrace = false := by
  fun_induction readTagList members generalizing tags with
  | case1 t s ih =>
    obtain ⟨⟨_, _⟩, hread, he⟩ := Option.map_eq_some_iff.1 h
    cases he
    obtain ⟨front, rfl, hfront⟩ := ih hread
    exact ⟨.text t :: .comma :: front, rfl, by simpa [Sign.isBrace] using hfront⟩
  | case2 t s =>
    cases h
    exact ⟨[.text t, .listClosed], rfl, by simp [Sign.isBrace]⟩
  | case3 => cases h

theorem exists_readTags (h : readTags members = some (tags, others)) :
    ∃ front, members = front ++ others ∧ ∀ x ∈ front, x.isBrace = false := by
  unfold readTags at h
  split at h
  · next t s =>
    cases h
    exact ⟨[.text t], rfl, by simp [Sign.isBrace]⟩
  · cases h
    exact ⟨[.listOpened, .listClosed], rfl, by simp [Sign.isBrace]⟩
  · obtain ⟨front, rfl, hfront⟩ := exists_readTagList h
    exact ⟨.listOpened :: front, rfl, by simpa [Sign.isBrace] using hfront⟩
  · cases h

/-- What is read of a member stands between the braces, and an order is a number in it. -/
theorem exists_readMember (h : readMember seen name a members = some (b, others)) :
    ∃ front, members = front ++ others ∧ (∀ x ∈ front, x.isBrace = false) ∧
      ∀ n, b.order = some n → a.order = some n ∨ .integer n ∈ front := by
  unfold readMember at h
  split at h
  · cases h
  · split at h
    · obtain ⟨⟨order, rest⟩, hread, he⟩ := Option.map_eq_some_iff.1 h
      cases he
      unfold readOrder at hread
      split at hread
      · next n s =>
        cases hread
        exact ⟨[.integer n], rfl, by simp [Sign.isBrace], by simp⟩
      · cases hread
        exact ⟨[.null], rfl, by simp [Sign.isBrace], by simp⟩
      · cases hread
    · obtain ⟨⟨tags, rest⟩, hread, he⟩ := Option.map_eq_some_iff.1 h
      cases he
      obtain ⟨front, rfl, hfront⟩ := exists_readTags hread
      exact ⟨front, rfl, hfront, fun n => .inl⟩
    · obtain ⟨⟨tags, rest⟩, hread, he⟩ := Option.map_eq_some_iff.1 h
      cases he
      obtain ⟨front, rfl, hfront⟩ := exists_readTags hread
      exact ⟨front, rfl, hfront, fun n => .inl⟩
    · cases h

theorem exists_readMembers (h : readMembers seen a members = some b) :
    ∃ front, members = front ++ [.closed] ∧ (∀ x ∈ front, x.isBrace = false) ∧
      ∀ n, b.order = some n → a.order = some n ∨ .integer n ∈ front := by
  fun_induction readMembers seen a members with
  | case1 seen a t s name a' rest hm ih =>
    obtain ⟨front, rfl, hfront, horder⟩ := exists_readMember hm
    obtain ⟨front', rfl, hfront', horder'⟩ := ih h
    refine ⟨.text t :: .colon :: (front ++ .comma :: front'), by simp, ?_, fun n hn => ?_⟩
    · simp only [List.forall_mem_cons, List.forall_mem_append]
      exact ⟨rfl, rfl, hfront, rfl, hfront'⟩
    · rcases horder' n hn with hn | hn
      · rcases horder n hn with hn | hn
        · exact .inl hn
        · simp [hn]
      · simp [hn]
  | case2 seen a t s name a' hm =>
    cases h
    obtain ⟨front, rfl, hfront, horder⟩ := exists_readMember hm
    refine ⟨.text t :: .colon :: front, rfl, ?_, fun n hn => ?_⟩
    · simp only [List.forall_mem_cons]
      exact ⟨rfl, rfl, hfront⟩
    · exact (horder n hn).imp_right fun hn => by simp [hn]
  | case3 => cases h
  | case4 => cases h

/-- **Attributes that are read are passed**, and their order is one that can be read. -/
theorem run_of_read? {text : List Char} (h : read? ('\x7b' :: text) = some a) (parens : Nat) :
    run ⟨.plain, parens, 0⟩ ('\x7b' :: text) = some ⟨.plain, parens, 0⟩ ∧
      ∀ n, a.order = some n → InRange n := by
  have hsigns : signs ('\x7b' :: text) = (signs text).map (.opened :: ·) :=
    signs_cons (by decide) rfl
  have hopen : run ⟨.plain, parens, 0⟩ ('\x7b' :: text) = run ⟨.plain, parens, 1⟩ text := rfl
  obtain ⟨inner, hinner, htext, horder⟩ : ∃ inner : List Sign, (∀ x ∈ inner, x.isBrace = false) ∧
      signs text = some (inner ++ [.closed]) ∧ ∀ n, a.order = some n → .integer n ∈ inner := by
    rw [read?, hsigns] at h
    cases htext : signs text with
    | none => rw [htext] at h; cases h
    | some inner =>
      rw [htext] at h
      dsimp only [Option.map_some] at h
      split at h
      · next he =>
        cases he
        cases h
        exact ⟨[], by simp, rfl, by simp⟩
      · next rest _ he =>
        cases he
        obtain ⟨front, rfl, hfront, horder⟩ := exists_readMembers h
        exact ⟨front, hfront, rfl, fun n hn => (horder n hn).resolve_left (by simp)⟩
      · cases h
  obtain ⟨hrange, hrun⟩ := run_signs hinner htext parens
  exact ⟨hopen.trans hrun, fun n hn => hrange n (horder n hn)⟩

end Signs

end Attributes

end Document

end Lexigram
